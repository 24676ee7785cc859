import InfrasafeBot.ResourceAccounting.ObjectRegistry

/-! Whether the objects stay a forest with its dead branches cut. They do in every
interleaving whose writes still meet what their checks have seen, and whose new objects and
moves go below active ones, which nothing checks. -/

set_option autoImplicit false

namespace InfrasafeBot.ResourceAccounting

open Library Machine

/-- Following the parents from any object comes to a root. -/
def Registry.IsForest (registry : Registry) : Prop := ∀ object, Forest.Rooted registry.parentOf object

/-- Nothing active is left below an archived object or on it. -/
def Registry.DeadBranchesCut (registry : Registry) : Prop :=
  ∀ row ∈ registry.objects.rows, row.isActive = false →
    (∀ child ∈ registry.objects.rows, child.parentId = some row.id → child.isActive = false) ∧
      ∀ meter ∈ registry.meters.rows, meter.primaryObjectId = row.id → meter.status ≠ .active

def Registry.Known (registry : Registry) (object : ObjectId) : Prop :=
  (registry.objects.find? object).isSome = true

/-- What the commits keep, and the foreign key of the parents. -/
structure Registry.Ordered (registry : Registry) : Prop where
  forest : registry.IsForest
  known : ∀ row ∈ registry.objects.rows, ∀ parent, row.parentId = some parent → registry.Known parent
  children : ∀ row ∈ registry.objects.rows, row.isActive = true →
    ∀ parent, row.parentId = some parent → registry.activeObject parent = true
  meters : ∀ meter ∈ registry.meters.rows, meter.status = .active →
    registry.activeObject meter.primaryObjectId = true

variable {registry : Registry} {object : ObjectId} {tenant : TenantId} {parent : ObjectId}

theorem Registry.Ordered.cut (ordered : registry.Ordered) : registry.DeadBranchesCut := by
  intro row listed archived
  have dead : registry.activeObject row.id = false := by
    simp [Registry.activeObject, Table.find?_of_mem listed, archived]
  constructor
  · intro child childListed below
    cases alive : child.isActive with
    | false => rfl
    | true =>
      have active := ordered.children child childListed alive row.id below
      rw [dead] at active
      cases active
  · intro meter meterListed on active
    have alive := ordered.meters meter meterListed active
    rw [on, dead] at alive
    cases alive

variable {loaded : ResourceObject}

section

variable {other : ObjectId} {name : String} {parent : Option ObjectId}

theorem known_of_active (active : registry.activeObject object = true) : registry.Known object := by
  cases found : registry.objects.find? object with
  | none => simp [Registry.activeObject, found] at active
  | some row => simp [Registry.Known, found]

theorem parentOf_of_mem {row : ResourceObject} (listed : row ∈ registry.objects.rows) :
    registry.parentOf row.id = row.parentId := by
  simp [Registry.parentOf, Table.find?_of_mem listed]

theorem known_of_reaches (ordered : registry.Ordered) {above : ObjectId}
    (reaches : Forest.Reaches registry.parentOf object above) (known : registry.Known object) :
    registry.Known above := by
  induction reaches with
  | refl object => exact known
  | @step object next above link rest ih =>
    refine ih ?_
    obtain ⟨row, stored⟩ := Option.isSome_iff_exists.mp known
    have named := Table.key_of_find? stored
    have listed := Table.mem_of_find? stored
    rw [← named, parentOf_of_mem listed] at link
    exact ordered.known row listed next link

theorem not_known_nextKey : ¬ registry.Known registry.objects.nextKey := by
  intro known
  obtain ⟨row, stored⟩ := Option.isSome_iff_exists.mp known
  exact registry.objects.nextKey_fresh
    (List.mem_map.mpr ⟨row, Table.mem_of_find? stored, Table.key_of_find? stored⟩)

theorem find?_insertObject (other : object ≠ registry.objects.nextKey) :
    (registry.insertObject tenant name parent).objects.find? object =
      registry.objects.find? object := by
  rw [Registry.insertObject, Table.find?_insert, if_neg other, Option.or_none]

theorem find?_insertObject_self :
    (registry.insertObject tenant name parent).objects.find? registry.objects.nextKey =
      some (newObject tenant name parent registry.objects.nextKey) := by
  have fresh : registry.objects.find? registry.objects.nextKey = none :=
    Option.not_isSome_iff_eq_none.mp not_known_nextKey
  rw [Registry.insertObject, Table.find?_insert, if_pos rfl, fresh, Option.none_or]

theorem parentOf_insertObject :
    (registry.insertObject tenant name parent).parentOf =
      Function.update registry.parentOf registry.objects.nextKey parent := by
  funext object
  by_cases same : object = registry.objects.nextKey
  · subst same
    rw [Function.update_self, Registry.parentOf, find?_insertObject_self]
    rfl
  · rw [Function.update_of_ne same, Registry.parentOf, find?_insertObject same]
    rfl

theorem find?_relink :
    (registry.relink loaded parent).objects.find? object =
      (registry.objects.find? object).map fun row =>
        if row.id = loaded.id then
          { row with parentId := assignedColumn parent loaded.parentId row.parentId }
        else row := by
  rw [Registry.relink, Table.find?_update]
  simp

theorem parentOf_relink (known : registry.Known loaded.id) :
    (registry.relink loaded parent).parentOf =
      Function.update registry.parentOf loaded.id
        (assignedColumn parent loaded.parentId (registry.parentOf loaded.id)) := by
  funext object
  rw [Registry.parentOf, find?_relink]
  by_cases same : object = loaded.id
  · subst same
    obtain ⟨row, stored⟩ := Option.isSome_iff_exists.mp known
    have named := Table.key_of_find? stored
    rw [Function.update_self, Registry.parentOf, stored]
    simp [named]
  · rw [Function.update_of_ne same, Registry.parentOf]
    cases stored : registry.objects.find? object with
    | none => rfl
    | some row =>
      have other : row.id ≠ loaded.id := (Table.key_of_find? stored) ▸ same
      simp [other]

theorem activeObject_relink (object : ObjectId) :
    (registry.relink loaded parent).activeObject object = registry.activeObject object := by
  rw [Registry.activeObject, find?_relink, Registry.activeObject]
  cases registry.objects.find? object with
  | none => rfl
  | some row =>
    simp only [Option.map_some, Option.any_some]
    split
    · rfl
    · rfl

theorem find?_archive :
    (registry.archive object).objects.find? other =
      (registry.objects.find? other).map fun row =>
        if row.id = object then { row with isActive := false } else row := by
  rw [Registry.archive, Table.find?_update]
  simp

theorem parentOf_archive : (registry.archive object).parentOf = registry.parentOf := by
  funext other
  rw [Registry.parentOf, find?_archive, Registry.parentOf]
  cases registry.objects.find? other with
  | none => rfl
  | some row =>
    simp only [Option.map_some, Option.bind_some]
    split
    · rfl
    · rfl

theorem activeObject_archive (different : other ≠ object) :
    (registry.archive object).activeObject other = registry.activeObject other := by
  rw [Registry.activeObject, find?_archive, Registry.activeObject]
  cases stored : registry.objects.find? other with
  | none => rfl
  | some row =>
    have kept : row.id ≠ object := (Table.key_of_find? stored) ▸ different
    simp [kept]

theorem activeObject_insertObject (active : registry.activeObject object = true) :
    (registry.insertObject tenant name parent).activeObject object = true := by
  have other : object ≠ registry.objects.nextKey :=
    fun same => not_known_nextKey (same ▸ known_of_active active)
  rw [Registry.activeObject, find?_insertObject other]
  exact active

end

namespace Registry.Ordered

variable (ordered : registry.Ordered)

include ordered

variable {parent : Option ObjectId} {primary : ObjectId}

theorem insertObject (tenant : TenantId) (name : String)
    (below : ∀ object, parent = some object → registry.activeObject object = true) :
    (registry.insertObject tenant name parent).Ordered where
  forest := by
    intro object
    rw [parentOf_insertObject]
    refine (ordered.forest object).update ?_
    cases parent with
    | none => exact .root (Function.update_self _ _ _)
    | some above =>
      have known := known_of_active (below above rfl)
      refine .child (Function.update_self _ _ _) ((ordered.forest above).update_of_avoids ?_)
      exact fun reaches => not_known_nextKey (known_of_reaches ordered reaches known)
  known := by
    intro row listed above link
    have known : registry.Known above := by
      rcases (Table.mem_insert (newObject_id tenant name parent)).mp listed with old | rfl
      · exact ordered.known row old above link
      · exact known_of_active (below above link)
    have other : above ≠ registry.objects.nextKey := fun same => not_known_nextKey (same ▸ known)
    rw [Registry.Known, find?_insertObject other]
    exact known
  children := by
    intro row listed active above link
    refine activeObject_insertObject ?_
    rcases (Table.mem_insert (newObject_id tenant name parent)).mp listed with old | rfl
    · exact ordered.children row old active above link
    · exact below above link
  meters := fun meter listed active => activeObject_insertObject (ordered.meters meter listed active)

theorem relink {loaded : ResourceObject} (known : registry.Known loaded.id)
    (below : ∀ above, parent = some above → loaded.parentId ≠ parent →
      registry.Known above ∧ ¬ Forest.Reaches registry.parentOf above loaded.id ∧
        (registry.activeObject loaded.id = true → registry.activeObject above = true)) :
    (registry.relink loaded parent).Ordered where
  forest := by
    intro object
    rw [parentOf_relink known]
    unfold assignedColumn
    split
    · rw [Function.update_eq_self]
      exact ordered.forest object
    · next changed =>
        cases parent with
        | none => exact (ordered.forest object).cut
        | some above =>
          exact (ordered.forest object).move (ordered.forest above)
            (below above rfl (Ne.symm changed)).2.1
  known := by
    intro row listed above link
    have stays :
        ∀ object, registry.Known object → (registry.relink loaded parent).Known object := by
      intro object stored
      rw [Registry.Known, find?_relink, Option.isSome_map]
      exact stored
    obtain ⟨old, stored, rfl⟩ := (Table.mem_update (relinked_id parent loaded.parentId)).mp listed
    refine stays above ?_
    split at link
    · dsimp only at link
      unfold assignedColumn at link
      split at link
      · exact ordered.known old stored above link
      · next changed => exact (below above link (Ne.symm changed)).1
    · exact ordered.known old stored above link
  children := by
    intro row listed active above link
    rw [activeObject_relink]
    obtain ⟨old, stored, rfl⟩ := (Table.mem_update (relinked_id parent loaded.parentId)).mp listed
    split at link
    · next own =>
        have named : old.id = loaded.id := by simpa using own
        rw [if_pos own] at active
        dsimp only at link active
        unfold assignedColumn at link
        split at link
        · exact ordered.children old stored active above link
        · next changed =>
            refine (below above link (Ne.symm changed)).2.2 ?_
            simp [Registry.activeObject, ← named, Table.find?_of_mem stored, active]
    · next other =>
        rw [if_neg other] at active
        exact ordered.children old stored active above link
  meters := by
    intro meter listed active
    rw [activeObject_relink]
    exact ordered.meters meter listed active

theorem archive {object : ObjectId} (childless : registry.activeChildren object = 0)
    (bare : registry.activeMeters object = 0) : (registry.archive object).Ordered where
  forest := by
    intro other
    rw [parentOf_archive]
    exact ordered.forest other
  known := by
    intro row listed above link
    rw [Registry.Known, find?_archive, Option.isSome_map]
    obtain ⟨old, stored, rfl⟩ := (Table.mem_update archived_id).mp listed
    split at link
    · exact ordered.known old stored above link
    · exact ordered.known old stored above link
  children := by
    intro row listed active above link
    obtain ⟨old, stored, rfl⟩ := (Table.mem_update archived_id).mp listed
    split at link
    · next own =>
        rw [if_pos own] at active
        cases active
    · next other =>
        rw [if_neg other] at active
        have different : above ≠ object := by
          rintro rfl
          have none := List.countP_eq_zero.mp childless old stored
          simp [link, active] at none
        rw [activeObject_archive different]
        exact ordered.children old stored active above link
  meters := by
    intro meter listed active
    have different : meter.primaryObjectId ≠ object := by
      intro same
      have none := List.countP_eq_zero.mp bare meter listed
      simp [same, active] at none
    rw [activeObject_archive different]
    exact ordered.meters meter listed active

theorem of_meters {changed : Registry} (same : changed.objects = registry.objects)
    (meters : ∀ meter ∈ changed.meters.rows, meter.status = .active →
      registry.activeObject meter.primaryObjectId = true) : changed.Ordered := by
  obtain ⟨objects, rows⟩ := changed
  cases same
  exact ⟨ordered.forest, ordered.known, ordered.children, meters⟩

theorem insertMeter (tenant : TenantId) (active : registry.activeObject primary = true) :
    (registry.insertMeter tenant primary).Ordered := by
  refine ordered.of_meters rfl fun meter listed running => ?_
  rcases (Table.mem_insert (newMeter_id tenant primary)).mp listed with old | rfl
  · exact ordered.meters meter old running
  · exact active

theorem moveMeter {loaded : MeterPlace} (active : primary ≠ loaded.primaryObjectId →
      (registry.meters.find? loaded.id).any (fun row => row.status = .active) = true →
        registry.activeObject primary = true) :
    (registry.moveMeter loaded primary).Ordered := by
  refine ordered.of_meters rfl fun meter listed running => ?_
  obtain ⟨old, stored, rfl⟩ := (Table.mem_update (movedMeter_id primary loaded.primaryObjectId)).mp listed
  split at running
  · next own =>
      have named : old.id = loaded.id := by simpa using own
      rw [if_pos own]
      dsimp only at running ⊢
      unfold assignedColumn
      split
      · exact ordered.meters old stored running
      · next changed =>
          refine active changed ?_
          simp [← named, Table.find?_of_mem stored, running]
  · next other =>
      rw [if_neg other]
      exact ordered.meters old stored running

theorem decommission (meter : MeterId) : (registry.decommission meter).Ordered := by
  refine ordered.of_meters rfl fun row listed running => ?_
  obtain ⟨old, stored, rfl⟩ := (Table.mem_update decommissioned_id).mp listed
  split at running
  · cases running
  · next other =>
      rw [if_neg other]
      exact ordered.meters old stored running

end Registry.Ordered

/-- A write meets what its check has seen, and goes below an active object. -/
def registryAllows (registry : Registry) : RegistryStage → Prop
  | .inserting _ _ parent => ∀ above ∈ parent, registry.activeObject above = true
  | .moving loaded parent passed =>
    loaded.parentId ≠ some parent →
      Forest.IsChain registry.parentOf passed ∧
        (registry.activeObject loaded.id = true → registry.activeObject parent = true)
  | .archiving loaded =>
    loaded.isActive = true → registry.activeChildren loaded.id = 0 ∧ registry.activeMeters loaded.id = 0
  | .placing primary (.move loaded) =>
    primary ≠ loaded.primaryObjectId →
      (registry.meters.find? loaded.id).any (fun row => row.status = .active) = true →
        registry.activeObject primary = true
  | .placing primary _ => registry.activeObject primary = true
  | _ => True

instance registryAllowsDecidable (registry : Registry) (stage : RegistryStage) :
    Decidable (registryAllows registry stage) := by
  unfold registryAllows
  split
  · infer_instance
  · infer_instance
  · infer_instance
  · infer_instance
  · infer_instance
  · exact .isTrue trivial

/-- What a stage relies on: the objects it has found, and the way it has come. -/
def registryRelies (registry : Registry) : RegistryStage → Prop
  | .seeking _ loaded _ => registry.Known loaded.id
  | .walking loaded parent passed current =>
    registry.Known loaded.id ∧ registry.Known parent ∧ loaded.id ∉ passed ∧
      (passed ++ [current]).head? = some parent
  | .moving loaded parent passed =>
    registry.Known loaded.id ∧ registry.Known parent ∧ loaded.id ∉ passed ∧ passed.head? = some parent
  | .uprooting loaded => registry.Known loaded.id
  | _ => True

section

variable {parent : Option ObjectId} {stage : RegistryStage} {passed : List ObjectId}

theorem known_insertObject {name : String} (known : registry.Known object) :
    (registry.insertObject tenant name parent).Known object := by
  have other : object ≠ registry.objects.nextKey := fun same => not_known_nextKey (same ▸ known)
  rw [Registry.Known, find?_insertObject other]
  exact known

theorem known_relink (known : registry.Known object) : (registry.relink loaded parent).Known object := by
  rw [Registry.Known, find?_relink, Option.isSome_map]
  exact known

theorem known_archive {archived : ObjectId} (known : registry.Known object) :
    (registry.archive archived).Known object := by
  rw [Registry.Known, find?_archive, Option.isSome_map]
  exact known

theorem known_perform (stage : RegistryStage) (known : registry.Known object) :
    (performRegistry registry stage).1.Known object := by
  cases stage with
  | inserting tenant name parent => exact known_insertObject known
  | moving | uprooting => exact known_relink known
  | archiving loaded =>
    simp only [performRegistry]
    split
    · exact known_archive known
    · exact known
  | placing primary write =>
    cases write with
    | create | move | replace => exact known
  | locating tenant name parent =>
    cases parent with
    | none | some => exact known
  | idle | loading | seeking | walking | opening | countingChildren | countingMeters => exact known
  | loadingMeter | loadingOld | checking | returning => exact known

theorem registryRelies_of_known {changed : Registry}
    (kept : ∀ object, registry.Known object → changed.Known object)
    (relies : registryRelies registry stage) : registryRelies changed stage := by
  cases stage with
  | seeking tenant loaded parent | uprooting loaded => exact kept loaded.id relies
  | walking loaded parent passed current =>
    exact ⟨kept loaded.id relies.1, kept parent relies.2.1, relies.2.2⟩
  | moving loaded parent passed => exact ⟨kept loaded.id relies.1, kept parent relies.2.1, relies.2.2⟩
  | _ => trivial

theorem getObject_ok {row : ResourceObject} (found : registry.getObject tenant object = .ok row) :
    registry.Known object ∧ row.id = object := by
  unfold Registry.getObject at found
  cases stored : registry.objects.find? object with
  | none => simp [stored] at found
  | some other =>
    simp only [stored] at found
    split at found
    · cases found
      exact ⟨by simp [Registry.Known, stored], Table.key_of_find? stored⟩
    · cases found

theorem refusing_cases {Row : Type} {result : Except ApiError Row}
    {proceed : Row → RegistryStage} (motive : RegistryStage → Prop)
    (refused : ∀ error, motive (.returning (.refused error)))
    (found : ∀ row, result = .ok row → motive (proceed row)) :
    motive (refusing result proceed) := by
  cases result with
  | error error => exact refused error
  | ok row => exact found row rfl

theorem walkUp_relies {parent current : ObjectId}
    (relies : registryRelies registry (.walking loaded parent passed current)) :
    registryRelies registry (walkUp registry loaded parent passed current) := by
  obtain ⟨known, stored, unseen, first⟩ := relies
  unfold walkUp
  split
  · trivial
  · next other =>
      have fresh : loaded.id ∉ passed ++ [current] := by simp [unseen, Ne.symm other]
      split
      · trivial
      · split
        · exact ⟨known, stored, fresh, first⟩
        · refine ⟨known, stored, fresh, ?_⟩
          rw [List.head?_append, first]
          rfl

theorem relies_perform (relies : registryRelies registry stage) :
    registryRelies (performRegistry registry stage).1 (performRegistry registry stage).2 := by
  cases stage with
  | locating tenant name parent =>
    cases parent with
    | none => trivial
    | some above => exact refusing_cases (registryRelies registry) (fun _ => trivial) fun _ _ => trivial
  | loading tenant object clearParent parent =>
    refine refusing_cases (registryRelies registry) (fun _ => trivial) fun row found => ?_
    obtain ⟨known, named⟩ := getObject_ok found
    have own : registry.Known row.id := named ▸ known
    split
    · exact own
    · split
      · trivial
      · exact own
  | seeking tenant loaded parent =>
    refine refusing_cases (registryRelies registry) (fun _ => trivial) fun row found => ?_
    exact ⟨relies, (getObject_ok found).1, List.not_mem_nil, rfl⟩
  | walking loaded parent passed current => exact walkUp_relies relies
  | opening | checking =>
    exact refusing_cases (registryRelies registry) (fun _ => trivial) fun _ _ => trivial
  | countingChildren | countingMeters =>
    simp only [performRegistry]
    split
    · trivial
    · trivial
  | loadingMeter | loadingOld =>
    refine refusing_cases (registryRelies registry) (fun _ => trivial) fun row found => ?_
    split
    · trivial
    · trivial
  | _ => trivial

/-- The moved object is not above its new parent, where the way is still as it was walked. -/
theorem avoids_of_chain {parent moved : ObjectId}
    (chain : Forest.IsChain registry.parentOf passed) (first : passed.head? = some parent)
    (unseen : moved ∉ passed) : ¬ Forest.Reaches registry.parentOf parent moved := by
  intro reaches
  cases passed with
  | nil => cases first
  | cons head rest =>
    cases first
    exact unseen (chain.mem_of_reaches reaches)

theorem ordered_perform (allowed : registryAllows registry stage) (ordered : registry.Ordered)
    (relies : registryRelies registry stage) :
    (performRegistry registry stage).1.Ordered := by
  cases stage with
  | inserting tenant name parent =>
    exact ordered.insertObject tenant name fun above below => allowed above below
  | moving loaded parent passed =>
    obtain ⟨known, stored, unseen, first⟩ := relies
    refine ordered.relink known fun above below changed => ?_
    cases below
    obtain ⟨chain, active⟩ := allowed changed
    exact ⟨stored, avoids_of_chain chain first unseen, active⟩
  | uprooting loaded =>
    refine ordered.relink relies fun above below _ => ?_
    cases below
  | archiving loaded =>
    simp only [performRegistry]
    split
    · next active =>
        obtain ⟨childless, bare⟩ := allowed active
        exact ordered.archive childless bare
    · exact ordered
  | placing primary write =>
    cases write with
    | create tenant => exact ordered.insertMeter tenant allowed
    | move loaded => exact ordered.moveMeter allowed
    | replace old => exact (ordered.decommission old.id).insertMeter old.tenantId allowed
  | locating tenant name parent =>
    cases parent with
    | none | some => exact ordered
  | _ => exact ordered

end

theorem registry_sound :
    registryProgram.Sound registryAllows Program.Regardless Registry.Ordered registryRelies where
  idle := fun _ _ => trivial
  start := by
    intro registry call _
    cases call <;> trivial
  step := fun _ _ allowed ordered relies => ⟨ordered_perform allowed ordered relies, relies_perform relies⟩
  others := fun _ stage _ _ _ _ relies _ _ _ =>
    registryRelies_of_known (fun _ known => known_perform stage known) relies

theorem ordered_empty : Registry.empty.Ordered where
  forest := fun _ => .root rfl
  known := fun _ listed => absurd listed List.not_mem_nil
  children := fun _ listed => absurd listed List.not_mem_nil
  meters := fun _ listed => absurd listed List.not_mem_nil

/-- The way up from the object passes a hundred objects at most. -/
def Registry.Shallow (registry : Registry) (object : ObjectId) : Prop :=
  ∃ above, Forest.IsChain registry.parentOf (object :: above) ∧ above.length < 100

def FairAnswer (registry : Registry) (parent : ObjectId) (answer : Answer) : Prop :=
  answer ≠ .refused movedIntoCycle ∧ (registry.Shallow parent → answer ≠ .refused tooDeep)

/-- How far a move has come while the registry stays as it was. -/
def Climbs (registry now : Registry) (object parent : ObjectId) : RegistryStage → Prop
  | .loading _ moved _ target => now = registry ∧ moved = object ∧ target = some parent
  | .seeking _ loaded target => now = registry ∧ loaded.id = object ∧ target = parent
  | .walking loaded target passed current =>
    now = registry ∧ loaded.id = object ∧ target = parent ∧
      Forest.Reaches registry.parentOf parent current ∧
        (registry.Shallow parent → ∃ above,
          Forest.IsChain registry.parentOf (current :: above) ∧ passed.length + above.length < 100)
  | .moving _ _ _ => True
  | .uprooting _ => True
  | .returning answer => FairAnswer registry parent answer
  | _ => False

theorem fair_notFound (registry : Registry) (parent : ObjectId) (entity : String) :
    FairAnswer registry parent (.refused (.notFound entity)) := by
  constructor
  · intro same
    cases same
  · intro _ same
    cases same

theorem getObject_error {error : ApiError}
    (refused : registry.getObject tenant object = .error error) :
    error = .notFound "Объект" := by
  unfold Registry.getObject at refused
  split at refused
  · exact (Except.error.inj refused).symm
  · split at refused
    · cases refused
    · exact (Except.error.inj refused).symm

theorem climbs_walkUp {loaded : ResourceObject} {current : ObjectId} {passed : List ObjectId}
    (harmless : Forest.Rooted (Function.update registry.parentOf object (some parent)) object)
    (climbs : Climbs registry registry object parent (.walking loaded parent passed current)) :
    Climbs registry registry object parent (walkUp registry loaded parent passed current) := by
  obtain ⟨_, named, _, reaches, short⟩ := climbs
  subst named
  unfold walkUp
  split
  · next same => exact absurd harmless (Forest.not_rooted_of_cycle (same ▸ reaches))
  · split
    · next long =>
        refine ⟨by decide, fun shallow => ?_⟩
        obtain ⟨above, _, fewer⟩ := short shallow
        omega
    · split
      · trivial
      · next above link =>
          refine ⟨rfl, rfl, rfl, reaches.concat link, fun shallow => ?_⟩
          obtain ⟨rest, chain, fewer⟩ := short shallow
          cases rest with
          | nil =>
            rw [Forest.IsChain, link] at chain
            cases chain
          | cons next others =>
            obtain ⟨stored, later⟩ := chain
            rw [link] at stored
            cases stored
            refine ⟨others, later, ?_⟩
            simp only [List.length_append, List.length_cons, List.length_nil] at fewer ⊢
            omega

theorem climbs_perform {now : Registry} {stage : RegistryStage}
    (harmless : Forest.Rooted (Function.update registry.parentOf object (some parent)) object)
    (climbs : Climbs registry now object parent stage) :
    Climbs registry (performRegistry now stage).1 object parent (performRegistry now stage).2 := by
  cases stage with
  | loading tenant moved clearParent target =>
    obtain ⟨rfl, rfl, rfl⟩ := climbs
    dsimp only [performRegistry]
    cases found : now.getObject tenant moved with
    | error error =>
      rw [getObject_error found]
      exact fair_notFound now parent _
    | ok row =>
      have named := (getObject_ok found).2
      simp only [refusing]
      split
      · trivial
      · exact ⟨rfl, named, rfl⟩
  | seeking tenant loaded target =>
    obtain ⟨rfl, rfl, rfl⟩ := climbs
    dsimp only [performRegistry]
    cases found : now.getObject tenant target with
    | error error =>
      rw [getObject_error found]
      exact fair_notFound now target _
    | ok row =>
      refine ⟨rfl, rfl, rfl, .refl target, fun shallow => ?_⟩
      obtain ⟨above, chain, fewer⟩ := shallow
      exact ⟨above, chain, by simpa using fewer⟩
  | walking loaded target passed current =>
    obtain ⟨rfl, named, rfl, rest⟩ := climbs
    exact climbs_walkUp harmless ⟨rfl, named, rfl, rest⟩
  | moving | uprooting => exact ⟨by decide, fun _ => by decide⟩
  | returning answer => exact climbs
  | _ => exact climbs.elim

/-- A move that runs alone is refused as a cycle only if it would close one, and as too deep
only if the way up is longer than a hundred objects. -/
theorem solo_move_fair {n : Nat} {state : Program.State Registry RegistryStage n} {worker : Fin n}
    {clearParent : Bool} (free : (state.workers worker).free = true)
    (harmless : Forest.Rooted (Function.update state.store.parentOf object (some parent)) object)
    (steps : Nat) {answer : Answer} (answered : (run registryProgram.next state
      (.call worker (.updateObject tenant object clearParent (some parent)) ::
        List.replicate steps (.step worker))).workers worker = .returning answer) :
    FairAnswer state.store parent answer := by
  rw [run_cons] at answered
  let begun := registryProgram.next state
    (.call worker (.updateObject tenant object clearParent (some parent)))
  have started : Climbs state.store begun.store object parent (begun.workers worker) := by
    have ready : registryProgram.free (state.workers worker) = true := free
    simp only [begun, Program.next, ready, if_true, Program.State.put_self]
    exact ⟨rfl, rfl, rfl⟩
  have alone : Obeys registryProgram.next (fun _ event => event = .step worker) begun
      (List.replicate steps (.step worker)) :=
    fun _ listed => List.eq_of_mem_replicate (mem_of_mem_trace registryProgram.next listed)
  have climbs := run_invariant_of_obeys registryProgram.next
    (fun reached => Climbs state.store reached.store object parent (reached.workers worker))
    started (by
      rintro reached _ rfl held
      simp only [Program.next]
      split
      · rw [Program.State.put_self]
        exact climbs_perform harmless held
      · exact held) alone
  rw [answered] at climbs
  exact climbs

/-- After a careful run the objects are a forest with its dead branches cut, and a move that
nobody disturbs is refused for its place only if it would close a cycle or if the way up is
longer than a hundred objects. -/
theorem registry_forest {n : Nat}
    {events : List (Program.Event RegistryCall n)}
    (careful : registryProgram.Careful registryAllows Program.Regardless
      (registryProgram.initial .empty) events) :
    (run registryProgram.next (registryProgram.initial .empty) events).store.IsForest ∧
      (run registryProgram.next (registryProgram.initial .empty) events).store.DeadBranchesCut ∧
      ∀ (worker : Fin n) (tenant : TenantId) (object parent : ObjectId) (clearParent : Bool),
        ((run registryProgram.next (registryProgram.initial .empty) events).workers worker).free = true →
          Forest.Rooted (Function.update
            (run registryProgram.next (registryProgram.initial .empty) events).store.parentOf
              object (some parent)) object →
            ∀ (steps : Nat) (answer : Answer),
              (run registryProgram.next
                  (run registryProgram.next (registryProgram.initial .empty) events)
                  (.call worker (.updateObject tenant object clearParent (some parent)) ::
                    List.replicate steps (.step worker))).workers worker = .returning answer →
                FairAnswer
                  (run registryProgram.next (registryProgram.initial .empty) events).store
                  parent answer := by
  have held := registry_sound.holds_run (registry_sound.holds_initial ordered_empty) careful
  exact ⟨held.store.forest, held.store.cut,
    fun _ _ _ _ _ free harmless steps _ answered => solo_move_fair free harmless steps answered⟩

/-- Requests of one administrator, each with as many statements as it may take. -/
def requests (calls : List RegistryCall) : List (Program.Event RegistryCall 1) :=
  calls.flatMap fun call => .call 0 call :: List.replicate 5 (.step 0)

/-- A house with an entrance and a meter that moves to the house; the entrance is archived. -/
def tidyRequests : List (Program.Event RegistryCall 1) :=
  requests [.createObject 1 "дом" none, .createObject 1 "подъезд" (some 1), .createMeter 1 2,
    .updateMeter 1 1 (some 1), .archiveObject 1 2]

theorem tidy_registry_forest :
    (run registryProgram.next (registryProgram.initial .empty) tidyRequests).store.IsForest ∧
      (run registryProgram.next (registryProgram.initial .empty)
        tidyRequests).store.DeadBranchesCut :=
  have careful : registryProgram.Careful registryAllows Program.Regardless
      (registryProgram.initial .empty) tidyRequests := by decide
  ⟨(registry_forest careful).1, (registry_forest careful).2.1⟩

/-- The entrance is created below a house that has been archived. -/
theorem created_below_archived :
    ¬ ∀ (n : Nat) (events : List (Program.Event RegistryCall n)),
      (run registryProgram.next (registryProgram.initial .empty) events).store.DeadBranchesCut := by
  intro cut
  have house := cut 1 (requests [.createObject 1 "дом" none, .archiveObject 1 1,
    .createObject 1 "подъезд" (some 1)]) ⟨1, 1, "дом", none, false⟩ (by decide) rfl
  have entrance := house.1 ⟨2, 1, "подъезд", some 1, true⟩ (by decide) rfl
  cases entrance

end InfrasafeBot.ResourceAccounting
