import InfrasafeBot.AccessControl.EntryDecisions
import InfrasafeBot.AccessControl.RegistryFrames

/-! The zones the explicit rules of a vehicle admit it to after its card is edited. -/

set_option autoImplicit false

namespace InfrasafeBot.AccessControl

open Library RequestWorkflow

def Admits (registry : Registry) (vehicleId zoneId : Nat) (moment : Moment) : Prop :=
  zoneRuleMatches registry vehicleId (activeApartmentIds registry vehicleId moment) (some zoneId)
    .entry moment = true

def Lets (registry : Registry) (vehicleId zoneId : Nat) (moment : Moment) (rule : AccessRule) : Prop :=
  rule.zoneId = zoneId ∧
    (rule.vehicleId = some vehicleId ∨ ∃ apartmentId, rule.apartmentId = some apartmentId ∧
      Linked registry vehicleId apartmentId moment) ∧
    Within moment rule.validFrom rule.validUntil ∧
    ∀ allowed, rule.allowedDirections = some allowed → allowed = [] ∨ .entry ∈ allowed

def LetIn (rules : Table AccessRule.id) (lets : AccessRule → Prop) : Prop :=
  ∃ rule ∈ rules.rows, rule.isActive = true ∧ lets rule

section

variable {registry : Registry} {vehicleId zoneId : Nat} {moment : Moment}

theorem admits_iff :
    Admits registry vehicleId zoneId moment ↔
      LetIn registry.rules (Lets registry vehicleId zoneId moment) := by
  unfold Admits zoneRuleMatches LetIn
  rw [List.any_eq_true]
  refine exists_congr fun rule => and_congr_right fun _ => ?_
  have directions : (rule.allowedDirections.all fun allowed =>
      allowed.isEmpty || allowed.contains .entry) = true ↔
        ∀ allowed, rule.allowedDirections = some allowed → allowed = [] ∨ .entry ∈ allowed := by
    cases rule.allowedDirections <;> simp
  have scope : (rule.apartmentId.any
      ((activeApartmentIds registry vehicleId moment).contains ·)) = true ↔
        ∃ apartmentId, rule.apartmentId = some apartmentId ∧
          Linked registry vehicleId apartmentId moment := by
    simp only [Option.any_eq_true, List.contains_iff_mem, mem_activeApartmentIds]
  simp only [ruleMatches, Bool.and_eq_true, Bool.or_eq_true, decide_eq_true_eq, directions, scope,
    withinWindow_iff, Option.some.injEq, Lets, and_assoc, eq_comm (a := zoneId)]

end

section

variable {registry : Registry} {vehicleId : Nat} {apartmentId : Option Nat} {zoneId : Nat}
  {lets : AccessRule → Prop}

structure Blind (lets : AccessRule → Prop) : Prop where
  revived : ∀ rule : AccessRule, lets { rule with isActive := true } ↔ lets rule
  fresh : ∀ vehicleId apartmentId zoneId id,
    lets (newRule vehicleId apartmentId zoneId id) ↔ lets (newRule vehicleId apartmentId zoneId 0)

def asleep (vehicleId zoneId : Nat) (rule : AccessRule) : Bool :=
  rule.vehicleId = some vehicleId && rule.zoneId = zoneId && !rule.isActive

def restored (rules : Table AccessRule.id) (vehicleId : Nat) (apartmentId : Option Nat)
    (zoneId : Nat) : AccessRule :=
  (rules.rows.find? (asleep vehicleId zoneId)).getD (newRule vehicleId apartmentId zoneId 0)

theorem letIn_restoreZoneRule (blind : Blind lets) :
    LetIn (restoreZoneRule vehicleId apartmentId registry zoneId).rules lets ↔
      LetIn registry.rules lets ∨
        lets (restored registry.rules vehicleId apartmentId zoneId) := by
  unfold restored
  cases found : registry.rules.rows.find? (asleep vehicleId zoneId) with
  | some revived =>
    have written : restoreZoneRule vehicleId apartmentId registry zoneId =
        { registry with rules := registry.rules.put { revived with isActive := true } } := by
      unfold asleep at found
      rw [restoreZoneRule, found]
    rw [written]
    have listed := List.mem_of_find?_eq_some found
    have inactive : revived.isActive = false := by
      have fits := List.find?_some found
      simp only [asleep, Bool.and_eq_true, Bool.not_eq_true'] at fits
      exact fits.2
    constructor
    · rintro ⟨rule, member, active, fits⟩
      rcases Table.mem_put member with rfl | ⟨before, _⟩
      · exact .inr ((blind.revived revived).mp fits)
      · exact .inl ⟨rule, before, active, fits⟩
    · rintro (⟨rule, member, active, fits⟩ | fits)
      · refine ⟨rule, List.mem_map.mpr ⟨rule, member, if_neg fun same => ?_⟩, active, fits⟩
        rw [Table.eq_of_key member listed same, inactive] at active
        cases active
      · exact ⟨_, List.mem_map.mpr ⟨revived, listed, if_pos rfl⟩, rfl, (blind.revived revived).mpr fits⟩
  | none =>
    have written : restoreZoneRule vehicleId apartmentId registry zoneId =
        addZoneRule vehicleId apartmentId registry zoneId := by
      unfold asleep at found
      rw [restoreZoneRule, found]
    rw [written]
    constructor
    · rintro ⟨rule, member, active, fits⟩
      rcases List.mem_append.mp member with before | added
      · exact .inl ⟨rule, before, active, fits⟩
      · obtain rfl := List.mem_singleton.mp added
        exact .inr ((blind.fresh _ _ _ _).mp fits)
    · rintro (⟨rule, member, active, fits⟩ | fits)
      · exact ⟨rule, List.mem_append_left _ member, active, fits⟩
      · exact ⟨_, List.mem_append_right _ (List.mem_singleton_self _), rfl, (blind.fresh _ _ _ _).mpr fits⟩

theorem restored_of_ne {other : Nat} (different : other ≠ zoneId) :
    restored (restoreZoneRule vehicleId apartmentId registry zoneId).rules vehicleId apartmentId
        other = restored registry.rules vehicleId apartmentId other := by
  have passed : ∀ rule : AccessRule, rule.zoneId = zoneId → asleep vehicleId other rule = false := by
    intro rule own
    simp [asleep, own, Ne.symm different]
  unfold restored
  congr 1
  unfold restoreZoneRule
  split
  · next revived found =>
      have fits := List.find?_some found
      simp only [Bool.and_eq_true, decide_eq_true_eq] at fits
      have own : revived.zoneId = zoneId := fits.1.2
      refine Table.find?_map_of_fixed fun rule listed => ?_
      by_cases same : rule.id = revived.id
      · have one := Table.eq_of_key listed (List.mem_of_find?_eq_some found) same
        rw [if_pos same]
        exact .inr ⟨passed rule (one ▸ own), passed _ own⟩
      · exact .inl (if_neg same)
  · have appended : ((addZoneRule vehicleId apartmentId registry zoneId).rules).rows =
        registry.rules.rows ++ [newRule vehicleId apartmentId zoneId registry.rules.nextKey] := rfl
    rw [appended, List.find?_append, List.find?_singleton, passed _ rfl]
    simp

variable {zoneIds : List Nat} {rule : AccessRule} {rules : Table AccessRule.id}

theorem letIn_foldl_restore (blind : Blind lets) (distinct : zoneIds.Nodup) (registry : Registry) :
    LetIn (zoneIds.foldl (restoreZoneRule vehicleId apartmentId) registry).rules lets ↔
      LetIn registry.rules lets ∨
        ∃ zoneId ∈ zoneIds, lets (restored registry.rules vehicleId apartmentId zoneId) := by
  induction zoneIds generalizing registry with
  | nil => simp
  | cons zoneId rest ih =>
    obtain ⟨fresh, apart⟩ := List.nodup_cons.mp distinct
    have later : (∃ other ∈ rest, lets (restored
        (restoreZoneRule vehicleId apartmentId registry zoneId).rules vehicleId apartmentId
          other)) ↔
        ∃ other ∈ rest, lets (restored registry.rules vehicleId apartmentId other) := by
      refine exists_congr fun other => and_congr_right fun member => ?_
      have different : other ≠ zoneId := fun same => fresh (same ▸ member)
      rw [restored_of_ne different]
    rw [List.foldl_cons, ih apart, letIn_restoreZoneRule blind, later, List.exists_mem_cons_iff, or_assoc]

def Unserved (rules : Table AccessRule.id) (vehicleId zoneId : Nat) : Prop :=
  ∀ rule ∈ rules.rows, rule.vehicleId = some vehicleId → rule.zoneId = zoneId → rule.isActive = false

def keptRules (rules : Table AccessRule.id) (vehicleId : Nat) (zoneIds : List Nat) : Table AccessRule.id :=
  rules.update
    (fun rule => rule.vehicleId = some vehicleId && rule.isActive && !zoneIds.contains rule.zoneId)
    inactiveRule inactiveRule_id

theorem active_of_kept (listed : rule ∈ (keptRules rules vehicleId zoneIds).rows)
    (active : rule.isActive = true) :
    rule ∈ rules.rows ∧ (rule.vehicleId = some vehicleId → rule.zoneId ∈ zoneIds) := by
  obtain ⟨old, before, changed⟩ := (Table.mem_update inactiveRule_id).mp listed
  split at changed
  · rw [← changed] at active
    cases active
  · next stays =>
      subst changed
      refine ⟨before, fun own => ?_⟩
      simpa [own, active] using stays

theorem kept_of_active (listed : rule ∈ rules.rows)
    (stays : rule.vehicleId = some vehicleId → rule.zoneId ∈ zoneIds) :
    rule ∈ (keptRules rules vehicleId zoneIds).rows := by
  refine (Table.mem_update inactiveRule_id).mpr ⟨rule, listed, if_neg ?_⟩
  simp only [Bool.and_eq_true, decide_eq_true_eq, Bool.not_eq_true', not_and,
    Bool.not_eq_false, List.contains_iff_mem]
  exact fun own => stays own.1

theorem letIn_keptRules :
    LetIn (keptRules rules vehicleId zoneIds) lets ↔
      ∃ rule ∈ rules.rows, rule.isActive = true ∧
        (rule.vehicleId = some vehicleId → rule.zoneId ∈ zoneIds) ∧ lets rule := by
  constructor
  · rintro ⟨rule, listed, active, fits⟩
    obtain ⟨before, stays⟩ := active_of_kept listed active
    exact ⟨rule, before, active, stays, fits⟩
  · rintro ⟨rule, listed, active, stays, fits⟩
    exact ⟨rule, kept_of_active listed stays, active, fits⟩

theorem restored_keptRules (ticked : zoneId ∈ zoneIds) :
    restored (keptRules rules vehicleId zoneIds) vehicleId apartmentId zoneId =
      restored rules vehicleId apartmentId zoneId := by
  unfold restored
  congr 1
  refine Table.find?_map_of_fixed fun rule _ => ?_
  split
  · next dropped =>
      have elsewhere : rule.zoneId ≠ zoneId := by
        rintro rfl
        simp [ticked] at dropped
      exact .inr ⟨by simp [asleep, elsewhere], by simp [asleep, inactiveRule, elsewhere]⟩
  · exact .inl rfl

theorem unserved_keptRules (ticked : zoneId ∈ zoneIds) :
    Unserved (keptRules rules vehicleId zoneIds) vehicleId zoneId ↔
      Unserved rules vehicleId zoneId := by
  constructor
  · intro unserved rule listed own there
    by_contra active
    rw [Bool.not_eq_false] at active
    have kept : rule ∈ (keptRules rules vehicleId zoneIds).rows :=
      kept_of_active listed fun _ => there ▸ ticked
    rw [unserved rule kept own there] at active
    cases active
  · intro unserved rule listed own there
    by_contra active
    rw [Bool.not_eq_false] at active
    rw [unserved rule (active_of_kept listed active).1 own there] at active
    cases active

def missingZones (rules : Table AccessRule.id) (vehicleId : Nat) (zoneIds : List Nat) : List Nat :=
  let activeZones := (rules.rows.filter fun rule =>
    rule.vehicleId = some vehicleId && rule.isActive).map (·.zoneId)
  (zoneIds.filter fun zoneId => !activeZones.contains zoneId).dedup.mergeSort

theorem missingZones_nodup : (missingZones rules vehicleId zoneIds).Nodup :=
  (List.mergeSort_perm _ _).nodup_iff.mpr (List.nodup_dedup _)

theorem mem_missingZones :
    zoneId ∈ missingZones rules vehicleId zoneIds ↔
      zoneId ∈ zoneIds ∧ Unserved rules vehicleId zoneId := by
  unfold missingZones
  dsimp only
  rw [List.mem_mergeSort, List.mem_dedup, List.mem_filter]
  refine and_congr_right fun _ => ?_
  simp only [Bool.not_eq_true', List.contains_eq_mem, decide_eq_false_iff_not, List.mem_map,
    List.mem_filter, Bool.and_eq_true, decide_eq_true_eq, not_exists, not_and, and_imp, Unserved]
  refine forall_congr' fun rule => forall_congr' fun _ => forall_congr' fun _ => ?_
  cases rule.isActive <;> simp

theorem syncVehicleZoneRules_eq (zoneIds : List Nat) :
    syncVehicleZoneRules registry vehicleId apartmentId zoneIds =
      (missingZones (keptRules registry.rules vehicleId zoneIds) vehicleId zoneIds).foldl
        (restoreZoneRule vehicleId apartmentId)
        { registry with rules := keptRules registry.rules vehicleId zoneIds } := rfl

/-- After the synchronisation a rule is active that has been kept, or the one a zone without an
active rule has been opened with. -/
theorem letIn_sync (blind : Blind lets) (zoneIds : List Nat) :
    LetIn (syncVehicleZoneRules registry vehicleId apartmentId zoneIds).rules lets ↔
      (∃ rule ∈ registry.rules.rows, rule.isActive = true ∧
        (rule.vehicleId = some vehicleId → rule.zoneId ∈ zoneIds) ∧ lets rule) ∨
      ∃ zoneId ∈ zoneIds, Unserved registry.rules vehicleId zoneId ∧
        lets (restored registry.rules vehicleId apartmentId zoneId) := by
  rw [syncVehicleZoneRules_eq, letIn_foldl_restore blind missingZones_nodup, letIn_keptRules]
  refine or_congr_right (exists_congr fun zoneId => ?_)
  rw [mem_missingZones, and_assoc]
  refine and_congr_right fun ticked => ?_
  rw [unserved_keptRules ticked, restored_keptRules ticked]

end

section

variable {registry : Registry} {vehicleId apartmentId : Nat}

theorem restoreZoneRule_links (apartment : Option Nat) (zoneId : Nat) :
    (restoreZoneRule vehicleId apartment registry zoneId).links = registry.links := by
  unfold restoreZoneRule
  split <;> rfl

theorem foldl_restore_links (apartment : Option Nat) (zoneIds : List Nat) (registry : Registry) :
    (zoneIds.foldl (restoreZoneRule vehicleId apartment) registry).links = registry.links := by
  induction zoneIds generalizing registry with
  | nil => rfl
  | cons zoneId rest ih => rw [List.foldl_cons, ih, restoreZoneRule_links]

theorem syncVehicleZoneRules_links (apartment : Option Nat) (zoneIds : List Nat) :
    (syncVehicleZoneRules registry vehicleId apartment zoneIds).links = registry.links := by
  rw [syncVehicleZoneRules_eq, foldl_restore_links]

theorem ensureActiveLink_rules :
    (ensureActiveLink registry vehicleId apartmentId).rules = registry.rules := by
  unfold ensureActiveLink
  split
  · split <;> rfl
  · rfl

theorem ensureActiveLink_others {link : VehicleApartment} (other : link.vehicleId ≠ vehicleId) :
    link ∈ (ensureActiveLink registry vehicleId apartmentId).links.rows ↔
      link ∈ registry.links.rows := by
  unfold ensureActiveLink
  split
  · next existing found =>
      have fits := List.find?_some found
      simp only [linksTo, Bool.and_eq_true, decide_eq_true_eq] at fits
      split
      · rfl
      · constructor
        · intro listed
          rcases Table.mem_put listed with rfl | ⟨before, _⟩
          · exact absurd fits.1 other
          · exact before
        · intro listed
          refine List.mem_map.mpr ⟨link, listed, if_neg fun same => ?_⟩
          have one := Table.eq_of_key listed (List.mem_of_find?_eq_some found) same
          exact other (one ▸ fits.1)
  · constructor
    · intro listed
      rcases (Table.mem_insert (newLink_id vehicleId apartmentId)).mp listed with before | rfl
      · exact before
      · exact absurd rfl other
    · exact fun listed => (Table.mem_insert (newLink_id vehicleId apartmentId)).mpr (.inl listed)

theorem relinkApartment_others {link : VehicleApartment} (other : link.vehicleId ≠ vehicleId) :
    link ∈ (relinkApartment registry vehicleId apartmentId).links.rows ↔
      link ∈ registry.links.rows := by
  unfold relinkApartment
  rw [ensureActiveLink_others other]
  constructor
  · intro listed
    obtain ⟨old, before, changed⟩ := (Table.mem_update archivedLink_id).mp listed
    split at changed
    · next archived =>
        simp only [Bool.and_eq_true, decide_eq_true_eq] at archived
        rw [← changed] at other
        exact absurd archived.1.1 other
    · exact changed ▸ before
  · intro listed
    exact (Table.mem_update archivedLink_id).mpr ⟨link, listed, if_neg (by simp [other])⟩

end

section

def relinkedFor (registry : Registry) (vehicleId : Nat) (request : UpdateVehicleRequest) : Registry :=
  request.apartmentId.elim registry (relinkApartment registry vehicleId)

variable {registry : Registry} {vehicleId : Nat} {request : UpdateVehicleRequest}

theorem relinkedFor_rules : (relinkedFor registry vehicleId request).rules = registry.rules := by
  unfold relinkedFor
  cases request.apartmentId with
  | none => rfl
  | some apartmentId => exact ensureActiveLink_rules

theorem relinkedFor_linked {other : Nat} (different : other ≠ vehicleId) (apartmentId : Nat)
    (moment : Moment) :
    Linked (relinkedFor registry vehicleId request) other apartmentId moment ↔
      Linked registry other apartmentId moment := by
  unfold relinkedFor Linked
  cases request.apartmentId with
  | none => rfl
  | some apartment =>
    refine exists_congr fun link => ?_
    by_cases own : link.vehicleId = other
    · rw [Option.elim_some, relinkApartment_others (own ▸ different)]
    · simp [own]

theorem relinkedFor_stored {vehicles : Table Vehicle.id} {unique : platesUnique vehicles.rows} :
    relinkedFor { registry with vehicles := vehicles, unique := unique } vehicleId request =
      { relinkedFor registry vehicleId request with vehicles := vehicles, unique := unique } := by
  unfold relinkedFor
  cases request.apartmentId with
  | none => rfl
  | some apartmentId =>
    simp only [Option.elim_some, relinkApartment, ensureActiveLink]
    split
    · split <;> rfl
    · rfl

theorem updateVehicle_zones {forms : TextForms} {after : Registry} {zoneIds : List Nat}
    (updated : updateVehicle forms registry vehicleId request = .ok after)
    (ticked : request.zoneIds = some zoneIds) :
    ∃ vehicles, ∃ unique : platesUnique vehicles.rows,
      after = syncVehicleZoneRules
        { relinkedFor registry vehicleId request with vehicles := vehicles, unique := unique }
        vehicleId (apartmentForVehicle (relinkedFor registry vehicleId request) vehicleId)
        zoneIds := by
  unfold updateVehicle at updated
  split at updated
  · cases updated
  · obtain ⟨changed, _, rest⟩ := bind_eq_ok_iff.mp updated
    obtain ⟨stored, flushed, rest⟩ := bind_eq_ok_iff.mp rest
    unfold storeVehicles at flushed
    split at flushed
    · next unique =>
        cases flushed
        cases rest
        refine ⟨_, unique, ?_⟩
        have apartments : apartmentForVehicle (relinkedFor
            { registry with vehicles := registry.vehicles.put changed, unique := unique }
              vehicleId request) vehicleId =
            apartmentForVehicle (relinkedFor registry vehicleId request) vehicleId := by
          rw [relinkedFor_stored]
          rfl
        rw [ticked, ← relinkedFor_stored, ← apartments]
        rfl
    · cases flushed

end

/-- After the call the explicit rules let the vehicle into the zones of the set, at every moment
from now on, and every other vehicle where they did before. -/
structure ZonesAsTicked (before after : Registry) (vehicleId : Nat) (zoneIds : List Nat)
    (now : Moment) : Prop where
  own : ∀ zoneId moment, now ≤ moment → (Admits after vehicleId zoneId moment ↔ zoneId ∈ zoneIds)
  others : ∀ other ∈ before.vehicles.rows, other.id ≠ vehicleId → ∀ zoneId moment, now ≤ moment →
    (Admits after other.id zoneId moment ↔ Admits before other.id zoneId moment)

/-- What the rules before the call have to be like. -/
structure RulesFit (registry : Registry) (vehicleId : Nat) (request : UpdateVehicleRequest)
    (zoneIds : List Nat) (now : Moment) : Prop where
  /-- No active rule of another or of no vehicle lets one of its apartments into another zone. -/
  foreign : ∀ rule ∈ registry.rules.rows, rule.isActive = true →
    rule.vehicleId ≠ some vehicleId → rule.zoneId ∉ zoneIds → ∀ moment, now ≤ moment →
      ¬ Lets (relinkedFor registry vehicleId request) vehicleId rule.zoneId moment rule
  /-- Each zone has an active rule for every moment, or none of the vehicle, whose first inactive
  one, if there is one, is for every moment. -/
  open_ended : ∀ zoneId ∈ zoneIds, ∀ moment, now ≤ moment →
    LetIn registry.rules
        (Lets (relinkedFor registry vehicleId request) vehicleId zoneId moment) ∨
      Unserved registry.rules vehicleId zoneId ∧
        Lets (relinkedFor registry vehicleId request) vehicleId zoneId moment
          (restored registry.rules vehicleId
            (apartmentForVehicle (relinkedFor registry vehicleId request) vehicleId) zoneId)
  /-- Whom a rule that is switched off let in by its apartment, a rule of another or of no vehicle
  lets in as well. -/
  dropped : ∀ rule ∈ registry.rules.rows, rule.isActive = true →
    rule.vehicleId = some vehicleId → rule.zoneId ∉ zoneIds →
      ∀ other ∈ registry.vehicles.rows, other.id ≠ vehicleId → ∀ moment, now ≤ moment →
        Lets registry other.id rule.zoneId moment rule →
          ∃ stays ∈ registry.rules.rows, stays.isActive = true ∧
            stays.vehicleId ≠ some vehicleId ∧ Lets registry other.id rule.zoneId moment stays
  /-- Whom a rule that is switched on lets in by its apartment, an active rule let in before. -/
  granted : ∀ zoneId ∈ zoneIds, Unserved registry.rules vehicleId zoneId →
    ∀ other ∈ registry.vehicles.rows, other.id ≠ vehicleId → ∀ moment, now ≤ moment →
      Lets registry other.id zoneId moment
          (restored registry.rules vehicleId
            (apartmentForVehicle (relinkedFor registry vehicleId request) vehicleId) zoneId) →
        LetIn registry.rules (Lets registry other.id zoneId moment)

section

variable {registry after : Registry} {vehicleId : Nat} {request : UpdateVehicleRequest}
  {forms : TextForms} {zoneIds : List Nat} {now : Moment}

theorem lets_blind (registry : Registry) (vehicleId zoneId : Nat) (moment : Moment) :
    Blind (Lets registry vehicleId zoneId moment) where
  revived _ := Iff.rfl
  fresh _ _ _ _ := Iff.rfl

variable {moment : Moment} {rule : AccessRule} {zoneId other : Nat}

theorem lets_congr {first second : Registry} {vehicleId : Nat}
    (links : ∀ apartmentId, Linked first vehicleId apartmentId moment ↔
      Linked second vehicleId apartmentId moment) :
    Lets first vehicleId zoneId moment rule ↔ Lets second vehicleId zoneId moment rule := by
  simp only [Lets, links]

theorem restored_zone (rules : Table AccessRule.id) (apartmentId : Option Nat) (zoneId : Nat) :
    (restored rules vehicleId apartmentId zoneId).zoneId = zoneId := by
  unfold restored
  cases found : rules.rows.find? (asleep vehicleId zoneId) with
  | none => rfl
  | some rule =>
    have fits := List.find?_some found
    simp only [asleep, Bool.and_eq_true, decide_eq_true_eq] at fits
    exact fits.1.2

theorem admits_after (updated : updateVehicle forms registry vehicleId request = .ok after)
    (ticked : request.zoneIds = some zoneIds) :
    Admits after other zoneId moment ↔
      (∃ rule ∈ registry.rules.rows, rule.isActive = true ∧
        (rule.vehicleId = some vehicleId → rule.zoneId ∈ zoneIds) ∧
          Lets (relinkedFor registry vehicleId request) other zoneId moment rule) ∨
      zoneId ∈ zoneIds ∧ Unserved registry.rules vehicleId zoneId ∧
        Lets (relinkedFor registry vehicleId request) other zoneId moment
          (restored registry.rules vehicleId
            (apartmentForVehicle (relinkedFor registry vehicleId request) vehicleId) zoneId) := by
  obtain ⟨vehicles, unique, rfl⟩ := updateVehicle_zones updated ticked
  have links : ∀ rule, Lets (syncVehicleZoneRules
      { relinkedFor registry vehicleId request with vehicles := vehicles, unique := unique }
      vehicleId (apartmentForVehicle (relinkedFor registry vehicleId request) vehicleId) zoneIds)
        other zoneId moment rule ↔
      Lets (relinkedFor registry vehicleId request) other zoneId moment rule := by
    refine fun rule => lets_congr fun apartmentId => ?_
    unfold Linked
    rw [syncVehicleZoneRules_links]
  rw [admits_iff]
  simp only [LetIn, links]
  change LetIn _ (Lets (relinkedFor registry vehicleId request) other zoneId moment) ↔ _
  rw [letIn_sync (lets_blind _ other zoneId moment)]
  simp only [relinkedFor_rules]
  refine or_congr_right ⟨?_, fun opened => ⟨zoneId, opened⟩⟩
  rintro ⟨opened, member, unserved, fits⟩
  have same : opened = zoneId := (restored_zone _ _ _).symm.trans fits.1
  subst same
  exact ⟨member, unserved, fits⟩

theorem lets_relinked (different : other ≠ vehicleId) :
    Lets (relinkedFor registry vehicleId request) other zoneId moment rule ↔
      Lets registry other zoneId moment rule :=
  lets_congr fun apartmentId => relinkedFor_linked different apartmentId moment

/-- An edited card admits its vehicle to exactly the zones of the set, and changes nothing for
the others, exactly when the rules before the call fit. -/
theorem update_zones_exact (updated : updateVehicle forms registry vehicleId request = .ok after)
    (ticked : request.zoneIds = some zoneIds) :
    ZonesAsTicked registry after vehicleId zoneIds now ↔
      RulesFit registry vehicleId request zoneIds now := by
  constructor
  · intro law
    refine ⟨?_, ?_, ?_, ?_⟩
    · intro rule listed active foreign elsewhere moment later fits
      have admitted := (admits_after updated ticked).mpr
        (.inl ⟨rule, listed, active, fun own => absurd own foreign, fits⟩)
      exact elsewhere ((law.own rule.zoneId moment later).mp admitted)
    · intro zoneId member moment later
      have admitted := (law.own zoneId moment later).mpr member
      rcases (admits_after updated ticked).mp admitted with ⟨rule, listed, active, _, fits⟩ | opened
      · exact .inl ⟨rule, listed, active, fits⟩
      · exact .inr opened.2
    · intro rule listed active own elsewhere other present different moment later fits
      have before := admits_iff.mpr ⟨rule, listed, active, fits⟩
      have admitted := (law.others other present different rule.zoneId moment later).mpr before
      rcases (admits_after updated ticked).mp admitted with ⟨stays, kept, on, zone, lets⟩ | opened
      · refine ⟨stays, kept, on, fun same => elsewhere ?_, (lets_relinked different).mp lets⟩
        exact lets.1 ▸ zone same
      · exact absurd opened.1 elsewhere
    · intro zoneId member unserved other present different moment later fits
      have admitted := (admits_after updated ticked).mpr
        (.inr ⟨member, unserved, (lets_relinked different).mpr fits⟩)
      exact admits_iff.mp ((law.others other present different zoneId moment later).mp admitted)
  · intro fit
    refine ⟨?_, ?_⟩
    · intro zoneId moment later
      rw [admits_after updated ticked]
      constructor
      · rintro (⟨rule, listed, active, zone, fits⟩ | opened)
        · by_contra elsewhere
          have there : rule.zoneId ∉ zoneIds := fun member => elsewhere (fits.1 ▸ member)
          have foreign : rule.vehicleId ≠ some vehicleId := fun own => there (zone own)
          exact fit.foreign rule listed active foreign there moment later
            ⟨rfl, fits.2⟩
        · exact opened.1
      · intro member
        rcases fit.open_ended zoneId member moment later with ⟨rule, listed, active, fits⟩ | opened
        · exact .inl ⟨rule, listed, active, fun _ => fits.1.symm ▸ member, fits⟩
        · exact .inr ⟨member, opened⟩
    · intro other present different zoneId moment later
      rw [admits_after updated ticked, admits_iff]
      constructor
      · rintro (⟨rule, listed, active, -, fits⟩ | ⟨member, unserved, fits⟩)
        · exact ⟨rule, listed, active, (lets_relinked different).mp fits⟩
        · exact fit.granted zoneId member unserved other present different moment later
            ((lets_relinked different).mp fits)
      · rintro ⟨rule, listed, active, fits⟩
        by_cases stays : rule.vehicleId = some vehicleId → rule.zoneId ∈ zoneIds
        · exact .inl ⟨rule, listed, active, stays, (lets_relinked different).mpr fits⟩
        · -- the rule is switched off, and another one takes its place
          obtain ⟨own, elsewhere⟩ := Classical.not_imp.mp stays
          obtain ⟨substitute, kept, on, foreign, lets⟩ := fit.dropped rule listed active own
            elsewhere other present different moment later ⟨rfl, fits.2⟩
          rw [fits.1] at lets
          exact .inl ⟨substitute, kept, on, fun same => absurd same foreign,
            (lets_relinked different).mpr lets⟩

private def ticks (zoneIds : List Nat) : UpdateVehicleRequest := ⟨none, none, some zoneIds⟩

theorem withRules_vehicles : [1].Nodup := List.nodup_singleton 1

theorem withRules_plates : platesUnique [⟨1, "01A", "01A", .active⟩] := by decide

private def withRules (rules : Table AccessRule.id) : Registry :=
  { Registry.empty ⟨[], [], []⟩ with
    vehicles := ⟨[⟨1, "01A", "01A", .active⟩], withRules_vehicles⟩
    rules := rules
    unique := withRules_plates }

private theorem ticks_accepted (rules : Table AccessRule.id) :
    ∃ after, updateVehicle .ascii (withRules rules) 1 (ticks [3]) = .ok after := by
  have unique : platesUnique ((withRules rules).vehicles.put
      ⟨1, "01A", "01A", .active⟩).rows := (by decide : platesUnique [⟨1, "01A", "01A", .active⟩])
  have found : (withRules rules).vehicles.find? 1 = some ⟨1, "01A", "01A", .active⟩ := rfl
  unfold updateVehicle
  rw [found]
  exact ⟨_, bind_eq_ok_iff.mpr ⟨_, rfl, bind_eq_ok_iff.mpr ⟨_, dif_pos unique, rfl⟩⟩⟩

/-- A rule that ran out is revived with its window. -/
theorem expired_rule_revived :
    ¬ ∀ (forms : TextForms) (registry after : Registry) (vehicleId : Nat)
      (request : UpdateVehicleRequest) (zoneIds : List Nat) (now : Moment),
      updateVehicle forms registry vehicleId request = .ok after →
        request.zoneIds = some zoneIds → ZonesAsTicked registry after vehicleId zoneIds now := by
  intro lawful
  let rules : Table AccessRule.id :=
    ⟨[⟨1, some 1, none, 3, some [.entry], none, some 5, false⟩], (by decide : [1].Nodup)⟩
  obtain ⟨after, updated⟩ := ticks_accepted rules
  have law := lawful .ascii (withRules rules) after 1 (ticks [3]) [3] 10 updated rfl
  have admitted := (law.own 3 10 (by decide)).mpr (by decide)
  rcases (admits_after updated rfl).mp admitted with ⟨rule, listed, active, -⟩ | ⟨-, -, fits⟩
  · obtain rfl := List.mem_singleton.mp listed
    cases active
  · exact absurd (fits.2.2.1.2 5 rfl) (by decide)

theorem fresh_rule_exact :
    ∃ after, updateVehicle .ascii (withRules .empty) 1 (ticks [3]) = .ok after ∧
      (ZonesAsTicked (withRules .empty) after 1 [3] 10 ↔
        RulesFit (withRules .empty) 1 (ticks [3]) [3] 10) := by
  obtain ⟨after, updated⟩ := ticks_accepted .empty
  exact ⟨after, updated, update_zones_exact updated rfl⟩

end

end InfrasafeBot.AccessControl
