import InfrasafeBot.Addresses.Directory
import InfrasafeBot.Library.Branches

/-! Active buildings lie in active yards, active apartments in active buildings, and approved
residents in active apartments. What a commit does to that is decided by what it meets, not by
what its transaction has read before. -/

set_option autoImplicit false

namespace InfrasafeBot.Addresses

open Library Library.Machine RequestWorkflow

def UserApartment.isApproved (binding : UserApartment) : Bool := binding.status = .approved

/-- No live leaf on a dead branch. -/
structure LiveBranches (directory : Directory) : Prop where
  buildings : Rooted Yard.isActive Building.isActive Building.yardId directory.yards
    directory.buildings
  apartments : Rooted Building.isActive Apartment.isActive Apartment.buildingId
    directory.buildings directory.apartments
  residents : Rooted Apartment.isActive UserApartment.isApproved UserApartment.apartmentId
    directory.apartments directory.bindings

def Deactivates (loaded changed : Bool) : Prop := loaded = true ∧ changed = false

instance deactivatesDecidable (loaded changed : Bool) : Decidable (Deactivates loaded changed) :=
  inferInstanceAs (Decidable (_ ∧ _))

/-- What a write meets: nothing live under what it deactivates, and an active parent of what it
creates, leaves active or approves. -/
def Grounded (directory : Directory) : DirectoryWrite → Prop
  | .insertYard _ => True
  | .setYard loaded changed =>
    Deactivates loaded.isActive changed.isActive →
      ∀ building ∈ directory.buildings.rows, building.yardId = loaded.id → building.isActive = false
  | .insertBuilding _ yardId => directory.yardActive yardId = true
  | .setBuilding loaded changed =>
    (∀ row ∈ directory.buildings.rows, row.id = loaded.id →
      (loaded.assign changed row).isActive = true →
        directory.yardActive (loaded.assign changed row).yardId = true) ∧
    (Deactivates loaded.isActive changed.isActive →
      ∀ apartment ∈ directory.apartments.rows, apartment.buildingId = loaded.id →
        apartment.isActive = false)
  | .insertApartments buildingId numbers => numbers ≠ [] → directory.buildingActive buildingId = true
  | .setApartment loaded changed =>
    (∀ row ∈ directory.apartments.rows, row.id = loaded.id →
      (loaded.assign changed row).isActive = true →
        directory.buildingActive (loaded.assign changed row).buildingId = true) ∧
    (Deactivates loaded.isActive changed.isActive →
      ∀ binding ∈ directory.bindings.rows, binding.apartmentId = loaded.id → binding.isApproved = false)
  | .insertBinding _ _ _ _ _ => True
  | .review id status _ _ _ =>
    status = .approved → ∀ binding ∈ directory.bindings.rows, binding.id = id →
      directory.apartmentActive binding.apartmentId = true

variable {directory : Directory}

section

variable {changed loaded stored : Bool} {Child Parent : Type} {wanted : Nat}

theorem assigned_survives (kept : ¬ Deactivates loaded changed) (held : stored = true) :
    assignedColumn changed loaded stored = true := by
  unfold assignedColumn
  split
  · exact held
  · next differs =>
      cases changed with
      | true => rfl
      | false =>
        cases loaded with
        | true => exact absurd ⟨rfl, rfl⟩ kept
        | false => exact absurd rfl differs

theorem assigned_dies (taken : Deactivates loaded changed) :
    assignedColumn changed loaded stored = false := by
  obtain ⟨rfl, rfl⟩ := taken
  rfl

theorem rooted_set_iff {ChildKey : Type} {key : Parent → Nat} {childKey : Child → ChildKey}
    {live : Parent → Bool} {alive : Child → Bool} {parentOf : Child → Nat} {parents : Table key}
    {children : Table childKey} {change : Parent → Parent}
    {keeps : ∀ row, key (change row) = key row}
    (rooted : Rooted live alive parentOf parents children)
    (written : ∀ row, live (change row) = assignedColumn changed loaded (live row)) :
    Rooted live alive parentOf (parents.update (fun row => key row = wanted) change keeps)
        children ↔
      (Deactivates loaded changed →
        ∀ child ∈ children.rows, parentOf child = wanted → alive child = false) := by
  by_cases taken : Deactivates loaded changed
  · rw [rooted_kill_parent_iff rooted (fun _ => decide_eq_true_iff)
      (fun row _ _ => (written row).trans (assigned_dies taken))]
    exact ⟨fun dead _ => dead, fun dead => dead taken⟩
  · refine iff_of_true (rooted.update_parent fun row _ _ held => ?_) fun given => absurd given taken
    rw [written]
    exact assigned_survives taken held

theorem rooted_assign_iff {key : Parent → Nat} {childKey : Child → Nat} {live : Parent → Bool}
    {alive : Child → Bool} {parentOf : Child → Nat} {parents : Table key}
    {children : Table childKey} {change : Child → Child}
    {keeps : ∀ row, childKey (change row) = childKey row}
    (rooted : Rooted live alive parentOf parents children) :
    Rooted live alive parentOf parents
        (children.update (fun row => childKey row = wanted) change keeps) ↔
      ∀ row ∈ children.rows, childKey row = wanted → alive (change row) = true →
        (parents.find? (parentOf (change row))).any live = true := by
  rw [rooted_update_child_iff rooted]
  simp only [decide_eq_true_eq]

theorem set_yard_iff (live : LiveBranches directory) (loaded changed : Yard) :
    LiveBranches (directory.write (.setYard loaded changed)) ↔
      Grounded directory (.setYard loaded changed) := by
  have buildings : Rooted Yard.isActive Building.isActive Building.yardId
      (directory.setYardRow loaded changed) directory.buildings ↔
        Grounded directory (.setYard loaded changed) :=
    rooted_set_iff live.buildings fun _ => rfl
  exact ⟨fun after => buildings.mp after.buildings,
    fun grounded => ⟨buildings.mpr grounded, live.apartments, live.residents⟩⟩

theorem set_building_iff (live : LiveBranches directory) (loaded changed : Building) :
    LiveBranches (directory.write (.setBuilding loaded changed)) ↔
      Grounded directory (.setBuilding loaded changed) := by
  have buildings : Rooted Yard.isActive Building.isActive Building.yardId directory.yards
      (directory.setBuildingRow loaded changed) ↔ _ := rooted_assign_iff live.buildings
  have apartments : Rooted Building.isActive Apartment.isActive Apartment.buildingId
      (directory.setBuildingRow loaded changed) directory.apartments ↔
        (Deactivates loaded.isActive changed.isActive →
          ∀ apartment ∈ directory.apartments.rows, apartment.buildingId = loaded.id →
            apartment.isActive = false) :=
    rooted_set_iff live.apartments fun _ => rfl
  exact ⟨fun after => ⟨buildings.mp after.buildings, apartments.mp after.apartments⟩,
    fun grounded => ⟨buildings.mpr grounded.1, apartments.mpr grounded.2, live.residents⟩⟩

theorem set_apartment_iff (live : LiveBranches directory) (loaded changed : Apartment) :
    LiveBranches (directory.write (.setApartment loaded changed)) ↔
      Grounded directory (.setApartment loaded changed) := by
  have apartments : Rooted Building.isActive Apartment.isActive Apartment.buildingId
      directory.buildings (directory.setApartmentRow loaded changed) ↔ _ :=
    rooted_assign_iff live.apartments
  have residents : Rooted Apartment.isActive UserApartment.isApproved UserApartment.apartmentId
      (directory.setApartmentRow loaded changed) directory.bindings ↔
        (Deactivates loaded.isActive changed.isActive →
          ∀ binding ∈ directory.bindings.rows, binding.apartmentId = loaded.id →
            binding.isApproved = false) :=
    rooted_set_iff live.residents fun _ => rfl
  exact ⟨fun after => ⟨apartments.mp after.apartments, residents.mp after.residents⟩,
    fun grounded => ⟨live.buildings, apartments.mpr grounded.1, residents.mpr grounded.2⟩⟩

theorem insert_building_iff (live : LiveBranches directory) (address : String)
    (yardId : YardId) :
    LiveBranches (directory.write (.insertBuilding address yardId)) ↔
      Grounded directory (.insertBuilding address yardId) := by
  have buildings : Rooted Yard.isActive Building.isActive Building.yardId directory.yards
      (directory.buildings.insert (newBuilding address yardId) (newBuilding_id address yardId)) ↔
        (true = true → directory.yardActive yardId = true) :=
    rooted_insert_child_iff live.buildings (newBuilding_id address yardId)
  exact ⟨fun after => buildings.mp after.buildings rfl,
    fun grounded => ⟨buildings.mpr fun _ => grounded,
      live.apartments.insert_parent (newBuilding_id address yardId), live.residents⟩⟩

section

variable {buildings : Table Building.id} {apartments : Table Apartment.id}
  {bindings : Table UserApartment.id} {buildingId : BuildingId}

theorem mem_withApartments {row : Apartment} (listed : row ∈ apartments.rows)
    (numbers : List String) : row ∈ (withApartments apartments buildingId numbers).rows := by
  induction numbers generalizing apartments with
  | nil => exact listed
  | cons number rest ih =>
    exact ih ((Table.mem_insert (newApartment_id buildingId number)).mpr (.inl listed))

theorem rooted_withApartments_iff (numbers : List String)
    (rooted : Rooted Building.isActive Apartment.isActive Apartment.buildingId buildings apartments) :
    Rooted Building.isActive Apartment.isActive Apartment.buildingId buildings
        (withApartments apartments buildingId numbers) ↔
      (numbers ≠ [] → (buildings.find? buildingId).any (·.isActive) = true) := by
  induction numbers generalizing apartments with
  | nil => exact iff_of_true rooted fun empty => absurd rfl empty
  | cons number rest ih =>
    have numbered := newApartment_id buildingId number
    constructor
    · intro after _
      have added : newApartment buildingId number apartments.nextKey ∈
          (withApartments apartments buildingId (number :: rest)).rows :=
        mem_withApartments ((Table.mem_insert numbered).mpr (.inr rfl)) rest
      exact after _ added rfl
    · intro active
      have held := active (List.cons_ne_nil number rest)
      have first : Rooted Building.isActive Apartment.isActive Apartment.buildingId buildings
          (apartments.insert (newApartment buildingId number) numbered) :=
        (rooted_insert_child_iff rooted numbered).mpr fun _ => held
      exact (ih first).mpr fun _ => held

theorem residents_withApartments (numbers : List String)
    (rooted : Rooted Apartment.isActive UserApartment.isApproved UserApartment.apartmentId
      apartments bindings) :
    Rooted Apartment.isActive UserApartment.isApproved UserApartment.apartmentId
      (withApartments apartments buildingId numbers) bindings :=
  rooted.of_parents fun row listed held => ⟨row, mem_withApartments listed numbers, rfl, held⟩

end

theorem insert_apartments_iff (live : LiveBranches directory) (buildingId : BuildingId)
    (numbers : List String) :
    LiveBranches (directory.write (.insertApartments buildingId numbers)) ↔
      Grounded directory (.insertApartments buildingId numbers) :=
  ⟨fun after => (rooted_withApartments_iff numbers live.apartments).mp after.apartments,
    fun grounded => ⟨live.buildings,
      (rooted_withApartments_iff numbers live.apartments).mpr grounded,
      residents_withApartments numbers live.residents⟩⟩

theorem review_iff (live : LiveBranches directory) (id : UserApartmentId)
    (status : UserApartmentStatus) (reviewer : UserId) (comment : Option String)
    (now : Moment) :
    LiveBranches (directory.write (.review id status reviewer comment now)) ↔
      Grounded directory (.review id status reviewer comment now) := by
  have residents : Rooted Apartment.isActive UserApartment.isApproved UserApartment.apartmentId
      directory.apartments (directory.bindings.update (fun row => row.id = id)
        (fun row => row.review status reviewer comment now)
        fun row => row.review_id status reviewer comment now) ↔ _ :=
    rooted_assign_iff live.residents
  constructor
  · intro after approved binding listed own
    exact residents.mp after.residents binding listed own (decide_eq_true approved)
  · intro grounded
    refine ⟨live.buildings, live.apartments, residents.mpr ?_⟩
    intro binding listed own approved
    exact grounded (of_decide_eq_true approved) binding listed own

theorem write_live_iff (live : LiveBranches directory) (write : DirectoryWrite) :
    LiveBranches (directory.write write) ↔ Grounded directory write := by
  cases write with
  | insertYard name =>
    exact iff_of_true ⟨live.buildings.insert_parent (newYard_id name), live.apartments,
      live.residents⟩ trivial
  | setYard loaded changed => exact set_yard_iff live loaded changed
  | insertBuilding address yardId => exact insert_building_iff live address yardId
  | setBuilding loaded changed => exact set_building_iff live loaded changed
  | insertApartments buildingId numbers => exact insert_apartments_iff live buildingId numbers
  | setApartment loaded changed => exact set_apartment_iff live loaded changed
  | insertBinding user apartment isOwner isPrimary now =>
    refine iff_of_true ⟨live.buildings, live.apartments, ?_⟩ trivial
    have residents : Rooted Apartment.isActive UserApartment.isApproved
        UserApartment.apartmentId directory.apartments (directory.bindings.insert
          (newBinding user apartment .pending isOwner isPrimary none now)
          (newRequest_id user apartment isOwner isPrimary now)) :=
      (rooted_insert_child_iff live.residents _).mpr fun approved => by cases approved
    exact residents
  | review id status reviewer comment now => exact review_iff live id status reviewer comment now

end

variable {n : Nat}

abbrev DirectoryState (n : Nat) := Program.State Directory DirectoryStage n

abbrev DirectoryEvent (n : Nat) := Program.Event DirectoryCall n

/-- A commit that the database accepts is grounded in what it meets. -/
def Grounds (directory : Directory) : DirectoryStage → Prop
  | .committing write _ _ _ => directory.admits write = true → Grounded directory write
  | _ => True

theorem performDirectory_live_iff {directory : Directory} (live : LiveBranches directory)
    (stage : DirectoryStage) :
    LiveBranches (performDirectory directory stage).1 ↔ Grounds directory stage := by
  cases stage with
  | committing write held committed failed =>
    cases admitted : directory.admits write with
    | true =>
      simp only [performDirectory, Grounds, admitted, if_true, forall_const]
      exact write_live_iff live write
    | false =>
      simp only [performDirectory, Grounds, admitted]
      exact iff_of_true live (fun taken => by cases taken)
  | idle | finished => exact iff_of_true live trivial
  | _ =>
    refine iff_of_true ?_ trivial
    simp only [performDirectory]
    repeat' split
    all_goals exact live

theorem grounds_of_waits {state : DirectoryState n} {worker : Fin n}
    (waits : ¬ directoryProgram.Enters state worker
      (directoryProgram.perform state.store (state.workers worker)).2) :
    Grounds state.store (state.workers worker) := by
  cases stage : state.workers worker with
  | committing write held committed failed =>
    refine absurd (fun _ _ => Program.apart_of_unlocked ?_) waits
    rw [stage]
    simp only [directoryProgram, performDirectory]
    split
    · rfl
    · rfl
  | _ => trivial

theorem next_live_iff {state : DirectoryState n} (live : LiveBranches state.store)
    (event : DirectoryEvent n) :
    LiveBranches (directoryProgram.next state event).store ↔
      Program.Allows Grounds Program.Regardless state event := by
  cases event with
  | call worker call =>
    refine iff_of_true ?_ trivial
    simp only [Program.next]
    split
    · exact live
    · exact live
  | fail worker => exact iff_of_true live trivial
  | step worker =>
    have performed := performDirectory_live_iff live (state.workers worker)
    by_cases enters : directoryProgram.Enters state worker
        (directoryProgram.perform state.store (state.workers worker)).2
    · have stored : (directoryProgram.next state (.step worker)).store =
          (performDirectory state.store (state.workers worker)).1 := by
        simp only [Program.next]
        rw [if_pos enters]
        rfl
      rw [stored, performed]
      exact ⟨fun grounds => ⟨grounds, fun _ _ => trivial⟩, fun allowed => allowed.1⟩
    · have waits : directoryProgram.next state (.step worker) = state := by
        simp only [Program.next]
        exact if_neg enters
      rw [waits]
      exact iff_of_true live ⟨grounds_of_waits enters, fun _ _ => trivial⟩

theorem live_fresh : LiveBranches .fresh where
  buildings := fun _ listed => by cases listed
  apartments := fun _ listed => by cases listed
  residents := fun _ listed => by cases listed

def Checked (directory : Directory) : DirectoryWrite → Prop
  | .setYard loaded changed =>
    Deactivates loaded.isActive changed.isActive →
      ∀ building ∈ directory.buildings.rows, building.yardId = loaded.id → building.isActive = false
  | .insertBuilding _ yardId => directory.yardActive yardId = true
  | .setBuilding loaded changed =>
    loaded ∈ directory.buildings.rows ∧
      (changed.yardId ≠ loaded.yardId → directory.yardActive changed.yardId = true) ∧
      (Deactivates loaded.isActive changed.isActive →
        ∀ apartment ∈ directory.apartments.rows, apartment.buildingId = loaded.id →
          apartment.isActive = false)
  | .insertApartments buildingId _ => directory.buildingActive buildingId = true
  | .setApartment loaded changed =>
    loaded ∈ directory.apartments.rows ∧
      (changed.buildingId ≠ loaded.buildingId → directory.buildingActive changed.buildingId = true) ∧
      (Deactivates loaded.isActive changed.isActive →
        ∀ binding ∈ directory.bindings.rows, binding.apartmentId = loaded.id → binding.isApproved = false)
  | _ => True

def DirectoryStage.Prepared (directory : Directory) : DirectoryStage → Prop
  | .comparingYard yard changes => Checked directory (.setYard yard (changes.set yard))
  | .countingApartments building _ => building ∈ directory.buildings.rows
  | .movingBuilding building changes =>
    building ∈ directory.buildings.rows ∧
      (Deactivates building.isActive (changes.set building).isActive →
        ∀ apartment ∈ directory.apartments.rows, apartment.buildingId = building.id →
          apartment.isActive = false)
  | .comparingNumbers id _ => directory.buildingActive id = true
  | .countingResidents apartment _ => apartment ∈ directory.apartments.rows
  | .movingApartment apartment changes =>
    apartment ∈ directory.apartments.rows ∧
      (Deactivates apartment.isActive (changes.set apartment).isActive →
        ∀ binding ∈ directory.bindings.rows, binding.apartmentId = apartment.id →
          binding.isApproved = false)
  | .comparingApartment apartment changes =>
    Checked directory (.setApartment apartment (changes.set apartment))
  | .committing write _ _ _ => Checked directory write
  | _ => True

/-- A re-activation under the old parent and an approval: no statement reads what they need. -/
def Unchecked (directory : Directory) : DirectoryWrite → Prop
  | .setBuilding loaded changed =>
    loaded.isActive = false → changed.isActive = true → changed.yardId = loaded.yardId →
      directory.yardActive loaded.yardId = true
  | .setApartment loaded changed =>
    loaded.isActive = false → changed.isActive = true →
      changed.buildingId = loaded.buildingId → directory.buildingActive loaded.buildingId = true
  | .review id status _ _ _ =>
    status = .approved → ∀ binding ∈ directory.bindings.rows, binding.id = id →
      directory.apartmentActive binding.apartmentId = true
  | _ => True

def Watches (directory : Directory) : DirectoryStage → Prop
  | .committing write _ _ _ => directory.admits write = true → Unchecked directory write
  | _ => True

theorem assignedColumn_self {Value : Type} [DecidableEq Value] (value loaded : Value) :
    assignedColumn value loaded loaded = value := by
  unfold assignedColumn
  split
  · next same => exact same.symm
  · rfl

theorem checked_parent_iff {live loaded changed : Bool} {old new : Nat} {active : Nat → Bool}
    (before : loaded = true → active old = true) (moved : new ≠ old → active new = true)
    (after : live = changed) :
    (live = true → active new = true) ↔
      (loaded = false → changed = true → new = old → active old = true) := by
  subst after
  constructor
  · rintro given _ lives rfl
    exact given lives
  · intro watched lives
    by_cases same : new = old
    · subst same
      cases held : loaded with
      | true => exact before held
      | false => exact watched held lives rfl
    · exact moved same

theorem grounded_iff_unchecked (live : LiveBranches directory) {write : DirectoryWrite}
    (checked : Checked directory write) :
    Grounded directory write ↔ Unchecked directory write := by
  cases write with
  | insertYard | insertBinding | review => exact Iff.rfl
  | setYard | insertBuilding => exact iff_of_true checked trivial
  | setBuilding loaded changed =>
    obtain ⟨listed, moved, dead⟩ := checked
    have before : loaded.isActive = true → directory.yardActive loaded.yardId = true :=
      live.buildings loaded listed
    have parent := checked_parent_iff before moved
      (assignedColumn_self changed.isActive loaded.isActive)
    refine Iff.trans ⟨fun grounded => ?_, fun given => ⟨fun row found same => ?_, dead⟩⟩ parent
    · have own := grounded.1 loaded listed rfl
      simp only [Building.assign, assignedColumn_self changed.yardId] at own
      exact own
    · rw [directory.buildings.eq_of_key found listed same]
      simp only [Building.assign, assignedColumn_self changed.yardId]
      exact given
  | insertApartments buildingId numbers => exact iff_of_true (fun _ => checked) trivial
  | setApartment loaded changed =>
    obtain ⟨listed, moved, dead⟩ := checked
    have before : loaded.isActive = true →
        directory.buildingActive loaded.buildingId = true :=
      live.apartments loaded listed
    have parent := checked_parent_iff before moved
      (assignedColumn_self changed.isActive loaded.isActive)
    refine Iff.trans ⟨fun grounded => ?_, fun given => ⟨fun row found same => ?_, dead⟩⟩ parent
    · have own := grounded.1 loaded listed rfl
      simp only [Apartment.assign, assignedColumn_self changed.buildingId] at own
      exact own
    · rw [directory.apartments.eq_of_key found listed same]
      simp only [Apartment.assign, assignedColumn_self changed.buildingId]
      exact given

theorem unselected_of_count {Row Key : Type} {key : Row → Key} {table : Table key}
    {condition : Row → Bool} (none : ¬ 0 < table.rowcount condition) {row : Row}
    (listed : row ∈ table.rows) : condition row = false := by
  have zero : table.rows.countP condition = 0 := Nat.eq_zero_of_not_pos none
  exact Bool.eq_false_iff.mpr (List.countP_eq_zero.mp zero row listed)

theorem no_buildings_of_count {yard : YardId} (none : ¬ 0 < directory.countActiveBuildings yard) :
    ∀ building ∈ directory.buildings.rows, building.yardId = yard → building.isActive = false := by
  intro building listed own
  have unselected := unselected_of_count none listed
  simpa [own] using unselected

theorem no_apartments_of_count {building : BuildingId}
    (none : ¬ 0 < directory.countActiveApartments building) :
    ∀ apartment ∈ directory.apartments.rows, apartment.buildingId = building →
      apartment.isActive = false := by
  intro apartment listed own
  have unselected := unselected_of_count none listed
  simpa [own] using unselected

theorem no_residents_of_count {apartment : ApartmentId}
    (none : ¬ 0 < directory.countApprovedResidents apartment) :
    ∀ binding ∈ directory.bindings.rows, binding.apartmentId = apartment →
      binding.isApproved = false := by
  intro binding listed own
  have unselected := unselected_of_count none listed
  simpa [own, UserApartment.isApproved] using unselected

theorem not_deactivates {flag : Option Bool} {active : Bool}
    (skipped : ¬ (flag = some false ∧ active = true)) :
    ¬ Deactivates active (flag.getD active) := by
  rintro ⟨held, taken⟩
  cases flag with
  | none =>
    rw [Option.getD_none, held] at taken
    cases taken
  | some value =>
    rw [Option.getD_some] at taken
    exact skipped ⟨congrArg some taken, held⟩

theorem performDirectory_prepared {stage : DirectoryStage}
    (prepared : stage.Prepared directory) :
    (performDirectory directory stage).2.Prepared (performDirectory directory stage).1 := by
  cases stage with
  | idle | finished => trivial
  | namingYard | committing =>
    simp only [performDirectory]
    split
    · trivial
    · trivial
  | loadingYard id act =>
    simp only [performDirectory]
    split
    · trivial
    · cases act with
      | update changes =>
        dsimp only
        split
        · trivial
        · next skipped => exact fun taken => absurd taken (not_deactivates skipped)
      | delete => trivial
  | countingBuildings yard act =>
    cases act with
    | update | delete =>
      simp only [performDirectory]
      split
      · trivial
      · next none => exact fun _ => no_buildings_of_count none
  | comparingYard | comparingApartment =>
    simp only [performDirectory]
    split
    · trivial
    · exact prepared
  | enteringYard address yardId =>
    simp only [performDirectory]
    split
    · trivial
    · next yard found =>
        split
        · next active =>
            change (directory.yards.find? yardId).any (·.isActive) = true
            rw [found]
            exact active
        · trivial
  | lockingBuilding id act =>
    simp only [performDirectory]
    split
    · trivial
    · next building found =>
        have listed := Table.mem_of_find? found
        cases act with
        | update changes =>
          dsimp only
          split
          · exact listed
          · next skipped => exact ⟨listed, fun taken => absurd taken (not_deactivates skipped)⟩
        | delete => exact listed
  | countingApartments building act =>
    cases act with
    | update changes =>
      simp only [performDirectory]
      split
      · trivial
      · next none => exact ⟨prepared, fun _ => no_apartments_of_count none⟩
    | delete =>
      simp only [performDirectory]
      split
      · trivial
      · next none =>
          split
          · exact ⟨prepared, fun moved => absurd rfl moved, fun _ => no_apartments_of_count none⟩
          · trivial
  | movingBuilding building changes =>
    obtain ⟨listed, dead⟩ := prepared
    simp only [performDirectory]
    split
    · next same =>
        split
        · trivial
        · exact ⟨listed, fun moved => absurd same moved, dead⟩
    · split
      · trivial
      · next yard found =>
          split
          · next active =>
              split
              · trivial
              · refine ⟨listed, fun _ => ?_, dead⟩
                change (directory.yards.find? _).any (·.isActive) = true
                rw [found]
                exact active
          · trivial
  | enteringBuilding id apartments =>
    simp only [performDirectory]
    split
    · trivial
    · next building found =>
        split
        · next active =>
            change (directory.buildings.find? id).any (·.isActive) = true
            rw [found]
            exact active
        · trivial
  | comparingNumbers id apartments =>
    cases apartments with
    | one | bulk =>
      simp only [performDirectory]
      split
      · trivial
      · exact prepared
  | loadingApartment id act =>
    simp only [performDirectory]
    split
    · trivial
    · next apartment found =>
        have listed := Table.mem_of_find? found
        cases act with
        | update changes =>
          dsimp only
          split
          · exact listed
          · next skipped => exact ⟨listed, fun taken => absurd taken (not_deactivates skipped)⟩
        | delete => exact listed
  | countingResidents apartment act =>
    cases act with
    | update changes =>
      simp only [performDirectory]
      split
      · trivial
      · next none => exact ⟨prepared, fun _ => no_residents_of_count none⟩
    | delete =>
      simp only [performDirectory]
      split
      · trivial
      · next none => exact ⟨prepared, fun moved => absurd rfl moved, fun _ => no_residents_of_count none⟩
  | movingApartment apartment changes =>
    obtain ⟨listed, dead⟩ := prepared
    simp only [performDirectory]
    split
    · next same => exact ⟨listed, fun moved => absurd same moved, dead⟩
    · split
      · trivial
      · next building found =>
          split
          · next active =>
              refine ⟨listed, fun _ => ?_, dead⟩
              change (directory.buildings.find? _).any (·.isActive) = true
              rw [found]
              exact active
          · trivial
  | requesting | matching | loadingRequest =>
    simp only [performDirectory]
    repeat' split
    all_goals trivial

def Nobody (_ : Directory) (_ _ : DirectoryStage) : Prop := False

theorem directory_sound :
    directoryProgram.Sound Program.Anytime Nobody (fun _ => True)
      (fun directory stage => stage.Prepared directory) where
  idle := fun _ _ => trivial
  start := fun _ call _ => by
    cases call with
    | _ => trivial
  step := fun _ _ _ _ prepared => ⟨trivial, performDirectory_prepared prepared⟩
  others := fun _ _ _ _ _ _ _ nobody _ _ => nobody.elim

abbrev Prepares (state : DirectoryState 1) : Prop :=
  directoryProgram.Holds (fun _ => True) (fun directory stage => stage.Prepared directory) state

theorem prepares_next (state : DirectoryState 1) (event : DirectoryEvent 1)
    (prepares : Prepares state) : Prepares (directoryProgram.next state event) := by
  refine directory_sound.holds_next prepares ?_
  cases event with
  | call | fail => trivial
  | step worker => exact ⟨trivial, fun other different => absurd (Subsingleton.elim other worker) different⟩

theorem grounds_iff_watches {state : DirectoryState 1} (prepares : Prepares state)
    (live : LiveBranches state.store) (event : DirectoryEvent 1) :
    Program.Allows Grounds Program.Regardless state event ↔
      Program.Allows Watches Program.Regardless state event := by
  cases event with
  | call | fail => exact Iff.rfl
  | step worker =>
    refine and_congr_left fun _ => ?_
    have prepared := prepares.workers worker
    change DirectoryStage.Prepared state.store (state.workers worker) at prepared
    revert prepared
    cases state.workers worker with
    | committing write held committed failed =>
      intro checked
      exact imp_congr_right fun _ => grounded_iff_unchecked live checked
    | _ => exact fun _ => Iff.rfl

/-- The branches are live all along a run exactly where every commit of it is grounded; where
the calls do not overlap, this fails for nothing but re-activations and approvals. -/
theorem live_branches_iff (events : List (DirectoryEvent n))
    (alone : List (DirectoryEvent 1)) :
    ((∀ past, past <+: events → LiveBranches (run directoryProgram.next
        (directoryProgram.initial .fresh : DirectoryState n) past).store) ↔
      directoryProgram.Careful Grounds Program.Regardless
        (directoryProgram.initial .fresh : DirectoryState n) events) ∧
    ((∀ past, past <+: alone → LiveBranches (run directoryProgram.next
        (directoryProgram.initial .fresh : DirectoryState 1) past).store) ↔
      directoryProgram.Careful Watches Program.Regardless
        (directoryProgram.initial .fresh : DirectoryState 1) alone) := by
  constructor
  · exact holds_along_iff_obeys directoryProgram.next (fun state => LiveBranches state.store)
      (fun _ => True) trivial (fun _ _ _ => trivial) live_fresh
      (fun _ event _ live => next_live_iff live event) events
  · exact holds_along_iff_obeys directoryProgram.next (fun state => LiveBranches state.store)
      Prepares (directory_sound.holds_initial trivial) prepares_next live_fresh
      (fun _ event prepares live =>
        (next_live_iff live event).trans (grounds_iff_watches prepares live event)) alone

def callOf (worker : Fin 2) (call : DirectoryCall) (statements : Nat) : List (DirectoryEvent 2) :=
  .call worker call :: List.replicate statements (.step worker)

def yardWithBuilding : List (DirectoryEvent 2) :=
  callOf 0 (.createYard "North") 2 ++ callOf 0 (.createBuilding "North 1" 1) 2

/-- A building is activated after its yard has been deleted. -/
def revivedBuilding : List (DirectoryEvent 2) :=
  yardWithBuilding ++ callOf 0 (.deleteBuilding 1) 3 ++ callOf 0 (.deleteYard 1) 3 ++
    callOf 0 (.updateBuilding 1 ⟨none, none, some true⟩) 3

/-- A request is approved after its apartment has been deleted. -/
def approvedRequest : List (DirectoryEvent 2) :=
  yardWithBuilding ++ callOf 0 (.createApartment 1 "7") 3 ++
    callOf 0 (.requestApartment 5 1 false true 100) 3 ++ callOf 0 (.deleteApartment 1) 3 ++
    callOf 0 (.reviewApartmentRequest 1 true 9 none 200) 2

/-- The yard is deleted between the check of a new building and its insert. -/
def crossedBuilding : List (DirectoryEvent 2) :=
  callOf 0 (.createYard "North") 2 ++ callOf 0 (.createBuilding "North 1" 1) 1 ++
    callOf 1 (.deleteYard 1) 3 ++ [.step 0]

theorem branches_die :
    ¬ LiveBranches (run directoryProgram.next
        (directoryProgram.initial .fresh : DirectoryState 2) revivedBuilding).store ∧
      ¬ LiveBranches (run directoryProgram.next
        (directoryProgram.initial .fresh : DirectoryState 2) approvedRequest).store ∧
      ¬ LiveBranches (run directoryProgram.next
        (directoryProgram.initial .fresh : DirectoryState 2) crossedBuilding).store := by
  refine ⟨fun live => ?_, fun live => ?_, fun live => ?_⟩
  · have dead : ¬ Rooted Yard.isActive Building.isActive Building.yardId
        (run directoryProgram.next (directoryProgram.initial .fresh : DirectoryState 2)
          revivedBuilding).store.yards
        (run directoryProgram.next (directoryProgram.initial .fresh : DirectoryState 2)
          revivedBuilding).store.buildings := by
      decide +kernel
    exact dead live.buildings
  · have dead : ¬ Rooted Apartment.isActive UserApartment.isApproved UserApartment.apartmentId
        (run directoryProgram.next (directoryProgram.initial .fresh : DirectoryState 2)
          approvedRequest).store.apartments
        (run directoryProgram.next (directoryProgram.initial .fresh : DirectoryState 2)
          approvedRequest).store.bindings := by
      decide +kernel
    exact dead live.residents
  · have dead : ¬ Rooted Yard.isActive Building.isActive Building.yardId
        (run directoryProgram.next (directoryProgram.initial .fresh : DirectoryState 2)
          crossedBuilding).store.yards
        (run directoryProgram.next (directoryProgram.initial .fresh : DirectoryState 2)
          crossedBuilding).store.buildings := by
      decide +kernel
    exact dead live.buildings

end InfrasafeBot.Addresses
