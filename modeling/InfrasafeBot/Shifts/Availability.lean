import InfrasafeBot.Library.AsciiJson
import InfrasafeBot.Shifts.BalancingRuns

/-! Whether an executor is free for a shift (`services/shift_assignment_service/scoring.py`,
`conflicts.py`, `service.py`): shifts may overlap unless they share a specialization. The
query for the overlaps asks for the ends of the given shift only, so that it misses a shift
inside; and it reads the database, which does not know what a rebalancing has moved so far. -/

set_option autoImplicit false

namespace InfrasafeBot.Shifts

open Library RequestWorkflow

/-- A stored value as a Python set compares it. -/
inductive SpecKey where
  | none
  | number (value : ℚ)
  | constant (name : String)
  | text (text : String)
  deriving DecidableEq

def specKey : Json → Option SpecKey
  | .null => some .none
  | .bool value => some (.number (if value then 1 else 0))
  | .number text =>
    some (if ["NaN", "Infinity", "-Infinity"].contains text then .constant text
      else .number (Json.numberValue text.toList))
  | .string text => some (.text text)
  | .array _ => none
  | .object _ => none

def specSet : Json → Option (List SpecKey)
  | .array items => items.mapM specKey
  | .object members => some (members.map fun member => .text member.1)
  | .string text => some (text.toList.map fun c => .text (String.singleton c))
  | _ => none

/-- The set of a `specialization_focus`: a false value is empty, a text that is no JSON is its
own only element. -/
def focusSet : Json → Option (List SpecKey)
  | .null => some []
  | .bool value => if value then none else some []
  | .number text => if specKey (.number text) = some (.number 0) then some [] else none
  | .string text =>
    if text = "" then some [] else specSet ((Json.loads text).getD (.array [.string text]))
  | value => specSet value

def Shift.specs (shift : Shift) : Option (List SpecKey) := focusSet shift.specializationFocus

def overlapsEnds (shift other : Shift) : Bool :=
  other.plannedStartTime.any fun first => other.plannedEndTime.any fun last =>
    (shift.plannedStartTime.any fun start => first ≤ start && start < last) ||
      shift.plannedEndTime.any fun ending => first < ending && ending ≤ last

def restSeconds : Moment := 8 * hourSeconds

def adjacent (start ending : Moment) (other : Shift) : Bool :=
  other.plannedEndTime.any (fun last => last ≤ start && start - restSeconds < last) ||
    other.plannedStartTime.any fun first => ending ≤ first && first < ending + restSeconds

section

variable (users : Table User.id) (shifts : Table Shift.id) (shift : Shift) (executor : UserId)

def overlappingShifts : List Shift :=
  shifts.rows.filter fun other => rivalShift executor shift other && overlapsEnds shift other

def compareSpecs : List Shift → Option ℚ
  | [] => some (4 / 5)
  | other :: rest => do
      let mine ← shift.specs
      let theirs ← other.specs
      if mine.any theirs.contains then some 0 else compareSpecs rest

/-- `_calculate_availability_score`; `none` where it raises a `TypeError`. -/
def availabilityScore : Option ℚ :=
  if (overlappingShifts shifts shift executor).isEmpty then do
    let start ← shift.plannedStartTime
    let ending ← shift.plannedEndTime
    let tired := shifts.rows.any fun other =>
      other.userId = some executor && other.id ≠ shift.id &&
        (other.transferable || other.status = .completed) && adjacent start ending other
    some (if tired then 7 / 10 else 1)
  else compareSpecs shift (overlappingShifts shifts shift executor)

inductive ConflictType where
  | executorNotFound
  | invalidRole
  | invalidStatus
  | timeConflict

inductive Severity where
  | low
  | medium
  | high
  | critical
  deriving DecidableEq

def ConflictType.severity : ConflictType → Severity
  | .executorNotFound => .critical
  | .invalidRole => .high
  | .invalidStatus => .high
  | .timeConflict => .critical

def checkAssignmentConflicts : Option (List ConflictType) :=
  match users.find? executor with
  | none => some [.executorNotFound]
  | some user => do
      let score ← availabilityScore shifts shift user.id
      some ((if (getUserRoles user).contains "executor" then [] else [.invalidRole]) ++
        (if user.status = .approved then [] else [.invalidStatus]) ++
          if score = 0 then [.timeConflict] else [])

/-- The candidates from the best score on, until one has no conflict that blocks. -/
def firstUnblocked : List UserId → Option (Option UserId)
  | [] => some none
  | candidate :: rest => do
      let conflicts ← checkAssignmentConflicts users shifts shift candidate
      if conflicts.any fun conflict =>
          conflict.severity = .high || conflict.severity = .critical then firstUnblocked rest
      else some (some candidate)

end

/-- `_assign_single_shift`, with what the scoring gives to the candidates; one whose scoring
raises is left out. -/
def assignSingleShift (score : User → Option ℚ) (users : Table User.id)
    (shifts : Table Shift.id) (shift : Shift) (executors : List User) :
    Option UserId × Table Shift.id :=
  let scores := executors.filterMap fun executor =>
    ((score executor).filter (0 < ·)).map fun total => (executor.id, total)
  let ranked := scores.insertionSort fun left right => right.2 ≤ left.2
  match firstUnblocked users shifts shift (ranked.map (·.1)), shifts.find? shift.id with
  | some (some executor), some locked =>
    if locked.userId = shift.userId then (some executor, shifts.put { locked with userId := some executor })
    else (none, shifts)
  | _, _ => (none, shifts)

/-- The intervals of the plan have a moment in common. -/
def Intersects (shift other : Shift) : Prop :=
  ∃ start ∈ shift.plannedStartTime, ∃ ending ∈ shift.plannedEndTime,
    ∃ first ∈ other.plannedStartTime, ∃ last ∈ other.plannedEndTime, start < last ∧ first < ending

def Encloses (shift other : Shift) : Prop :=
  ∃ start ∈ shift.plannedStartTime, ∃ ending ∈ shift.plannedEndTime,
    ∃ first ∈ other.plannedStartTime, ∃ last ∈ other.plannedEndTime, start < first ∧ last < ending

def SharesSpec (shift other : Shift) : Prop :=
  ∃ mine ∈ shift.specs, ∃ theirs ∈ other.specs, ∃ key ∈ mine, key ∈ theirs

/-- Another planned or active shift of the executor stands in the way. -/
structure Clashes (shifts : Table Shift.id) (shift : Shift) (executor : UserId) (other : Shift) : Prop where
  listed : other ∈ shifts.rows
  rival : rivalShift executor shift other = true
  intersects : Intersects shift other
  shares : SharesSpec shift other

def Scheduled (shift : Shift) : Prop :=
  ∃ start ∈ shift.plannedStartTime, ∃ ending ∈ shift.plannedEndTime, start < ending

/-- Where a shift stands in the way, one that reaches over an end of the given shift shares a
specialization too, and what is read before it are sets. -/
def Noticed (shifts : Table Shift.id) (shift : Shift) (executor : UserId) : Prop :=
  (∃ other, Clashes shifts shift executor other) →
    ∃ before other after, overlappingShifts shifts shift executor = before ++ other :: after ∧
      SharesSpec shift other ∧ ∀ earlier ∈ before, earlier.specs ≠ none

section

variable {shifts : Table Shift.id} {shift other : Shift} {executor : UserId}

theorem overlapsEnds_iff (scheduled : Scheduled shift) (otherScheduled : Scheduled other) :
    overlapsEnds shift other = true ↔ Intersects shift other ∧ ¬ Encloses shift other := by
  obtain ⟨start, starts, ending, ends, long⟩ := scheduled
  obtain ⟨first, begins, last, closes, wide⟩ := otherScheduled
  rw [Option.mem_def] at starts ends begins closes
  simp only [overlapsEnds, Intersects, Encloses, starts, ends, begins, closes, Option.any_some,
    Option.mem_def, Option.some.injEq, exists_eq_left', Bool.or_eq_true, Bool.and_eq_true,
    decide_eq_true_eq]
  grind

theorem sharesSpec_iff {mine theirs : List SpecKey} (own : shift.specs = some mine)
    (read : other.specs = some theirs) :
    SharesSpec shift other ↔ mine.any theirs.contains = true := by
  simp [SharesSpec, own, read]

theorem compareSpecs_eq_zero {rows : List Shift} :
    compareSpecs shift rows = some 0 ↔
      ∃ before other after, rows = before ++ other :: after ∧ SharesSpec shift other ∧
        ∀ earlier ∈ before, earlier.specs ≠ none := by
  induction rows with
  | nil => simp [compareSpecs]
  | cons first rest ih =>
    rw [compareSpecs]
    cases own : shift.specs with
    | none =>
      refine iff_of_false (by simp) ?_
      intro ⟨_, _, _, _, ⟨mine, has, _⟩, _⟩
      rw [own] at has
      cases has
    | some mine =>
      cases read : first.specs with
      | none =>
        refine iff_of_false (by simp) ?_
        intro ⟨before, other, after, same, shares, readable⟩
        cases before with
        | nil =>
          obtain ⟨rfl, -⟩ := List.cons.inj same
          obtain ⟨_, _, theirs, has, _⟩ := shares
          rw [read] at has
          cases has
        | cons head before =>
          obtain ⟨rfl, -⟩ := List.cons.inj same
          exact readable _ List.mem_cons_self read
      | some theirs =>
        have shared := sharesSpec_iff own read
        simp only [Option.bind_eq_bind, Option.bind_some]
        split
        · next common => exact iff_of_true rfl ⟨[], first, rest, rfl, shared.mpr common, by simp⟩
        · next disjoint =>
            rw [ih]
            constructor
            · intro ⟨before, other, after, same, shares, readable⟩
              exact ⟨first :: before, other, after, by rw [same]; rfl, shares,
                List.forall_mem_cons.mpr ⟨by simp [read], readable⟩⟩
            · intro ⟨before, other, after, same, shares, readable⟩
              cases before with
              | nil =>
                obtain ⟨rfl, -⟩ := List.cons.inj same
                exact absurd (shared.mp shares) disjoint
              | cons head before =>
                obtain ⟨rfl, rfl⟩ := List.cons.inj same
                exact ⟨before, other, after, rfl, shares, (List.forall_mem_cons.mp readable).2⟩

theorem availabilityScore_eq_zero :
    availabilityScore shifts shift executor = some 0 ↔
      ∃ before other after, overlappingShifts shifts shift executor = before ++ other :: after ∧
        SharesSpec shift other ∧ ∀ earlier ∈ before, earlier.specs ≠ none := by
  unfold availabilityScore
  split
  · next empty =>
      rw [List.isEmpty_iff.mp empty]
      refine iff_of_false ?_ (by simp)
      cases shift.plannedStartTime with
      | none => simp
      | some start =>
        cases shift.plannedEndTime with
        | none => simp
        | some ending =>
          simp only [Option.bind_eq_bind, Option.bind_some, Option.some.injEq]
          split
          · norm_num
          · norm_num
  · exact compareSpecs_eq_zero

theorem clashes_of_mem (planned : ∀ row ∈ shifts.rows, Scheduled row) (scheduled : Scheduled shift)
    (among : other ∈ overlappingShifts shifts shift executor) (shares : SharesSpec shift other) :
    Clashes shifts shift executor other ∧ ¬ Encloses shift other := by
  obtain ⟨listed, selected⟩ := List.mem_filter.mp among
  obtain ⟨rival, overlaps⟩ := Bool.and_eq_true_iff.mp selected
  obtain ⟨intersects, reaches⟩ := (overlapsEnds_iff scheduled (planned other listed)).mp overlaps
  exact ⟨⟨listed, rival, intersects, shares⟩, reaches⟩

theorem availability_exact_iff (planned : ∀ row ∈ shifts.rows, Scheduled row)
    (scheduled : Scheduled shift) :
    (availabilityScore shifts shift executor = some 0 ↔
        ∃ other, Clashes shifts shift executor other) ↔ Noticed shifts shift executor := by
  rw [availabilityScore_eq_zero]
  refine ⟨fun exactly => exactly.mpr, fun noticed => ⟨?_, noticed⟩⟩
  intro ⟨before, other, after, same, shares, _⟩
  exact ⟨other, (clashes_of_mem planned scheduled (by simp [same]) shares).1⟩

end

section

variable {users : Table User.id} {shifts : Table Shift.id} {shift : Shift} {executor : UserId}
  {executors : List User} {score : User → Option ℚ}

theorem checkAssignmentConflicts_free (free : checkAssignmentConflicts users shifts shift executor =
    some []) : availabilityScore shifts shift executor ≠ some 0 := by
  intro blocked
  unfold checkAssignmentConflicts at free
  split at free
  · cases free
  · next user found =>
      have same : user.id = executor := Table.key_of_find? found
      rw [same, blocked] at free
      simp at free

theorem firstUnblocked_spec {candidates : List UserId}
    (found : firstUnblocked users shifts shift candidates = some (some executor)) :
    checkAssignmentConflicts users shifts shift executor = some [] := by
  induction candidates with
  | nil => cases found
  | cons candidate rest ih =>
    rw [firstUnblocked] at found
    obtain ⟨conflicts, checked, found⟩ := Option.bind_eq_some_iff.mp found
    split at found
    · exact ih found
    · next passes =>
        cases found
        rw [checked]
        cases conflicts with
        | nil => rfl
        | cons conflict others =>
          refine absurd ?_ passes
          rw [List.any_cons]
          cases conflict <;> rfl

theorem assignSingleShift_free (planned : ∀ row ∈ shifts.rows, Scheduled row)
    (scheduled : Scheduled shift) (noticed : Noticed shifts shift executor)
    (given : (assignSingleShift score users shifts shift executors).1 = some executor)
    (other : Shift) :
    ¬ Clashes (assignSingleShift score users shifts shift executors).2 shift executor other := by
  unfold assignSingleShift at given ⊢
  dsimp only at given ⊢
  split at given
  · next candidate locked chosen found =>
      split at given
      · next unchanged =>
          obtain rfl : candidate = executor := Option.some.inj given
          rw [if_pos unchanged]
          intro clash
          refine checkAssignmentConflicts_free (firstUnblocked_spec chosen) ?_
          refine (availability_exact_iff planned scheduled).mpr noticed |>.mpr ⟨other, ?_⟩
          rcases Table.mem_put clash.listed with rfl | ⟨listed, _⟩
          · have rival := clash.rival
            have same : locked.id = shift.id := Table.key_of_find? found
            simp [rivalShift, same] at rival
          · exact ⟨listed, clash.rival, clash.intersects, clash.shares⟩
      · cases given
  · cases given

end

/-- What the scores of a rebalancing read, whatever it has moved: nothing is flushed. -/
def stored (shifts : Table Shift.id) (_ : Table Shift.id) (shift : Shift) (executor : User) : Option ℚ :=
  availabilityScore shifts shift executor.id

/-- Every row is as it is stored, or comes from a donor and is for a receiver whose score was
not zero. -/
def Balance.Traced (selects : Shift → Bool) (donors : List UserId) (shifts : Table Shift.id)
    (state : Balance) : Prop :=
  ∀ row ∈ state.shifts.rows, ∃ old ∈ shifts.rows, row = { old with userId := row.userId } ∧
    (row.userId = old.userId ∨ (selects old = true ∧ ∃ donor ∈ donors, old.userId = some donor) ∧
      ∃ receiver, row.userId = some receiver ∧ availabilityScore shifts old receiver ≠ some 0)

/-- Shifts of overloaded executors on the day do not intersect with a common specialization. -/
def Untangled (zone : BusinessZone) (day : CalendarDay) (shifts : Table Shift.id) : Prop :=
  ∀ distribution,
    analyzeWorkloadDistribution (shifts.rows.filter (plannedOn zone day)) = .spread distribution →
      ∀ left ∈ shifts.rows, ∀ right ∈ shifts.rows, left.id ≠ right.id →
        plannedOn zone day left = true → plannedOn zone day right = true →
          (∃ donor ∈ (overloaded distribution).map (·.1), left.userId = some donor) →
            (∃ donor ∈ (overloaded distribution).map (·.1), right.userId = some donor) →
              Intersects left right → ¬ SharesSpec left right

section

variable {users : Table User.id} {shifts : Table Shift.id} {selects : Shift → Bool} {avgLoad : ℚ}
  {donors : List UserId} {donor receiver : UserId} {shift : Shift} {state after : Balance}

theorem compareSpecs_owner (owner : Option UserId) (rows : List Shift) :
    compareSpecs { shift with userId := owner } rows = compareSpecs shift rows := by
  induction rows with
  | nil => rfl
  | cons other rest ih =>
    rw [compareSpecs, compareSpecs, ih]
    rfl

theorem availabilityScore_owner (owner : Option UserId) :
    availabilityScore shifts { shift with userId := owner } receiver =
      availabilityScore shifts shift receiver := by
  unfold availabilityScore
  rw [compareSpecs_owner]
  rfl

theorem accepts_score {session : Table Shift.id}
    (accepted : accepts (stored shifts) users session shift receiver = .ok true) :
    availabilityScore shifts shift receiver ≠ some 0 := by
  intro blocked
  unfold accepts at accepted
  split at accepted
  · next executor found =>
      have same : executor.id = receiver := Table.key_of_find? found
      unfold canAssignShift at accepted
      simp only [stored, same, blocked] at accepted
      split at accepted
      · norm_num at accepted
      · cases accepted
  · cases accepted

theorem Balance.Traced.place (traced : state.Traced selects donors shifts)
    (blind : ∀ row owner, selects { row with userId := owner } = selects row)
    (found : state.shifts.find? shift.id = some shift) (chosen : selects shift = true)
    (owned : shift.userId = some donor) (listed : donor ∈ donors)
    (placed : state.place (stored shifts) users avgLoad shift = .ok after) :
    after.Traced selects donors shifts := by
  rw [Balance.place] at placed
  obtain ⟨result, searched, placed⟩ := bind_eq_ok_iff.mp placed
  cases result with
  | none =>
    cases placed
    exact traced
  | some taker =>
    obtain ⟨receiver, others⟩ := taker
    cases placed
    obtain ⟨accepted, _⟩ := findReceiver_spec searched
    obtain ⟨old, oldListed, same, origin⟩ := traced shift (Table.mem_of_find? found)
    intro row rowListed
    rcases Table.mem_put rowListed with rfl | ⟨rowListed, _⟩
    · refine ⟨old, oldListed, by rw [same], .inr ⟨?_, receiver, rfl, ?_⟩⟩
      · rcases origin with unmoved | ⟨source, _⟩
        · refine ⟨?_, donor, listed, unmoved.symm.trans owned⟩
          rw [same, blind] at chosen
          exact chosen
        · exact source
      · have scored := accepts_score accepted
        rw [same, availabilityScore_owner] at scored
        exact scored
    · exact traced row rowListed

theorem Balance.Traced.unload {waiting : List Shift} (traced : state.Traced selects donors shifts)
    (blind : ∀ row owner, selects { row with userId := owner } = selects row)
    (distinct : (waiting.map Shift.id).Nodup)
    (held : ∀ shift ∈ waiting, state.shifts.find? shift.id = some shift ∧
      selects shift = true ∧ shift.userId = some donor) (listed : donor ∈ donors)
    (ran : unload (stored shifts) users selects avgLoad donor waiting state = .ok after) :
    after.Traced selects donors shifts := by
  induction waiting generalizing state with
  | nil =>
    cases ran
    exact traced
  | cons shift rest ih =>
    rw [Shifts.unload] at ran
    split at ran
    · cases ran
      exact traced
    · obtain ⟨placed, step, ran⟩ := bind_eq_ok_iff.mp ran
      obtain ⟨fresh, distinct⟩ := List.nodup_cons.mp distinct
      obtain ⟨⟨found, chosen, owned⟩, held⟩ := List.forall_mem_cons.mp held
      have next := traced.place blind found chosen owned listed step
      split at ran
      · cases ran
        exact next
      · refine ih next distinct ?_ ran
        intro other among
        obtain ⟨found, chosen⟩ := held other among
        refine ⟨?_, chosen⟩
        rw [place_find? step fun same => fresh (same ▸ List.mem_map_of_mem among)]
        exact found

theorem Balance.Traced.unloadAll {waiting : List (UserId × Nat)}
    (traced : state.Traced selects donors shifts)
    (blind : ∀ row owner, selects { row with userId := owner } = selects row)
    (among : ∀ donor ∈ waiting.map (·.1), donor ∈ donors)
    (ran : unloadAll (stored shifts) users selects avgLoad waiting state = .ok after) :
    after.Traced selects donors shifts := by
  induction waiting generalizing state with
  | nil =>
    cases ran
    exact traced
  | cons entry rest ih =>
    rw [Shifts.unloadAll] at ran
    obtain ⟨unloaded, step, ran⟩ := bind_eq_ok_iff.mp ran
    obtain ⟨listed, among⟩ := List.forall_mem_cons.mp among
    obtain ⟨ids, held⟩ := executorShifts_spec state.shifts
    exact ih (traced.unload blind ids held listed step) among ran

theorem Balance.Traced.free {zone : BusinessZone} {day : CalendarDay} {distribution : Distribution}
    (traced : state.Traced (plannedOn zone day) ((overloaded distribution).map (·.1)) shifts)
    (analyzed : analyzeWorkloadDistribution (shifts.rows.filter (plannedOn zone day)) =
      .spread distribution)
    (planned : ∀ row ∈ shifts.rows, Scheduled row) (untangled : Untangled zone day shifts)
    (noticed : ∀ row ∈ shifts.rows, plannedOn zone day row = true → ∀ executor,
      Noticed shifts row executor) {row other : Shift} (listed : row ∈ state.shifts.rows)
    (moved : row ∉ shifts.rows) (owned : row.userId = some receiver) :
    ¬ Clashes state.shifts row receiver other := by
  intro clash
  obtain ⟨old, oldListed, same, origin⟩ := traced row listed
  obtain ⟨before, beforeListed, otherSame, source⟩ := traced other clash.listed
  obtain ⟨owner, rfl⟩ : ∃ owner, row = { old with userId := owner } := ⟨_, same⟩
  obtain ⟨holder, rfl⟩ : ∃ holder, other = { before with userId := holder } := ⟨_, otherSame⟩
  rcases origin with unmoved | ⟨⟨chosen, gives⟩, taker, taken, free⟩
  · have kept : owner = old.userId := unmoved
    rw [kept] at moved
    exact moved oldListed
  · obtain rfl : taker = receiver := Option.some.inj (taken.symm.trans owned)
    rcases source with unmoved | ⟨⟨otherChosen, otherGives⟩, _⟩
    · have kept : holder = before.userId := unmoved
      refine free ((availability_exact_iff planned (planned old oldListed)).mpr
        (noticed old oldListed chosen taker) |>.mpr ⟨before, beforeListed, ?_, clash.intersects,
          clash.shares⟩)
      have rival := clash.rival
      rw [kept] at rival
      exact rival
    · have different : old.id ≠ before.id := by
        have rival := clash.rival
        simp only [rivalShift, Bool.and_eq_true, decide_eq_true_eq] at rival
        exact Ne.symm rival.2
      exact untangled distribution analyzed old oldListed before beforeListed different chosen
        otherChosen gives otherGives clash.intersects clash.shares

theorem rebalance_free {zone : BusinessZone} {day : CalendarDay}
    (planned : ∀ row ∈ shifts.rows, Scheduled row) (untangled : Untangled zone day shifts)
    (noticed : ∀ row ∈ shifts.rows, plannedOn zone day row = true → ∀ executor,
      Noticed shifts row executor) :
    ∀ row ∈ (balanceExecutorWorkload (stored shifts) zone users shifts day).2.rows,
      row ∉ shifts.rows → ∀ executor, row.userId = some executor → ∀ other,
        ¬ Clashes (balanceExecutorWorkload (stored shifts) zone users shifts day).2 row executor
          other := by
  unfold balanceExecutorWorkload
  dsimp only
  split
  · exact fun row listed moved => absurd listed moved
  · split
    · exact fun row listed moved => absurd listed moved
    · next distribution analyzed =>
        split
        · exact fun row listed moved => absurd listed moved
        · unfold rebalanceShifts
          dsimp only
          split
          · exact fun row listed moved => absurd listed moved
          · split
            · exact fun row listed moved => absurd listed moved
            · next state ran =>
                have traced : state.Traced (plannedOn zone day)
                    ((overloaded distribution).map (·.1)) shifts :=
                  Balance.Traced.unloadAll
                    (fun row listed => ⟨row, listed, rfl, .inl rfl⟩) plannedOn_blind
                    (fun donor listed => listed) ran
                dsimp only
                split
                · exact fun row listed moved => absurd listed moved
                · intro row listed moved executor owned other
                  exact traced.free analyzed planned untangled noticed listed moved owned

end

theorem isExecutorBusy_iff {store : PlanStore} {executor : UserId} {start ending : Moment}
    (planned : ∀ row ∈ store.shifts.rows, Scheduled row.shift) (long : start < ending) :
    isExecutorBusy store executor start ending = true ↔
      ∃ row ∈ store.shifts.rows, row.shift.userId = some executor ∧
        row.shift.transferable = true ∧ ∃ first ∈ row.shift.plannedStartTime,
          ∃ last ∈ row.shift.plannedEndTime, first < ending ∧ start < last := by
  unfold isExecutorBusy
  rw [List.any_eq_true]
  refine exists_congr fun row => and_congr_right fun listed => ?_
  obtain ⟨first, begins, last, closes, wide⟩ := planned row listed
  rw [Option.mem_def] at begins closes
  simp only [begins, closes, Option.any_some, Option.mem_def, Option.some.injEq, exists_eq_left',
    Bool.or_eq_true, Bool.and_eq_true, decide_eq_true_eq]
  grind

def electricShift (id : ShiftId) (owner : Option UserId) (first last : Moment) : Shift where
  id
  userId := owner
  startTime := first
  endTime := none
  status := .planned
  plannedStartTime := some first
  plannedEndTime := some last
  specializationFocus := .array [.string "electrician"]

def shortShift : Shift := electricShift 1 (some 7) 36000 50400

theorem shortShift_nodup : ([shortShift].map Shift.id).Nodup := by simp

theorem shortShift_scheduled : ∀ row ∈ [shortShift], Scheduled row := by
  intro row listed
  obtain rfl := List.mem_singleton.mp listed
  exact ⟨36000, rfl, 50400, rfl, by decide⟩

end InfrasafeBot.Shifts
