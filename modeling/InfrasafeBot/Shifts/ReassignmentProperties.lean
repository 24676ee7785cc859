import InfrasafeBot.Shifts.Reassignment

/-! What the reassignment of the web and that of the bot have in common. The requests move
alike in any order; the guards read the roles and the open-ended shifts differently. -/

set_option autoImplicit false

namespace InfrasafeBot.Shifts

open Library RequestWorkflow

variable {before first second store : Store} {executor manager : UserId} {ending now : Moment}
  {shift : Shift} {botOrder webOrder : SetOrder RequestNumber} {shiftId : ShiftId}

theorem Store.ext_of_moved (others : SameBesideRequests before first)
    (alike : SameBesideRequests before second)
    (requests : first.database.requests.rows = second.database.requests.rows)
    (assignments : first.database.assignments.rows = second.database.assignments.rows) :
    first = second := by
  obtain ⟨users, shifts, shiftAssignments, transfers, database, unique⟩ := first
  obtain ⟨users', shifts', shiftAssignments', transfers', database', unique'⟩ := second
  obtain ⟨⟨requestRows, requestsUnique⟩, ⟨rows, rowsUnique⟩, ratings, auditLogs, outbox⟩ := database
  obtain ⟨⟨requestRows', requestsUnique'⟩, ⟨rows', rowsUnique'⟩, ratings', auditLogs', outbox'⟩ := database'
  obtain ⟨rfl, rfl, rfl, rfl, rfl, rfl, rfl⟩ := others
  obtain ⟨rfl, rfl, rfl, rfl, rfl, rfl, rfl⟩ := alike
  cases requests
  cases assignments
  rfl

theorem Moved.unique {left right : List RequestNumber} (one : Moved left executor before first)
    (two : Moved right executor before second) (same : ∀ number, number ∈ left ↔ number ∈ right) :
    first = second := by
  have requests : movedRequest left executor = movedRequest right executor := by
    funext row
    simp only [movedRequest, same]
  have assignments :
      movedAssignment left executor before = movedAssignment right executor before := by
    funext row
    simp only [movedAssignment, same]
  refine Store.ext_of_moved one.others two.others ?_ ?_
  · rw [one.requests, two.requests, requests]
  · rw [one.assignments, two.assignments, assignments]

theorem Moved.movable {numbers : List RequestNumber} {after : Store}
    (moved : Moved numbers executor before after) (number : RequestNumber) :
    movable after number = movable before number := by
  unfold Shifts.movable
  rw [Table.find?, moved.requests, find?_map_moved]
  cases found : before.database.requests.rows.find? fun row => row.requestNumber = number with
  | none | some => simp [Table.find?, found]

theorem moveEach_moved (executor : UserId) (numbers : List RequestNumber) (store : Store) :
    Moved (numbers.filter (movable store)) executor store (moveEach store executor numbers).1 := by
  induction numbers generalizing store with
  | nil => exact .nil store
  | cons number rest ih =>
    cases moves : movable store number with
    | false =>
      rw [List.filter_cons_of_neg (by simp [moves])]
      simpa [moveEach, moves] using ih store
    | true =>
      have first := moved_reassignExecutor store number executor
      have later := ih (store.reassignExecutor number executor).2
      have same : movable (store.reassignExecutor number executor).2 = movable store := funext first.movable
      rw [same] at later
      rw [List.filter_cons_of_pos moves]
      simpa [moveEach, moves] using first.cons later

theorem moveEachWeb_eq (executor : UserId) (numbers : List RequestNumber) (store : Store) :
    (moveEachWeb store executor numbers).map (·.1) = .ok (moveEach store executor numbers).1 := by
  induction numbers generalizing store with
  | nil => rfl
  | cons number rest ih =>
    cases moves : movable store number with
    | false => simpa [moveEach, moveEachWeb, moves] using ih store
    | true =>
      obtain ⟨⟨last, listed⟩, returned, same⟩ :=
        map_eq_ok_iff.mp (ih (store.reassignExecutor number executor).2)
      simp only [moveEach, moveEachWeb, moves, if_true, reassignExecutorAsync_eq]
      simp only [bind, Except.bind, returned]
      exact congrArg Except.ok same

theorem moveActiveRequests_agree (botOrder webOrder : SetOrder RequestNumber) (store : Store)
    (shift : Shift) (oldExecutor executor : UserId) :
    (moveActiveRequestsWeb store shift executor webOrder oldExecutor).map (·.1) =
      .ok (moveActiveRequests store shift executor botOrder oldExecutor).1 := by
  unfold moveActiveRequestsWeb moveActiveRequests
  rw [moveEachWeb_eq]
  have same : ∀ number,
      number ∈ (webOrder.enumerate (requestNumbersOf store shift oldExecutor)).filter
          (movable store) ↔
        number ∈ (botOrder.enumerate (requestNumbersOf store shift oldExecutor)).filter
          (movable store) := by
    intro number
    rw [List.mem_filter, List.mem_filter, webOrder.mem_iff, botOrder.mem_iff]
  exact congrArg Except.ok
    ((moveEach_moved executor _ store).unique (moveEach_moved executor _ store) same)

/-- Whether a shift without an end is all that keeps the executor from this one. -/
def heldByOpenShift (store : Store) (shift : Shift) (executor : UserId) (ending : Moment) : Bool :=
  (store.shifts.rows.any fun other =>
      rivalShift executor shift other && overlapsWeb shift.startTime ending other) &&
    !store.shifts.rows.any fun other => rivalShift executor shift other && overlapsBot shift ending other

theorem overlapsWeb_of_bot {other : Shift} (overlaps : overlapsBot shift ending other = true) :
    overlapsWeb shift.startTime ending other = true := by
  unfold overlapsBot at overlaps
  unfold overlapsWeb
  cases until_ : other.endTime with
  | none => simp [until_] at overlaps
  | some moment => simpa [until_] using overlaps

/-- The guards read this executor alike: the two parsers agree on his role, and where it is
the overlap that decides, no open-ended shift of his decides it. -/
def GuardsAgree (store : Store) (shift : Shift) (executor : UserId) (user : User) : Prop :=
  hasRole user "executor" = (parseUserRoles user).contains "executor" ∧
    (hasRole user "executor" = true → shift.userId ≠ some executor →
      hasRequiredSpecs user shift = true →
        ∀ ending, shift.endTime = some ending → heldByOpenShift store shift executor ending = false)

theorem overlap_guards_iff :
    ((if store.shifts.rows.any fun other =>
          rivalShift executor shift other && overlapsWeb shift.startTime ending other then
        some Refusal.overlap else none) =
      if store.shifts.rows.any fun other =>
          rivalShift executor shift other && overlapsBot shift ending other then
        some Refusal.overlap else none) ↔
      heldByOpenShift store shift executor ending = false := by
  unfold heldByOpenShift
  cases web : store.shifts.rows.any fun other =>
      rivalShift executor shift other && overlapsWeb shift.startTime ending other with
  | true =>
    cases store.shifts.rows.any fun other =>
        rivalShift executor shift other && overlapsBot shift ending other with
    | true => simp
    | false => simp
  | false =>
    have bot : (store.shifts.rows.any fun other =>
        rivalShift executor shift other && overlapsBot shift ending other) = false := by
      rw [List.any_eq_false] at web ⊢
      intro other listed both
      rw [Bool.and_eq_true] at both
      exact web other listed (by rw [both.1, overlapsWeb_of_bot both.2]; rfl)
    rw [bot]
    simp

theorem later_guards_ne {owner fits : Prop} [Decidable owner] [Decidable fits]
    (ending : Option Moment) (overlaps : Moment → Bool) :
    (if owner then some Refusal.sameExecutor
      else if fits then some .specMismatch
      else
        match ending with
        | none => none
        | some ending => if overlaps ending then some .overlap else none) ≠
      some .notExecutor := by
  by_cases own : owner
  · simp [own]
  · by_cases misfit : fits
    · simp [own, misfit]
    · cases ending with
      | none | some => simp [own, misfit]

theorem validate_agree_iff (store : Store) (shift : Shift) (executor : UserId) :
    validateReassignWeb store shift executor = validateReassignTarget store shift executor ↔
      (shift.userId.isSome = true → shift.transferable = true →
        ∀ user, store.users.find? executor = some user → user.status = .approved →
          GuardsAgree store shift executor user) := by
  unfold validateReassignWeb validateReassignTarget
  by_cases stuck : (shift.userId.isNone || !shift.transferable) = true
  · rw [if_pos stuck, if_pos stuck]
    refine iff_of_true rfl fun owned free => ?_
    simp [Option.isNone_eq_false_iff.mpr owned, free] at stuck
  · rw [if_neg stuck, if_neg stuck]
    have free : shift.userId.isSome = true ∧ shift.transferable = true := by
      simpa [← Option.isSome_iff_ne_none] using stuck
    simp only [free.1, free.2, forall_const]
    cases found : store.users.find? executor with
    | none => simp
    | some user =>
      simp only [Option.some.injEq, forall_eq']
      by_cases approved : user.status = .approved
      · simp only [approved, ne_eq, not_true_eq_false, if_false, forall_const]
        unfold GuardsAgree
        cases bot : hasRole user "executor" with
        | false =>
          cases web : (parseUserRoles user).contains "executor" with
          | false => simp
          | true =>
            refine iff_of_false ?_ (by simp)
            simp only [Bool.not_true, Bool.not_false, if_true, Bool.false_eq_true, if_false]
            exact later_guards_ne shift.endTime _
        | true =>
          cases web : (parseUserRoles user).contains "executor" with
          | false =>
            refine iff_of_false ?_ (by simp)
            simp only [Bool.not_true, Bool.not_false, if_true, Bool.false_eq_true, if_false]
            exact (later_guards_ne shift.endTime _).symm
          | true =>
            by_cases own : shift.userId = some executor
            · simp [own]
            · cases fits : hasRequiredSpecs user shift with
              | false => simp [own]
              | true =>
                cases until_ : shift.endTime with
                | none => simp [own]
                | some ending =>
                  simp only [own, Bool.not_true, Bool.false_eq_true, if_false, ne_eq,
                    not_false_eq_true, Option.some.injEq, forall_eq', forall_const,
                    true_and]
                  exact overlap_guards_iff
      · simp [approved]

def botOutcome (result : Except Refusal (Store × Nat)) : Except Failure Store :=
  match result with
  | .ok (store, _) => .ok store
  | .error refusal => .error (.refused refusal)

def webOutcome (result : Except Failure (Store × List RequestNumber)) : Except Failure Store :=
  result.map (·.1)

theorem outcomes_eq_of_passed {oldExecutor : UserId}
    (found : store.shifts.find? shiftId = some shift) (owner : shift.userId = some oldExecutor)
    (web : validateReassignWeb store shift executor = none)
    (bot : validateReassignTarget store shift executor = none) :
    webOutcome (reassignShiftWeb webOrder store shiftId executor now manager) =
      botOutcome (reassignShift botOrder store shiftId executor now (some manager) true) := by
  obtain ⟨⟨moved, numbers⟩, returned, same⟩ :=
    map_eq_ok_iff.mp (moveActiveRequests_agree botOrder webOrder (store.handShift shift executor)
      shift oldExecutor executor)
  simp only [reassignShiftWeb, reassignShift, found, web, bot, owner, returned, if_true]
  simp only [webOutcome, botOutcome, Except.map]
  rw [← same]

theorem outcomes_eq_iff (found : store.shifts.find? shiftId = some shift) :
    webOutcome (reassignShiftWeb webOrder store shiftId executor now manager) =
        botOutcome (reassignShift botOrder store shiftId executor now (some manager) true) ↔
      validateReassignWeb store shift executor = validateReassignTarget store shift executor := by
  cases owner : shift.userId with
  | none =>
    have web : validateReassignWeb store shift executor = some .shiftNotTransferable := by
      simp [validateReassignWeb, owner]
    have bot : validateReassignTarget store shift executor = some .shiftNotTransferable := by
      simp [validateReassignTarget, owner]
    simp [reassignShiftWeb, reassignShift, found, web, bot, webOutcome, botOutcome, Except.map]
  | some oldExecutor =>
    cases web : validateReassignWeb store shift executor with
    | none =>
      cases bot : validateReassignTarget store shift executor with
      | none => exact iff_of_true (outcomes_eq_of_passed found owner web bot) rfl
      | some refusal =>
        refine iff_of_false ?_ (by simp)
        obtain ⟨⟨moved, numbers⟩, returned, _⟩ :=
          map_eq_ok_iff.mp (moveActiveRequests_agree botOrder webOrder
            (store.handShift shift executor) shift oldExecutor executor)
        simp [reassignShiftWeb, reassignShift, found, web, bot, owner, returned,
          webOutcome, botOutcome, Except.map]
    | some refusal =>
      cases bot : validateReassignTarget store shift executor with
      | none =>
        refine iff_of_false ?_ (by simp)
        simp [reassignShiftWeb, reassignShift, found, web, bot, owner, webOutcome, botOutcome, Except.map]
      | some other =>
        simp [reassignShiftWeb, reassignShift, found, web, bot, webOutcome, botOutcome, Except.map]

/-- The web mirrors the bot exactly where the guards they reach read the executor alike. -/
theorem reassignShiftWeb_mirrors_iff (botOrder webOrder : SetOrder RequestNumber) (store : Store)
    (shiftId : ShiftId) (executor manager : UserId) (now : Moment) :
    webOutcome (reassignShiftWeb webOrder store shiftId executor now manager) =
        botOutcome (reassignShift botOrder store shiftId executor now (some manager) true) ↔
      ∀ shift, store.shifts.find? shiftId = some shift →
        shift.userId.isSome = true → shift.transferable = true →
          ∀ user, store.users.find? executor = some user → user.status = .approved →
            GuardsAgree store shift executor user := by
  cases found : store.shifts.find? shiftId with
  | none => simp [reassignShiftWeb, reassignShift, found, webOutcome, botOutcome, Except.map]
  | some shift =>
    rw [outcomes_eq_iff found, validate_agree_iff]
    simp only [Option.some.injEq, forall_eq']

def SetOrder.asListed {Value : Type} : SetOrder Value where
  enumerate := id
  mem_iff := fun _ _ => Iff.rfl

def executorNamed (id : UserId) : User where
  id
  roles := some "executor"
  activeRole := none
  status := .approved
  specialization := none
  deletedAt := none
  deletedBy := none
  deletionReason := none

def managerNamed (id : UserId) : User := { executorNamed id with roles := some "manager" }

def shiftOf (id : ShiftId) (executor : UserId) (startTime : Moment) (endTime : Option Moment)
    (status : ShiftStatus) : Shift where
  id
  userId := some executor
  startTime
  endTime
  status
  plannedStartTime := none
  plannedEndTime := none
  specializationFocus := .null

def Store.ofStaff (users : Table User.id) (shifts : Table Shift.id) : Store where
  users
  shifts
  shiftAssignments := []
  transfers := .empty
  database := ⟨.empty, .empty, .empty, [], .empty⟩
  activeUnique := fun _ listed => absurd listed List.not_mem_nil

def openShiftStore : Store :=
  .ofStaff ⟨[executorNamed 1, executorNamed 2, managerNamed 3], by decide⟩
    ⟨[shiftOf 1 1 10 (some 20) .planned, shiftOf 2 2 5 none .active], by decide⟩

theorem openShift_not_mirrored :
    ¬ ∀ (botOrder webOrder : SetOrder RequestNumber) (store : Store) (shiftId : ShiftId)
      (executor manager : UserId) (now : Moment),
        webOutcome (reassignShiftWeb webOrder store shiftId executor now manager) =
          botOutcome (reassignShift botOrder store shiftId executor now (some manager) true) := by
  intro mirrored
  have same := mirrored .asListed .asListed openShiftStore 1 2 3 0
  have web : webOutcome (reassignShiftWeb .asListed openShiftStore 1 2 0 3) =
      .error (.refused .overlap) := by rfl
  rw [web] at same
  have bot : (botOutcome (reassignShift .asListed openShiftStore 1 2 0 (some 3) true)).isOk = true := by rfl
  rw [← same] at bot
  cases bot

end InfrasafeBot.Shifts
