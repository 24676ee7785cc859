import InfrasafeBot.Library.Levelling
import InfrasafeBot.Shifts.Balancing

/-! What the balancing of a day does to its loads. Every shift that moves goes from an executor
above the average to one below it, who has two shifts less at least. -/

set_option autoImplicit false

namespace InfrasafeBot.Shifts

open Library RequestWorkflow

theorem nodup_eraseDups {Value : Type} [DecidableEq Value] (values : List Value) :
    values.eraseDups.Nodup := by
  match values with
  | [] => exact List.nodup_nil
  | first :: rest =>
    rw [List.eraseDups_cons, List.nodup_cons]
    constructor
    · intro again
      have kept := List.mem_filter.mp (List.mem_eraseDups.mp again)
      simp at kept
    · exact nodup_eraseDups _
termination_by values.length
decreasing_by exact Nat.lt_succ_of_le (List.length_filter_le _ _)

def holders (shifts : List Shift) : List UserId := (shifts.filterMap Shift.assignee).eraseDups

def loadsOf (shifts : List Shift) : List Nat := (executorLoads shifts).map (·.2)

section

variable {shifts : List Shift} {executor : UserId} {count : Nat}

theorem executorLoads_eq :
    executorLoads shifts = (holders shifts).map fun executor => (executor, load shifts executor) :=
  rfl

theorem loadsOf_eq : loadsOf shifts = (holders shifts).map (load shifts) := by
  rw [loadsOf, executorLoads_eq, List.map_map]
  rfl

theorem assignee_eq_some {shift : Shift} :
    shift.assignee = some executor ↔ shift.userId = some executor ∧ executor ≠ 0 := by
  unfold Shift.assignee
  rw [Option.filter_eq_some_iff]
  simp

theorem load_pos_iff : 0 < load shifts executor ↔ ∃ shift ∈ shifts, shift.userId = some executor := by
  rw [load, List.countP_pos_iff]
  simp

theorem mem_holders : executor ∈ holders shifts ↔ executor ≠ 0 ∧ 0 < load shifts executor := by
  rw [holders, List.mem_eraseDups, List.mem_filterMap, load_pos_iff]
  constructor
  · intro ⟨shift, listed, assigned⟩
    obtain ⟨owned, real⟩ := assignee_eq_some.mp assigned
    exact ⟨real, shift, listed, owned⟩
  · intro ⟨real, shift, listed, owned⟩
    exact ⟨shift, listed, assignee_eq_some.mpr ⟨owned, real⟩⟩

theorem holders_nodup : (holders shifts).Nodup := nodup_eraseDups _

theorem mem_executorLoads :
    (executor, count) ∈ executorLoads shifts ↔
      executor ∈ holders shifts ∧ count = load shifts executor := by
  rw [executorLoads_eq, List.mem_map]
  constructor
  · intro ⟨holder, held, same⟩
    cases same
    exact ⟨held, rfl⟩
  · intro ⟨held, same⟩
    exact ⟨executor, held, by rw [same]⟩

theorem keys_executorLoads : (executorLoads shifts).map (·.1) = holders shifts := by
  rw [executorLoads_eq, List.map_map]
  exact List.map_id _

theorem executorLoads_eq_nil : executorLoads shifts = [] ↔ ∀ shift ∈ shifts, shift.assignee = none := by
  rw [executorLoads_eq, List.map_eq_nil_iff, List.eq_nil_iff_forall_not_mem]
  constructor
  · intro missing shift listed
    cases assigned : shift.assignee with
    | none => rfl
    | some executor =>
      refine absurd ?_ (missing executor)
      rw [holders, List.mem_eraseDups, List.mem_filterMap]
      exact ⟨shift, listed, assigned⟩
  · intro free executor held
    rw [holders, List.mem_eraseDups, List.mem_filterMap] at held
    obtain ⟨shift, listed, assigned⟩ := held
    rw [free shift listed] at assigned
    cases assigned

structure Eases (before after : List Shift) (donor receiver : UserId) : Prop where
  gives : donor ∈ holders before
  takes : receiver ∈ holders before
  given : load after donor + 1 = load before donor
  taken : load after receiver = load before receiver + 1
  others : ∀ executor, executor ≠ donor → executor ≠ receiver → load after executor = load before executor
  gap : load before receiver + 2 ≤ load before donor

variable {before after : List Shift} {donor receiver : UserId}

theorem Eases.mem_holders_iff (eases : Eases before after donor receiver) :
    executor ∈ holders after ↔ executor ∈ holders before := by
  obtain ⟨giver, some⟩ := mem_holders.mp eases.gives
  obtain ⟨taker, few⟩ := mem_holders.mp eases.takes
  have given := eases.given
  have taken := eases.taken
  have gap := eases.gap
  rw [mem_holders, mem_holders]
  by_cases donates : executor = donor
  · subst donates
    constructor
    · intro ⟨real, _⟩
      exact ⟨real, some⟩
    · intro ⟨real, _⟩
      exact ⟨real, by omega⟩
  · by_cases receives : executor = receiver
    · subst receives
      constructor
      · intro ⟨real, _⟩
        exact ⟨real, few⟩
      · intro ⟨real, _⟩
        exact ⟨real, by omega⟩
    · rw [eases.others executor donates receives]

theorem Eases.levelled (eases : Eases before after donor receiver) :
    Levelled (loadsOf before) (loadsOf after) := by
  have same : (holders before).Perm (holders after) :=
    (List.perm_ext_iff_of_nodup holders_nodup holders_nodup).mpr fun executor => eases.mem_holders_iff.symm
  have moved := levelled_of_move holders_nodup eases.gives eases.takes eases.given eases.taken
    eases.others eases.gap
  rw [loadsOf_eq, loadsOf_eq]
  exact moved.perm (List.Perm.refl _) (same.map _)

end

section

variable {availability : Table Shift.id → Shift → User → Option ℚ} {users : Table User.id}
  {selects : Shift → Bool} {avgLoad : ℚ} {initial shifts : Table Shift.id} {shift : Shift}
  {receiver donor executor : UserId} {state after : Balance}

theorem load_filter :
    load (shifts.rows.filter selects) executor =
      shifts.rowcount fun row => decide (row.userId = some executor) && selects row :=
  List.countP_filter

theorem load_put (blind : ∀ row owner, selects { row with userId := owner } = selects row)
    (found : shifts.find? shift.id = some shift) (chosen : selects shift = true) :
    load ((shifts.put { shift with userId := some receiver }).rows.filter selects) executor +
        (if shift.userId = some executor then 1 else 0) =
      load (shifts.rows.filter selects) executor + (if receiver = executor then 1 else 0) := by
  have counted := @Table.rowcount_put Shift ShiftId Shift.id _ shifts
    { shift with userId := some receiver } shift
    (fun row => decide (row.userId = some executor) && selects row) found
  rw [load_filter, load_filter]
  simpa [blind, chosen] using counted

theorem findReceiver_spec {entries others : List (UserId × Nat)}
    (found : findReceiver availability users avgLoad shifts shift entries = .ok (some (receiver, others))) :
    accepts availability users shifts shift receiver = .ok true ∧
      ∃ left count right, entries = left ++ (receiver, count) :: right ∧
        others = left ++
          if avgLoad ≤ (count + 1 : Nat) then right else (receiver, count + 1) :: right := by
  induction entries generalizing others with
  | nil => cases found
  | cons entry rest ih =>
    obtain ⟨first, count⟩ := entry
    rw [findReceiver] at found
    obtain ⟨taken, answer, found⟩ := bind_eq_ok_iff.mp found
    cases taken with
    | true =>
      rw [if_pos rfl] at found
      cases found
      exact ⟨answer, [], count, rest, rfl, rfl⟩
    | false =>
      rw [if_neg Bool.false_ne_true] at found
      obtain ⟨result, later, found⟩ := bind_eq_ok_iff.mp found
      obtain ⟨⟨taker, remaining⟩, rfl, same⟩ := Option.map_eq_some_iff.mp (Except.ok.inj found)
      cases same
      obtain ⟨able, left, held, right, rfl, rfl⟩ := ih later
      exact ⟨able, (first, count) :: left, held, right, rfl, rfl⟩

/-- What the run keeps: the receivers with their true loads below the average, the shifts
without an owner, and loads that are levelled as soon as a shift has moved. -/
structure Balance.Sound (selects : Shift → Bool) (avgLoad : ℚ) (initial : Table Shift.id)
    (state : Balance) : Prop where
  receivers : ∀ entry ∈ state.underloaded, entry.1 ∈ holders (state.shifts.rows.filter selects) ∧
    entry.2 = load (state.shifts.rows.filter selects) entry.1 ∧ (entry.2 : ℚ) < avgLoad
  distinct : (state.underloaded.map (·.1)).Nodup
  unassigned : ∀ row ∈ initial.rows, row.assignee = none → row ∈ state.shifts.rows
  progress : state.redistributions = [] ∧ state.shifts = initial ∨
    state.redistributions ≠ [] ∧
      Levelled (loadsOf (initial.rows.filter selects)) (loadsOf (state.shifts.rows.filter selects))

/-- What the attempts with a donor's shifts leave alone. -/
structure Balance.Serves (selects : Shift → Bool) (donor : UserId) (state after : Balance) : Prop where
  fewer : ∀ executor ∈ after.underloaded.map (·.1), executor ∈ state.underloaded.map (·.1)
  others : ∀ executor, executor ≠ donor → executor ∉ state.underloaded.map (·.1) →
    load (after.shifts.rows.filter selects) executor = load (state.shifts.rows.filter selects) executor

theorem Balance.Serves.refl : state.Serves selects donor state := ⟨fun _ listed => listed, fun _ _ _ => rfl⟩

theorem Balance.Serves.trans {last : Balance} (first : state.Serves selects donor after)
    (second : after.Serves selects donor last) : state.Serves selects donor last where
  fewer := fun executor listed => first.fewer executor (second.fewer executor listed)
  others := fun executor other unlisted =>
    (second.others executor other fun again => unlisted (first.fewer executor again)).trans
      (first.others executor other unlisted)

theorem eases_of_put (blind : ∀ row owner, selects { row with userId := owner } = selects row)
    (double : Binary64.IsDouble avgLoad) (found : shifts.find? shift.id = some shift)
    (chosen : selects shift = true) (owned : shift.userId = some donor) (real : donor ≠ 0)
    (above : Binary64.round (avgLoad + 1) < load (shifts.rows.filter selects) donor)
    (held : receiver ∈ holders (shifts.rows.filter selects))
    (below : (load (shifts.rows.filter selects) receiver : ℚ) < avgLoad) :
    Eases (shifts.rows.filter selects)
      ((shifts.put { shift with userId := some receiver }).rows.filter selects) donor receiver := by
  have gap := double.add_two_le below above
  have different : receiver ≠ donor := by
    intro same
    rw [same] at gap
    omega
  have counted := fun executor => @load_put selects shifts shift receiver executor blind found chosen
  simp only [owned, Option.some.injEq] at counted
  refine ⟨mem_holders.mpr ⟨real, by omega⟩, held, ?_, ?_, ?_, gap⟩
  · have moved := counted donor
    rw [if_pos rfl, if_neg different] at moved
    omega
  · have moved := counted receiver
    rw [if_pos rfl, if_neg different.symm] at moved
    omega
  · intro executor donates receives
    have moved := counted executor
    rw [if_neg (Ne.symm donates), if_neg (Ne.symm receives)] at moved
    omega

theorem Balance.Sound.move {left right : List (UserId × Nat)} {count : Nat}
    {redistributions : List Redistribution} {entry : Redistribution}
    (sound : Sound selects avgLoad initial ⟨shifts, left ++ (receiver, count) :: right, redistributions⟩)
    (eases : Eases (shifts.rows.filter selects)
      ((shifts.put { shift with userId := some receiver }).rows.filter selects) donor receiver)
    (owned : shift.userId = some donor) (real : donor ≠ 0)
    (apart : donor ∉ (left ++ (receiver, count) :: right).map (·.1)) 
    (found : shifts.find? shift.id = some shift) :
    Sound selects avgLoad initial
      ⟨shifts.put { shift with userId := some receiver },
        left ++ if avgLoad ≤ (count + 1 : Nat) then right else (receiver, count + 1) :: right,
        redistributions ++ [entry]⟩ := by
  obtain ⟨held, exact, below⟩ := sound.receivers (receiver, count) (by simp)
  have kept : ∀ other ∈ left ++ right, other ∈ left ++ (receiver, count) :: right := by
    intro other listed
    rcases List.mem_append.mp listed with early | late
    · exact List.mem_append_left _ early
    · exact List.mem_append_right _ (List.mem_cons_of_mem _ late)
  have distinct := sound.distinct
  rw [List.map_append, List.map_cons] at distinct
  have alone : receiver ∉ (left ++ right).map (·.1) := by
    rw [List.map_append]
    exact (List.nodup_middle.mp distinct |> List.nodup_cons.mp).1
  have remaining : ((left ++ right).map (·.1)).Nodup := by
    rw [List.map_append]
    exact (List.nodup_middle.mp distinct |> List.nodup_cons.mp).2
  have still : ∀ other ∈ left ++ right,
      other.1 ∈ holders ((shifts.put { shift with userId := some receiver }).rows.filter selects) ∧
        other.2 = load ((shifts.put { shift with userId := some receiver }).rows.filter selects)
          other.1 ∧ (other.2 : ℚ) < avgLoad := by
    intro other listed
    obtain ⟨otherHeld, otherExact, otherBelow⟩ := sound.receivers other (kept other listed)
    refine ⟨eases.mem_holders_iff.mpr otherHeld, ?_, otherBelow⟩
    rw [otherExact]
    refine (eases.others other.1 ?_ ?_).symm
    · intro same
      exact apart (same ▸ List.mem_map_of_mem (kept other listed))
    · intro same
      exact alone (same ▸ List.mem_map_of_mem listed)
  refine ⟨?_, ?_, ?_, ?_⟩
  · intro other listed
    rcases List.mem_append.mp listed with early | late
    · exact still other (List.mem_append_left _ early)
    · split at late
      · exact still other (List.mem_append_right _ late)
      · next wants =>
          rcases List.mem_cons.mp late with rfl | late
          · refine ⟨eases.mem_holders_iff.mpr held, ?_, not_le.mp wants⟩
            rw [eases.taken, ← exact]
          · exact still other (List.mem_append_right _ late)
  · split
    · exact remaining
    · rw [List.map_append, List.map_cons]
      exact distinct
  · intro row listed free
    have before := sound.unassigned row listed free
    refine List.mem_map.mpr ⟨row, before, if_neg fun same => ?_⟩
    have found' := Table.find?_of_mem before
    rw [show row.id = shift.id from same, found] at found'
    cases found'
    rw [assignee_eq_some.mpr ⟨owned, real⟩] at free
    cases free
  · refine .inr ⟨by simp, ?_⟩
    rcases sound.progress with ⟨_, unmoved⟩ | ⟨_, levelled⟩
    · rw [← unmoved]
      exact eases.levelled
    · exact levelled.trans eases.levelled

theorem place_find? {id : ShiftId} (placed : state.place availability users avgLoad shift = .ok after)
    (different : id ≠ shift.id) : after.shifts.find? id = state.shifts.find? id := by
  rw [Balance.place] at placed
  obtain ⟨result, _, placed⟩ := bind_eq_ok_iff.mp placed
  cases result with
  | none =>
    cases placed
    rfl
  | some taker =>
    cases placed
    exact Table.find?_put_of_ne different

theorem Balance.Sound.place (sound : state.Sound selects avgLoad initial)
    (blind : ∀ row owner, selects { row with userId := owner } = selects row)
    (double : Binary64.IsDouble avgLoad) (found : state.shifts.find? shift.id = some shift)
    (chosen : selects shift = true) (owned : shift.userId = some donor) (real : donor ≠ 0)
    (above : Binary64.round (avgLoad + 1) < load (state.shifts.rows.filter selects) donor)
    (apart : donor ∉ state.underloaded.map (·.1))
    (placed : state.place availability users avgLoad shift = .ok after) :
    after.Sound selects avgLoad initial ∧ state.Serves selects donor after := by
  obtain ⟨shifts, underloaded, redistributions⟩ := state
  rw [Balance.place] at placed
  obtain ⟨result, searched, placed⟩ := bind_eq_ok_iff.mp placed
  cases result with
  | none =>
    cases placed
    exact ⟨sound, .refl⟩
  | some taker =>
    obtain ⟨receiver, others⟩ := taker
    cases placed
    obtain ⟨_, left, count, right, rfl, rfl⟩ := findReceiver_spec searched
    obtain ⟨held, exact, below⟩ := sound.receivers (receiver, count) (by simp)
    rw [exact] at below
    have eases := eases_of_put blind double found chosen owned real above held below
    refine ⟨sound.move eases owned real apart found, ⟨?_, ?_⟩⟩
    · intro executor listed
      simp only [List.map_append, List.mem_append, List.map_cons, List.mem_cons] at listed ⊢
      split at listed
      · exact listed.imp id .inr
      · rw [List.map_cons, List.mem_cons] at listed
        exact listed
    · intro executor other unlisted
      refine eases.others executor other fun same => unlisted ?_
      rw [same]
      simp

theorem Balance.Sound.unload {waiting : List Shift} (sound : state.Sound selects avgLoad initial)
    (blind : ∀ row owner, selects { row with userId := owner } = selects row)
    (double : Binary64.IsDouble avgLoad) (distinct : (waiting.map Shift.id).Nodup)
    (stored : ∀ shift ∈ waiting, state.shifts.find? shift.id = some shift ∧
      selects shift = true ∧ shift.userId = some donor) (real : donor ≠ 0)
    (above : Binary64.round (avgLoad + 1) < load (state.shifts.rows.filter selects) donor)
    (apart : donor ∉ state.underloaded.map (·.1))
    (ran : unload availability users selects avgLoad donor waiting state = .ok after) :
    after.Sound selects avgLoad initial ∧ state.Serves selects donor after := by
  induction waiting generalizing state with
  | nil =>
    cases ran
    exact ⟨sound, .refl⟩
  | cons shift rest ih =>
    rw [Shifts.unload] at ran
    split at ran
    · cases ran
      exact ⟨sound, .refl⟩
    · obtain ⟨placed, step, ran⟩ := bind_eq_ok_iff.mp ran
      obtain ⟨fresh, distinct⟩ := List.nodup_cons.mp distinct
      obtain ⟨⟨found, chosen, owned⟩, stored⟩ := List.forall_mem_cons.mp stored
      obtain ⟨kept, serves⟩ := sound.place blind double found chosen owned real above apart step
      split at ran
      · cases ran
        exact ⟨kept, serves⟩
      · next many =>
          have waits : ∀ shift ∈ rest, placed.shifts.find? shift.id = some shift ∧
              selects shift = true ∧ shift.userId = some donor := by
            intro other listed
            obtain ⟨found, chosen⟩ := stored other listed
            refine ⟨?_, chosen⟩
            rw [place_find? step fun same => fresh (same ▸ List.mem_map_of_mem listed)]
            exact found
          obtain ⟨sound, more⟩ := ih kept distinct waits (not_le.mp many)
            (fun again => apart (serves.fewer donor again)) ran
          exact ⟨sound, serves.trans more⟩

theorem executorShifts_spec (shifts : Table Shift.id) :
    ((((shifts.rows.filter selects).filter fun shift => shift.userId = some donor).map Shift.id).Nodup) ∧
      ∀ shift ∈ (shifts.rows.filter selects).filter fun shift => shift.userId = some donor,
        shifts.find? shift.id = some shift ∧ selects shift = true ∧ shift.userId = some donor := by
  refine ⟨shifts.unique.sublist ((List.filter_sublist.trans List.filter_sublist).map _), ?_⟩
  intro shift listed
  obtain ⟨listed, owned⟩ := List.mem_filter.mp listed
  obtain ⟨listed, chosen⟩ := List.mem_filter.mp listed
  exact ⟨Table.find?_of_mem listed, chosen, of_decide_eq_true owned⟩

theorem Balance.Sound.unloadAll {donors : List (UserId × Nat)}
    (sound : state.Sound selects avgLoad initial)
    (blind : ∀ row owner, selects { row with userId := owner } = selects row)
    (double : Binary64.IsDouble avgLoad) (distinct : (donors.map (·.1)).Nodup)
    (rich : ∀ donor ∈ donors.map (·.1), donor ≠ 0 ∧
      Binary64.round (avgLoad + 1) < load (state.shifts.rows.filter selects) donor ∧
        donor ∉ state.underloaded.map (·.1))
    (ran : unloadAll availability users selects avgLoad donors state = .ok after) :
    after.Sound selects avgLoad initial := by
  induction donors generalizing state with
  | nil =>
    cases ran
    exact sound
  | cons entry rest ih =>
    obtain ⟨donor, initialLoad⟩ := entry
    rw [Shifts.unloadAll] at ran
    obtain ⟨unloaded, step, ran⟩ := bind_eq_ok_iff.mp ran
    obtain ⟨fresh, distinct⟩ := List.nodup_cons.mp distinct
    obtain ⟨⟨real, above, apart⟩, rich⟩ := List.forall_mem_cons.mp rich
    obtain ⟨ids, stored⟩ := executorShifts_spec state.shifts
    obtain ⟨kept, serves⟩ := sound.unload blind double ids stored real above apart step
    refine ih kept distinct ?_ ran
    intro other listed
    obtain ⟨actual, more, outside⟩ := rich other listed
    refine ⟨actual, ?_, fun again => outside (serves.fewer other again)⟩
    rw [serves.others other (fun same => fresh (same ▸ listed)) outside]
    exact more

end

def answering (answers : Table Shift.id → Shift → User → ℚ) (shifts : Table Shift.id)
    (shift : Shift) (executor : User) : Option ℚ :=
  some (answers shifts shift executor)

section

variable {answers : Table Shift.id → Shift → User → ℚ} {users : Table User.id}
  {selects : Shift → Bool} {avgLoad : ℚ} {shifts : Table Shift.id} {shift : Shift}

theorem accepts_total (receiver : UserId) :
    ∃ accepted, accepts (answering answers) users shifts shift receiver = .ok accepted := by
  unfold accepts canAssignShift
  cases users.find? receiver with
  | none => exact ⟨_, rfl⟩
  | some executor =>
    dsimp only
    split
    · exact ⟨_, rfl⟩
    · exact ⟨_, rfl⟩

theorem findReceiver_total (entries : List (UserId × Nat)) :
    ∃ found, findReceiver (answering answers) users avgLoad shifts shift entries = .ok found := by
  induction entries with
  | nil => exact ⟨none, rfl⟩
  | cons entry rest ih =>
    obtain ⟨receiver, underload⟩ := entry
    obtain ⟨accepted, answer⟩ := @accepts_total answers users shifts shift receiver
    obtain ⟨found, later⟩ := ih
    rw [findReceiver, answer, later]
    cases accepted with
    | true | false => exact ⟨_, rfl⟩

theorem place_total (state : Balance) :
    ∃ placed, state.place (answering answers) users avgLoad shift = .ok placed := by
  obtain ⟨found, searched⟩ := @findReceiver_total answers users avgLoad state.shifts shift state.underloaded
  rw [Balance.place, searched]
  cases found with
  | none | some => exact ⟨_, rfl⟩

theorem unload_total (donor : UserId) (waiting : List Shift) (state : Balance) :
    ∃ after, unload (answering answers) users selects avgLoad donor waiting state = .ok after := by
  induction waiting generalizing state with
  | nil => exact ⟨state, rfl⟩
  | cons shift rest ih =>
    rw [unload]
    split
    · exact ⟨state, rfl⟩
    · obtain ⟨placed, step⟩ := @place_total answers users avgLoad shift state
      rw [step]
      dsimp only [bind, Except.bind]
      split
      · exact ⟨placed, rfl⟩
      · exact ih placed

theorem unloadAll_total (donors : List (UserId × Nat)) (state : Balance) :
    ∃ after, unloadAll (answering answers) users selects avgLoad donors state = .ok after := by
  induction donors generalizing state with
  | nil => exact ⟨state, rfl⟩
  | cons entry rest ih =>
    obtain ⟨donor, initialLoad⟩ := entry
    rw [unloadAll]
    obtain ⟨unloaded, step⟩ := @unload_total answers users selects avgLoad donor
      ((state.shifts.rows.filter selects).filter fun shift => shift.userId = some donor) state
    rw [step]
    exact ih unloaded

end

structure LoadsImprove (before after : List Shift) : Prop where
  sum : (loadsOf after).sum = (loadsOf before).sum
  max : (loadsOf after).max?.getD 0 ≤ (loadsOf before).max?.getD 0
  min : (loadsOf before).min?.getD 0 ≤ (loadsOf after).min?.getD 0
  squares : ((loadsOf after).map (· ^ 2)).sum < ((loadsOf before).map (· ^ 2)).sum

/-- The call moves nothing and says so, or the loads come nearer to each other and a shift
without an owner stays without one. -/
def Helps (zone : BusinessZone) (day : CalendarDay) (before after : Table Shift.id) : BalanceReport → Prop
  | .rebalanced _ (_ :: _) =>
    LoadsImprove (before.rows.filter (plannedOn zone day))
        (after.rows.filter (plannedOn zone day)) ∧
      ∀ row ∈ before.rows, row.assignee = none → row ∈ after.rows
  | .failed _ => False
  | _ => after = before

section

variable {zone : BusinessZone} {day : CalendarDay} {users : Table User.id}
  {shifts : Table Shift.id} {answers : Table Shift.id → Shift → User → ℚ}
  {distribution : Distribution}

theorem plannedOn_blind (row : Shift) (owner : Option UserId) :
    plannedOn zone day { row with userId := owner } = plannedOn zone day row := rfl

variable {rows : List Shift}

theorem loads_pos {count : Nat} (listed : count ∈ loadsOf rows) : 0 < count := by
  rw [loadsOf_eq] at listed
  obtain ⟨executor, held, rfl⟩ := List.mem_map.mp listed
  exact (mem_holders.mp held).2

theorem one_le_average (filled : executorLoads rows ≠ []) :
    (1 : ℚ) ≤ ((loadsOf rows).sum : ℚ) / (loadsOf rows).length := by
  have positive : 0 < (loadsOf rows).length := by
    rw [loadsOf, List.length_map]
    exact List.length_pos_iff.mpr filled
  have many : (loadsOf rows).length ≤ (loadsOf rows).sum :=
    List.length_le_sum_of_one_le _ fun count listed => loads_pos listed
  rw [le_div_iff₀ (by exact_mod_cast positive), one_mul]
  exact_mod_cast many

theorem analyze_eq_spread (analyzed : analyzeWorkloadDistribution rows = .spread distribution) :
    distribution.executorLoads = executorLoads rows ∧
      Binary64.IsDouble distribution.avgLoad ∧ 1 ≤ distribution.avgLoad := by
  unfold analyzeWorkloadDistribution at analyzed
  dsimp only at analyzed
  split at analyzed
  · cases analyzed
  · next filled =>
      cases analyzed
      have least := one_le_average (show executorLoads rows ≠ [] by simpa using filled)
      have nonneg := zero_le_one.trans least
      have one : Binary64.IsDouble ((1 : Nat) : ℚ) := Binary64.isDouble_natCast (by norm_num)
      rw [Nat.cast_one] at one
      exact ⟨rfl, Binary64.isDouble_round nonneg, Binary64.le_round one nonneg least⟩

theorem analyze_eq_unassigned (free : ∀ shift ∈ rows, shift.assignee = none) :
    ∃ total unassigned, analyzeWorkloadDistribution rows = .unassigned total unassigned := by
  refine ⟨_, _, if_pos ?_⟩
  rw [executorLoads_eq_nil.mpr free]
  rfl

theorem unassigned_of_analyze {total unassigned : Nat}
    (analyzed : analyzeWorkloadDistribution rows = .unassigned total unassigned) :
    ∀ shift ∈ rows, shift.assignee = none := by
  unfold analyzeWorkloadDistribution at analyzed
  dsimp only at analyzed
  split at analyzed
  · next empty => exact executorLoads_eq_nil.mp (List.isEmpty_iff.mp empty)
  · cases analyzed

theorem exists_assigned_of_spread
    (analyzed : analyzeWorkloadDistribution rows = .spread distribution) :
    ∃ shift ∈ rows, shift.assignee ≠ none := by
  by_contra free
  push Not at free
  obtain ⟨total, unassigned, same⟩ := analyze_eq_unassigned free
  rw [same] at analyzed
  cases analyzed

theorem sound_initial (same : rows = shifts.rows.filter (plannedOn zone day))
    (loads : distribution.executorLoads = executorLoads rows)
    (double : Binary64.IsDouble distribution.avgLoad) (least : 1 ≤ distribution.avgLoad) :
    Balance.Sound (plannedOn zone day) distribution.avgLoad shifts
      ⟨shifts, underloaded distribution, []⟩ := by
  subst same
  refine ⟨?_, ?_, fun row listed _ => listed, .inl ⟨rfl, rfl⟩⟩
  · intro entry listed
    obtain ⟨listed, poor⟩ := List.mem_filter.mp listed
    obtain ⟨_, poor⟩ := Bool.and_eq_true_iff.mp poor
    rw [loads] at listed
    obtain ⟨held, exact⟩ := mem_executorLoads.mp listed
    refine ⟨held, exact, lt_of_lt_of_le (of_decide_eq_true poor) ?_⟩
    exact Binary64.round_le double (by linarith) (by linarith)
  · refine List.Nodup.sublist (List.filter_sublist.map _) ?_
    rw [loads, keys_executorLoads]
    exact holders_nodup

theorem donors_initial (loads : distribution.executorLoads = executorLoads rows) {donor : UserId}
    (listed : donor ∈ (overloaded distribution).map (·.1)) :
    donor ≠ 0 ∧ Binary64.round (distribution.avgLoad + 1) < load rows donor ∧
      donor ∉ (underloaded distribution).map (·.1) := by
  obtain ⟨⟨holder, count⟩, chosen, rfl⟩ := List.mem_map.mp listed
  obtain ⟨chosen, rich⟩ := List.mem_filter.mp chosen
  rw [loads] at chosen
  obtain ⟨held, rfl⟩ := mem_executorLoads.mp chosen
  have above := of_decide_eq_true rich
  refine ⟨(mem_holders.mp held).1, above, ?_⟩
  intro again
  obtain ⟨⟨other, less⟩, again, same⟩ := List.mem_map.mp again
  obtain ⟨again, poor⟩ := List.mem_filter.mp again
  rw [loads] at again
  obtain ⟨_, rfl⟩ := mem_executorLoads.mp again
  dsimp only at same above
  subst same
  simp [above] at poor

theorem overloaded_nodup (loads : distribution.executorLoads = executorLoads rows) :
    ((overloaded distribution).map (·.1)).Nodup := by
  refine List.Nodup.sublist (List.filter_sublist.map _) ?_
  rw [loads, keys_executorLoads]
  exact holders_nodup

theorem LoadsImprove.of_levelled {before after : List Shift}
    (levelled : Levelled (loadsOf before) (loadsOf after)) : LoadsImprove before after where
  sum := levelled.sum
  max := levelled.max?_le
  min := by
    refine levelled.le_min? fun none => ?_
    have sum := levelled.sum
    have squares := levelled.squares
    rw [none] at sum squares
    have zeros := List.sum_eq_zero_iff.mp sum.symm
    have vanish : ((loadsOf before).map (· ^ 2)).sum = 0 := by
      refine List.sum_eq_zero fun square listed => ?_
      obtain ⟨count, held, rfl⟩ := List.mem_map.mp listed
      rw [zeros count held]
      rfl
    rw [vanish] at squares
    exact absurd squares (Nat.not_lt_zero _)
  squares := levelled.squares

theorem rebalanceShifts_helps
    (analyzed : analyzeWorkloadDistribution (shifts.rows.filter (plannedOn zone day)) =
      .spread distribution) :
    Helps zone day shifts
      (rebalanceShifts (answering answers) zone users shifts day distribution).2
      (rebalanceShifts (answering answers) zone users shifts day distribution).1 := by
  obtain ⟨loads, double, least⟩ := analyze_eq_spread analyzed
  unfold rebalanceShifts
  dsimp only
  split
  · rfl
  · obtain ⟨after, ran⟩ := @unloadAll_total answers users (plannedOn zone day)
      distribution.avgLoad (overloaded distribution) ⟨shifts, underloaded distribution, []⟩
    have sound := (sound_initial rfl loads double least).unloadAll plannedOn_blind double
      (overloaded_nodup loads) (fun donor listed => donors_initial loads listed) ran
    rw [ran]
    dsimp only
    rcases sound.progress with ⟨none, _⟩ | ⟨moved, levelled⟩
    · rw [none]
      rfl
    · obtain ⟨first, rest, listed⟩ := List.exists_cons_of_ne_nil moved
      rw [listed]
      exact ⟨.of_levelled levelled, sound.unassigned⟩

theorem balance_helps_iff (zone : BusinessZone) (users : Table User.id) (shifts : Table Shift.id)
    (day : CalendarDay) (answers : Table Shift.id → Shift → User → ℚ) :
    Helps zone day shifts
        (balanceExecutorWorkload (answering answers) zone users shifts day).2
        (balanceExecutorWorkload (answering answers) zone users shifts day).1 ↔
      ((∃ shift ∈ shifts.rows, plannedOn zone day shift = true) →
        ∃ shift ∈ shifts.rows, plannedOn zone day shift = true ∧ shift.assignee ≠ none) := by
  unfold balanceExecutorWorkload
  dsimp only
  by_cases empty : shifts.rows.filter (plannedOn zone day) = []
  · rw [empty]
    refine iff_of_true rfl ?_
    intro ⟨shift, listed, chosen⟩
    have selected := List.mem_filter.mpr ⟨listed, chosen⟩
    rw [empty] at selected
    cases selected
  · rw [if_neg (by simpa using empty)]
    cases analyzed : analyzeWorkloadDistribution (shifts.rows.filter (plannedOn zone day)) with
    | unassigned total unassigned =>
      have free := unassigned_of_analyze analyzed
      refine iff_of_false id ?_
      intro owned
      obtain ⟨planned, among⟩ := List.exists_mem_of_ne_nil _ empty
      obtain ⟨shift, listed, chosen, assigned⟩ := owned ⟨planned, List.mem_filter.mp among⟩
      exact assigned (free shift (List.mem_filter.mpr ⟨listed, chosen⟩))
    | spread distribution =>
      obtain ⟨shift, among, assigned⟩ := exists_assigned_of_spread analyzed
      obtain ⟨listed, chosen⟩ := List.mem_filter.mp among
      refine iff_of_true ?_ fun _ => ⟨shift, listed, chosen, assigned⟩
      dsimp only
      split
      · rfl
      · exact rebalanceShifts_helps analyzed

def openShift : Shift where
  id := 1
  userId := none
  startTime := 36000
  endTime := none
  status := .planned
  plannedStartTime := some 36000
  plannedEndTime := some 64800
  specializationFocus := .null

theorem openShift_nodup : ([openShift].map Shift.id).Nodup := by simp

theorem balance_openShift :
    (∃ shift ∈ [openShift], plannedOn (.fixed 0) 0 shift = true) ∧
      ¬ Helps (.fixed 0) 0 ⟨[openShift], openShift_nodup⟩
        (balanceExecutorWorkload (fun _ _ _ => some 1) (.fixed 0) .empty ⟨[openShift], openShift_nodup⟩ 0).2
        (balanceExecutorWorkload (fun _ _ _ => some 1) (.fixed 0) .empty
          ⟨[openShift], openShift_nodup⟩ 0).1 := by
  refine ⟨⟨openShift, List.mem_singleton_self _, by decide⟩, ?_⟩
  have failed : (balanceExecutorWorkload (fun _ _ _ => some 1) (.fixed 0) .empty
      ⟨[openShift], openShift_nodup⟩ 0).1 = .failed (.missingKey "executor_loads") := rfl
  rw [failed]
  exact id

end

end InfrasafeBot.Shifts
