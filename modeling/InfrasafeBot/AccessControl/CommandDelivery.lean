import InfrasafeBot.AccessControl.CommandChannel

/-! A command is not lost, where no lease runs out on one that could still be given out. Nothing
gives a leased command out again. -/

set_option autoImplicit false

namespace InfrasafeBot.AccessControl.Channel

open Library Machine RequestWorkflow

variable {Result : Type}

section

variable (hashLeaseToken : String → String) (leaseTtl : Nat) (state : State Result)

def leaseRunOut (now : Moment) (row : QueuedCommand Result) : Prop :=
  ∀ until_, row.leaseExpiresAt = some until_ → until_ < now

/-- Further calls of its controller bring the command. -/
def ComesBack (row : QueuedCommand Result) : Prop :=
  ∃ calls, ∀ leaseTokens : List String, calls ≤ leaseTokens.length →
    ∃ leased ∈ leaseAll hashLeaseToken leaseTtl row.command.controllerId state leaseTokens,
      leased.commandId = row.commandId

/-- A command that is open, without a lease, and good for more than one lease, comes back. -/
def Delivers : Prop :=
  ∀ row ∈ state.queue.rows, row.status ≠ .acked → row.status ≠ .dead →
    leaseRunOut state.time row → state.time + leaseTtl < row.command.expiresAt →
    ComesBack hashLeaseToken leaseTtl state row

/-- The token ends the command, whatever it says. -/
def CanAck (leaseToken : String) (commandId : Nat) : Prop :=
  ∃ row ∈ state.queue.rows, row.commandId = commandId ∧ row.status = .leased ∧
    row.leaseToken = some (hashLeaseToken leaseToken)

structure OneToken : Prop where
  once : (state.leases.map (·.commandId)).Nodup
  only : ∀ leased ∈ state.leases, ∀ leaseToken,
    CanAck hashLeaseToken state leaseToken leased.commandId →
      hashLeaseToken leaseToken = hashLeaseToken leased.leaseToken

structure AckedOnce : Prop where
  once : (state.acks.map (·.commandId)).Nodup
  repeated : ∀ acked ∈ state.acks, ∀ request : AckRequest Result,
    request.commandId = acked.commandId → request.controllerId = acked.controllerId →
    hashLeaseToken request.leaseToken = hashLeaseToken acked.leaseToken →
      ackCommand hashLeaseToken state request = .ok (state, ⟨acked.commandId, acked.result, true⟩)

/-- The lease has run out on a command that is good for another one. -/
def stranded (now : Moment) (row : QueuedCommand Result) : Bool :=
  row.status = .leased && row.leaseExpiresAt.all (· < now) && now + leaseTtl < row.command.expiresAt

/-- Time does not pass beyond the lease of a command that is good for another one. -/
def keepsLeases : Event Result → Bool
  | .tick elapsed => state.queue.rows.all fun row => !stranded leaseTtl (state.time + elapsed) row
  | _ => true

structure Remembers : Prop where
  given : ∀ leased ∈ state.leases, ∃ row ∈ state.queue.rows, row.commandId = leased.commandId ∧
    row.status ≠ .pending ∧ row.leaseToken = some (hashLeaseToken leased.leaseToken)
  givenOnce : (state.leases.map (·.commandId)).Nodup
  stored : ∀ acked ∈ state.acks, ∃ row ∈ state.queue.rows, row.commandId = acked.commandId ∧
    row.command.controllerId = acked.controllerId ∧ row.status = .acked ∧
    row.leaseToken = some (hashLeaseToken acked.leaseToken) ∧ row.ackResult = acked.result
  ackedOnce : (state.acks.map (·.commandId)).Nodup

end

variable {controllerId : Nat} {leaseToken : String}

section

variable {hashLeaseToken : String → String} {leaseTtl : Nat} {state : State Result}

variable {row first : QueuedCommand Result}

theorem nextPending_leasable {locked : List Nat}
    (first : nextPending leaseTtl state controllerId locked = some row) :
    row ∈ state.queue.rows ∧ leasable leaseTtl state.time controllerId row = true := by
  obtain ⟨listed, fits⟩ := List.mem_filter.mp (List.argmin_mem first)
  rw [Bool.and_eq_true] at fits
  exact ⟨listed, fits.1⟩

theorem leasable_pending {now : Moment} (fits : leasable leaseTtl now controllerId row = true) :
    row.status = .pending := by
  rw [leasable, Bool.and_eq_true, Bool.and_eq_true] at fits
  exact of_decide_eq_true fits.1.2

theorem lease_listed (listed : row ∈ (state.queue.update (·.commandId = first.commandId)
      (leasedRow hashLeaseToken leaseTtl state leaseToken)
      (leasedRow_id hashLeaseToken leaseTtl state leaseToken)).rows) :
    (∃ old ∈ state.queue.rows, old.commandId = first.commandId ∧
        row = leasedRow hashLeaseToken leaseTtl state leaseToken old) ∨
      row ∈ state.queue.rows ∧ row.commandId ≠ first.commandId := by
  obtain ⟨old, there, same⟩ := (Table.mem_update _).mp listed
  split at same
  · next own => exact .inl ⟨old, there, of_decide_eq_true own, same.symm⟩
  · next other =>
      obtain rfl := same
      exact .inr ⟨there, fun own => other (decide_eq_true own)⟩

theorem lease_stays (listed : row ∈ state.queue.rows) (other : row.commandId ≠ first.commandId) :
    row ∈ (state.queue.update (·.commandId = first.commandId)
      (leasedRow hashLeaseToken leaseTtl state leaseToken)
      (leasedRow_id hashLeaseToken leaseTtl state leaseToken)).rows :=
  (Table.mem_update _).mpr ⟨row, listed, if_neg fun own => other (of_decide_eq_true own)⟩

theorem lease_leased (listed : first ∈ state.queue.rows) :
    leasedRow hashLeaseToken leaseTtl state leaseToken first ∈
      (state.queue.update (·.commandId = first.commandId)
        (leasedRow hashLeaseToken leaseTtl state leaseToken)
        (leasedRow_id hashLeaseToken leaseTtl state leaseToken)).rows :=
  (Table.mem_update _).mpr ⟨first, listed, if_pos (decide_eq_true rfl)⟩

theorem lease_shorter (listed : first ∈ state.queue.rows)
    (fits : leasable leaseTtl state.time controllerId first = true) :
    (state.queue.update (·.commandId = first.commandId)
        (leasedRow hashLeaseToken leaseTtl state leaseToken)
        (leasedRow_id hashLeaseToken leaseTtl state leaseToken)).rowcount
          (leasable leaseTtl state.time controllerId) <
      state.queue.rowcount (leasable leaseTtl state.time controllerId) := by
  rw [Table.rowcount, List.countP_eq_length_filter, Table.filter_update_of_leaving]
  · rw [Table.rowcount, List.countP_eq_length_filter, ← List.filter_filter, List.filter_comm]
    refine List.length_filter_lt_length_iff_exists.mpr ⟨first, ?_, ?_⟩
    · exact List.mem_filter.mpr ⟨listed, fits⟩
    · simp
  · intro row _ _
    simp [leasable, leasedRow]

theorem pending_comes_back (listed : row ∈ state.queue.rows)
    (fits : leasable leaseTtl state.time row.command.controllerId row = true) :
    ComesBack hashLeaseToken leaseTtl state row := by
  refine ⟨state.queue.rowcount (leasable leaseTtl state.time row.command.controllerId), ?_⟩
  intro leaseTokens
  induction leaseTokens generalizing state with
  | nil =>
    intro short
    have counted : 0 < state.queue.rowcount
        (leasable leaseTtl state.time row.command.controllerId) :=
      List.countP_pos_iff.mpr ⟨row, listed, fits⟩
    simp only [List.length_nil] at short
    omega
  | cons leaseToken rest ih =>
    intro short
    cases oldest : nextPending leaseTtl state row.command.controllerId [] with
    | none =>
      have empty := List.argmin_eq_none.mp oldest
      have missed := List.filter_eq_nil_iff.mp empty row listed
      simp [fits] at missed
    | some first =>
      obtain ⟨there, ready⟩ := nextPending_leasable oldest
      have shorter : (leaseNextCommand hashLeaseToken leaseTtl state row.command.controllerId
          leaseToken []).1.queue.rowcount
            (leasable leaseTtl state.time row.command.controllerId) <
          state.queue.rowcount (leasable leaseTtl state.time row.command.controllerId) := by
        rw [leaseNextCommand, oldest]
        exact lease_shorter there ready
      have same : (leaseNextCommand hashLeaseToken leaseTtl state row.command.controllerId
          leaseToken []).1.time = state.time := by
        rw [leaseNextCommand, oldest]
      rw [leaseAll]
      by_cases own : row.commandId = first.commandId
      · simp only [leaseNextCommand, oldest, Option.toList_some]
        exact ⟨_, List.mem_append_left _ (List.mem_singleton_self _), own.symm⟩
      · have stays : row ∈ (leaseNextCommand hashLeaseToken leaseTtl state
            row.command.controllerId leaseToken []).1.queue.rows := by
          rw [leaseNextCommand, oldest]
          exact lease_stays listed own
        simp only [List.length_cons] at short
        obtain ⟨leased, later, own⟩ := ih stays (by rw [same]; exact fits) (by
          rw [same]
          omega)
        exact ⟨leased, List.mem_append_right _ later, own⟩

theorem leaseAll_pending {leaseTokens : List String} {leased : LeasedCommand}
    (given : leased ∈ leaseAll hashLeaseToken leaseTtl controllerId state leaseTokens) :
    ∃ row ∈ state.queue.rows, row.commandId = leased.commandId ∧ row.status = .pending := by
  induction leaseTokens generalizing state with
  | nil => cases given
  | cons leaseToken rest ih =>
    simp only [leaseAll, leaseNextCommand] at given
    split at given
    · rcases List.mem_append.mp given with now | later
      · cases now
      · exact ih later
    · next first oldest =>
        obtain ⟨there, ready⟩ := nextPending_leasable oldest
        rcases List.mem_append.mp given with now | later
        · simp only [Option.toList_some, List.mem_singleton] at now
          exact ⟨first, there, by rw [now], leasable_pending ready⟩
        · obtain ⟨row, listed, own, pending⟩ := ih later
          rcases lease_listed listed with ⟨old, _, _, rfl⟩ | ⟨old, _⟩
          · cases pending
          · exact ⟨row, old, own, pending⟩

theorem delivers_iff : Delivers hashLeaseToken leaseTtl state ↔
    ∀ row ∈ state.queue.rows, stranded leaseTtl state.time row = false := by
  constructor
  · intro delivers row listed
    by_contra lost
    rw [Bool.not_eq_false, stranded, Bool.and_eq_true, Bool.and_eq_true] at lost
    have held : row.status = .leased := of_decide_eq_true lost.1.1
    have runOut : leaseRunOut state.time row := fun until_ some => by
      have ranOut := lost.1.2
      rw [some] at ranOut
      exact of_decide_eq_true ranOut
    obtain ⟨calls, comes⟩ := delivers row listed (by rw [held]; rintro ⟨⟩)
      (by rw [held]; rintro ⟨⟩) runOut (of_decide_eq_true lost.2)
    obtain ⟨leased, given, own⟩ := comes (List.replicate calls "") (by simp)
    obtain ⟨other, there, same, pending⟩ := leaseAll_pending given
    obtain rfl := Table.eq_of_key there listed (same.trans own)
    rw [held] at pending
    cases pending
  · intro kept row listed unacked alive runOut good
    have pending : row.status = .pending := by
      cases status : row.status with
      | pending => rfl
      | acked => exact absurd status unacked
      | dead => exact absurd status alive
      | leased =>
        have ranOut : row.leaseExpiresAt.all (· < state.time) = true := by
          cases given : row.leaseExpiresAt with
          | none => rfl
          | some until_ => exact decide_eq_true (runOut until_ given)
        have lost := kept row listed
        simp [stranded, status, ranOut, good] at lost
    refine pending_comes_back listed ?_
    simp [leasable, pending, good]

end

section

variable {hashLeaseToken : String → String} {leaseTtl : Nat} {state : State Result}

theorem remembers_initial (time : Moment) :
    Remembers hashLeaseToken (State.initial time : State Result) where
  given := fun _ listed => nomatch listed
  givenOnce := List.nodup_nil
  stored := fun _ listed => nomatch listed
  ackedOnce := List.nodup_nil

theorem Remembers.oneToken (remembers : Remembers hashLeaseToken state) :
    OneToken hashLeaseToken state where
  once := remembers.givenOnce
  only := by
    rintro leased listed leaseToken ⟨row, there, own, _, token⟩
    obtain ⟨other, present, same, _, given⟩ := remembers.given leased listed
    obtain rfl := Table.eq_of_key there present (own.trans same.symm)
    exact Option.some.inj (token.symm.trans given)

theorem Remembers.acknowledged (remembers : Remembers hashLeaseToken state) :
    AckedOnce hashLeaseToken state where
  once := remembers.ackedOnce
  repeated := by
    intro acked listed request same controller token
    obtain ⟨row, there, own, ctrl, done, held, result⟩ := remembers.stored acked listed
    have missed : state.queue.rows.any (ackable hashLeaseToken request) = false := by
      refine List.any_eq_false.mpr fun other present fits => ?_
      simp only [ackable, Bool.and_eq_true] at fits
      have named : other.commandId = request.commandId := of_decide_eq_true fits.1.1.1
      have leased : other.status = .leased := of_decide_eq_true fits.2
      obtain rfl := Table.eq_of_key present there (named.trans (same.trans own.symm))
      rw [done] at leased
      cases leased
    have found : state.queue.rows.find? (fun row => row.commandId = request.commandId &&
        row.command.controllerId = request.controllerId) = some row := by
      cases search : state.queue.rows.find? (fun row => row.commandId = request.commandId &&
          row.command.controllerId = request.controllerId) with
      | none =>
        have absent := List.find?_eq_none.mp search row there
        simp [own, ctrl, same, controller] at absent
      | some other =>
        have fits := List.find?_some search
        rw [Bool.and_eq_true] at fits
        have named : other.commandId = request.commandId := of_decide_eq_true fits.1
        rw [Table.eq_of_key (List.mem_of_find?_eq_some search) there (named.trans (same.trans own.symm))]
    have answers : row.status = .acked ∧
        row.leaseToken = some (hashLeaseToken request.leaseToken) := ⟨done, by rw [held, token]⟩
    rw [ackCommand, missed, if_neg Bool.false_ne_true, ackStored, found]
    simp only [if_pos answers, Except.map, same, result]

variable {row : QueuedCommand Result}

section

variable (remembers : Remembers hashLeaseToken state)

include remembers

theorem remembers_create {decisionId : Option Nat} {barrierId : Nat} {ttlSeconds : Int} :
    Remembers hashLeaseToken
      (createOpenCommand state decisionId controllerId barrierId ttlSeconds) := by
  unfold createOpenCommand
  split
  · exact remembers
  · refine ⟨fun leased listed => ?_, remembers.givenOnce, fun acked listed => ?_, remembers.ackedOnce⟩
    · obtain ⟨row, there, held⟩ := remembers.given leased listed
      exact ⟨row, (Table.mem_insert (pendingCommand_id _ _ _ _ _)).mpr (.inl there), held⟩
    · obtain ⟨row, there, held⟩ := remembers.stored acked listed
      exact ⟨row, (Table.mem_insert (pendingCommand_id _ _ _ _ _)).mpr (.inl there), held⟩

theorem remembers_lease {locked : List Nat} :
    Remembers hashLeaseToken
      (leaseNextCommand hashLeaseToken leaseTtl state controllerId leaseToken locked).1 := by
  unfold leaseNextCommand
  split
  · exact remembers
  · next first oldest =>
      obtain ⟨present, ready⟩ := nextPending_leasable oldest
      have pending := leasable_pending ready
      have apart : ∀ row ∈ state.queue.rows, row.status ≠ .pending →
          row.commandId ≠ first.commandId := by
        intro row there taken same
        rw [Table.eq_of_key there present same] at taken
        exact taken pending
      refine ⟨fun leased listed => ?_, ?_, fun acked listed => ?_, remembers.ackedOnce⟩
      · rcases List.mem_append.mp listed with old | new
        · obtain ⟨row, there, own, taken, held⟩ := remembers.given leased old
          exact ⟨row, lease_stays there (apart row there taken), own, taken, held⟩
        · obtain rfl := List.mem_singleton.mp new
          exact ⟨_, lease_leased present, rfl, (by rintro ⟨⟩), rfl⟩
      · rw [List.map_append, List.map_singleton, List.nodup_append]
        refine ⟨remembers.givenOnce, List.nodup_singleton _, fun given before new after same => ?_⟩
        obtain ⟨leased, old, rfl⟩ := List.mem_map.mp before
        obtain ⟨row, there, own, taken, _⟩ := remembers.given leased old
        exact apart row there taken (own.trans (same.trans (List.mem_singleton.mp after)))
      · obtain ⟨row, there, own, ctrl, done, held⟩ := remembers.stored acked listed
        have taken : row.status ≠ .pending := by
          rw [done]
          rintro ⟨⟩
        exact ⟨row, lease_stays there (apart row there taken), own, ctrl, done, held⟩

theorem remembers_ack {request : AckRequest Result} :
    Remembers hashLeaseToken (next hashLeaseToken leaseTtl state (.ack request)) := by
  simp only [next, ackCommand]
  by_cases hit : state.queue.rows.any (ackable hashLeaseToken request) = true
  · rw [if_pos hit]
    obtain ⟨target, present, fits⟩ := List.any_eq_true.mp hit
    have compared := fits
    simp only [ackable, Bool.and_eq_true] at compared
    have named : target.commandId = request.commandId := of_decide_eq_true compared.1.1.1
    have ctrl : target.command.controllerId = request.controllerId := of_decide_eq_true compared.1.1.2
    have token : target.leaseToken = some (hashLeaseToken request.leaseToken) :=
      of_decide_eq_true compared.1.2
    have leased : target.status = .leased := of_decide_eq_true compared.2
    refine ⟨fun given listed => ?_, remembers.givenOnce, fun acked listed => ?_, ?_⟩
    · obtain ⟨row, there, own, taken, held⟩ := remembers.given given listed
      refine ⟨_, (Table.mem_update (ackedRow_id _)).mpr ⟨row, there, rfl⟩, ?_⟩
      split
      · exact ⟨own, by rintro ⟨⟩, held⟩
      · exact ⟨own, taken, held⟩
    · rcases List.mem_append.mp listed with old | new
      · obtain ⟨row, there, own, controller, done, held⟩ := remembers.stored acked old
        refine ⟨row, (Table.mem_update (ackedRow_id _)).mpr ⟨row, there, if_neg fun again => ?_⟩,
          own,
          controller, done, held⟩
        simp only [ackable, Bool.and_eq_true] at again
        have still : row.status = .leased := of_decide_eq_true again.2
        rw [done] at still
        cases still
      · obtain rfl := List.mem_singleton.mp new
        exact ⟨ackedRow acked.result target,
          (Table.mem_update (ackedRow_id _)).mpr ⟨target, present, if_pos fits⟩, named, ctrl, rfl,
          token, rfl⟩
    · rw [List.map_append, List.map_singleton, List.nodup_append]
      refine ⟨remembers.ackedOnce, List.nodup_singleton _, fun done before new after same => ?_⟩
      obtain ⟨acked, old, rfl⟩ := List.mem_map.mp before
      obtain ⟨row, there, own, _, settled, _⟩ := remembers.stored acked old
      have again : row.commandId = target.commandId :=
        own.trans (same.trans ((List.mem_singleton.mp after).trans named.symm))
      rw [Table.eq_of_key there present again, leased] at settled
      cases settled
  · rw [if_neg hit]
    cases ackStored hashLeaseToken state request with
    | ok | error => exact remembers

theorem remembers_next (event : Event Result) :
    Remembers hashLeaseToken (next hashLeaseToken leaseTtl state event) := by
  cases event with
  | create decisionId controllerId barrierId ttlSeconds => exact remembers_create remembers
  | lease controllerId leaseToken locked => exact remembers_lease remembers
  | ack request => exact remembers_ack remembers
  | tick elapsed => exact ⟨remembers.given, remembers.givenOnce, remembers.stored, remembers.ackedOnce⟩

end

def NoneStranded (leaseTtl : Nat) (state : State Result) : Prop :=
  ∀ row ∈ state.queue.rows, stranded leaseTtl state.time row = false

theorem stranded_of_unleased {now : Moment} (other : row.status ≠ .leased) :
    stranded leaseTtl now row = false := by
  rw [stranded, decide_eq_false other, Bool.false_and, Bool.false_and]

theorem stranded_leasedRow :
    stranded leaseTtl state.time (leasedRow hashLeaseToken leaseTtl state leaseToken row) =
      false := by
  have lasts : ¬ state.time + (leaseTtl : Int) < state.time :=
    Int.not_lt.mpr (Int.le_add_of_nonneg_right (Int.natCast_nonneg leaseTtl))
  simp [stranded, leasedRow, lasts]

theorem noneStranded_next (none : NoneStranded leaseTtl state) (event : Event Result) :
    NoneStranded leaseTtl (next hashLeaseToken leaseTtl state event) ↔
      keepsLeases leaseTtl state event = true := by
  cases event with
  | create decisionId controllerId barrierId ttlSeconds =>
    refine iff_of_true ?_ rfl
    simp only [next, createOpenCommand]
    split
    · exact none
    · intro row listed
      rcases (Table.mem_insert (pendingCommand_id _ _ _ _ _)).mp listed with old | rfl
      · exact none row old
      · exact stranded_of_unleased (by rintro ⟨⟩)
  | lease controllerId leaseToken locked =>
    refine iff_of_true ?_ rfl
    simp only [next, leaseNextCommand]
    split
    · exact none
    · intro row listed
      rcases lease_listed listed with ⟨old, _, _, rfl⟩ | ⟨old, _⟩
      · exact stranded_leasedRow
      · exact none row old
  | ack request =>
    refine iff_of_true ?_ rfl
    simp only [next, ackCommand]
    by_cases hit : state.queue.rows.any (ackable hashLeaseToken request) = true
    · rw [if_pos hit]
      intro row listed
      obtain ⟨old, there, same⟩ := (Table.mem_update (ackedRow_id _)).mp listed
      split at same
      · obtain rfl := same
        exact stranded_of_unleased (by rintro ⟨⟩)
      · obtain rfl := same
        exact none old there
    · rw [if_neg hit]
      cases ackStored hashLeaseToken state request with
      | ok | error => exact none
  | tick elapsed =>
    rw [keepsLeases, List.all_eq_true]
    simp only [Bool.not_eq_true']
    exact Iff.rfl

end

/-- Every command that is open without a lease and good for another comes back, in every state
of a run, exactly where no lease runs out in it on a command that is good for another. In every
state there is one token for a command at most, and it is acknowledged once. -/
theorem no_command_lost {Result : Type} (hashLeaseToken : String → String) (leaseTtl : Nat)
    (time : Moment) (events : List (Event Result)) :
    (∀ past, past <+: events →
        let state := run (next hashLeaseToken leaseTtl) (State.initial time) past
        Delivers hashLeaseToken leaseTtl state ∧ OneToken hashLeaseToken state ∧
          AckedOnce hashLeaseToken state) ↔
      Obeys (next hashLeaseToken leaseTtl)
        (fun state event => keepsLeases leaseTtl state event = true)
        (State.initial time) events := by
  have remembers : ∀ past, Remembers hashLeaseToken
      (run (next hashLeaseToken leaseTtl) (State.initial time : State Result) past) :=
    run_invariant (next hashLeaseToken leaseTtl) (Remembers hashLeaseToken)
      (remembers_initial time) fun _ event held => remembers_next held event
  have initial : NoneStranded leaseTtl (State.initial time : State Result) := by
    intro _ listed
    cases listed
  rw [← holds_along_iff_obeys (next hashLeaseToken leaseTtl) (NoneStranded leaseTtl)
    (fun _ => True) trivial (fun _ _ _ => trivial) initial
    (fun _ event _ none => noneStranded_next none event) events]
  constructor
  · intro along past before
    exact delivers_iff.mp (along past before).1
  · intro none past before
    exact ⟨delivers_iff.mpr (none past before), (remembers past).oneToken, (remembers past).acknowledged⟩

/-! The edge restarts after it has been given a command. -/

def leasedAndLost : List (Event Unit) := [.create (some 1) 1 1 120, .lease 1 "token" [], .tick 31]

/-- The lease has run out, the command is good for 89 seconds, and no call brings it. -/
theorem command_lost_with_its_lease :
    ¬ Delivers id 30 (run (next id 30) (State.initial 0 : State Unit) leasedAndLost) := by
  rw [delivers_iff]
  decide

end InfrasafeBot.AccessControl.Channel
