import Mathlib.Data.List.Perm.Basic
import InfrasafeBot.Library.Machine

/-! The one-time codes of the second factor (`api/auth/service.py`), one command of Redis after
the other: one code is stored, and any number of calls verify codes against it. -/

set_option autoImplicit false

namespace InfrasafeBot.Auth.OneTimeCodes

open Library.Machine

def mfaMaxAttempts : Nat := 3

/-- The hash under `mfa:otp:{user_id}`; `expires` once it has a lifetime. -/
structure OtpHash where
  code : Option String
  attempts : Option Int
  expires : Bool

inductive Verification where
  /-- the counter was not positive: `DEL` -/
  | exhausted
  | wrong (attempts : Int)
  /-- the right code: `DEL`, and the call succeeds -/
  | right

def Verification.compares : Verification → Bool
  | .exhausted => false
  | .wrong _ => true
  | .right => true

inductive StoreStage where
  | waiting
  | written
  | stored
  deriving DecidableEq

/-- The key, how far `store_otp` is, the calls between their two commands, the codes that have
been compared and what the calls have returned. -/
structure OtpState where
  key : Option OtpHash
  stage : StoreStage
  inFlight : List Verification
  compared : List String
  returned : List (Bool × String)

def OtpState.initial : OtpState := ⟨none, .waiting, [], [], []⟩

inductive OtpEvent where
  | hset
  | expire
  | hgetall (code : String)
  | command (index : Nat)
  | lapse

def tooMany : String := "Too many attempts. Please login again."

def answerWrong (attempts : Int) : Bool × String :=
  if attempts - 1 ≤ 0 then (false, tooMany)
  else (false, s!"Invalid code. {attempts - 1} attempts remaining.")

def hincrby : Option OtpHash → OtpHash
  | none => ⟨none, some (-1), false⟩
  | some hash => { hash with attempts := some (hash.attempts.getD 0 - 1) }

def isAscii (text : String) : Bool := text.toList.all fun letter => letter.toNat < 128

/-- `hmac.compare_digest`; it raises a `TypeError` on letters beyond ASCII. -/
def compareDigest (left right : String) : Option Bool :=
  if isAscii left && isAscii right then some (left = right) else none

namespace OtpState

variable (state : OtpState)

def read (submitted : String) : OtpState :=
  match state.key with
  | none =>
    { state with returned := state.returned ++ [(false, "OTP expired or not found. Please login again.")] }
  | some hash =>
    let attempts := hash.attempts.getD 0
    if attempts ≤ 0 then { state with inFlight := state.inFlight ++ [.exhausted] }
    else
      match compareDigest submitted (hash.code.getD "") with
      | none => state
      | some same =>
        { state with
          compared := state.compared ++ [submitted]
          inFlight := state.inFlight ++ [if same then .right else .wrong attempts] }

def finish (index : Nat) : OtpState :=
  let rest := { state with inFlight := state.inFlight.eraseIdx index }
  match state.inFlight[index]? with
  | none => state
  | some .exhausted => { rest with key := none, returned := state.returned ++ [(false, tooMany)] }
  | some (.wrong attempts) =>
    { rest with
      key := some (hincrby state.key)
      returned := state.returned ++ [answerWrong attempts] }
  | some .right => { rest with key := none, returned := state.returned ++ [(true, "")] }

def next (code : String) : OtpEvent → OtpState
  | .hset =>
    if state.stage = .waiting then
      { state with
        key := some ⟨some code, some mfaMaxAttempts, state.key.any (·.expires)⟩
        stage := .written }
    else state
  | .expire =>
    if state.stage = .written then
      { state with
        key := state.key.map fun hash => { hash with expires := true }
        stage := .stored }
    else state
  | .hgetall submitted => state.read submitted
  | .command index => state.finish index
  | .lapse => if state.key.any (·.expires) then { state with key := none } else state

def comparing : Nat := state.inFlight.countP Verification.compares

def successes : Nat := state.returned.countP (·.1)

end OtpState

/-- The bounds of a run, and that a key that is gone stays gone. -/
structure OneTime (code : String) (events : List OtpEvent) : Prop where
  bounded : (run (OtpState.next · code) .initial events).compared.length ≤ mfaMaxAttempts
  single : (run (OtpState.next · code) .initial events).successes ≤ 1
  gone : ∀ before after, events = before ++ after →
    (run (OtpState.next · code) .initial before).stage ≠ .waiting →
    (run (OtpState.next · code) .initial before).key = none →
    (run (OtpState.next · code) .initial events).key = none

/-- A call reads a positive counter only while fewer calls are between comparing and their
second command, and after a comparison this command finds the key still there. -/
def careful (state : OtpState) : OtpEvent → Bool
  | .hgetall _ => state.key.all fun hash =>
    hash.attempts.getD 0 ≤ 0 || (state.comparing : Int) < hash.attempts.getD 0
  | .command index => state.key.isSome || (state.inFlight[index]?).all fun call => !call.compares
  | _ => true

/-- While the key is there, what has been compared is what the counter has lost or what is yet
to be counted, and nobody has succeeded. -/
structure Guarded (state : OtpState) : Prop where
  waiting : state.stage = .waiting →
    state.key = none ∧ state.inFlight = [] ∧ state.compared = [] ∧ state.successes = 0
  live : ∀ hash, state.key = some hash → ∃ left : Nat, hash.attempts = some (left : Int) ∧
    state.comparing ≤ left ∧ state.compared.length + left = mfaMaxAttempts + state.comparing ∧
      state.successes = 0
  bounded : state.compared.length ≤ mfaMaxAttempts
  single : state.successes ≤ 1

section

variable {state : OtpState} {code : String} {events : List OtpEvent}

theorem successes_append {answer : Bool × String} (failed : answer.1 = false) :
    (state.returned ++ [answer]).countP (·.1) = state.successes := by
  simp [OtpState.successes, failed]

theorem Guarded.failed (guarded : Guarded state) {answer : Bool × String}
    (failed : answer.1 = false) : (state.returned ++ [answer]).countP (·.1) ≤ 1 :=
  Nat.le_trans (Nat.le_of_eq (successes_append failed)) guarded.single

theorem comparing_eraseIdx {index : Nat} {call : Verification}
    (found : state.inFlight[index]? = some call) :
    (state.inFlight.eraseIdx index).countP Verification.compares +
      (if call.compares then 1 else 0) = state.comparing := by
  obtain ⟨within, rfl⟩ := List.getElem?_eq_some_iff.mp found
  rw [OtpState.comparing, ← (List.getElem_cons_eraseIdx_perm within).countP_eq, List.countP_cons]

theorem Guarded.read (guarded : Guarded state) {submitted : String}
    (cares : careful state (.hgetall submitted) = true) : Guarded (state.read submitted) := by
  unfold OtpState.read
  cases stored : state.key with
  | none =>
    dsimp only
    refine ⟨fun waiting => ?_, fun _ held => by (cases held), guarded.bounded, guarded.failed rfl⟩
    obtain ⟨_, idle, fresh, unused⟩ := guarded.waiting waiting
    exact ⟨rfl, idle, fresh, (successes_append rfl).trans unused⟩
  | some hash =>
    obtain ⟨left, counter, room, account, unused⟩ := guarded.live hash stored
    have written : state.stage ≠ .waiting := fun waiting => by
      rw [(guarded.waiting waiting).1] at stored
      cases stored
    simp only [counter, Option.getD_some]
    split
    · next none_left =>
      refine ⟨fun waiting => absurd waiting written, fun held same => ?_, guarded.bounded, guarded.single⟩
      cases same
      exact ⟨left, counter, by simpa [OtpState.comparing, Verification.compares] using room,
        by simpa [OtpState.comparing, Verification.compares] using account, unused⟩
    · next some_left =>
      simp only [careful, stored, Option.all_some, counter, Option.getD_some] at cares
      have room' : state.comparing < left := by
        simp only [some_left, decide_false, Bool.false_or, decide_eq_true_eq] at cares
        exact_mod_cast cares
      split
      · exact guarded
      · next same digest =>
        have one_more : (state.inFlight ++
            [if same = true then Verification.right else .wrong (left : Int)]).countP Verification.compares =
              state.comparing + 1 := by
          cases same <;> simp [OtpState.comparing, Verification.compares]
        refine ⟨fun waiting => absurd waiting written, fun held kept => ?_, ?_, guarded.single⟩
        · cases kept
          refine ⟨left, counter, ?_, ?_, unused⟩
          · rw [OtpState.comparing, one_more]
            omega
          · rw [OtpState.comparing, one_more, List.length_append, List.length_singleton]
            omega
        · rw [List.length_append, List.length_singleton]
          omega

theorem Guarded.finish (guarded : Guarded state) {index : Nat}
    (cares : careful state (.command index) = true) : Guarded (state.finish index) := by
  unfold OtpState.finish
  cases found : state.inFlight[index]? with
  | none => exact guarded
  | some call =>
    have written : state.stage ≠ .waiting := fun waiting => by
      rw [(guarded.waiting waiting).2.1] at found
      cases found
    have rest := comparing_eraseIdx found
    cases call with
    | exhausted =>
      exact ⟨fun waiting => absurd waiting written, fun _ held => by (cases held), guarded.bounded,
        guarded.failed rfl⟩
    | wrong attempts =>
      have failed : (answerWrong attempts).1 = false := by
        unfold answerWrong
        split <;> rfl
      simp only [careful, found, Option.all_some, Verification.compares, Bool.not_true,
        Bool.or_false] at cares
      obtain ⟨hash, stored⟩ := Option.isSome_iff_exists.mp cares
      obtain ⟨left, counter, room, account, unused⟩ := guarded.live hash stored
      simp only [Verification.compares, if_true] at rest
      dsimp only
      refine ⟨fun waiting => absurd waiting written, fun held kept => ?_, guarded.bounded,
        guarded.failed failed⟩
      rw [stored] at kept
      cases kept
      refine ⟨left - 1, ?_, ?_, ?_, (successes_append failed).trans unused⟩
      · change some (hash.attempts.getD 0 - 1) = _
        rw [counter, Option.getD_some, Option.some.injEq]
        omega
      · change (state.inFlight.eraseIdx index).countP Verification.compares ≤ _
        omega
      · change state.compared.length + _ =
          _ + (state.inFlight.eraseIdx index).countP Verification.compares
        omega
    | right =>
      simp only [careful, found, Option.all_some, Verification.compares, Bool.not_true,
        Bool.or_false] at cares
      obtain ⟨hash, stored⟩ := Option.isSome_iff_exists.mp cares
      obtain ⟨_, _, _, _, unused⟩ := guarded.live hash stored
      refine ⟨fun waiting => absurd waiting written, fun _ held => by (cases held), guarded.bounded, ?_⟩
      have counted : (state.returned ++ [(true, "")]).countP (·.1) = state.successes + 1 := by
        simp [OtpState.successes]
      exact Nat.le_of_eq (counted.trans (by rw [unused]))

theorem Guarded.next (guarded : Guarded state) {event : OtpEvent}
    (cares : careful state event = true) : Guarded (state.next code event) := by
  cases event with
  | hset =>
    dsimp only [OtpState.next]
    split
    · next waiting =>
      obtain ⟨_, idle, fresh, unused⟩ := guarded.waiting waiting
      refine ⟨fun again => by (cases again), fun hash held => ?_, guarded.bounded, guarded.single⟩
      cases held
      refine ⟨3, rfl, ?_, ?_, unused⟩
      · simp [OtpState.comparing, idle]
      · simp [OtpState.comparing, idle, fresh, mfaMaxAttempts]
    · exact guarded
  | expire =>
    dsimp only [OtpState.next]
    split
    · next written =>
      refine ⟨fun again => by (cases again), fun held kept => ?_, guarded.bounded, guarded.single⟩
      obtain ⟨hash, stored, rfl⟩ := Option.map_eq_some_iff.mp kept
      exact guarded.live hash stored
    · exact guarded
  | hgetall submitted => exact guarded.read cares
  | command index => exact guarded.finish cares
  | lapse =>
    dsimp only [OtpState.next]
    split
    · refine ⟨fun waiting => ?_, fun _ held => by (cases held), guarded.bounded, guarded.single⟩
      obtain ⟨_, rest⟩ := guarded.waiting waiting
      exact ⟨rfl, rest⟩
    · exact guarded

theorem next_gone {event : OtpEvent} (cares : careful state event = true)
    (gone : state.stage ≠ .waiting ∧ state.key = none) :
    (state.next code event).stage ≠ .waiting ∧ (state.next code event).key = none := by
  obtain ⟨written, none⟩ := gone
  cases event with
  | hset => simpa [OtpState.next, written] using none
  | expire =>
    dsimp only [OtpState.next]
    split
    · exact ⟨by simp, by simp [none]⟩
    · exact ⟨written, none⟩
  | hgetall submitted => exact ⟨by simpa [OtpState.next, OtpState.read, none] using written,
      by simp [OtpState.next, OtpState.read, none]⟩
  | command index =>
    simp only [careful, none, Option.isSome_none, Bool.false_or] at cares
    dsimp only [OtpState.next, OtpState.finish]
    cases found : state.inFlight[index]? with
    | none => exact ⟨written, none⟩
    | some call =>
      cases call with
      | exhausted | right => exact ⟨written, rfl⟩
      | wrong attempts => simp [found, Verification.compares] at cares
  | lapse => simpa [OtpState.next, none] using written

theorem oneTime_of_careful (cares : Obeys (OtpState.next · code)
    (fun state event => careful state event = true) .initial events) : OneTime code events := by
  have guarded : Guarded (run (OtpState.next · code) .initial events) := by
    refine run_invariant_of_obeys _ Guarded ?_ (fun _ _ cares guarded => guarded.next cares) cares
    exact ⟨fun _ => ⟨rfl, rfl, rfl, rfl⟩, fun _ held => by (cases held), by decide, by decide⟩
  refine ⟨guarded.bounded, guarded.single, fun before after split written gone => ?_⟩
  subst split
  obtain ⟨_, later⟩ := (obeys_append _ _ _ before after).mp cares
  rw [run_append]
  exact (run_invariant_of_obeys _ (fun state => state.stage ≠ .waiting ∧ state.key = none)
    ⟨written, gone⟩ (fun _ _ cares gone => next_gone cares gone) later).2

end

/-- Two calls read the hash before either deletes it. -/
theorem two_successes : ¬ ∀ (code : String) (events : List OtpEvent), OneTime code events := by
  intro law
  have single := (law "123456"
    [.hset, .expire, .hgetall "123456", .hgetall "123456", .command 0, .command 0]).single
  exact absurd single (by decide)

theorem second_guess_oneTime :
    OneTime "123456" [.hset, .expire, .hgetall "111111", .command 0, .hgetall "123456", .command 0,
      .hgetall "123456"] :=
  oneTime_of_careful (by decide)

end InfrasafeBot.Auth.OneTimeCodes
