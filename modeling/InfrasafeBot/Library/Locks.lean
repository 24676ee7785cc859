import Mathlib.Data.Fintype.Basic

/-! Locks that workers hold until they let them go. The worker that holds a lock is known by
what the lock is on: two that hold the same lock are one. -/

set_option autoImplicit false

namespace InfrasafeBot.Library.Locks

variable {Worker Key : Type}

def Exclusive (held : Worker → Option Key) : Prop :=
  ∀ left right key, held left = some key → held right = some key → left = right

def Free (held : Worker → Option Key) (worker : Worker) (key : Key) : Prop :=
  ∀ other, held other = some key → other = worker

instance [Fintype Worker] [DecidableEq Worker] [DecidableEq Key] (held : Worker → Option Key)
    (worker : Worker) (key : Key) : Decidable (Free held worker key) :=
  inferInstanceAs (Decidable (∀ other, held other = some key → other = worker))

variable {held : Worker → Option Key} {worker : Worker}

theorem exclusive_of_none (none : ∀ other, held other = none) : Exclusive held := by
  intro left _ _ own _
  rw [none left] at own
  cases own

theorem Exclusive.free (exclusive : Exclusive held) {key : Key} (own : held worker = some key) :
    Free held worker key :=
  fun other same => exclusive other worker key same own

variable [DecidableEq Worker]

theorem Exclusive.update (exclusive : Exclusive held) {now : Option Key}
    (free : ∀ key, now = some key → Free held worker key) :
    Exclusive (Function.update held worker now) := by
  intro left right key first second
  by_cases leftOwn : left = worker
  · by_cases rightOwn : right = worker
    · exact leftOwn.trans rightOwn.symm
    · rw [leftOwn, Function.update_self] at first
      rw [Function.update_of_ne rightOwn] at second
      exact leftOwn.trans (free key first right second).symm
  · rw [Function.update_of_ne leftOwn] at first
    by_cases rightOwn : right = worker
    · rw [rightOwn, Function.update_self] at second
      exact (free key second left first).trans rightOwn.symm
    · rw [Function.update_of_ne rightOwn] at second
      exact exclusive left right key first second

theorem Exclusive.keep (exclusive : Exclusive held) {now : Option Key}
    (kept : ∀ key, now = some key → held worker = some key) :
    Exclusive (Function.update held worker now) :=
  exclusive.update fun key own => exclusive.free (kept key own)

end InfrasafeBot.Library.Locks
