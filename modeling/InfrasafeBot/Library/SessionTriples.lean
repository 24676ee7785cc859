import InfrasafeBot.Library.Session

/-! Triples of sessions: what holds of the database where a session that returns was started,
and what then holds of its value and of the database it leaves. A session that raises
satisfies every triple. -/

set_option autoImplicit false

namespace InfrasafeBot.Library.Session

variable {Error Database Value Result : Type} {holds : Database → Prop}
  {gives : Value → Database → Prop} {session : Session Error Database Value}

def Ensures (holds : Database → Prop) (session : Session Error Database Value)
    (gives : Value → Database → Prop) : Prop :=
  ∀ database value written, holds database →
    session.runOn database = (.ok value, written) → gives value written

theorem ensures_pure {value : Value} (given : ∀ database, holds database → gives value database) :
    Ensures holds (pure value : Session Error Database Value) gives := by
  intro database returned written held ran
  obtain ⟨rfl, rfl⟩ := pure_ok_iff.mp ran
  exact given database held

theorem ensures_throw (error : Error) :
    Ensures holds (throw error : Session Error Database Value) gives := by
  intro database value written held ran
  cases ran

section

variable {continuation : Value → Session Error Database Result}
  {ends : Result → Database → Prop}

theorem Ensures.bind (first : Ensures holds session gives)
    (second : ∀ value, Ensures (gives value) (continuation value) ends) :
    Ensures holds (session >>= continuation) ends := by
  intro database result written held ran
  obtain ⟨value, middle, begun, continued⟩ := bind_ok_iff.mp ran
  exact second value middle result written (first database value middle held begun) continued

theorem ensures_read_bind {query : Database → Value}
    (after : ∀ found, Ensures (fun database => holds database ∧ query database = found)
      (continuation found) ends) : Ensures holds (read query >>= continuation) ends := by
  intro database result written held ran
  rw [read_bind] at ran
  exact after _ database result written ⟨held, rfl⟩ ran

theorem ensures_ofExcept_bind {computation : Except Error Value}
    (after : ∀ value, computation = .ok value → Ensures holds (continuation value) ends) :
    Ensures holds (ofExcept computation >>= continuation) ends := by
  intro database result written held ran
  obtain ⟨value, computed, continued⟩ := ofExcept_bind_ok_iff.mp ran
  exact after value computed database result written held continued

variable {after : Unit → Session Error Database Result}

theorem ensures_check_bind {condition : Bool} {error : Error}
    (passed : condition = true → Ensures holds (after ()) ends) :
    Ensures holds (check condition error >>= after) ends := by
  intro database result written held ran
  obtain ⟨kept, continued⟩ := check_bind_ok_iff.mp ran
  exact passed kept database result written held continued

theorem ensures_write_bind {change : Database → Database} (changed : Database → Prop)
    (writes : ∀ database, holds database → changed (change database))
    (onward : Ensures changed (after ()) ends) :
    Ensures holds (write change >>= after) ends := by
  intro database result written held ran
  rw [write_bind] at ran
  exact onward _ result written (writes database held) ran

end

theorem ensures_ofExcept {computation : Except Error Value}
    (given : ∀ value database, computation = .ok value → holds database →
      gives value database) : Ensures holds (ofExcept computation) gives := by
  intro database value written held ran
  cases computation with
  | ok computed =>
    cases ran
    exact given value database rfl held
  | error error => cases ran

theorem Ensures.mapM {Item : Type} {step : Item → Session Error Database Value}
    {items : List Item} (each : ∀ item ∈ items, Ensures holds (step item) fun _ => holds) :
    Ensures holds (items.mapM step) fun _ => holds := by
  induction items with
  | nil => exact ensures_pure fun _ held => held
  | cons item rest ih =>
    obtain ⟨first, later⟩ := List.forall_mem_cons.mp each
    rw [List.mapM_cons]
    exact first.bind fun _ => (ih later).bind fun _ => ensures_pure fun _ held => held

theorem Ensures.discarded {kept : Database → Prop} (ensures : Ensures kept session fun _ => kept) :
    Ensures kept (discard session) fun _ => kept := by
  intro database value written held ran
  obtain ⟨result, returned⟩ := discard_ok_iff.mp ran
  exact ensures database result written held returned

/-- A transaction keeps what its session keeps: it commits or leaves everything as it was. -/
theorem Ensures.transacted {kept : Database → Prop} (ensures : Ensures kept session fun _ => kept)
    {database : Database} (held : kept database) : kept (transact session database).2 := by
  cases ran : transact session database with
  | mk outcome written =>
    cases outcome with
    | ok value => exact ensures database value written held (transact_ok_iff.mp ran)
    | error error =>
      have same := transact_error (congrArg Prod.fst ran)
      rw [ran] at same
      exact same ▸ held

end InfrasafeBot.Library.Session
