import InfrasafeBot.Library.Computation
/-! Database sessions. A session may raise at any point and keeps what it has written
so far; a transaction commits the writes of a session that returns and rolls back
the writes of one that raises. -/

set_option autoImplicit false

namespace InfrasafeBot.Library

abbrev Session (Error Database : Type) := ExceptT Error (StateM Database)

namespace Session

variable {Error Database Value : Type}

def runOn (session : Session Error Database Value) (database : Database) : Except Error Value × Database :=
  (ExceptT.run session).run database

def read (query : Database → Value) : Session Error Database Value :=
  fun database => (.ok (query database), database)

def write (change : Database → Database) : Session Error Database Unit :=
  fun database => (.ok (), change database)

def check (condition : Bool) (error : Error) : Session Error Database Unit :=
  fun database => (if condition then .ok () else .error error, database)

def ofExcept (computation : Except Error Value) : Session Error Database Value :=
  fun database => (computation, database)

def transact (session : Session Error Database Value) (database : Database) :
    Except Error Value × Database :=
  match session.runOn database with
  | (.ok value, written) => (.ok value, written)
  | (.error error, _) => (.error error, database)

variable {Result : Type} {session : Session Error Database Value}
  {continuation : Value → Session Error Database Result} {database written : Database}
  {value : Value} {result : Result} {error : Error}

@[simp] theorem runOn_pure :
    (pure value : Session Error Database Value).runOn database = (.ok value, database) := rfl

@[simp] theorem runOn_throw :
    (throw error : Session Error Database Value).runOn database = (.error error, database) := rfl

theorem runOn_bind_ok (returned : session.runOn database = (.ok value, written)) :
    (session >>= continuation).runOn database = (continuation value).runOn written := by
  simp only [runOn, ExceptT.run, StateT.run] at returned
  simp only [runOn, ExceptT.run, StateT.run, bind, ExceptT.bind, ExceptT.bindCont, ExceptT.mk,
    StateT.bind, returned]

theorem runOn_bind_error (raised : session.runOn database = (.error error, written)) :
    (session >>= continuation).runOn database = (.error error, written) := by
  simp only [runOn, ExceptT.run, StateT.run] at raised
  simp only [runOn, ExceptT.run, StateT.run, bind, ExceptT.bind, ExceptT.bindCont, ExceptT.mk,
    StateT.bind, raised]
  rfl

theorem bind_ok_iff : (session >>= continuation).runOn database = (.ok result, written) ↔
    ∃ value middle, session.runOn database = (.ok value, middle) ∧
      (continuation value).runOn middle = (.ok result, written) := by
  constructor
  · intro returned
    cases ran : session.runOn database with
    | mk outcome middle =>
      cases outcome with
      | error error =>
        rw [runOn_bind_error ran] at returned
        cases returned
      | ok value => exact ⟨value, middle, rfl, runOn_bind_ok ran ▸ returned⟩
  · intro both
    obtain ⟨value, middle, first, second⟩ := both
    rw [runOn_bind_ok first, second]

theorem pure_ok_iff {returned : Value} :
    (pure value : Session Error Database Value).runOn database = (.ok returned, written) ↔
      value = returned ∧ database = written := by
  simp

theorem read_bind {query : Database → Value} :
    (read query >>= continuation).runOn database =
      (continuation (query database)).runOn database :=
  runOn_bind_ok rfl

theorem write_bind {change : Database → Database}
    {after : Unit → Session Error Database Result} :
    (write change >>= after).runOn database = (after ()).runOn (change database) :=
  runOn_bind_ok rfl

theorem check_bind_ok_iff {condition : Bool} {after : Unit → Session Error Database Result} :
    (check condition error >>= after).runOn database = (.ok result, written) ↔
      condition = true ∧ (after ()).runOn database = (.ok result, written) := by
  cases condition with
  | true =>
    have passed : (check true error : Session Error Database Unit).runOn database =
        (.ok (), database) := rfl
    rw [runOn_bind_ok passed]
    simp
  | false =>
    have raised : (check false error : Session Error Database Unit).runOn database =
        (.error error, database) := rfl
    rw [runOn_bind_error raised]
    simp

theorem ofExcept_bind_ok_iff {computation : Except Error Value} :
    (ofExcept computation >>= continuation).runOn database = (.ok result, written) ↔
      ∃ value, computation = .ok value ∧
        (continuation value).runOn database = (.ok result, written) := by
  cases computation with
  | ok value =>
    have passed : (ofExcept (.ok value) : Session Error Database Value).runOn database =
        (.ok value, database) := rfl
    rw [runOn_bind_ok passed]
    simp
  | error error =>
    have raised : (ofExcept (.error error) : Session Error Database Value).runOn database =
        (.error error, database) := rfl
    rw [runOn_bind_error raised]
    simp

theorem discard_ok_iff : (discard session).runOn database = (.ok (), written) ↔
    ∃ value, session.runOn database = (.ok value, written) := by
  have unfolded : discard session = session >>= fun _ => pure () := by
    rw [discard, map_const, Function.comp_apply, map_eq_pure_bind]
  rw [unfolded, bind_ok_iff]
  simp

theorem transact_ok_iff : transact session database = (.ok value, written) ↔
    session.runOn database = (.ok value, written) := by
  unfold transact
  split
  · next returned => rw [returned]
  · next raised => simp [raised]

theorem transact_error (raised : (transact session database).1 = .error error) :
    (transact session database).2 = database := by
  unfold transact at raised ⊢
  split at raised
  · cases raised
  · rfl

end Session

/-- What a flush stores in a column: the committed value, unless the session has changed
its copy. -/
def flushed {Value : Type} [DecidableEq Value] (loaded changed committed : Value) : Value :=
  if changed = loaded then committed else changed

@[simp] theorem flushed_unchanged {Value : Type} [DecidableEq Value]
    (loaded committed : Value) : flushed loaded loaded committed = committed :=
  if_pos rfl

@[simp] theorem flushed_current {Value : Type} [DecidableEq Value] (loaded changed : Value) :
    flushed loaded changed loaded = changed := by
  unfold flushed
  split
  · next same => exact same.symm
  · rfl

theorem flushed_of_ne {Value : Type} [DecidableEq Value] {loaded changed : Value}
    (different : changed ≠ loaded) (committed : Value) :
    flushed loaded changed committed = changed :=
  if_neg different

end InfrasafeBot.Library
