import Mathlib.Data.List.MinMax
import InfrasafeBot.Library.Locks
import InfrasafeBot.Library.Machine

/-! Journals whose rows are chained by hashes, and transactions that append to them. A
transaction locks a journal before it reads the hash of its last row, and holds the lock to its
end; a row it has added reaches the database with the next flush, where it gets its number. -/

set_option autoImplicit false

namespace InfrasafeBot.Library.HashChain

open Locks Machine

structure Entry (Row Hash : Type) where
  row : Row
  prevHash : Option Hash
  rowHash : Hash

structure Stored (Row Hash : Type) extends Entry Row Hash where
  id : Nat

variable {Row Hash : Type}

section

/-- Every entry has the hash of the one before it, and its own from that and its row. -/
def Chained (rowDigest : Option Hash → Row → Hash) : Option Hash → List (Entry Row Hash) → Prop
  | _, [] => True
  | prev, entry :: rest =>
    entry.prevHash = prev ∧ entry.rowHash = rowDigest prev entry.row ∧
      Chained rowDigest (some entry.rowHash) rest

def lastHash : Option Hash → List (Entry Row Hash) → Option Hash
  | prev, [] => prev
  | _, entry :: rest => lastHash (some entry.rowHash) rest

variable {rowDigest : Option Hash → Row → Hash}

theorem lastHash_append (prev : Option Hash) (first second : List (Entry Row Hash)) :
    lastHash prev (first ++ second) = lastHash (lastHash prev first) second := by
  induction first generalizing prev with
  | nil => rfl
  | cons entry rest ih => exact ih (some entry.rowHash)

theorem chained_append (prev : Option Hash) (first second : List (Entry Row Hash)) :
    Chained rowDigest prev (first ++ second) ↔
      Chained rowDigest prev first ∧ Chained rowDigest (lastHash prev first) second := by
  induction first generalizing prev with
  | nil => simp [Chained, lastHash]
  | cons entry rest ih =>
    rw [List.cons_append, Chained, Chained, lastHash, ih]
    simp only [and_assoc]

theorem chained_iff (entries : List (Entry Row Hash)) (prev : Option Hash) :
    Chained rowDigest prev entries ↔
      ∀ before entry after, entries = before ++ entry :: after →
        entry.prevHash = lastHash prev before ∧
          entry.rowHash = rowDigest entry.prevHash entry.row := by
  constructor
  · rintro chained before entry after rfl
    obtain ⟨_, linked, hashed, _⟩ := (chained_append prev before (entry :: after)).mp chained
    exact ⟨linked, linked ▸ hashed⟩
  · intro linked
    induction entries generalizing prev with
    | nil => trivial
    | cons entry rest ih =>
      obtain ⟨first, hashed⟩ := linked [] entry rest rfl
      have begins : entry.prevHash = prev := first
      rw [begins] at hashed
      refine ⟨begins, hashed, ih (some entry.rowHash) ?_⟩
      rintro before later after rfl
      exact linked (entry :: before) later after rfl

def Altered (before after : List (Entry Row Hash)) : Prop :=
  List.Forall₂ (fun entry now => now.prevHash = entry.prevHash ∧ now.rowHash = entry.rowHash)
    before after

theorem chained_altered_iff {prev : Option Hash} {before after : List (Entry Row Hash)}
    (chained : Chained rowDigest prev before) (altered : Altered before after) :
    Chained rowDigest prev after ↔
      List.Forall₂ (fun entry now =>
        rowDigest entry.prevHash now.row = rowDigest entry.prevHash entry.row) before after := by
  induction altered generalizing prev with
  | nil => exact ⟨fun _ => .nil, fun _ => trivial⟩
  | @cons entry now rest later same _ ih =>
    obtain ⟨linked, hashed, tail⟩ := chained
    rw [← same.2] at hashed tail
    rw [Chained, ih tail, List.forall₂_cons, same.1, linked, ← hashed]
    exact ⟨fun kept => ⟨kept.2.1.symm, kept.2.2⟩, fun kept => ⟨rfl, kept.1.symm, kept.2⟩⟩

/-- The rows of a journal in the order of their numbers. -/
def Ordered (rows : List (Stored Row Hash)) : Prop := rows.Pairwise (·.id < ·.id)

def entries (rows : List (Stored Row Hash)) : List (Entry Row Hash) := rows.map (·.toEntry)

theorem entries_append (first second : List (Stored Row Hash)) :
    entries (first ++ second) = entries first ++ entries second := List.map_append

def tailHash (rows : List (Stored Row Hash)) : Option Hash := (rows.argmax Stored.id).map (·.rowHash)

variable {rows : List (Stored Row Hash)} {added : List (Entry Row Hash)} {row : Stored Row Hash}
  {serial : Nat}

theorem argmax_of_ordered {last : Stored Row Hash} (below : ∀ row ∈ rows, row.id < last.id) :
    (rows ++ [last]).argmax Stored.id = some last := by
  rw [List.argmax_concat]
  cases found : rows.argmax Stored.id with
  | none => rfl
  | some row => exact if_pos (below row (List.argmax_mem found))

theorem tailHash_eq (ordered : Ordered rows) : tailHash rows = lastHash none (entries rows) := by
  induction rows using List.reverseRecOn with
  | nil => rfl
  | append_singleton rows last _ =>
    obtain ⟨_, _, below⟩ := List.pairwise_append.mp ordered
    rw [tailHash, argmax_of_ordered fun row listed => below row listed last List.mem_cons_self,
      entries_append, lastHash_append]
    rfl

def number (serial : Nat) : List (Entry Row Hash) → List (Stored Row Hash)
  | [] => []
  | entry :: rest => ⟨entry, serial + 1⟩ :: number (serial + 1) rest

theorem entries_number (serial : Nat) (added : List (Entry Row Hash)) :
    entries (number serial added) = added := by
  induction added generalizing serial with
  | nil => rfl
  | cons entry rest ih => exact congrArg (entry :: ·) (ih (serial + 1))

theorem id_of_mem_number (listed : row ∈ number serial added) :
    serial < row.id ∧ row.id ≤ serial + added.length := by
  induction added generalizing serial with
  | nil => cases listed
  | cons entry rest ih =>
    rcases List.mem_cons.mp listed with rfl | later
    · simp
    · have bounds := ih later
      simp only [List.length_cons]
      omega

theorem entry_of_mem_number (listed : row ∈ number serial added) : row.toEntry ∈ added := by
  have entry : row.toEntry ∈ entries (number serial added) := List.mem_map_of_mem listed
  rwa [entries_number] at entry

theorem ordered_number (serial : Nat) (added : List (Entry Row Hash)) : Ordered (number serial added) := by
  induction added generalizing serial with
  | nil => exact List.Pairwise.nil
  | cons entry rest ih =>
    exact List.pairwise_cons.mpr ⟨fun row listed => (id_of_mem_number listed).1, ih (serial + 1)⟩

structure Numbered (serial : Nat) (rows : List (Stored Row Hash)) : Prop where
  ordered : Ordered rows
  bounded : ∀ row ∈ rows, row.id ≤ serial

theorem Numbered.flush (numbered : Numbered serial rows) (added : List (Entry Row Hash)) :
    Numbered (serial + added.length) (rows ++ number serial added) := by
  constructor
  · refine List.pairwise_append.mpr ⟨numbered.ordered, ordered_number serial added, ?_⟩
    intro row listed later inserted
    have low := numbered.bounded row listed
    have high := (id_of_mem_number inserted).1
    omega
  · intro row listed
    rcases List.mem_append.mp listed with before | inserted
    · have low := numbered.bounded row before
      omega
    · exact (id_of_mem_number inserted).2

end

inductive Statement (Row Payload : Type) where
  | append (row : Row) (payload : Payload)
  | flush

/-- `session` are the rows that have been added and `inserted` those that have been flushed. -/
structure Transaction (Table Row Payload Hash : Type) where
  holds : Table → Bool
  session : Table → List (Entry Row Hash)
  inserted : Table → List (Stored Row Hash)
  program : List (Statement Row Payload)

structure State (Table Row Payload Hash : Type) (n : Nat) where
  tables : Table → List (Stored Row Hash)
  serials : Table → Nat
  workers : Fin n → Option (Transaction Table Row Payload Hash)

inductive Event (Call : Type) (n : Nat) where
  | call (worker : Fin n) (call : Call)
  | step (worker : Fin n)
  | fail (worker : Fin n)

section

variable {Table Payload Call : Type} {n : Nat}

def Transaction.begin (program : List (Statement Row Payload)) :
    Transaction Table Row Payload Hash := ⟨fun _ => false, fun _ => [], fun _ => [], program⟩

def State.holder (state : State Table Row Payload Hash n) (table : Table) (worker : Fin n) : Option Table :=
  (state.workers worker).bind fun transaction =>
    if transaction.holds table then some table else none

def State.put (state : State Table Row Payload Hash n) (worker : Fin n)
    (transaction : Option (Transaction Table Row Payload Hash)) :
    State Table Row Payload Hash n :=
  { state with workers := Function.update state.workers worker transaction }

def State.counted (state : State Table Row Payload Hash n)
    (transaction : Transaction Table Row Payload Hash) (table : Table) : Nat :=
  state.serials table + (transaction.session table).length

def State.flushed (state : State Table Row Payload Hash n)
    (transaction : Transaction Table Row Payload Hash) (table : Table) :
    List (Stored Row Hash) :=
  transaction.inserted table ++ number (state.serials table) (transaction.session table)

variable (tableOf : Row → Table) (digest : Option Hash → Payload → Hash)

section

variable [DecidableEq Table]

def State.added (state : State Table Row Payload Hash n)
    (transaction : Transaction Table Row Payload Hash) (row : Row) (payload : Payload)
    (rest : List (Statement Row Payload)) : Transaction Table Row Payload Hash :=
  let table := tableOf row
  let prev := tailHash (state.tables table ++ transaction.inserted table)
  { transaction with
    session := Function.update transaction.session table
      (transaction.session table ++ [⟨row, prev, digest prev payload⟩])
    program := rest }

def State.advance (state : State Table Row Payload Hash n) (worker : Fin n) :
    State Table Row Payload Hash n :=
  match state.workers worker with
  | none => state
  | some transaction =>
    match transaction.program with
    | [] =>
      { tables := fun table => state.tables table ++ state.flushed transaction table
        serials := state.counted transaction
        workers := Function.update state.workers worker none }
    | .flush :: rest =>
      { state with
        serials := state.counted transaction
        workers := Function.update state.workers worker (some
          { transaction with
            session := fun _ => []
            inserted := state.flushed transaction
            program := rest }) }
    | .append row payload :: rest =>
      if transaction.holds (tableOf row) then
        state.put worker (some (state.added tableOf digest transaction row payload rest))
      else if Free (state.holder (tableOf row)) worker (tableOf row) then
        state.put worker (some
          { transaction with holds := Function.update transaction.holds (tableOf row) true })
      else state

def next (program : Call → List (Statement Row Payload)) (state : State Table Row Payload Hash n) :
    Event Call n → State Table Row Payload Hash n
  | .call worker call =>
    match state.workers worker with
    | none => state.put worker (some (.begin (program call)))
    | some _ => state
  | .step worker => state.advance tableOf digest worker
  | .fail worker => state.put worker none

end

def State.initial : State Table Row Payload Hash n := ⟨fun _ => [], fun _ => 0, fun _ => none⟩

variable (payloadOf : Row → Payload)

/-- Every row is hashed by its own payload, and after a row nothing is appended to its journal
before a flush; `dirty` are the journals with rows that wait for one. -/
def Disciplined : List Table → List (Statement Row Payload) → Prop
  | _, [] => True
  | _, .flush :: rest => Disciplined [] rest
  | dirty, .append row payload :: rest =>
    payload = payloadOf row ∧ tableOf row ∉ dirty ∧ Disciplined (tableOf row :: dirty) rest

def rowDigest (prev : Option Hash) (row : Row) : Hash := digest prev (payloadOf row)

/-- A journal is in order, with numbers of its sequence, and chained. -/
structure Unbroken (rows : List (Stored Row Hash)) (serial : Nat) : Prop where
  numbered : Numbered serial rows
  chained : Chained (rowDigest digest payloadOf) none (entries rows)

/-- A transaction has written to the journals it has locked, and continues their chains. -/
structure Continues (state : State Table Row Payload Hash n)
    (transaction : Transaction Table Row Payload Hash) : Prop where
  disciplined : ∃ dirty, Disciplined tableOf payloadOf dirty transaction.program ∧
    ∀ table, table ∉ dirty → transaction.session table = []
  unlocked : ∀ table, transaction.holds table = false →
    transaction.inserted table = [] ∧ transaction.session table = []
  numbered : ∀ table, transaction.holds table = true →
    Numbered (state.serials table) (state.tables table ++ transaction.inserted table)
  chained : ∀ table, transaction.holds table = true →
    Chained (rowDigest digest payloadOf) none
      (entries (state.tables table ++ transaction.inserted table) ++ transaction.session table)

structure Sound (state : State Table Row Payload Hash n) : Prop where
  tables : ∀ table, Unbroken digest payloadOf (state.tables table) (state.serials table)
  exclusive : ∀ table, Exclusive (state.holder table)
  workers : ∀ worker transaction, state.workers worker = some transaction →
    Continues tableOf digest payloadOf state transaction

variable {tableOf digest payloadOf}
variable {state after : State Table Row Payload Hash n} {worker : Fin n}
  {transaction : Transaction Table Row Payload Hash}

variable {now : Option (Transaction Table Row Payload Hash)} {table : Table}

theorem holder_update (same : after.workers = Function.update state.workers worker now) :
    after.holder table = Function.update (state.holder table) worker
      (now.bind fun transaction => if transaction.holds table then some table else none) := by
  funext other
  by_cases own : other = worker
  · subst own
    simp [State.holder, same]
  · simp [State.holder, same, Function.update_of_ne own]

theorem holder_eq (held : state.workers worker = some transaction)
    (holds : transaction.holds table = true) : state.holder table worker = some table := by
  simp [State.holder, held, holds]

theorem Sound.other (sound : Sound tableOf digest payloadOf state) {other : Fin n}
    {another : Transaction Table Row Payload Hash} {table : Table} (different : other ≠ worker)
    (held : state.workers worker = some transaction)
    (present : state.workers other = some another) (holds : another.holds table = true) :
    transaction.holds table = false := by
  cases own : transaction.holds table with
  | false => rfl
  | true =>
    exact absurd (sound.exclusive table other worker table (holder_eq present holds)
      (holder_eq held own)) different

theorem Continues.of_same (continues : Continues tableOf digest payloadOf state transaction)
    (same : ∀ table, transaction.holds table = true →
      after.tables table = state.tables table ∧ after.serials table = state.serials table) :
    Continues tableOf digest payloadOf after transaction where
  disciplined := continues.disciplined
  unlocked := continues.unlocked
  numbered := fun table holds => by
    rw [(same table holds).1, (same table holds).2]
    exact continues.numbered table holds
  chained := fun table holds => by
    rw [(same table holds).1]
    exact continues.chained table holds

theorem continues_begin {program : List (Statement Row Payload)}
    (disciplined : Disciplined tableOf payloadOf [] program) :
    Continues tableOf digest payloadOf state (.begin program) where
  disciplined := ⟨[], disciplined, fun _ _ => rfl⟩
  unlocked := fun _ _ => ⟨rfl, rfl⟩
  numbered := fun _ none => nomatch none
  chained := fun _ none => nomatch none

theorem entries_flushed (table : Table) :
    entries (state.tables table ++ state.flushed transaction table) =
      entries (state.tables table ++ transaction.inserted table) ++ transaction.session table := by
  rw [State.flushed, ← List.append_assoc, entries_append, entries_number]

theorem Continues.numbered_flushed
    (continues : Continues tableOf digest payloadOf state transaction)
    (holds : transaction.holds table = true) :
    Numbered (state.counted transaction table)
      (state.tables table ++ state.flushed transaction table) := by
  rw [State.flushed, ← List.append_assoc]
  exact (continues.numbered table holds).flush (transaction.session table)

theorem Continues.flushed_unlocked
    (continues : Continues tableOf digest payloadOf state transaction)
    (free : transaction.holds table = false) :
    state.flushed transaction table = [] ∧
      state.counted transaction table = state.serials table := by
  obtain ⟨inserted, session⟩ := continues.unlocked table free
  simp [State.flushed, State.counted, inserted, session, number]

theorem Sound.put (sound : Sound tableOf digest payloadOf state)
    (locks : ∀ table transaction, now = some transaction → transaction.holds table = true →
      Free (state.holder table) worker table) (continues : ∀ transaction, now = some transaction →
      Continues tableOf digest payloadOf state transaction) :
    Sound tableOf digest payloadOf (state.put worker now) where
  tables := sound.tables
  exclusive := fun table => by
    have held : (state.put worker now).holder table = _ := holder_update rfl
    rw [held]
    apply (sound.exclusive table).update
    intro key own
    cases now with
    | none => cases own
    | some transaction =>
      cases holds : transaction.holds table with
      | false => simp [holds] at own
      | true =>
        have same : table = key := by simpa [holds] using own
        subst same
        exact locks table transaction rfl holds
  workers := fun other another present => by
    by_cases own : other = worker
    · subst own
      have held : now = some another := by simpa [State.put] using present
      exact (continues another held).of_same fun _ _ => ⟨rfl, rfl⟩
    · have earlier : state.workers other = some another := by
        simpa [State.put, Function.update_of_ne own] using present
      exact (sound.workers other another earlier).of_same fun _ _ => ⟨rfl, rfl⟩

theorem Unbroken.later {rows : List (Stored Row Hash)} {serial later : Nat}
    (unbroken : Unbroken digest payloadOf rows serial) (grows : serial ≤ later) :
    Unbroken digest payloadOf rows later :=
  ⟨⟨unbroken.numbered.ordered, fun row listed =>
    (unbroken.numbered.bounded row listed).trans grows⟩, unbroken.chained⟩

theorem Sound.others (sound : Sound tableOf digest payloadOf state)
    (held : state.workers worker = some transaction)
    (rows : ∀ table, transaction.holds table = false → after.tables table = state.tables table)
    (serials : after.serials = state.counted transaction) {other : Fin n}
    {another : Transaction Table Row Payload Hash} (different : other ≠ worker)
    (present : state.workers other = some another) :
    Continues tableOf digest payloadOf after another :=
  (sound.workers other another present).of_same fun table holds => by
    have free := sound.other different held present holds
    have kept := ((sound.workers worker transaction held).flushed_unlocked free).2
    exact ⟨rows table free, serials ▸ kept⟩

theorem sound_commit (sound : Sound tableOf digest payloadOf state)
    (held : state.workers worker = some transaction) :
    Sound tableOf digest payloadOf
      { tables := fun table => state.tables table ++ state.flushed transaction table
        serials := state.counted transaction
        workers := Function.update state.workers worker none } := by
  have continues := sound.workers worker transaction held
  constructor
  · intro table
    cases holds : transaction.holds table with
    | false =>
      obtain ⟨none, kept⟩ := continues.flushed_unlocked holds
      simpa [none, kept] using sound.tables table
    | true =>
      exact ⟨continues.numbered_flushed holds, by
        rw [entries_flushed]
        exact continues.chained table holds⟩
  · intro table
    rw [holder_update rfl]
    exact (sound.exclusive table).keep fun _ none => nomatch none
  · intro other another present
    have different : other ≠ worker := by
      rintro rfl
      simp at present
    dsimp only at present
    rw [Function.update_of_ne different] at present
    apply sound.others held _ rfl different present
    intro table free
    simp [(continues.flushed_unlocked free).1]

theorem sound_flush {rest : List (Statement Row Payload)}
    (sound : Sound tableOf digest payloadOf state)
    (held : state.workers worker = some transaction)
    (program : transaction.program = .flush :: rest) :
    Sound tableOf digest payloadOf
      { state with
        serials := state.counted transaction
        workers := Function.update state.workers worker (some
          { transaction with
            session := fun _ => []
            inserted := state.flushed transaction
            program := rest }) } := by
  have continues := sound.workers worker transaction held
  constructor
  · intro table
    exact (sound.tables table).later (Nat.le_add_right _ _)
  · intro table
    rw [holder_update rfl]
    apply (sound.exclusive table).keep
    intro key own
    simpa [State.holder, held] using own
  · intro other another present
    by_cases own : other = worker
    · subst own
      dsimp only at present
      rw [Function.update_self] at present
      cases present
      obtain ⟨dirty, disciplined, _⟩ := continues.disciplined
      rw [program] at disciplined
      exact
        { disciplined := ⟨[], disciplined, fun _ _ => rfl⟩
          unlocked := fun table free => ⟨(continues.flushed_unlocked free).1, rfl⟩
          numbered := fun table holds => continues.numbered_flushed holds
          chained := fun table holds => by
            rw [List.append_nil]
            have chained := continues.chained table holds
            rwa [← entries_flushed] at chained }
    · dsimp only at present
      rw [Function.update_of_ne own] at present
      apply sound.others held _ rfl own present
      exact fun _ _ => rfl

structure Transaction.Filed (tableOf : Row → Table)
    (transaction : Transaction Table Row Payload Hash) : Prop where
  session : ∀ table, ∀ entry ∈ transaction.session table, tableOf entry.row = table
  inserted : ∀ table, ∀ stored ∈ transaction.inserted table, tableOf stored.row = table

structure Filed (tableOf : Row → Table) (state : State Table Row Payload Hash n) : Prop where
  tables : ∀ table, ∀ stored ∈ state.tables table, tableOf stored.row = table
  workers : ∀ worker transaction, state.workers worker = some transaction → transaction.Filed tableOf

theorem Filed.put (filed : Filed tableOf state)
    (kept : ∀ transaction, now = some transaction → transaction.Filed tableOf) :
    Filed tableOf (state.put worker now) where
  tables := filed.tables
  workers := fun other another present => by
    by_cases own : other = worker
    · subst own
      exact kept another (by simpa [State.put] using present)
    · exact filed.workers other another (by simpa [State.put, Function.update_of_ne own] using present)

theorem Transaction.Filed.flushed (filed : transaction.Filed tableOf) {stored : Stored Row Hash}
    (listed : stored ∈ state.flushed transaction table) :
    tableOf stored.row = table := by
  rcases List.mem_append.mp listed with before | numbered
  · exact filed.inserted table stored before
  · exact filed.session table stored.toEntry (entry_of_mem_number numbered)

section

variable [DecidableEq Table]

theorem sound_added {row : Row} {payload : Payload} {rest : List (Statement Row Payload)}
    (sound : Sound tableOf digest payloadOf state)
    (held : state.workers worker = some transaction)
    (program : transaction.program = .append row payload :: rest)
    (locked : transaction.holds (tableOf row) = true) :
    Continues tableOf digest payloadOf state
      (state.added tableOf digest transaction row payload rest) := by
  have continues := sound.workers worker transaction held
  obtain ⟨dirty, disciplined, clean⟩ := continues.disciplined
  rw [program] at disciplined
  obtain ⟨own, flushed, later⟩ := disciplined
  have empty := clean (tableOf row) flushed
  refine ⟨⟨tableOf row :: dirty, later, ?_⟩, ?_, continues.numbered, ?_⟩
  · intro table quiet
    obtain ⟨different, untouched⟩ := not_or.mp (mt List.mem_cons.mpr quiet)
    simp only [State.added, Function.update_of_ne different]
    exact clean table untouched
  · intro table free
    have different : table ≠ tableOf row := by
      rintro rfl
      rw [show transaction.holds (tableOf row) = false from free] at locked
      cases locked
    simp only [State.added, Function.update_of_ne different]
    exact continues.unlocked table free
  · intro table holds
    have chained := continues.chained table holds
    by_cases same : table = tableOf row
    · subst same
      have tail := tailHash_eq (continues.numbered _ holds).ordered
      simp only [State.added, Function.update_self, empty, List.nil_append]
      rw [empty, List.append_nil] at chained
      rw [chained_append, tail, own]
      exact ⟨chained, rfl, rfl, trivial⟩
    · simp only [State.added, Function.update_of_ne same]
      exact chained

theorem sound_lock {table : Table} (sound : Sound tableOf digest payloadOf state)
    (held : state.workers worker = some transaction)
    (unlocked : transaction.holds table = false) :
    Continues tableOf digest payloadOf state
      { transaction with holds := Function.update transaction.holds table true } := by
  have continues := sound.workers worker transaction held
  obtain ⟨inserted, session⟩ := continues.unlocked table unlocked
  refine ⟨continues.disciplined, ?_, ?_, ?_⟩
  · intro other free
    have different : other ≠ table := by
      rintro rfl
      simp at free
    simp only [Function.update_of_ne different] at free
    exact continues.unlocked other free
  · intro other holds
    by_cases same : other = table
    · subst same
      simpa [inserted] using (sound.tables other).numbered
    · simp only [Function.update_of_ne same] at holds
      exact continues.numbered other holds
  · intro other holds
    by_cases same : other = table
    · subst same
      simpa [inserted, session] using (sound.tables other).chained
    · simp only [Function.update_of_ne same] at holds
      exact continues.chained other holds

theorem sound_advance (sound : Sound tableOf digest payloadOf state) :
    Sound tableOf digest payloadOf (state.advance tableOf digest worker) := by
  unfold State.advance
  cases held : state.workers worker with
  | none => exact sound
  | some transaction =>
    dsimp only
    split
    · exact sound_commit sound held
    · next program => exact sound_flush sound held program
    · next row payload rest program =>
        split
        · next locked =>
            apply sound.put
            · intro table _ same holds
              cases same
              exact (sound.exclusive table).free (holder_eq held holds)
            · intro _ same
              cases same
              exact sound_added sound held program locked
        · next unlocked =>
            split
            · next free =>
                apply sound.put
                · intro table _ same holds
                  cases same
                  by_cases own : table = tableOf row
                  · subst own
                    exact free
                  · simp only [Function.update_of_ne own] at holds
                    exact (sound.exclusive table).free (holder_eq held holds)
                · intro _ same
                  cases same
                  exact sound_lock sound held (Bool.not_eq_true _ ▸ unlocked)
            · exact sound

variable {program : Call → List (Statement Row Payload)}

theorem sound_next {event : Event Call n}
    (disciplined : ∀ call, Disciplined tableOf payloadOf [] (program call))
    (sound : Sound tableOf digest payloadOf state) :
    Sound tableOf digest payloadOf (next tableOf digest program state event) := by
  cases event with
  | call worker call =>
    simp only [next]
    split
    · apply sound.put
      · intro table _ same holds
        cases same
        cases holds
      · intro _ same
        cases same
        exact continues_begin (disciplined call)
    · exact sound
  | step worker => exact sound_advance sound
  | fail worker => exact sound.put (fun _ _ none => nomatch none) fun _ none => nomatch none

theorem filed_advance (filed : Filed tableOf state) :
    Filed tableOf (state.advance tableOf digest worker) := by
  unfold State.advance
  cases held : state.workers worker with
  | none => exact filed
  | some transaction =>
    have own := filed.workers worker transaction held
    dsimp only
    split
    · constructor
      · intro table stored listed
        rcases List.mem_append.mp listed with before | flushed
        · exact filed.tables table stored before
        · exact own.flushed flushed
      · have left : Filed tableOf (state.put worker none) := filed.put fun _ none => nomatch none
        exact left.workers
    · next rest _ =>
        let now : Transaction Table Row Payload Hash :=
          ⟨transaction.holds, fun _ => [], state.flushed transaction, rest⟩
        have flushed : Filed tableOf (state.put worker (some now)) := filed.put fun _ same => by
          cases same
          exact ⟨fun _ _ none => (nomatch none), fun _ _ listed => own.flushed listed⟩
        exact ⟨filed.tables, flushed.workers⟩
    · next row payload rest program =>
        split
        · refine filed.put fun _ same => ?_
          cases same
          refine ⟨fun table entry listed => ?_, own.inserted⟩
          by_cases target : table = tableOf row
          · subst target
            simp only [State.added, Function.update_self] at listed
            rcases List.mem_append.mp listed with before | added
            · exact own.session _ entry before
            · rw [List.mem_singleton.mp added]
          · simp only [State.added, Function.update_of_ne target] at listed
            exact own.session table entry listed
        · split
          · exact filed.put fun _ same => by
              cases same
              exact ⟨own.session, own.inserted⟩
          · exact filed

theorem filed_next {event : Event Call n} (filed : Filed tableOf state) :
    Filed tableOf (next tableOf digest program state event) := by
  cases event with
  | call worker call =>
    simp only [next]
    split
    · exact filed.put fun _ same => by
        cases same
        exact ⟨fun _ _ none => (nomatch none), fun _ _ none => (nomatch none)⟩
    · exact filed
  | step worker => exact filed_advance filed
  | fail worker => exact filed.put fun _ none => nomatch none

theorem run_filed (events : List (Event Call n)) (table : Table) :
    ∀ stored ∈ (run (next tableOf digest program) State.initial events).tables table,
      tableOf stored.row = table := by
  have initial : Filed tableOf (State.initial : State Table Row Payload Hash n) :=
    ⟨fun _ _ none => (nomatch none), fun _ _ none => (nomatch none)⟩
  have filed := run_invariant (next tableOf digest program) (Filed tableOf)
    initial (fun _ _ held => filed_next held) events
  exact filed.tables table

/-- However transactions that keep to the discipline come, wait and fail, every journal is in the
order of its numbers and chained. -/
theorem run_unbroken (events : List (Event Call n))
    (disciplined : ∀ call, Disciplined tableOf payloadOf [] (program call)) (table : Table) :
    Unbroken digest payloadOf
      ((run (next tableOf digest program) State.initial events).tables table)
      ((run (next tableOf digest program) State.initial events).serials table) := by
  have initial : Sound tableOf digest payloadOf
      (State.initial : State Table Row Payload Hash n) :=
    { tables := fun _ => ⟨⟨List.Pairwise.nil, fun _ none => nomatch none⟩, trivial⟩
      exclusive := fun _ => exclusive_of_none fun _ => rfl
      workers := fun _ _ none => nomatch none }
  have sound := run_invariant (next tableOf digest program) (Sound tableOf digest payloadOf)
    initial (fun _ _ held => sound_next disciplined held) events
  exact sound.tables table

end

end

end InfrasafeBot.Library.HashChain
