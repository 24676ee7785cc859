import InfrasafeBot.Library.Interleaving
import InfrasafeBot.Library.Table
import InfrasafeBot.RequestWorkflow.Types

/-! The numbers of requests and the counters of the days
(`services/request_number_service.py`), for transactions that run one statement after the
other. The row of a counter is locked from its upsert to the end of the transaction, and so is
a request that is inserted or deleted. -/

set_option autoImplicit false

namespace InfrasafeBot.RequestNumbers

open Library RequestWorkflow

structure BusinessDate where
  year : Nat
  month : Nat
  day : Nat
  deriving DecidableEq

structure DayPrefix where
  text : List Char
  six : text.length = 6
  deriving DecidableEq

def twoDigits (value : Nat) : List Char := [Nat.digitChar (value / 10 % 10), Nat.digitChar (value % 10)]

def BusinessDate.dayPrefix (date : BusinessDate) : DayPrefix where
  text := twoDigits date.year ++ twoDigits date.month ++ twoDigits date.day
  six := rfl

def formatNumber (day : DayPrefix) (seq : Nat) : RequestNumber :=
  String.ofList (day.text ++ '-' :: (Nat.toDigits 10 seq).leftpad 3 '0')

def ofDay (day : DayPrefix) (number : RequestNumber) : Bool := (day.text ++ ['-']).isPrefixOf number.toList

def suffix (number : RequestNumber) : List Char := number.toList.drop 7

def seqOf (number : RequestNumber) : Nat := Nat.ofDigitChars 10 (suffix number) 0

def maxInteger : Nat := 2147483647

def castable (number : RequestNumber) : Bool :=
  suffix number ≠ [] && (suffix number).all Char.isDigit && seqOf number ≤ maxInteger

/-- `COALESCE((SELECT MAX(CAST(…)) FROM requests WHERE …), 0)`; `none` where a cast fails. -/
def maxSuffix (day : DayPrefix) (numbers : List RequestNumber) : Option Nat :=
  let rows := numbers.filter (ofDay day)
  if rows.all castable then some ((rows.map seqOf).foldr max 0) else none

@[simp] theorem toList_formatNumber (day : DayPrefix) (seq : Nat) :
    (formatNumber day seq).toList = day.text ++ '-' :: (Nat.toDigits 10 seq).leftpad 3 '0' := by
  simp [formatNumber]

theorem suffix_formatNumber (day : DayPrefix) (seq : Nat) :
    suffix (formatNumber day seq) = (Nat.toDigits 10 seq).leftpad 3 '0' := by
  unfold suffix
  rw [toList_formatNumber, ← List.singleton_append, ← List.append_assoc]
  exact List.drop_left' (by simp [day.six])

@[simp] theorem seqOf_formatNumber (day : DayPrefix) (seq : Nat) : seqOf (formatNumber day seq) = seq := by
  rw [seqOf, suffix_formatNumber, List.leftpad, Nat.ofDigitChars_append,
    Nat.ofDigitChars_replicate_zero, Nat.mul_zero,
    Nat.ofDigitChars_toDigits (by decide) (by decide)]

@[simp] theorem ofDay_formatNumber {day other : DayPrefix} {seq : Nat} :
    ofDay day (formatNumber other seq) = true ↔ day = other := by
  unfold ofDay
  rw [List.isPrefixOf_iff_prefix, toList_formatNumber]
  constructor
  · intro starts
    have own : other.text ++ ['-'] <+: other.text ++ '-' :: (Nat.toDigits 10 seq).leftpad 3 '0' :=
      ⟨(Nat.toDigits 10 seq).leftpad 3 '0', by simp⟩
    have sizes : (day.text ++ ['-']).length = (other.text ++ ['-']).length := by
      simp [day.six, other.six]
    have whole := List.prefix_of_prefix_length_le starts own sizes.le
    have same := whole.eq_of_length sizes
    cases day
    cases other
    simpa using same
  · rintro rfl
    exact ⟨(Nat.toDigits 10 seq).leftpad 3 '0', by simp⟩

theorem seqOf_le_maxSuffix {day : DayPrefix} {numbers : List RequestNumber} {seed : Nat}
    (found : maxSuffix day numbers = some seed) {number : RequestNumber}
    (listed : number ∈ numbers) (own : ofDay day number = true) : seqOf number ≤ seed := by
  unfold maxSuffix at found
  dsimp only at found
  split at found
  · cases found
    exact le_foldr_max _ _
      (List.mem_map_of_mem (List.mem_filter.mpr ⟨listed, own⟩))
  · cases found

structure RequestNumberCounter where
  dayPrefix : DayPrefix
  lastSeq : Nat

inductive RequestWrite where
  | insert (number : RequestNumber)
  | delete (number : RequestNumber)

def RequestWrite.number : RequestWrite → RequestNumber
  | .insert number => number
  | .delete number => number

def RequestWrite.apply (numbers : List RequestNumber) : RequestWrite → List RequestNumber
  | .insert number => numbers ++ [number]
  | .delete number => numbers.filter (· ≠ number)

def applyWrites (numbers : List RequestNumber) (writes : List RequestWrite) : List RequestNumber :=
  writes.foldl RequestWrite.apply numbers

structure Work where
  counters : Table RequestNumberCounter.dayPrefix
  writes : List RequestWrite

def Work.empty : Work := ⟨.empty, []⟩

def Work.setCounter (work : Work) (day : DayPrefix) (seq : Nat) : Work :=
  { work with counters := work.counters.save ⟨day, seq⟩ }

def Work.write (work : Work) (write : RequestWrite) : Work := { work with writes := work.writes ++ [write] }

def Work.created (work : Work) : List RequestNumber :=
  work.writes.filterMap fun
    | .insert number => some number
    | .delete _ => none

/-- The committed rows, and the numbers of the requests that were created, in the order of the
commits, with those that have been deleted since. -/
structure NumberStore where
  requests : List RequestNumber
  counters : Table RequestNumberCounter.dayPrefix
  created : List RequestNumber

namespace NumberStore

variable (store : NumberStore)

def visible (work : Work) : List RequestNumber := applyWrites store.requests work.writes

def lastSeq (work : Work) (day : DayPrefix) : Option Nat :=
  ((work.counters.find? day).or (store.counters.find? day)).map (·.lastSeq)

def commit (work : Work) : NumberStore where
  requests := store.visible work
  counters := work.counters.rows.foldl Table.save store.counters
  created := store.created ++ work.created

/-- Old requests, and no counter yet. -/
def opening (old : List RequestNumber) : NumberStore := ⟨old, .empty, []⟩

end NumberStore

inductive NumberAction where
  | create (date : BusinessDate)
  /-- `next_number` for nothing -/
  | take (date : BusinessDate)
  | delete (number : RequestNumber)

inductive NumberStage where
  | idle
  | working (work : Work) (actions : List NumberAction)
  | upserting (work : Work) (day : DayPrefix) (seed : Nat) (creates : Bool)
      (actions : List NumberAction)
  | numbered (work : Work) (day : DayPrefix) (seq : Nat) (creates : Bool)
      (actions : List NumberAction)
  | committed
  | refused

def numberWidth : Nat := 15

def performNumber (store : NumberStore) : NumberStage → NumberStore × NumberStage
  | .idle => (store, .idle)
  | .working work [] => (store.commit work, .committed)
  | .working work (.create date :: actions) =>
    match maxSuffix date.dayPrefix (store.visible work) with
    | none => (store, .refused)
    | some seed => (store, .upserting work date.dayPrefix seed true actions)
  | .working work (.take date :: actions) =>
    match maxSuffix date.dayPrefix (store.visible work) with
    | none => (store, .refused)
    | some seed => (store, .upserting work date.dayPrefix seed false actions)
  | .working work (.delete number :: actions) =>
    if number ∈ store.visible work then (store, .working (work.write (.delete number)) actions)
    else (store, .working work actions)
  -- the seed is what the statement has read before it waited for the row of the counter
  | .upserting work day seed creates actions =>
    let seq := (store.lastSeq work day).getD seed + 1
    if maxInteger < seq then (store, .refused)
    else (store, .numbered (work.setCounter day seq) day seq creates actions)
  | .numbered work day seq creates actions =>
    let number := formatNumber day seq
    if creates = false then (store, .working work actions)
    else if number ∈ store.visible work ∨ numberWidth < number.length then (store, .refused)
    else (store, .working (work.write (.insert number)) actions)
  | .committed => (store, .committed)
  | .refused => (store, .refused)

inductive NumberLock where
  | counter (day : DayPrefix)
  | request (number : RequestNumber)
  deriving DecidableEq

def Work.locks (work : Work) : List NumberLock :=
  work.counters.rows.map (.counter ·.dayPrefix) ++ work.writes.map (.request ·.number)

def NumberStage.locks : NumberStage → List NumberLock
  | .working work _ => work.locks
  | .upserting work _ _ _ _ => work.locks
  | .numbered work _ _ _ _ => work.locks
  | .idle => []
  | .committed => []
  | .refused => []

def NumberStage.free : NumberStage → Bool
  | .idle => true
  | .committed => true
  | .refused => true
  | _ => false

/-- A transaction is called with what it does before its commit. -/
def numberProgram : Program NumberStore NumberStage (List NumberAction) NumberLock where
  idle := .idle
  start := .working .empty
  free := NumberStage.free
  perform := performNumber
  locks := NumberStage.locks
  idle_unlocked := rfl
  start_unlocked := fun _ => rfl

end InfrasafeBot.RequestNumbers
