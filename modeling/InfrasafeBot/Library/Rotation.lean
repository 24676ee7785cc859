import Mathlib.Data.List.Basic
import Mathlib.Algebra.GroupWithZero.Nat
import Mathlib.Data.List.Sort

/-! Round-robin service of a sorted list: a cursor remembers the last item served, the
next round starts after it and wraps around. -/

set_option autoImplicit false

namespace InfrasafeBot.Library

section

variable {Row Key : Type} [LinearOrder Key] {key : Row → Key} {cursor : Option Key}
  {rows front back : List Row} {last row : Row} {slots : Nat}

def past (key : Row → Key) (cursor : Option Key) (row : Row) : Bool :=
  match cursor with
  | none => true
  | some reached => reached < key row

def rotatedRows (key : Row → Key) (cursor : Option Key) (rows : List Row) : List Row :=
  rows.filter (past key cursor) ++ rows.filter fun row => !past key cursor row

theorem rotation_perm : (rotatedRows key cursor rows).Perm rows :=
  List.filter_append_perm (past key cursor) rows

theorem mem_rotation : row ∈ rotatedRows key cursor rows ↔ row ∈ rows := rotation_perm.mem_iff

theorem length_rotation : (rotatedRows key cursor rows).length = rows.length := rotation_perm.length_eq

section

variable (sorted : rows.Pairwise fun left right => key left < key right)

include sorted

theorem split_at_cursor :
    rows = (rows.filter fun row => !past key cursor row) ++ rows.filter (past key cursor) := by
  induction rows with
  | nil => rfl
  | cons row rest ih =>
    obtain ⟨below, tail⟩ := List.pairwise_cons.mp sorted
    cases reached : past key cursor row with
    | false =>
      rw [List.filter_cons_of_pos (by simp [reached]),
        List.filter_cons_of_neg (by simp [reached]), List.cons_append, ← ih tail]
    | true =>
      have all : ∀ other ∈ rest, past key cursor other = true := by
        intro other member
        cases cursor with
        | none => rfl
        | some start =>
          have begun : start < key row := of_decide_eq_true reached
          exact decide_eq_true (begun.trans (below other member))
      have nothing : (rest.filter fun other => !past key cursor other) = [] :=
        List.filter_eq_nil_iff.mpr fun other member => by simp [all other member]
      rw [List.filter_cons_of_neg (by simp [reached]), List.filter_cons_of_pos reached,
        nothing, List.filter_eq_self.mpr all]
      rfl

theorem rotation_at (split : rows = front ++ last :: back) :
    rotatedRows key (some (key last)) rows = back ++ (front ++ [last]) := by
  subst split
  obtain ⟨_, right, across⟩ := List.pairwise_append.mp sorted
  obtain ⟨above, _⟩ := List.pairwise_cons.mp right
  have before : ∀ other ∈ front, past key (some (key last)) other = false := by
    intro other member
    exact decide_eq_false (lt_asymm (across other member last List.mem_cons_self))
  have after : ∀ other ∈ back, past key (some (key last)) other = true := fun other member =>
    decide_eq_true (above other member)
  have itself : past key (some (key last)) last = false := decide_eq_false (lt_irrefl _)
  have none_before : front.filter (past key (some (key last))) = [] :=
    List.filter_eq_nil_iff.mpr fun other member => by simp [before other member]
  have none_after : (back.filter fun other => !past key (some (key last)) other) = [] :=
    List.filter_eq_nil_iff.mpr fun other member => by simp [after other member]
  have all_before : (front.filter fun other => !past key (some (key last)) other) = front :=
    List.filter_eq_self.mpr fun other member => by simp [before other member]
  unfold rotatedRows
  simp only [List.filter_append, List.filter_cons, itself, none_before, none_after, all_before,
    List.filter_eq_self.mpr after]
  simp

theorem rotation_advance (split : rotatedRows key cursor rows = front ++ last :: back) :
    rotatedRows key (some (key last)) rows = back ++ (front ++ [last]) := by
  have ordered : rows = _ ++ rows.filter (past key cursor) := split_at_cursor sorted
  unfold rotatedRows at split
  generalize (rows.filter fun row => !past key cursor row) = earlier at ordered split
  generalize rows.filter (past key cursor) = later at ordered split
  rcases List.append_eq_append_iff.mp split with ⟨middle, atFront, atEarlier⟩ |
    ⟨middle, atLater, atBack⟩
  · have around : rows = middle ++ last :: (back ++ later) := by
      rw [ordered, atEarlier, List.append_assoc, List.cons_append]
    rw [rotation_at sorted around, atFront]
    simp
  · cases middle with
    | nil =>
      have around : rows = [] ++ last :: (back ++ front) := by
        rw [ordered, atLater, List.append_nil, ← List.nil_append earlier, ← atBack]
        simp
      rw [rotation_at sorted around]
      simp
    | cons first rest =>
      obtain ⟨rfl, rfl⟩ := List.cons.inj atBack
      have around : rows = (earlier ++ front) ++ last :: rest := by
        rw [ordered, atLater, List.append_assoc]
      rw [rotation_at sorted around]
      simp

end

def served (key : Row → Key) (slots : Nat) (cursor : Option Key) (rows : List Row) : List Row :=
  (rotatedRows key cursor rows).take slots

def advance (key : Row → Key) (cursor : Option Key) (taken : List Row) : Option Key :=
  match taken.getLast? with
  | some last => some (key last)
  | none => cursor

theorem rotation_served (sorted : rows.Pairwise fun left right => key left < key right) :
    rotatedRows key (advance key cursor (served key slots cursor rows)) rows =
      (rotatedRows key cursor rows).drop slots ++ served key slots cursor rows := by
  have whole := List.take_append_drop slots (rotatedRows key cursor rows)
  unfold advance
  cases ending : (served key slots cursor rows).getLast? with
  | none =>
    have empty : served key slots cursor rows = [] := List.getLast?_eq_none_iff.mp ending
    unfold served at empty ⊢
    rw [empty, List.nil_append] at whole
    rw [empty, List.append_nil, whole]
  | some last =>
    obtain ⟨front, taken⟩ := List.getLast?_eq_some_iff.mp ending
    unfold served at taken ⊢
    rw [taken, List.append_assoc] at whole
    rw [taken]
    exact rotation_advance sorted whole.symm

def rounds (key : Row → Key) (rows : List Row) : Option Key → List Nat → List (List Row)
  | _, [] => []
  | cursor, slots :: rest =>
    let taken := served key slots cursor rows
    taken :: rounds key rows (advance key cursor taken) rest

theorem served_by_position (sorted : rows.Pairwise fun left right => key left < key right)
    {counts : List Nat} (placed : rotatedRows key cursor rows = front ++ row :: back)
    (enough : front.length < counts.sum) :
    ∃ taken ∈ rounds key rows cursor counts, row ∈ taken := by
  induction counts generalizing cursor front back with
  | nil => exact absurd enough (Nat.not_lt_zero _)
  | cons slots rest ih =>
    by_cases soon : front.length < slots
    · refine ⟨_, List.mem_cons_self, ?_⟩
      unfold served
      rw [placed, List.take_append, List.mem_append]
      right
      obtain ⟨spare, more⟩ : ∃ spare, slots - front.length = spare + 1 :=
        ⟨slots - front.length - 1, by omega⟩
      rw [more]
      exact List.mem_cons_self
    · have next : rotatedRows key (advance key cursor (served key slots cursor rows)) rows =
          front.drop slots ++ row :: (back ++ served key slots cursor rows) := by
        rw [rotation_served sorted, placed,
          List.drop_append_of_le_length (Nat.le_of_not_lt soon), List.append_assoc,
          List.cons_append]
      obtain ⟨taken, listed, member⟩ := ih next (by
        rw [List.sum_cons] at enough
        rw [List.length_drop]
        omega)
      exact ⟨taken, List.mem_cons_of_mem _ listed, member⟩

/-- Once the slots of the rounds add up to the number of rows, every row has been
served. -/
theorem rounds_serve_all (sorted : rows.Pairwise fun left right => key left < key right)
    {counts : List Nat} (enough : rows.length ≤ counts.sum) (member : row ∈ rows) :
    ∃ taken ∈ rounds key rows cursor counts, row ∈ taken := by
  have listed : row ∈ rotatedRows key cursor rows := mem_rotation.mpr member
  obtain ⟨front, back, placed⟩ := List.append_of_mem listed
  refine served_by_position sorted placed ?_
  have total : (rotatedRows key cursor rows).length = rows.length := length_rotation
  rw [placed, List.length_append, List.length_cons] at total
  omega

end

end InfrasafeBot.Library
