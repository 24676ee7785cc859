import Mathlib.Data.List.DropRight
import Std.Data.String.ToNat

/-! Texts put together from parts with a separator between them: a part that does not hold the
separator can be read off the text. -/

set_option autoImplicit false

namespace InfrasafeBot.Library

section

variable {Letter : Type} {separator : Letter} {left right leftTail rightTail : List Letter}

theorem first_separator_unique (leftFree : separator ∉ left) (rightFree : separator ∉ right)
    (same : left ++ separator :: leftTail = right ++ separator :: rightTail) :
    left = right ∧ leftTail = rightTail := by
  induction left generalizing right with
  | nil =>
    cases right with
    | nil => exact ⟨rfl, (List.cons.inj same).2⟩
    | cons head tail =>
      obtain ⟨rfl, _⟩ := List.cons.inj same
      exact absurd List.mem_cons_self rightFree
  | cons first others ih =>
    cases right with
    | nil =>
      obtain ⟨rfl, _⟩ := List.cons.inj same
      exact absurd List.mem_cons_self leftFree
    | cons head tail =>
      obtain ⟨heads, rest⟩ := List.cons.inj same
      obtain ⟨tails, suffixes⟩ := ih (fun member => leftFree (List.mem_cons_of_mem _ member))
        (fun member => rightFree (List.mem_cons_of_mem _ member)) rest
      exact ⟨by rw [heads, tails], suffixes⟩

theorem last_separator_unique (leftFree : separator ∉ leftTail)
    (rightFree : separator ∉ rightTail)
    (same : left ++ separator :: leftTail = right ++ separator :: rightTail) :
    left = right ∧ leftTail = rightTail := by
  have turned := congrArg List.reverse same
  simp only [List.reverse_append, List.reverse_cons, List.append_assoc, List.singleton_append]
    at turned
  obtain ⟨tails, heads⟩ := first_separator_unique (mt List.mem_reverse.mp leftFree)
    (mt List.mem_reverse.mp rightFree) turned
  exact ⟨List.reverse_injective heads, List.reverse_injective tails⟩

end

section

variable {Letter : Type} [DecidableEq Letter] {separator : Letter} {text left right : List Letter}

def rsplitOnce (separator : Letter) (text : List Letter) : List Letter × List Letter :=
  ((text.rdropWhile fun letter => letter ≠ separator).dropLast,
    text.rtakeWhile fun letter => letter ≠ separator)

theorem not_mem_rsplitOnce : separator ∉ (rsplitOnce separator text).2 := by
  have free : ∀ letter ∈ text.reverse.takeWhile fun letter => letter ≠ separator,
      letter ≠ separator := fun letter listed => by
    simpa using List.mem_takeWhile_imp listed
  intro listed
  exact free separator (List.mem_reverse.mp listed) rfl

theorem rsplitOnce_join (held : separator ∈ text) :
    (rsplitOnce separator text).1 ++ separator :: (rsplitOnce separator text).2 = text := by
  have full : (text.rdropWhile fun letter => letter ≠ separator) ≠ [] := by
    intro empty
    have free := List.rdropWhile_eq_nil_iff.mp empty separator held
    simp at free
  have last : (text.rdropWhile fun letter => letter ≠ separator).getLast full = separator := by
    simpa using List.rdropWhile_last_not _ _ full
  have split := List.dropLast_concat_getLast full
  rw [last] at split
  calc
    _ = (rsplitOnce separator text).1 ++ [separator] ++ (rsplitOnce separator text).2 := by simp
    _ = (text.rdropWhile fun letter => letter ≠ separator) ++
          (rsplitOnce separator text).2 := congrArg (· ++ _) split
    _ = text := List.rdropWhile_append_rtakeWhile

theorem rsplitOnce_append (free : separator ∉ right) :
    rsplitOnce separator (left ++ separator :: right) = (left, right) := by
  have held : separator ∈ left ++ separator :: right := List.mem_append_right left List.mem_cons_self
  obtain ⟨before, after⟩ := last_separator_unique not_mem_rsplitOnce free (rsplitOnce_join held)
  exact Prod.ext before after

end

theorem not_mem_repr {separator : Char} (other : separator.isDigit = false) (number : Nat) :
    separator ∉ number.repr.toList := by
  intro member
  rw [Nat.toList_repr] at member
  have digit := Nat.isDigit_of_mem_toDigits (by decide) (by decide) member
  rw [other] at digit
  cases digit

theorem repr_toList_injective {first second : Nat}
    (same : first.repr.toList = second.repr.toList) : first = second :=
  Nat.repr_injective (String.toList_inj.mp same)

end InfrasafeBot.Library
