import InfrasafeBot.Library.Table

/-! Rows that hang on rows of another table: a row that is alive needs a parent that is. What a
write of either table does to that. -/

set_option autoImplicit false

namespace InfrasafeBot.Library

variable {Parent Child : Type} {Key ChildKey : Type} {key : Parent → Key}
  {childKey : Child → ChildKey}

namespace Table

variable [DecidableEq Key] {table : Table key} {wanted : Key} {live : Parent → Bool}

theorem find?_any_iff :
    (table.find? wanted).any live = true ↔
      ∃ row ∈ table.rows, key row = wanted ∧ live row = true := by
  constructor
  · intro held
    cases found : table.find? wanted with
    | none =>
      rw [found] at held
      cases held
    | some row =>
      rw [found] at held
      exact ⟨row, mem_of_find? found, key_of_find? found, held⟩
  · rintro ⟨row, listed, rfl, held⟩
    rw [find?_of_mem listed]
    exact held

end Table

section

variable [DecidableEq Key] (live : Parent → Bool) (alive : Child → Bool) (parentOf : Child → Key)

def Rooted (parents : Table key) (children : Table childKey) : Prop :=
  ∀ child ∈ children.rows, alive child = true → (parents.find? (parentOf child)).any live = true

instance rootedDecidable (parents : Table key) (children : Table childKey) :
    Decidable (Rooted live alive parentOf parents children) :=
  inferInstanceAs (Decidable (∀ child ∈ children.rows, alive child = true →
    (parents.find? (parentOf child)).any live = true))

variable {live alive parentOf} {parents after : Table key} {children : Table childKey}

theorem Rooted.of_parents (rooted : Rooted live alive parentOf parents children)
    (kept : ∀ row ∈ parents.rows, live row = true →
      ∃ row' ∈ after.rows, key row' = key row ∧ live row' = true) :
    Rooted live alive parentOf after children := by
  intro child listed lives
  obtain ⟨row, found, same, held⟩ := Table.find?_any_iff.mp (rooted child listed lives)
  obtain ⟨row', foundAfter, sameAfter, heldAfter⟩ := kept row found held
  exact Table.find?_any_iff.mpr ⟨row', foundAfter, sameAfter.trans same, heldAfter⟩

variable {condition : Parent → Bool} {change : Parent → Parent}
  {keeps : ∀ row, key (change row) = key row}

theorem Rooted.update_parent (rooted : Rooted live alive parentOf parents children)
    (survives : ∀ row ∈ parents.rows, condition row = true → live row = true → live (change row) = true) :
    Rooted live alive parentOf (parents.update condition change keeps) children := by
  refine rooted.of_parents fun row listed held => ?_
  refine ⟨if condition row then change row else row, List.mem_map_of_mem listed, ?_, ?_⟩
  · split
    · exact keeps row
    · rfl
  · split
    · next chosen => exact survives row listed chosen held
    · exact held

theorem rooted_kill_parent_iff {wanted : Key}
    (rooted : Rooted live alive parentOf parents children)
    (selects : ∀ row, condition row = true ↔ key row = wanted)
    (dies : ∀ row ∈ parents.rows, key row = wanted → live (change row) = false) :
    Rooted live alive parentOf (parents.update condition change keeps) children ↔
      ∀ child ∈ children.rows, parentOf child = wanted → alive child = false := by
  constructor
  · intro after child listed own
    cases lives : alive child with
    | false => rfl
    | true =>
      obtain ⟨row, found, same, held⟩ := Table.find?_any_iff.mp (after child listed lives)
      obtain ⟨old, before, rfl⟩ := (Table.mem_update keeps).mp found
      by_cases chosen : condition old = true
      · rw [if_pos chosen, dies old before ((selects old).mp chosen)] at held
        cases held
      · rw [if_neg chosen] at same
        exact absurd ((selects old).mpr (same.trans own)) chosen
  · intro dead child listed lives
    obtain ⟨row, found, same, held⟩ := Table.find?_any_iff.mp (rooted child listed lives)
    have unchosen : ¬ condition row = true := by
      intro chosen
      rw [dead child listed (same.symm.trans ((selects row).mp chosen))] at lives
      cases lives
    exact Table.find?_any_iff.mpr ⟨row, List.mem_map.mpr ⟨row, found, if_neg unchosen⟩, same, held⟩

theorem rooted_update_child_iff {condition : Child → Bool} {change : Child → Child}
    {keeps : ∀ row, childKey (change row) = childKey row}
    (rooted : Rooted live alive parentOf parents children) :
    Rooted live alive parentOf parents (children.update condition change keeps) ↔
      ∀ child ∈ children.rows, condition child = true → alive (change child) = true →
        (parents.find? (parentOf (change child))).any live = true := by
  constructor
  · intro after child listed chosen lives
    exact after (change child) (List.mem_map.mpr ⟨child, listed, if_pos chosen⟩) lives
  · intro changed child listed lives
    obtain ⟨old, before, rfl⟩ := (Table.mem_update keeps).mp listed
    by_cases chosen : condition old = true
    · rw [if_pos chosen] at lives ⊢
      exact changed old before chosen lives
    · rw [if_neg chosen] at lives ⊢
      exact rooted old before lives

end

section

variable {Key : Type} [DecidableEq Key] {key : Parent → Key} {childKey : Child → Nat}
  {live : Parent → Bool} {alive : Child → Bool} {parentOf : Child → Key} {parents : Table key}
  {children : Table childKey}

theorem rooted_insert_child_iff (rooted : Rooted live alive parentOf parents children)
    {make : Nat → Child} (numbered : ∀ id, childKey (make id) = id) :
    Rooted live alive parentOf parents (children.insert make numbered) ↔
      (alive (make children.nextKey) = true →
        (parents.find? (parentOf (make children.nextKey))).any live = true) := by
  constructor
  · intro after lives
    exact after _ ((Table.mem_insert numbered).mpr (.inr rfl)) lives
  · intro added child listed lives
    rcases (Table.mem_insert numbered).mp listed with before | rfl
    · exact rooted child before lives
    · exact added lives

theorem Rooted.insert_parent {key : Parent → Nat} {parentOf : Child → Nat} {parents : Table key}
    {ChildKey : Type} {childKey : Child → ChildKey} {children : Table childKey}
    (rooted : Rooted live alive parentOf parents children) {make : Nat → Parent}
    (numbered : ∀ id, key (make id) = id) :
    Rooted live alive parentOf (parents.insert make numbered) children :=
  rooted.of_parents fun row listed held => ⟨row, (Table.mem_insert numbered).mpr (.inl listed), rfl, held⟩

end

end InfrasafeBot.Library
