import Mathlib.Data.List.Nodup
import Mathlib.Data.List.MinMax

/-! Database tables with a primary key. A table carries the uniqueness of its
keys, so every operation has to keep it. `Table.update` is an SQL `UPDATE`,
`Table.put` the flush of one changed row, and `Table.rowcount` the number of
rows a condition selects. -/

set_option autoImplicit false

namespace InfrasafeBot.Library

/-- What a flush leaves in a column: one that is set to what has been loaded is not written. -/
def assignedColumn {Value : Type} [DecidableEq Value] (value loaded stored : Value) : Value :=
  if value = loaded then stored else value

structure Table {Row Key : Type} (key : Row → Key) where
  rows : List Row
  unique : (rows.map key).Nodup

variable {Row : Type}

namespace Table

variable {Key : Type} {key : Row → Key}

def empty : Table key := ⟨[], by simp⟩

def update (table : Table key) (condition : Row → Bool) (change : Row → Row)
    (keeps : ∀ row, key (change row) = key row) : Table key where
  rows := table.rows.map fun row => if condition row then change row else row
  unique := by
    have same : (fun row => key (if condition row then change row else row)) = key := by
      funext row
      split
      · exact keeps row
      · rfl
    rw [List.map_map]
    change (table.rows.map fun row => key (if condition row then change row else row)).Nodup
    rw [same]
    exact table.unique

def rowcount (table : Table key) (condition : Row → Bool) : Nat := table.rows.countP condition

theorem filter_update {table : Table key} {condition : Row → Bool} {change : Row → Row}
    {keeps : ∀ row, key (change row) = key row} {selects : Row → Bool}
    (stable : ∀ row ∈ table.rows, condition row = true → selects (change row) = selects row) :
    (table.update condition change keeps).rows.filter selects =
      (table.rows.filter selects).map fun row => if condition row then change row else row := by
  obtain ⟨rows, unique⟩ := table
  simp only [update] at stable ⊢
  clear unique
  induction rows with
  | nil => rfl
  | cons row rest ih =>
    have tail := ih fun later member => stable later (List.mem_cons_of_mem _ member)
    cases hit : condition row with
    | true =>
      have same := stable row List.mem_cons_self hit
      cases listed : selects row with
      | true | false => simp [hit, same, listed, tail]
    | false =>
      cases listed : selects row with
      | true | false => simp [hit, listed, tail]

variable {change : Row → Row} {condition selects : Row → Bool} {table : Table key}
  {row changed : Row} {wanted : Key}

theorem filter_update_of_leaving {keeps : ∀ row, key (change row) = key row}
    (leaves : ∀ row ∈ table.rows, condition row = true → selects (change row) = false) :
    (table.update condition change keeps).rows.filter selects =
      table.rows.filter fun row => selects row && !condition row := by
  obtain ⟨rows, unique⟩ := table
  simp only [update] at leaves ⊢
  clear unique
  induction rows with
  | nil => rfl
  | cons row rest ih =>
    have tail := ih fun later member => leaves later (List.mem_cons_of_mem _ member)
    cases hit : condition row with
    | true => simp [hit, leaves row List.mem_cons_self hit, tail]
    | false => simp [hit, List.filter_cons, tail]

theorem filter_update_of_disjoint {table : Table key} {condition : Row → Bool}
    {change : Row → Row} {keeps : ∀ row, key (change row) = key row} {selects : Row → Bool}
    (disjoint : ∀ row ∈ table.rows, condition row = true → selects row = false)
    (stays : ∀ row ∈ table.rows, condition row = true → selects (change row) = false) :
    (table.update condition change keeps).rows.filter selects = table.rows.filter selects := by
  rw [filter_update_of_leaving stays]
  refine List.filter_congr fun row member => ?_
  cases hit : condition row with
  | true => simp [disjoint row member hit]
  | false => simp

def delete (table : Table key) (condition : Row → Bool) : Table key where
  rows := table.rows.filter fun row => !condition row
  unique := table.unique.sublist (List.filter_sublist.map key)

theorem mem_delete : row ∈ (table.delete condition).rows ↔ row ∈ table.rows ∧ condition row = false := by
  simp only [delete, List.mem_filter, Bool.not_eq_true']

theorem mem_update (keeps : ∀ row, key (change row) = key row) :
    row ∈ (table.update condition change keeps).rows ↔
      ∃ old ∈ table.rows, (if condition old then change old else old) = row :=
  List.mem_map

theorem eq_of_key {left right : Row} (listed : left ∈ table.rows) (listedToo : right ∈ table.rows)
    (same : key left = key right) : left = right :=
  List.inj_on_of_nodup_map table.unique listed listedToo same

theorem rowcount_le_one (once : ∀ left ∈ table.rows, ∀ right ∈ table.rows,
      condition left = true → condition right = true → left = right) :
    table.rowcount condition ≤ 1 := by
  have distinct : (table.rows.filter condition).Nodup := (table.unique.of_map key).filter _
  rw [rowcount, List.countP_eq_length_filter]
  match selected : table.rows.filter condition with
  | [] => simp
  | [_] => simp
  | left :: right :: rest =>
    have listed : ∀ row ∈ left :: right :: rest, row ∈ table.rows ∧ condition row = true :=
      fun row member => List.mem_filter.mp (selected ▸ member)
    have first := listed left (by simp)
    have second := listed right (by simp)
    have same := once left first.1 right second.1 first.2 second.2
    rw [selected, same] at distinct
    simp at distinct

variable [DecidableEq Key]

def find? (table : Table key) (wanted : Key) : Option Row := table.rows.find? fun row => key row = wanted

def put (table : Table key) (changed : Row) : Table key where
  rows := table.rows.map fun row => if key row = key changed then changed else row
  unique := by
    have same : (fun row => key (if key row = key changed then changed else row)) = key := by
      funext row
      by_cases hit : key row = key changed
      · simp [hit]
      · simp [hit]
    rw [List.map_map]
    change (table.rows.map fun row => key (if key row = key changed then changed else row)).Nodup
    rw [same]
    exact table.unique

theorem mem_put (listed : row ∈ (table.put changed).rows) :
    row = changed ∨ row ∈ table.rows ∧ key row ≠ key changed := by
  obtain ⟨old, before, rfl⟩ := List.mem_map.mp listed
  split
  · exact .inl rfl
  · next other => exact .inr ⟨before, other⟩

theorem rowcount_put {table : Table key} {changed row : Row} (condition : Row → Bool)
    (found : table.find? (key changed) = some row) :
    (table.put changed).rowcount condition + (if condition row then 1 else 0) =
      table.rowcount condition + (if condition changed then 1 else 0) := by
  obtain ⟨rows, unique⟩ := table
  simp only [find?, put, rowcount] at found ⊢
  induction rows with
  | nil => simp at found
  | cons head tail ih =>
    obtain ⟨fresh, distinct⟩ := List.nodup_cons.mp unique
    rw [List.map_cons, List.countP_cons, List.countP_cons]
    by_cases hit : key head = key changed
    · have alone : tail.map (fun other => if key other = key changed then changed else other) =
          tail := by
        refine (List.map_congr_left fun other listed => ?_).trans (List.map_id tail)
        refine if_neg fun (same : key other = key changed) => fresh ?_
        rw [hit, ← same]
        exact List.mem_map_of_mem listed
      rw [List.find?_cons_of_pos (by simpa using hit), Option.some.injEq] at found
      rw [alone, if_pos hit, found]
      omega
    · rw [List.find?_cons_of_neg (by simpa using hit)] at found
      have later := ih distinct found
      rw [if_neg hit]
      omega

@[simp] theorem find?_put_self (found : table.find? (key changed) = some row) :
    (table.put changed).find? (key changed) = some changed := by
  obtain ⟨rows, unique⟩ := table
  simp only [find?, put] at found ⊢
  clear unique
  induction rows with
  | nil => simp at found
  | cons head tail ih =>
    by_cases hit : key head = key changed
    · simp [hit]
    · simp only [List.find?_cons, hit, decide_false] at found
      simpa [hit] using ih found

theorem find?_put_of_ne (different : wanted ≠ key changed) :
    (table.put changed).find? wanted = table.find? wanted := by
  obtain ⟨rows, unique⟩ := table
  simp only [find?, put]
  clear unique
  induction rows with
  | nil => rfl
  | cons head tail ih =>
    by_cases hit : key head = key changed
    · have missed : ¬ key changed = wanted := fun same => different same.symm
      simp only [List.map_cons, hit, if_true, List.find?_cons, missed, decide_false]
      exact ih
    · simp only [List.map_cons, hit, if_false, List.find?_cons, ih]

theorem find?_update {keeps : ∀ row, key (change row) = key row} :
    (table.update condition change keeps).find? wanted =
      (table.find? wanted).map fun row => if condition row then change row else row := by
  simp only [find?, update]
  induction table.rows with
  | nil => rfl
  | cons row rest ih =>
    have kept : key (if condition row then change row else row) = key row := by
      split
      · exact keeps row
      · rfl
    by_cases hit : key row = wanted
    · simp [kept, hit]
    · simp [kept, hit, ih]

theorem find?_map_of_fixed {rows : List Row}
    (fixed : ∀ row ∈ rows, change row = row ∨ selects row = false ∧ selects (change row) = false) :
    (rows.map change).find? selects = rows.find? selects := by
  induction rows with
  | nil => rfl
  | cons row rest ih =>
    obtain ⟨here, later⟩ := List.forall_mem_cons.mp fixed
    rw [List.map_cons, List.find?_cons, List.find?_cons, ih later]
    rcases here with same | ⟨before, after⟩
    · rw [same]
    · rw [before, after]

theorem key_of_find? (found : table.find? wanted = some row) : key row = wanted := by
  have selected := List.find?_some found
  simpa using selected

theorem mem_of_find? (found : table.find? wanted = some row) : row ∈ table.rows :=
  List.mem_of_find?_eq_some found

theorem find?_of_mem (listed : row ∈ table.rows) : table.find? (key row) = some row := by
  cases found : table.find? (key row) with
  | none =>
    have missed := List.find?_eq_none.mp found row listed
    simp at missed
  | some other => rw [table.eq_of_key (mem_of_find? found) listed (key_of_find? found)]

/-- The row is written over the one with its key, or added where there is none. -/
def save (table : Table key) (changed : Row) : Table key where
  rows :=
    if key changed ∈ table.rows.map key then (table.put changed).rows
    else table.rows ++ [changed]
  unique := by
    split
    · exact (table.put changed).unique
    · next fresh =>
        rw [List.map_append, List.nodup_append]
        refine ⟨table.unique, by simp, ?_⟩
        intro used member added single same
        rw [List.map_singleton, List.mem_singleton] at single
        exact fresh (single ▸ same ▸ member)

theorem mem_save :
    row ∈ (table.save changed).rows ↔
      row = changed ∨ row ∈ table.rows ∧ key row ≠ key changed := by
  unfold save
  dsimp only
  split
  · next known =>
      constructor
      · exact mem_put
      · rintro (rfl | ⟨listed, other⟩)
        · obtain ⟨old, listed, same⟩ := List.mem_map.mp known
          exact List.mem_map.mpr ⟨old, listed, if_pos same⟩
        · exact List.mem_map.mpr ⟨row, listed, if_neg other⟩
  · next fresh =>
      rw [List.mem_append, List.mem_singleton]
      constructor
      · rintro (listed | rfl)
        · exact .inr ⟨listed, fun same => fresh (same ▸ List.mem_map_of_mem listed)⟩
        · exact .inl rfl
      · rintro (rfl | ⟨listed, _⟩)
        · exact .inr rfl
        · exact .inl listed

@[simp] theorem find?_save_self : (table.save changed).find? (key changed) = some changed :=
  find?_of_mem (mem_save.mpr (.inl rfl))

theorem find?_save_of_ne (different : wanted ≠ key changed) :
    (table.save changed).find? wanted = table.find? wanted := by
  cases found : table.find? wanted with
  | some row =>
    obtain rfl := key_of_find? found
    exact find?_of_mem (mem_save.mpr (.inr ⟨mem_of_find? found, different⟩))
  | none =>
    refine List.find?_eq_none.mpr fun row listed hit => ?_
    have same : key row = wanted := of_decide_eq_true hit
    rcases mem_save.mp listed with rfl | ⟨before, _⟩
    · exact different same.symm
    · exact List.find?_eq_none.mp found row before hit

theorem mem_foldl_save {changed : List Row} (distinct : (changed.map key).Nodup) :
    row ∈ (changed.foldl save table).rows ↔
      row ∈ changed ∨ row ∈ table.rows ∧ key row ∉ changed.map key := by
  induction changed generalizing table with
  | nil => simp
  | cons first rest ih =>
    obtain ⟨fresh, apart⟩ := List.nodup_cons.mp distinct
    rw [List.foldl_cons, ih apart, mem_save, List.mem_cons, List.map_cons, List.mem_cons, not_or]
    constructor
    · rintro (later | ⟨rfl | ⟨before, other⟩, unsaved⟩)
      · exact .inl (.inr later)
      · exact .inl (.inl rfl)
      · exact .inr ⟨before, other, unsaved⟩
    · rintro ((rfl | later) | ⟨before, other, unsaved⟩)
      · exact .inr ⟨.inl rfl, fresh⟩
      · exact .inl later
      · exact .inr ⟨.inr ⟨before, other⟩, unsaved⟩

theorem find?_foldl_save {changed : List Row} (distinct : (changed.map key).Nodup) :
    (changed.foldl save table).find? wanted =
      (changed.find? fun row => key row = wanted).or (table.find? wanted) := by
  induction changed generalizing table with
  | nil => rfl
  | cons first rest ih =>
    obtain ⟨fresh, apart⟩ := List.nodup_cons.mp distinct
    rw [List.foldl_cons, ih apart, List.find?_cons]
    by_cases same : key first = wanted
    · subst same
      have absent : (rest.find? fun row => key row = key first) = none := by
        refine List.find?_eq_none.mpr fun row listed hit => fresh ?_
        rw [← of_decide_eq_true hit]
        exact List.mem_map_of_mem listed
      rw [absent, find?_save_self, decide_eq_true rfl]
      rfl
    · rw [find?_save_of_ne (Ne.symm same), decide_eq_false same]

end Table

section

variable {order : Row → Nat} {selects chooses : Row → Bool} {rows others : List Row} {row : Row}

def latest (order : Row → Nat) (selects : Row → Bool) (rows : List Row) : Option Row :=
  (rows.filter selects).argmax order

/-- No two selected rows stand at one place of the order. -/
def Ordered (order : Row → Nat) (selects : Row → Bool) (rows : List Row) : Prop :=
  ∀ left ∈ rows, ∀ right ∈ rows, selects left = true → selects right = true →
    order left = order right → left = right

theorem latest_eq_none_iff : latest order selects rows = none ↔ ∀ row ∈ rows, selects row = false := by
  rw [latest, List.argmax_eq_none, List.filter_eq_nil_iff]
  simp only [Bool.not_eq_true]

theorem latest_selected (found : latest order selects rows = some row) : row ∈ rows ∧ selects row = true :=
  List.mem_filter.mp (List.argmax_mem found)

theorem le_latest (found : latest order selects rows = some row) {other : Row}
    (listed : other ∈ rows) (selected : selects other = true) : order other ≤ order row :=
  List.le_of_mem_argmax (List.mem_filter.mpr ⟨listed, selected⟩) found

theorem latest_eq_some (ordered : Ordered order selects rows) (listed : row ∈ rows)
    (selected : selects row = true)
    (above : ∀ other ∈ rows, selects other = true → order other ≤ order row) :
    latest order selects rows = some row := by
  cases found : latest order selects rows with
  | none =>
    rw [latest_eq_none_iff.mp found row listed] at selected
    cases selected
  | some other =>
    obtain ⟨otherListed, otherSelected⟩ := latest_selected found
    have same := Nat.le_antisymm (above other otherListed otherSelected)
      (le_latest found listed selected)
    rw [ordered other otherListed row listed otherSelected selected same]

theorem latest_congr (ordered : Ordered order selects rows)
    (same : ∀ row, row ∈ others ∧ chooses row = true ↔ row ∈ rows ∧ selects row = true) :
    latest order chooses others = latest order selects rows := by
  have also : Ordered order chooses others := by
    intro left leftListed right rightListed leftChosen rightChosen level
    have first := (same left).mp ⟨leftListed, leftChosen⟩
    have second := (same right).mp ⟨rightListed, rightChosen⟩
    exact ordered left first.1 right second.1 first.2 second.2 level
  cases found : latest order selects rows with
  | none =>
    rw [latest_eq_none_iff]
    intro row listed
    by_contra chosen
    have selected := (same row).mp ⟨listed, Bool.eq_true_of_not_eq_false chosen⟩
    rw [latest_eq_none_iff.mp found row selected.1] at selected
    cases selected.2
  | some row =>
    have picked := (same row).mpr (latest_selected found)
    refine latest_eq_some also picked.1 picked.2 fun other listed chosen => ?_
    have selected := (same other).mp ⟨listed, chosen⟩
    exact le_latest found selected.1 selected.2

end

section

variable {key : Row → Nat}

/-- The next value of a serial key: above every key in use. -/
def Table.nextKey (table : Table key) : Nat := (table.rows.map key).foldr max 0 + 1

theorem le_foldr_max (keys : List Nat) : ∀ used ∈ keys, used ≤ keys.foldr max 0 := by
  intro used member
  induction keys with
  | nil => simp at member
  | cons head tail ih =>
    simp only [List.foldr_cons]
    rcases List.mem_cons.mp member with rfl | rest
    · exact Nat.le_max_left _ _
    · exact Nat.le_trans (ih rest) (Nat.le_max_right _ _)

theorem Table.nextKey_fresh (table : Table key) : table.nextKey ∉ table.rows.map key := by
  intro member
  have bounded := le_foldr_max _ _ member
  unfold nextKey at bounded
  omega

variable {row : Row} {table : Table key} {make : Nat → Row}

theorem Table.lt_nextKey (listed : row ∈ table.rows) : key row < table.nextKey := by
  have bounded := le_foldr_max (table.rows.map key) (key row) (List.mem_map_of_mem listed)
  unfold nextKey
  omega

def Table.insert (table : Table key) (make : Nat → Row)
    (numbered : ∀ number, key (make number) = number) : Table key where
  rows := table.rows ++ [make table.nextKey]
  unique := by
    rw [List.map_append, List.nodup_append]
    refine ⟨table.unique, by simp, ?_⟩
    intro used member fresh added same
    have numberedFresh : fresh = table.nextKey := by
      simpa [numbered] using added
    exact table.nextKey_fresh (numberedFresh ▸ same ▸ member)

theorem Table.mem_insert (numbered : ∀ number, key (make number) = number) :
    row ∈ (table.insert make numbered).rows ↔ row ∈ table.rows ∨ row = make table.nextKey := by
  simp [insert]

theorem Table.find?_insert {numbered : ∀ number, key (make number) = number} {wanted : Nat} :
    (table.insert make numbered).find? wanted =
      (table.find? wanted).or
        (if wanted = table.nextKey then some (make table.nextKey) else none) := by
  simp only [find?, insert, List.find?_append, List.find?_singleton, numbered]
  by_cases added : wanted = table.nextKey
  · simp [added]
  · simp [added, Ne.symm added]

theorem Table.filter_insert {table : Table key} {make : Nat → Row}
    {numbered : ∀ number, key (make number) = number} {selects : Row → Bool} :
    (table.insert make numbered).rows.filter selects =
      table.rows.filter selects ++
        if selects (make table.nextKey) then [make table.nextKey] else [] := by
  simp [insert, List.filter_append, List.filter_singleton]

end

end InfrasafeBot.Library
