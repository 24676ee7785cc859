import Mathlib.Data.List.Perm.Basic

/-! Lists of items with a key. The first item of each known key is kept in its place, and the
keys that are missing are appended with their defaults, so that every known key stands in the
list once. Such a completed list is its own completion. -/

set_option autoImplicit false

namespace InfrasafeBot.Library.KeyedLists

variable {Item Key : Type} [DecidableEq Key] (key : Item → Key)

def lookup (items : List Item) (wanted : Key) : Option Item := items.find? fun item => key item = wanted

/-- The first item of every known key that has not been seen. -/
def firsts (known seen : List Key) : List Item → List Item
  | [] => []
  | item :: rest =>
    if key item ∉ known ∨ key item ∈ seen then firsts known seen rest
    else item :: firsts known (key item :: seen) rest

def complete (known : List Key) (default : Key → Item) (items : List Item) : List Item :=
  let kept := firsts key known [] items
  kept ++ (known.filter fun id => id ∉ kept.map key).map default

/-- The items of the list, and those of the other one whose keys it does not mention. -/
def union (sent stored : List Item) : List Item := sent ++ stored.filter fun item => key item ∉ sent.map key

section

variable {key} {known seen : List Key} {items : List Item} {item : Item} {wanted : Key}

theorem lookup_eq_none : lookup key items wanted = none ↔ wanted ∉ items.map key := by
  simp [lookup, List.find?_eq_none]

theorem key_of_lookup (found : lookup key items wanted = some item) : key item = wanted := by
  unfold lookup at found
  have selected := List.find?_some found
  exact of_decide_eq_true selected

theorem lookup_append (left right : List Item) :
    lookup key (left ++ right) wanted = (lookup key left wanted).or (lookup key right wanted) :=
  List.find?_append

theorem firsts_cons_skip (skip : key item ∉ known ∨ key item ∈ seen) :
    firsts key known seen (item :: items) = firsts key known seen items := by
  rw [firsts, if_pos skip]

theorem firsts_cons_keep (listed : key item ∈ known) (fresh : key item ∉ seen) :
    firsts key known seen (item :: items) =
      item :: firsts key known (key item :: seen) items := by
  rw [firsts, if_neg fun skip => skip.elim (fun unlisted => unlisted listed) fresh]

theorem of_mem_firsts (kept : item ∈ firsts key known seen items) : key item ∈ known ∧ key item ∉ seen := by
  induction items generalizing seen with
  | nil => cases kept
  | cons first rest ih =>
    by_cases skip : key first ∉ known ∨ key first ∈ seen
    · rw [firsts_cons_skip skip] at kept
      exact ih kept
    · obtain ⟨listed, fresh⟩ := not_or.mp skip
      rw [firsts_cons_keep (not_not.mp listed) fresh] at kept
      rcases List.mem_cons.mp kept with rfl | later
      · exact ⟨not_not.mp listed, fresh⟩
      · obtain ⟨known, unseen⟩ := ih later
        exact ⟨known, fun seen => unseen (List.mem_cons_of_mem _ seen)⟩

theorem nodup_firsts : ((firsts key known seen items).map key).Nodup := by
  induction items generalizing seen with
  | nil => exact List.nodup_nil
  | cons first rest ih =>
    by_cases skip : key first ∉ known ∨ key first ∈ seen
    · rw [firsts_cons_skip skip]
      exact ih
    · obtain ⟨listed, fresh⟩ := not_or.mp skip
      rw [firsts_cons_keep (not_not.mp listed) fresh, List.map_cons, List.nodup_cons]
      refine ⟨fun again => ?_, ih⟩
      obtain ⟨item, kept, same⟩ := List.mem_map.mp again
      exact (of_mem_firsts kept).2 (same ▸ List.mem_cons_self)

theorem lookup_firsts (listed : wanted ∈ known) (fresh : wanted ∉ seen) :
    lookup key (firsts key known seen items) wanted = lookup key items wanted := by
  induction items generalizing seen with
  | nil => rfl
  | cons first rest ih =>
    by_cases same : key first = wanted
    · subst same
      rw [firsts_cons_keep listed fresh, lookup, lookup, List.find?_cons_of_pos (by simp),
        List.find?_cons_of_pos (by simp)]
    · have other : lookup key (first :: rest) wanted = lookup key rest wanted :=
        List.find?_cons_of_neg (by simpa using same)
      rw [other]
      by_cases skip : key first ∉ known ∨ key first ∈ seen
      · rw [firsts_cons_skip skip]
        exact ih fresh
      · obtain ⟨known, unseen⟩ := not_or.mp skip
        rw [firsts_cons_keep (not_not.mp known) unseen, lookup,
          List.find?_cons_of_neg (by simpa using same)]
        refine ih fun again => ?_
        rcases List.mem_cons.mp again with rfl | before
        · exact same rfl
        · exact fresh before

theorem firsts_append (left right : List Item) :
    ∃ more, firsts key known seen (left ++ right) = firsts key known seen left ++ more := by
  induction left generalizing seen with
  | nil => exact ⟨_, rfl⟩
  | cons first rest ih =>
    rw [List.cons_append]
    by_cases skip : key first ∉ known ∨ key first ∈ seen
    · rw [firsts_cons_skip skip, firsts_cons_skip skip]
      exact ih
    · obtain ⟨listed, fresh⟩ := not_or.mp skip
      rw [firsts_cons_keep (not_not.mp listed) fresh, firsts_cons_keep (not_not.mp listed) fresh]
      obtain ⟨more, split⟩ := @ih (key first :: seen)
      exact ⟨more, by rw [split, List.cons_append]⟩

theorem firsts_eq_self (distinct : (items.map key).Nodup)
    (listed : ∀ item ∈ items, key item ∈ known) (fresh : ∀ item ∈ items, key item ∉ seen) :
    firsts key known seen items = items := by
  induction items generalizing seen with
  | nil => rfl
  | cons first rest ih =>
    rw [List.map_cons, List.nodup_cons] at distinct
    rw [firsts_cons_keep (listed first List.mem_cons_self) (fresh first List.mem_cons_self)]
    refine congrArg _ (ih distinct.2 (fun item later => ?_) fun item later again => ?_)
    · exact listed item (List.mem_cons_of_mem _ later)
    · rcases List.mem_cons.mp again with same | before
      · exact distinct.1 (same ▸ List.mem_map_of_mem later)
      · exact fresh item (List.mem_cons_of_mem _ later) before

end

section

variable {key} {known : List Key} {default : Key → Item} {items stored : List Item}
  {wanted : Key}

omit [DecidableEq Key] in
theorem map_default (named : ∀ id ∈ known, key (default id) = id) {missing : List Key}
    (listed : ∀ id ∈ missing, id ∈ known) : (missing.map default).map key = missing := by
  rw [List.map_map]
  exact (List.map_congr_left fun id among => named id (listed id among)).trans (List.map_id _)

theorem keys_complete (named : ∀ id ∈ known, key (default id) = id) :
    (complete key known default items).map key =
      (firsts key known [] items).map key ++
        known.filter fun id => id ∉ (firsts key known [] items).map key := by
  rw [complete, List.map_append, map_default named fun id => List.mem_of_mem_filter]

theorem keys_complete_perm (named : ∀ id ∈ known, key (default id) = id) (distinct : known.Nodup) :
    ((complete key known default items).map key).Perm known := by
  rw [keys_complete named]
  refine (List.perm_ext_iff_of_nodup ?_ distinct).mpr fun id => ?_
  · rw [List.nodup_append]
    refine ⟨nodup_firsts, distinct.filter _, ?_⟩
    rintro kept among missing absent rfl
    exact of_decide_eq_true (List.mem_filter.mp absent).2 among
  · rw [List.mem_append, List.mem_filter, decide_eq_true_eq]
    constructor
    · rintro (kept | ⟨listed, _⟩)
      · obtain ⟨item, among, rfl⟩ := List.mem_map.mp kept
        exact (of_mem_firsts among).1
      · exact listed
    · intro listed
      by_cases kept : id ∈ (firsts key known [] items).map key
      · exact .inl kept
      · exact .inr ⟨listed, kept⟩

theorem complete_eq_self (once : (items.map key).Perm known) (distinct : known.Nodup) :
    complete key known default items = items := by
  have kept : firsts key known [] items = items :=
    firsts_eq_self (once.nodup_iff.mpr distinct)
      (fun item among => once.mem_iff.mp (List.mem_map_of_mem among)) fun _ _ => List.not_mem_nil
  rw [complete, kept]
  have none_missing : known.filter (fun id => id ∉ items.map key) = [] := by
    rw [List.filter_eq_nil_iff]
    intro id listed missing
    exact of_decide_eq_true missing (once.mem_iff.mpr listed)
  rw [none_missing, List.map_nil, List.append_nil]

theorem complete_complete (named : ∀ id ∈ known, key (default id) = id) (distinct : known.Nodup) :
    complete key known default (complete key known default items) =
      complete key known default items :=
  complete_eq_self (keys_complete_perm named distinct) distinct

theorem lookup_complete (named : ∀ id ∈ known, key (default id) = id) (listed : wanted ∈ known) :
    lookup key (complete key known default items) wanted =
      (lookup key items wanted).or (some (default wanted)) := by
  rw [complete, lookup_append, lookup_firsts listed List.not_mem_nil]
  cases found : lookup key items wanted with
  | some item => rfl
  | none =>
    rw [Option.none_or, Option.none_or]
    have absent : wanted ∉ (firsts key known [] items).map key := by
      rw [← lookup_eq_none, lookup_firsts listed List.not_mem_nil]
      exact found
    have missing : wanted ∈ known.filter fun id => id ∉ (firsts key known [] items).map key :=
      List.mem_filter.mpr ⟨listed, decide_eq_true absent⟩
    cases filled : lookup key
        ((known.filter fun id => id ∉ (firsts key known [] items).map key).map default)
        wanted with
    | none =>
      rw [lookup_eq_none, map_default named fun id => List.mem_of_mem_filter] at filled
      exact absurd missing filled
    | some item =>
      obtain ⟨id, among, rfl⟩ := List.mem_map.mp (List.mem_of_find?_eq_some filled)
      rw [← key_of_lookup filled, named id (List.mem_of_mem_filter among)]

theorem firsts_begin_complete_union :
    firsts key known [] items <+: complete key known default (union key items stored) := by
  obtain ⟨more, split⟩ := @firsts_append _ _ _ key known [] items
    (stored.filter fun item => key item ∉ items.map key)
  rw [complete, union, split]
  exact ⟨_, (List.append_assoc _ _ _).symm⟩

theorem lookup_union (unsent : wanted ∉ items.map key) :
    lookup key (union key items stored) wanted = lookup key stored wanted := by
  rw [union, lookup_append, lookup_eq_none.mpr unsent, Option.none_or, lookup, lookup, List.find?_filter]
  congr 1
  funext item
  by_cases same : key item = wanted
  · simp [same, unsent]
  · simp [same]

theorem lookup_complete_union (named : ∀ id ∈ known, key (default id) = id)
    (listed : wanted ∈ known) (unsent : wanted ∉ items.map key) :
    lookup key (complete key known default (union key items stored)) wanted =
      lookup key (complete key known default stored) wanted := by
  rw [lookup_complete named listed, lookup_complete named listed, lookup_union unsent]

end

end InfrasafeBot.Library.KeyedLists
