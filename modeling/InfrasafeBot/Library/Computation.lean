import Mathlib.Data.List.Forall2

/-! Inversion of successful computations that may raise. -/

set_option autoImplicit false

namespace InfrasafeBot.Library

variable {Error Value Result : Type}

variable {computation : Except Error Value} {result : Result}

theorem bind_eq_ok_iff {continuation : Value → Except Error Result} :
    (computation >>= continuation) = .ok result ↔
      ∃ value, computation = .ok value ∧ continuation value = .ok result := by
  cases computation with
  | error | ok => simp [bind, Except.bind]

theorem isOk_iff : computation.isOk = true ↔ ∃ value, computation = .ok value := by
  cases computation with
  | error | ok => simp [Except.isOk, Except.toBool]

instance existsOkDecidable (computation : Except Error Value) (holds : Value → Prop)
    [DecidablePred holds] : Decidable (∃ value, computation = .ok value ∧ holds value) :=
  match computation with
  | .error _ => .isFalse fun found => by
      obtain ⟨value, impossible, _⟩ := found
      cases impossible
  | .ok value => decidable_of_iff (holds value)
      ⟨fun held => ⟨value, rfl, held⟩, fun found => by
        obtain ⟨other, same, held⟩ := found
        cases same
        exact held⟩

instance forallOkDecidable (computation : Except Error Value) (holds : Value → Prop)
    [DecidablePred holds] : Decidable (∀ value, computation = .ok value → holds value) :=
  match computation with
  | .error _ => .isTrue fun _ impossible => by cases impossible
  | .ok value => decidable_of_iff (holds value)
      ⟨fun held other same => by
        cases same
        exact held, fun all => all value rfl⟩

theorem check_bind_eq_ok_iff {check : Except Error Unit}
    {continuation : Unit → Except Error Result} :
    (check >>= continuation) = .ok result ↔ check = .ok () ∧ continuation () = .ok result := by
  rw [bind_eq_ok_iff]
  constructor
  · rintro ⟨⟨⟩, passed, continued⟩
    exact ⟨passed, continued⟩
  · rintro ⟨passed, continued⟩
    exact ⟨(), passed, continued⟩

theorem map_eq_ok_iff {change : Value → Result} :
    computation.map change = .ok result ↔
      ∃ value, computation = .ok value ∧ change value = result := by
  cases computation with
  | error | ok => simp [Except.map]

theorem forM_eq_ok_iff {check : Value → Except Error Unit} {values : List Value} :
    forM values check = .ok () ↔ ∀ value ∈ values, check value = .ok () := by
  induction values with
  | nil => simp [pure, Except.pure]
  | cons value rest ih => rw [List.forM_cons, check_bind_eq_ok_iff, List.forall_mem_cons, ih]

section

variable {step : Value → Except Error Result} {values : List Value} {results : List Result}

theorem mapM_eq_ok_iff :
    values.mapM step = .ok results ↔
      List.Forall₂ (fun value result => step value = .ok result) values results := by
  induction values generalizing results with
  | nil =>
    rw [List.mapM_nil, List.forall₂_nil_left_iff]
    constructor
    · intro returned
      cases returned
      rfl
    · rintro rfl
      rfl
  | cons value rest ih =>
    rw [List.mapM_cons, bind_eq_ok_iff, List.forall₂_cons_left_iff]
    constructor
    · rintro ⟨result, first, looped⟩
      obtain ⟨others, later, returned⟩ := bind_eq_ok_iff.mp looped
      cases returned
      exact ⟨result, others, first, ih.mp later, rfl⟩
    · rintro ⟨result, others, first, later, rfl⟩
      exact ⟨result, first, bind_eq_ok_iff.mpr ⟨others, ih.mpr later, rfl⟩⟩

theorem mem_result_of_mapM (returned : values.mapM step = .ok results) {result : Result}
    (listed : result ∈ results) : ∃ value ∈ values, step value = .ok result := by
  have paired := mapM_eq_ok_iff.mp returned
  clear returned
  induction paired with
  | nil => cases listed
  | cons first rest ih =>
    rcases List.mem_cons.mp listed with rfl | later
    · exact ⟨_, List.mem_cons_self, first⟩
    · obtain ⟨value, member, made⟩ := ih later
      exact ⟨value, List.mem_cons_of_mem _ member, made⟩

theorem mem_value_of_mapM (returned : values.mapM step = .ok results) {value : Value}
    (listed : value ∈ values) : ∃ result ∈ results, step value = .ok result := by
  have paired := mapM_eq_ok_iff.mp returned
  clear returned
  induction paired with
  | nil => cases listed
  | cons first rest ih =>
    rcases List.mem_cons.mp listed with rfl | later
    · exact ⟨_, List.mem_cons_self, first⟩
    · obtain ⟨result, member, made⟩ := ih later
      exact ⟨result, List.mem_cons_of_mem _ member, made⟩

theorem mapM_ok_of_forall (steps : ∀ value ∈ values, ∃ result, step value = .ok result) :
    ∃ results, values.mapM step = .ok results := by
  induction values with
  | nil => exact ⟨[], mapM_eq_ok_iff.mpr .nil⟩
  | cons value rest ih =>
    obtain ⟨result, first⟩ := steps value List.mem_cons_self
    obtain ⟨results, later⟩ := ih fun other listed => steps other (List.mem_cons_of_mem _ listed)
    exact ⟨result :: results, mapM_eq_ok_iff.mpr (.cons first (mapM_eq_ok_iff.mp later))⟩

theorem map_of_mapM {Kept : Type} {before : Value → Kept} {after : Result → Kept}
    (keeps : ∀ value ∈ values, ∀ result, step value = .ok result → after result = before value)
    (returned : values.mapM step = .ok results) : results.map after = values.map before := by
  have paired := mapM_eq_ok_iff.mp returned
  clear returned
  induction paired with
  | nil => rfl
  | cons first rest ih =>
    rw [List.map_cons, List.map_cons, keeps _ List.mem_cons_self _ first,
      ih fun value listed => keeps value (List.mem_cons_of_mem _ listed)]

end

end InfrasafeBot.Library
