import Mathlib.Data.List.Induction

/-! Finite runs of a deterministic machine. An input resolves every choice a
system makes, so a run is a fold; a disabled input leaves the state alone. The
rules below turn one-step facts into facts about whole runs and histories. -/

set_option autoImplicit false

namespace InfrasafeBot.Library.Machine

/-! The workers of the smallest runs, whose numerals carry no proofs of their own. -/

instance (priority := high) onlyWorker : OfNat (Fin 1) 0 := ⟨⟨0, Nat.zero_lt_one⟩⟩

instance (priority := high) firstWorker : OfNat (Fin 2) 0 := ⟨⟨0, Nat.zero_lt_two⟩⟩

instance (priority := high) secondWorker : OfNat (Fin 2) 1 := ⟨⟨1, Nat.one_lt_two⟩⟩

variable {State Input : Type} (next : State → Input → State)

def run (start : State) (inputs : List Input) : State := inputs.foldl next start

def trace (start : State) : List Input → List (State × Input)
  | [] => []
  | input :: rest => (start, input) :: trace (next start input) rest

section

variable (start : State)

include start

@[simp] theorem run_nil : run next start [] = start := rfl

@[simp] theorem run_cons (input : Input) (rest : List Input) :
    run next start (input :: rest) = run next (next start input) rest := rfl

theorem run_append (first second : List Input) :
    run next start (first ++ second) = run next (run next start first) second := by
  simp [run]

theorem run_concat (inputs : List Input) (last : Input) :
    run next start (inputs ++ [last]) = next (run next start inputs) last := by
  simp [run]

@[simp] theorem trace_nil : trace next start [] = [] := rfl

@[simp] theorem trace_cons (input : Input) (rest : List Input) :
    trace next start (input :: rest) = (start, input) :: trace next (next start input) rest := rfl

theorem trace_append (first second : List Input) :
    trace next start (first ++ second) =
      trace next start first ++ trace next (run next start first) second := by
  induction first generalizing start with
  | nil => rfl
  | cons input rest ih => simp [ih]

theorem trace_concat (inputs : List Input) (last : Input) :
    trace next start (inputs ++ [last]) =
      trace next start inputs ++ [(run next start inputs, last)] := by
  rw [trace_append, trace_cons, trace_nil]

end

variable {inputs : List Input} {start : State} {taken : State × Input}
  {allowed : State → Input → Prop}

theorem split_of_mem_trace (listed : taken ∈ trace next start inputs) :
    ∃ before after, inputs = before ++ taken.2 :: after ∧ run next start before = taken.1 := by
  induction inputs generalizing start with
  | nil => cases listed
  | cons input rest ih =>
    rw [trace_cons] at listed
    rcases List.mem_cons.mp listed with rfl | later
    · exact ⟨[], rest, rfl, rfl⟩
    · obtain ⟨before, after, split, reached⟩ := ih later
      exact ⟨input :: before, after, by rw [split]; rfl, reached⟩

theorem mem_of_mem_trace (listed : taken ∈ trace next start inputs) : taken.2 ∈ inputs := by
  obtain ⟨before, after, rfl, _⟩ := split_of_mem_trace next listed
  exact List.mem_append_right before List.mem_cons_self

theorem history_induction (motive : List (State × Input) → State → Prop)
    (initial : motive [] start) (preserved : ∀ past state input,
      motive past state → motive (past ++ [(state, input)]) (next state input))
    (inputs : List Input) : motive (trace next start inputs) (run next start inputs) := by
  induction inputs using List.reverseRecOn with
  | nil => exact initial
  | append_singleton inputs last ih =>
    rw [trace_concat, run_concat]
    exact preserved _ _ _ ih

theorem run_invariant (invariant : State → Prop) (initial : invariant start)
    (preserved : ∀ state input, invariant state → invariant (next state input))
    (inputs : List Input) : invariant (run next start inputs) :=
  history_induction next (fun _ => invariant) initial
    (fun _ state input held => preserved state input held) inputs

theorem trace_invariant (invariant : State → Prop) (initial : invariant start)
    (preserved : ∀ state input, invariant state → invariant (next state input))
    (inputs : List Input) : ∀ taken ∈ trace next start inputs, invariant taken.1 := by
  intro taken listed
  obtain ⟨before, _, _, reached⟩ := split_of_mem_trace next listed
  exact reached ▸ run_invariant next invariant initial preserved before

/-- Every input of the run is taken in a state that allows it. -/
def Obeys (allowed : State → Input → Prop) (start : State) (inputs : List Input) : Prop :=
  ∀ taken ∈ trace next start inputs, allowed taken.1 taken.2

instance {allowed : State → Input → Prop} [∀ state input, Decidable (allowed state input)]
    (start : State) (inputs : List Input) : Decidable (Obeys next allowed start inputs) :=
  inferInstanceAs (Decidable (∀ taken ∈ trace next start inputs, allowed taken.1 taken.2))

theorem obeys_append (allowed : State → Input → Prop) (start : State)
    (first second : List Input) :
    Obeys next allowed start (first ++ second) ↔
      Obeys next allowed start first ∧ Obeys next allowed (run next start first) second := by
  simp only [Obeys, trace_append, List.mem_append, or_imp, forall_and]

theorem Obeys.of_prefix {past : List Input} (obeyed : Obeys next allowed start inputs)
    (before : past <+: inputs) : Obeys next allowed start past := by
  obtain ⟨after, rfl⟩ := before
  exact ((obeys_append next allowed start past after).mp obeyed).1

theorem obeys_cons (allowed : State → Input → Prop) (start : State) (input : Input)
    (rest : List Input) :
    Obeys next allowed start (input :: rest) ↔
      allowed start input ∧ Obeys next allowed (next start input) rest := by
  simp only [Obeys, trace_cons, List.forall_mem_cons]

theorem run_invariant_of_obeys (invariant : State → Prop) (initial : invariant start)
    (preserved : ∀ state input, allowed state input → invariant state →
      invariant (next state input)) (obeyed : Obeys next allowed start inputs) :
    invariant (run next start inputs) := by
  induction inputs generalizing start with
  | nil => exact initial
  | cons input rest ih =>
    obtain ⟨first, later⟩ := (obeys_cons next allowed start input rest).mp obeyed
    exact ih (preserved start input first initial) later

theorem trace_invariant_of_obeys (invariant : State → Prop) (initial : invariant start)
    (preserved : ∀ state input, allowed state input → invariant state →
      invariant (next state input)) (obeyed : Obeys next allowed start inputs) :
    ∀ taken ∈ trace next start inputs, invariant taken.1 := by
  induction inputs generalizing start with
  | nil => simp
  | cons input rest ih =>
    obtain ⟨first, later⟩ := (obeys_cons next allowed start input rest).mp obeyed
    rw [trace_cons, List.forall_mem_cons]
    exact ⟨initial, ih (preserved start input first initial) later⟩

/-- Where an allowed step is exactly one that keeps a property, the property holds
all along a run exactly when every step of the run is allowed. -/
theorem holds_along_iff_obeys (property invariant : State → Prop) (initial : invariant start)
    (preserved : ∀ state input, invariant state → invariant (next state input))
    (holds : property start) (keeps_iff : ∀ state input, invariant state → property state →
      (property (next state input) ↔ allowed state input)) (inputs : List Input) :
    (∀ past, past <+: inputs → property (run next start past)) ↔
      Obeys next allowed start inputs := by
  induction inputs generalizing start with
  | nil => simp [Obeys, holds]
  | cons input rest ih =>
    have step := keeps_iff start input initial holds
    rw [obeys_cons]
    constructor
    · intro along
      have first : property (next start input) := along [input] ⟨rest, rfl⟩
      have reached := preserved start input initial
      refine ⟨step.mp first, (ih reached first).mp ?_⟩
      intro past before
      exact along (input :: past) (List.cons_prefix_cons.mpr ⟨rfl, before⟩)
    · rintro ⟨first, later⟩ past before
      cases past with
      | nil => exact holds
      | cons head past =>
        obtain ⟨rfl, shorter⟩ := List.cons_prefix_cons.mp before
        have reached := preserved start head initial
        exact (ih reached (step.mpr first)).mpr later past shorter

theorem run_entered (property : State → Prop) (inputs : List Input) (outside : ¬ property start)
    (inside : property (run next start inputs)) :
    ∃ before input after, inputs = before ++ input :: after ∧
      ¬ property (run next start before) ∧
      ∀ length, property (run next start (before ++ input :: after.take length)) := by
  induction inputs using List.reverseRecOn with
  | nil => exact absurd inside outside
  | append_singleton inputs last ih =>
    by_cases held : property (run next start inputs)
    · obtain ⟨before, input, after, split, failed, since⟩ := ih held
      refine ⟨before, input, after ++ [last], by simp [split], failed, ?_⟩
      intro length
      by_cases short : length ≤ after.length
      · simpa [List.take_append_of_le_length short] using since length
      · have whole : (after ++ [last]).take length = after ++ [last] :=
          List.take_of_length_le (by simp; omega)
        rw [whole]
        simpa [split] using inside
    · exact ⟨inputs, last, [], rfl, held, fun length => by simpa using inside⟩

def occurrences (kind : State → Input → Bool) (start : State) (inputs : List Input) : Nat :=
  (trace next start inputs).countP fun taken => kind taken.1 taken.2

theorem occurrences_concat (kind : State → Input → Bool) (start : State)
    (inputs : List Input) (last : Input) :
    occurrences next kind start (inputs ++ [last]) =
      occurrences next kind start inputs +
        if kind (run next start inputs) last then 1 else 0 := by
  simp [occurrences, trace_concat, List.countP_append, List.countP_singleton]

/-- An input that closes a gate no input reopens, and that needs the gate open,
is taken at most once. -/
theorem occurrences_le_one {kind : State → Input → Bool} (closed invariant : State → Prop)
    (initial : invariant start)
    (preserved : ∀ state input, invariant state → invariant (next state input))
    (closes : ∀ state input, invariant state → kind state input = true → closed (next state input))
    (stays : ∀ state input, invariant state → closed state → closed (next state input))
    (blocked : ∀ state input, invariant state → closed state → kind state input = false)
    (inputs : List Input) : occurrences next kind start inputs ≤ 1 := by
  have bounded : occurrences next kind start inputs = 0 ∨
      occurrences next kind start inputs = 1 ∧ closed (run next start inputs) := by
    induction inputs using List.reverseRecOn with
    | nil => exact .inl rfl
    | append_singleton inputs last ih =>
      have reached := run_invariant next invariant initial preserved inputs
      rw [occurrences_concat, run_concat]
      rcases ih with none | ⟨once, shut⟩
      · cases taken : kind (run next start inputs) last with
        | false => exact .inl (by simp [none])
        | true => exact .inr ⟨by simp [none], closes _ _ reached taken⟩
      · have refused := blocked _ last reached shut
        exact .inr ⟨by simp [once, refused], stays _ last reached shut⟩
  rcases bounded with none | ⟨once, _⟩ <;> omega

end InfrasafeBot.Library.Machine
