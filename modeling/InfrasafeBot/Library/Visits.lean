import Mathlib.Data.List.Induction

/-! Visits from events that open or close one, taken in the order of their arrival. An event that
opens is ignored while a visit is open, and one that closes while none is. -/

set_option autoImplicit false

namespace InfrasafeBot.Library

structure Visits (Event : Type) where
  closed : List (Event × Event)
  inside : Option Event

namespace Visits

variable {Event : Type} (opens : Event → Bool)

def next (visits : Visits Event) (event : Event) : Visits Event :=
  match opens event, visits.inside with
  | true, some _ => visits
  | true, none => { visits with inside := some event }
  | false, some opened => ⟨visits.closed ++ [(opened, event)], none⟩
  | false, none => visits

def ofEvents (events : List Event) : Visits Event := events.foldl (next opens) ⟨[], none⟩

/-- The event opens a visit: nothing has arrived before it, or an event that closes has. -/
def Starts (before : List Event) (event : Event) : Prop :=
  opens event = true ∧ ∀ previous ∈ before.getLast?, opens previous = false

variable {opens} {events before after : List Event} {event opened closing last : Event}

theorem ofEvents_concat : ofEvents opens (events ++ [last]) = next opens (ofEvents opens events) last := by
  rw [ofEvents, List.foldl_append]
  rfl

theorem concat_eq_append_cons_iff : events ++ [last] = before ++ event :: after ↔
    (before = events ∧ event = last ∧ after = []) ∨
      ∃ first, after = first ++ [last] ∧ events = before ++ event :: first := by
  constructor
  · intro same
    rcases List.eq_nil_or_concat after with rfl | ⟨first, final, rfl⟩
    · obtain ⟨rest, only⟩ := List.append_inj' same rfl
      cases only
      exact .inl ⟨rest.symm, rfl, rfl⟩
    · rw [List.concat_eq_append, ← List.cons_append, ← List.append_assoc] at same
      obtain ⟨rest, only⟩ := List.append_inj' same rfl
      cases only
      exact .inr ⟨first, List.concat_eq_append, rest⟩
  · rintro (⟨rfl, rfl, rfl⟩ | ⟨first, rfl, rfl⟩)
    · rfl
    · simp

theorem isSome_inside : (ofEvents opens events).inside.isSome = true ↔
    ∃ last ∈ events.getLast?, opens last = true := by
  induction events using List.reverseRecOn with
  | nil => simp [ofEvents]
  | append_singleton events last _ =>
    rw [ofEvents_concat, next]
    cases opening : opens last with
    | true | false => cases inside : (ofEvents opens events).inside <;> simp [inside, opening]

theorem starts_of_inside_none (none : (ofEvents opens events).inside = none)
    (opening : opens last = true) : Starts opens events last := by
  refine ⟨opening, fun previous latest => ?_⟩
  by_contra opens_too
  have some := isSome_inside.mpr ⟨previous, latest, by simpa using opens_too⟩
  rw [none] at some
  cases some

def OpenedBy (opens : Event → Bool) (events : List Event) (opened : Event) : Prop :=
  ∃ before after, events = before ++ opened :: after ∧ Starts opens before opened ∧
    ∀ event ∈ after, opens event = true

def ClosedBy (opens : Event → Bool) (events : List Event) (opened closing : Event) : Prop :=
  ∃ before after, events = before ++ opened :: after ∧ Starts opens before opened ∧
    after.find? (fun event => !opens event) = some closing

theorem openedBy_concat : OpenedBy opens (events ++ [last]) opened ↔
    (opened = last ∧ Starts opens events last) ∨
      opens last = true ∧ OpenedBy opens events opened := by
  unfold OpenedBy
  simp only [concat_eq_append_cons_iff]
  constructor
  · rintro ⟨before, after, ⟨rfl, rfl, rfl⟩ | ⟨first, rfl, split⟩, starts, only⟩
    · exact .inl ⟨rfl, starts⟩
    · refine .inr ⟨only last (List.mem_append_right _ List.mem_cons_self), ?_⟩
      exact ⟨before, first, split, starts, fun event listed => only event (List.mem_append_left _ listed)⟩
  · rintro (⟨rfl, starts⟩ | ⟨opening, before, first, split, starts, only⟩)
    · exact ⟨events, [], .inl ⟨rfl, rfl, rfl⟩, starts, by simp⟩
    · refine ⟨before, first ++ [last], .inr ⟨first, rfl, split⟩, starts, fun event listed => ?_⟩
      rcases List.mem_append.mp listed with earlier | final
      · exact only event earlier
      · exact List.mem_singleton.mp final ▸ opening

theorem closedBy_concat : ClosedBy opens (events ++ [last]) opened closing ↔
    ClosedBy opens events opened closing ∨
      OpenedBy opens events opened ∧ opens last = false ∧ closing = last := by
  unfold ClosedBy OpenedBy
  simp only [concat_eq_append_cons_iff]
  constructor
  · rintro ⟨before, after, ⟨rfl, rfl, rfl⟩ | ⟨first, rfl, split⟩, starts, found⟩
    · cases found
    · rw [List.find?_append] at found
      rcases Option.or_eq_some_iff.mp found with earlier | ⟨none, final⟩
      · exact .inl ⟨before, first, split, starts, earlier⟩
      · refine .inr ⟨⟨before, first, split, starts, ?_⟩, ?_⟩
        · simpa using none
        · rw [List.find?_singleton] at final
          split at final
          · next closes =>
              cases final
              exact ⟨by simpa using closes, rfl⟩
          · cases final
  · rintro (⟨before, first, split, starts, found⟩ | ⟨⟨before, first, split, starts, only⟩, closes, rfl⟩)
    · refine ⟨before, first ++ [last], .inr ⟨first, rfl, split⟩, starts, ?_⟩
      rw [List.find?_append, found]
      rfl
    · refine ⟨before, first ++ [closing], .inr ⟨first, rfl, split⟩, starts, ?_⟩
      rw [List.find?_append, List.find?_eq_none.mpr (by simpa using only)]
      simp [closes]

theorem inside_eq_some_iff : (ofEvents opens events).inside = some opened ↔
    OpenedBy opens events opened := by
  induction events using List.reverseRecOn with
  | nil => simp [ofEvents, OpenedBy]
  | append_singleton events last ih =>
    rw [ofEvents_concat, openedBy_concat, ← ih, next]
    cases opening : opens last with
    | true =>
      cases inside : (ofEvents opens events).inside with
      | none => simp [starts_of_inside_none inside opening, eq_comm]
      | some first =>
        obtain ⟨previous, latest, opens_too⟩ := isSome_inside.mp (Option.isSome_of_eq_some inside)
        have unstarted : ¬ Starts opens events last := by
          rintro ⟨_, closes⟩
          rw [closes previous latest] at opens_too
          cases opens_too
        simp [unstarted, inside]
    | false =>
      have unstarted : ¬ Starts opens events last := by
        rintro ⟨opens_too, _⟩
        rw [opening] at opens_too
        cases opens_too
      cases inside : (ofEvents opens events).inside <;> simp [unstarted, inside]

theorem mem_closed_iff : (opened, closing) ∈ (ofEvents opens events).closed ↔
    ClosedBy opens events opened closing := by
  induction events using List.reverseRecOn with
  | nil => simp [ofEvents, ClosedBy]
  | append_singleton events last ih =>
    rw [ofEvents_concat, closedBy_concat, ← ih, ← inside_eq_some_iff, next]
    cases opening : opens last with
    | true => cases inside : (ofEvents opens events).inside <;> simp
    | false =>
      cases inside : (ofEvents opens events).inside with
      | none => simp
      | some first => simp [eq_comm]

end Visits

end InfrasafeBot.Library
