import InfrasafeBot.Shifts.TemplatePlanning

/-! The hours of a day that no shift covers (`services/shift_planning_service/planning.py`), in
a zone of fixed offset. The analysis counts the hours of a shift on the day of its start. -/

set_option autoImplicit false

namespace InfrasafeBot.Shifts

open Library RequestWorkflow

def businessHour (offset : Int) (moment : Moment) : Nat := ((moment + offset) % 86400 / 3600).toNat

def hoursSpan (startHour endHour : Nat) (start ending : Moment) : Nat :=
  let span := (endHour + 24 - startHour) % 24
  if span = 0 ∧ start < ending then 24 else span

def coveredHours (offset : Int) (start ending : Moment) : List Nat :=
  let startHour := businessHour offset start
  (List.range (hoursSpan startHour (businessHour offset ending) start ending)).map fun step =>
    (startHour + step) % 24

structure CoverageGap where
  date : CalendarDay
  uncoveredHours : List Nat
  totalShifts : Nat
  gapSeverity : String

def calculateGapSeverity (uncoveredHours : List Nat) : String :=
  let criticalGaps := uncoveredHours.countP fun hour => 8 ≤ hour && hour < 18
  if uncoveredHours.isEmpty then "none"
  else if 6 < criticalGaps then "critical"
  else if 3 < criticalGaps then "high"
  else if 0 < criticalGaps then "medium"
  else "low"

section

variable (offset : Int) (shifts : Table Shift.id)

def shiftsOfDay (day : CalendarDay) : List Shift :=
  shifts.rows.filter fun shift =>
    shift.plannedStartTime.any ((BusinessZone.fixed offset).onDay day) && shift.transferable

def Shift.covers (shift : Shift) (hour : Nat) : Bool :=
  match shift.plannedStartTime, shift.plannedEndTime with
  | some start, some ending => (coveredHours offset start ending).contains hour
  | _, _ => false

def uncoveredHours (day : CalendarDay) : List Nat :=
  (List.range 24).filter fun hour => !(shiftsOfDay offset shifts day).any (·.covers offset hour)

def coverageGap (day : CalendarDay) : Option CoverageGap :=
  let uncovered := uncoveredHours offset shifts day
  if uncovered.isEmpty then none
  else
    some
      { date := day
        uncoveredHours := uncovered
        totalShifts := (shiftsOfDay offset shifts day).length
        gapSeverity := calculateGapSeverity uncovered }

def getCoverageGaps (first last : CalendarDay) : List CoverageGap :=
  ((List.range (last + 1 - first).toNat).map fun (step : Nat) => first + step).filterMap
    (coverageGap offset shifts)

end

/-- The interval has a moment in common with the hour of the day. -/
def Reaches (offset start ending day : Int) (hour : Nat) : Prop :=
  start < day * 86400 + (hour + 1) * 3600 - offset ∧ day * 86400 + hour * 3600 - offset < ending

/-- The analysis counts the interval in the hour of the day. -/
def Counted (offset : Int) (start ending : Moment) (day : CalendarDay) (hour : Nat) : Prop :=
  (BusinessZone.fixed offset).onDay day start = true ∧ hour ∈ coveredHours offset start ending

/-- An interval that ends on a full hour, at midnight of its first day at the latest. -/
def Regular (offset start ending : Int) : Prop :=
  (ending + offset) % 3600 = 0 ∧ ending + offset ≤ ((start + offset) / 86400 + 1) * 86400

section

variable {offset start ending day : Int} {hour : Nat}

theorem onDay_iff :
    (BusinessZone.fixed offset).onDay day start = true ↔ (start + offset) / 86400 = day := by
  have window : (BusinessZone.fixed offset).onDay day start = true ↔
      day * 86400 + ((0 : Nat) : Int) * 60 - offset ≤ start ∧
        start < (day + 1) * 86400 + ((0 : Nat) : Int) * 60 - offset := by
    unfold BusinessZone.onDay
    rw [Bool.and_eq_true, decide_eq_true_iff, decide_eq_true_iff]
    rfl
  rw [window]
  omega

theorem mem_coveredHours :
    hour ∈ coveredHours offset start ending ↔
      ∃ step < hoursSpan (businessHour offset start) (businessHour offset ending) start ending,
        (businessHour offset start + step) % 24 = hour := by
  simp [coveredHours]

theorem businessHour_cast (moment : Moment) :
    (businessHour offset moment : Int) = (moment + offset) % 86400 / 3600 := by
  unfold businessHour
  have bounds : (0 : Int) ≤ (moment + offset) % 86400 := Int.emod_nonneg _ (by decide)
  omega

theorem hoursSpan_of_regular (forwards : start < ending) (regular : Regular offset start ending) :
    (hoursSpan (businessHour offset start) (businessHour offset ending) start ending : Int) =
      (ending + offset) / 3600 - (start + offset) / 3600 := by
  obtain ⟨full, same⟩ := regular
  have first := @businessHour_cast offset start
  have last := @businessHour_cast offset ending
  unfold hoursSpan
  dsimp only
  split
  · omega
  · next unequal =>
    have nonzero : (businessHour offset ending + 24 - businessHour offset start) % 24 ≠ 0 :=
      fun zero => unequal ⟨zero, forwards⟩
    omega

theorem counted_iff_of_regular (forwards : start < ending)
    (regular : Regular offset start ending) (inDay : hour < 24) :
    Counted offset start ending day hour ↔ Reaches offset start ending day hour := by
  have span := hoursSpan_of_regular forwards regular
  have first := @businessHour_cast offset start
  obtain ⟨full, same⟩ := regular
  unfold Counted Reaches
  rw [onDay_iff, mem_coveredHours]
  constructor
  · rintro ⟨own, step, within, reached⟩
    omega
  · rintro ⟨begins, ends⟩
    refine ⟨by omega, hour - businessHour offset start, by omega, by omega⟩

end

/-- A planned or active shift whose planned interval is so. -/
def AnyPlanned (shifts : Table Shift.id) (relation : Int → Int → Prop) : Prop :=
  ∃ shift ∈ shifts.rows, shift.transferable = true ∧ ∃ start ending,
    shift.plannedStartTime = some start ∧ shift.plannedEndTime = some ending ∧ relation start ending

def Forwards (shifts : Table Shift.id) : Prop :=
  ∀ shift ∈ shifts.rows, ∃ start ending, shift.plannedStartTime = some start ∧
    shift.plannedEndTime = some ending ∧ start < ending

/-- Of the days in question, exactly the hours that no shift reaches into are reported. -/
def GapsExact (offset : Int) (shifts : Table Shift.id) (first last : CalendarDay) : Prop :=
  ∀ (day : Int) (hour : Nat), first ≤ day → day ≤ last → hour < 24 →
    ((∃ gap ∈ getCoverageGaps offset shifts first last, gap.date = day ∧ hour ∈ gap.uncoveredHours) ↔
      ¬ AnyPlanned shifts fun start ending => Reaches offset start ending day hour)

/-- Where an irregular shift reaches without being counted another shift is counted, and where
one is counted without reaching another shift reaches. -/
def StandIns (offset : Int) (shifts : Table Shift.id) (first last : CalendarDay) : Prop :=
  ∀ (day : Int) (hour : Nat), first ≤ day → day ≤ last → hour < 24 →
    (AnyPlanned shifts (fun start ending => ¬ Regular offset start ending ∧
        Reaches offset start ending day hour ∧ ¬ Counted offset start ending day hour) →
      AnyPlanned shifts fun start ending => Counted offset start ending day hour) ∧
    (AnyPlanned shifts (fun start ending => ¬ Regular offset start ending ∧
        Counted offset start ending day hour ∧ ¬ Reaches offset start ending day hour) →
      AnyPlanned shifts fun start ending => Reaches offset start ending day hour)

section

variable {offset first last day : Int} {shifts : Table Shift.id} {hour : Nat}

theorem covered_iff :
    (shiftsOfDay offset shifts day).any (·.covers offset hour) = true ↔
      AnyPlanned shifts fun start ending => Counted offset start ending day hour := by
  rw [List.any_eq_true]
  constructor
  · rintro ⟨shift, listed, covers⟩
    obtain ⟨stored, fits⟩ := List.mem_filter.mp listed
    obtain ⟨own, running⟩ := Bool.and_eq_true_iff.mp fits
    unfold Shift.covers at covers
    split at covers
    · next start ending starts ends =>
      rw [starts] at own
      exact ⟨shift, stored, running, start, ending, starts, ends, own, List.contains_iff_mem.mp covers⟩
    · cases covers
  · rintro ⟨shift, stored, running, start, ending, starts, ends, own, counted⟩
    refine ⟨shift, List.mem_filter.mpr ⟨stored, ?_⟩, ?_⟩
    · rw [starts, running]
      simpa using own
    · rw [Shift.covers, starts, ends]
      exact List.contains_iff_mem.mpr counted

theorem reported_iff (after : first ≤ day) (before : day ≤ last) (inDay : hour < 24) :
    (∃ gap ∈ getCoverageGaps offset shifts first last, gap.date = day ∧ hour ∈ gap.uncoveredHours) ↔
      ¬ AnyPlanned shifts fun start ending => Counted offset start ending day hour := by
  have uncovered : hour ∈ uncoveredHours offset shifts day ↔
      ¬ AnyPlanned shifts fun start ending => Counted offset start ending day hour := by
    rw [← covered_iff, uncoveredHours, List.mem_filter, List.mem_range]
    simp [inDay]
  rw [← uncovered]
  unfold getCoverageGaps
  constructor
  · rintro ⟨gap, listed, dated, missing⟩
    obtain ⟨listedDay, _, found⟩ := List.mem_filterMap.mp listed
    unfold coverageGap at found
    dsimp only at found
    split at found
    · cases found
    · cases found
      exact dated ▸ missing
  · intro missing
    have filled : (uncoveredHours offset shifts day).isEmpty = false :=
      List.isEmpty_eq_false_iff.mpr (List.ne_nil_of_mem missing)
    refine ⟨_, List.mem_filterMap.mpr ⟨day, ?_, by rw [coverageGap, filled]; rfl⟩, rfl, missing⟩
    have back : first + ((day - first).toNat : Int) = day := by omega
    exact List.mem_map.mpr ⟨(day - first).toNat, List.mem_range.mpr (by omega), back⟩

theorem gapsExact_iff (forwards : Forwards shifts) :
    GapsExact offset shifts first last ↔ StandIns offset shifts first last := by
  have regular : ∀ (day : Int) (hour : Nat), hour < 24 → ∀ shift ∈ shifts.rows,
      ∀ start ending, shift.plannedStartTime = some start → shift.plannedEndTime = some ending →
        Regular offset start ending →
          (Counted offset start ending day hour ↔ Reaches offset start ending day hour) := by
    intro day hour inDay shift stored start ending starts ends orderly
    obtain ⟨_, _, starts', ends', later⟩ := forwards shift stored
    cases starts.symm.trans starts'
    cases ends.symm.trans ends'
    exact counted_iff_of_regular later orderly inDay
  refine forall_congr' fun day => forall_congr' fun hour => forall_congr' fun after =>
    forall_congr' fun before => forall_congr' fun inDay => ?_
  rw [reported_iff after before inDay, not_iff_not]
  constructor
  · intro same
    constructor
    · rintro ⟨shift, stored, running, start, ending, starts, ends, _, reaches, _⟩
      exact same.mpr ⟨shift, stored, running, start, ending, starts, ends, reaches⟩
    · rintro ⟨shift, stored, running, start, ending, starts, ends, _, counted, _⟩
      exact same.mp ⟨shift, stored, running, start, ending, starts, ends, counted⟩
  · rintro ⟨stands, standsToo⟩
    constructor
    · rintro ⟨shift, stored, running, start, ending, starts, ends, counted⟩
      by_cases reaches : Reaches offset start ending day hour
      · exact ⟨shift, stored, running, start, ending, starts, ends, reaches⟩
      · refine standsToo ⟨shift, stored, running, start, ending, starts, ends, ?_, counted, reaches⟩
        exact fun orderly => reaches
          ((regular day hour inDay shift stored start ending starts ends orderly).mp counted)
    · rintro ⟨shift, stored, running, start, ending, starts, ends, reaches⟩
      by_cases counted : Counted offset start ending day hour
      · exact ⟨shift, stored, running, start, ending, starts, ends, counted⟩
      · refine stands ⟨shift, stored, running, start, ending, starts, ends, ?_, reaches, counted⟩
        exact fun orderly => counted
          ((regular day hour inDay shift stored start ending starts ends orderly).mpr reaches)

end

/-- One shift, at some minutes of the first day of the calendar. -/
def plannedFor (start ending : Int) : Table Shift.id :=
  ⟨[{ id := 1, userId := some 1, startTime := start, endTime := none, status := .planned,
      plannedStartTime := some start, plannedEndTime := some ending,
      specializationFocus := .null }], by simp⟩

theorem plannedFor_forwards {start ending : Int} (forwards : start < ending) :
    Forwards (plannedFor start ending) := by
  intro shift listed
  cases List.mem_singleton.mp listed
  exact ⟨start, ending, rfl, rfl, forwards⟩

/-- From eight in the evening to eight in the morning: the morning is reported as a gap. -/
theorem night_unseen : ¬ ∀ (offset : Int) (shifts : Table Shift.id) (first last : CalendarDay),
    Forwards shifts → GapsExact offset shifts first last := by
  intro law
  have exact_ := law 0 (plannedFor 72000 115200) 0 1 (plannedFor_forwards (by decide)) 1 2
    (by decide) (by decide) (by decide)
  have reported : ∃ gap ∈ getCoverageGaps 0 (plannedFor 72000 115200) 0 1, gap.date = 1 ∧
      2 ∈ gap.uncoveredHours := by decide
  refine exact_.mp reported ⟨_, List.mem_cons_self, rfl, 72000, 115200, rfl, rfl, ?_⟩
  unfold Reaches
  decide

theorem morning_exact :
    GapsExact 0 (plannedFor 28800 43200) 0 1 ↔ StandIns 0 (plannedFor 28800 43200) 0 1 :=
  gapsExact_iff (plannedFor_forwards (by decide))

end InfrasafeBot.Shifts
