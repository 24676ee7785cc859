import InfrasafeBot.ResourceAccounting.Baselines

/-! Runs of the worksheet: entries over any months, in any order, between the moves of the
periods. An entry computes its own row from the baseline there is; the later rows keep what
they have been computed from, so that they stay right only where their baselines do. -/

set_option autoImplicit false

namespace InfrasafeBot.ResourceAccounting

open Library Machine

/-- The accounts, and the day on which each reading has last been entered. -/
structure Worksheet where
  accounts : Accounts
  enteredOn : ReadingKey → Day

def entryKey (period : ReportingPeriod) (entry : Entry) : Option ReadingKey :=
  match entry.1 with
  | .error _ => none
  | .ok meter => some (meter.id, period.month)

namespace Worksheet

def enter (today : Day) (days : ReadingKey → Day) (keys : List ReadingKey) : ReadingKey → Day :=
  keys.foldl (fun days key => Function.update days key today) days

def writtenKeys (accounts : Accounts) : WorksheetCall → List ReadingKey
  | .period _ => []
  | .entry call =>
    match accounts.entries call with
    | .error _ => []
    | .ok (period, entered) => entered.filterMap (entryKey period)

def next (sheet : Worksheet) (event : Day × WorksheetCall) : Worksheet :=
  match sheet.accounts.performWorksheet event.1 event.2 with
  | .error _ => sheet
  | .ok written => ⟨written, enter event.1 sheet.enteredOn (writtenKeys sheet.accounts event.2)⟩

end Worksheet

/-- The value fits its column, and no later reading that counts gets another baseline value. -/
def SparesLater (counts : Accounts → Reading → Bool) (today : Day) (period : ReportingPeriod)
    (accounts : Accounts) (meter : Meter) (data : ReadingIn) : Prop :=
  Exact data.value ∧
    Unmoved accounts (counts accounts) meter.id period.month
      (data.usableValue today meter period.month (accounts.previousValue meter.id period.month))

instance sparesLaterDecidable (counts : Accounts → Reading → Bool) (today : Day)
    (period : ReportingPeriod) (accounts : Accounts) (meter : Meter) (data : ReadingIn) :
    Decidable (SparesLater counts today period accounts meter data) :=
  inferInstanceAs (Decidable (_ ∧ _))

/-- Each entry does so on the accounts that it meets. -/
def SparesAll (counts : Accounts → Reading → Bool) (today : Day) (period : ReportingPeriod) :
    Accounts → List Entry → Prop
  | _, [] => True
  | accounts, (found, data) :: rest =>
    match found with
    | .error _ => True
    | .ok meter =>
      SparesLater counts today period accounts meter data ∧
        match accounts.upsertReading today period meter data with
        | .error _ => True
        | .ok written => SparesAll counts today period written rest

instance sparesAllDecidable (counts : Accounts → Reading → Bool) (today : Day)
    (period : ReportingPeriod) (accounts : Accounts) (entered : List Entry) :
    Decidable (SparesAll counts today period accounts entered) := by
  induction entered generalizing accounts with
  | nil => exact .isTrue trivial
  | cons entry rest ih =>
    obtain ⟨found, data⟩ := entry
    cases found with
    | error refusal => exact .isTrue trivial
    | ok meter =>
      unfold SparesAll
      dsimp only
      cases accounts.upsertReading today period meter data with
      | error refusal => exact inferInstanceAs (Decidable (_ ∧ True))
      | ok written =>
        have := ih written
        exact inferInstanceAs (Decidable (_ ∧ SparesAll counts today period written rest))

/-- A call that is refused does no harm. -/
def SafeEntry (counts : Accounts → Reading → Bool) (accounts : Accounts) (today : Day)
    (call : EntryCall) : Prop :=
  match accounts.performEntry today call with
  | .error _ => True
  | .ok _ =>
    match accounts.entries call with
    | .error _ => True
    | .ok (period, entered) => SparesAll counts today period accounts entered

instance safeEntryDecidable (counts : Accounts → Reading → Bool) (accounts : Accounts)
    (today : Day) (call : EntryCall) : Decidable (SafeEntry counts accounts today call) := by
  unfold SafeEntry
  cases accounts.performEntry today call with
  | error refusal => exact .isTrue trivial
  | ok written =>
    cases accounts.entries call with
    | error refusal => exact .isTrue trivial
    | ok loaded => exact sparesAllDecidable counts today loaded.1 accounts loaded.2

/-- The readings whose baselines an entry has to leave alone: those with a value in a period
that is not closed. -/
def openReading (accounts : Accounts) (reading : Reading) : Bool :=
  reading.value.isSome && accounts.unclosed reading.month

/-- What keeps the later rows right, on the accounts before the call. -/
def Worksheet.Allowed (sheet : Worksheet) (event : Day × WorksheetCall) : Prop :=
  match event.2 with
  | .period _ => True
  | .entry call => SafeEntry openReading sheet.accounts event.1 call

instance worksheetAllowedDecidable (sheet : Worksheet) (event : Day × WorksheetCall) :
    Decidable (sheet.Allowed event) := by
  unfold Worksheet.Allowed
  cases event.2 with
  | period call => exact .isTrue trivial
  | entry call => exact safeEntryDecidable openReading sheet.accounts event.1 call

variable {accounts written : Accounts} {today : Day} {period : ReportingPeriod} {meter : Meter}
  {entered : List Entry}

section

variable {month : Month} {id : MeterId} {name : String}

theorem getPeriod_ok (returned : accounts.getPeriod month = .ok period) :
    accounts.periods.find? period.month = some period ∧ period.month = month := by
  unfold Accounts.getPeriod at returned
  split at returned
  · cases returned
  · next found =>
      cases returned
      have same := Table.key_of_find? found
      exact ⟨same.symm ▸ found, same⟩

theorem meterNamed_ok (returned : accounts.meterNamed name id = .ok meter) :
    accounts.meters.find? meter.id = some meter := by
  unfold Accounts.meterNamed at returned
  split at returned
  · cases returned
  · next found =>
      cases returned
      exact (Table.key_of_find? found).symm ▸ found

/-- The meters of the entries are stored as they have been looked up. -/
def Known (accounts : Accounts) (entered : List Entry) : Prop :=
  ∀ entry ∈ entered, ∀ meter, entry.1 = .ok meter → accounts.meters.find? meter.id = some meter

theorem entries_ok {call : EntryCall} (returned : accounts.entries call = .ok (period, entered)) :
    accounts.periods.find? period.month = some period ∧ Known accounts entered := by
  cases call with
  | put month meter data =>
    obtain ⟨loaded, found, rest⟩ := bind_eq_ok_iff.mp returned
    cases rest
    refine ⟨(getPeriod_ok found).1, fun entry listed row named => ?_⟩
    cases List.mem_singleton.mp listed
    exact meterNamed_ok named
  | bulk month items =>
    obtain ⟨loaded, found, rest⟩ := bind_eq_ok_iff.mp returned
    cases rest
    refine ⟨(getPeriod_ok found).1, fun entry listed row named => ?_⟩
    obtain ⟨item, _, rfl⟩ := List.mem_map.mp listed
    exact meterNamed_ok named
  | importCommit month rows skipLines =>
    obtain ⟨loaded, found, rest⟩ := bind_eq_ok_iff.mp returned
    dsimp only at rest
    split at rest
    · cases rest
    · obtain ⟨previewed, _, last⟩ := bind_eq_ok_iff.mp rest
      cases last
      refine ⟨(getPeriod_ok found).1, fun entry listed row named => ?_⟩
      obtain ⟨line, _, made⟩ := List.mem_filterMap.mp listed
      split at made
      · obtain ⟨meter, looked, rfl⟩ := Option.map_eq_some_iff.mp made
        obtain ⟨id, _, found⟩ := Option.bind_eq_some_iff.mp looked
        cases named
        exact (Table.key_of_find? found).symm ▸ found
      · cases made

theorem transition_ok {target : PeriodStatus}
    (returned : accounts.transition month target = .ok written) :
    ∃ period, accounts.periods.find? period.month = some period ∧ target ∈ period.status.flow ∧
      written = { accounts with
        periods := accounts.periods.put { period with status := target } } := by
  obtain ⟨period, found, rest⟩ := bind_eq_ok_iff.mp returned
  dsimp only at rest
  split at rest
  · cases rest
  · next follows =>
      cases rest
      exact ⟨period, (getPeriod_ok found).1, not_not.mp follows, rfl⟩

theorem submit_ok (returned : accounts.submit month = .ok written) :
    accounts.transition month .submitted = .ok written := by
  obtain ⟨period, _, rest⟩ := bind_eq_ok_iff.mp returned
  dsimp only at rest
  split at rest
  · cases rest
  · split at rest
    · cases rest
    · exact rest

theorem performPeriod_ok {call : PeriodCall}
    (returned : accounts.performPeriod call = .ok written) :
    (∃ month, accounts.periods.find? month = none ∧
      written = { accounts with periods := accounts.periods.save ⟨month, .opened⟩ }) ∨
    ∃ month target, accounts.transition month target = .ok written := by
  cases call with
  | create month =>
    unfold Accounts.performPeriod Accounts.createPeriod at returned
    dsimp only at returned
    split at returned
    · cases returned
    · next absent =>
        cases returned
        exact .inl ⟨month, absent, rfl⟩
  | moveToReview month => exact .inr ⟨month, .review, returned⟩
  | reopen month => exact .inr ⟨month, .opened, returned⟩
  | submit month => exact .inr ⟨month, .submitted, submit_ok returned⟩
  | close month => exact .inr ⟨month, .closed, returned⟩

/-- No period of a reading comes back from its close. -/
structure Reopens (accounts written : Accounts) : Prop where
  readings : written.readings = accounts.readings
  meters : written.meters = accounts.meters
  placed : ∀ month, (accounts.periods.find? month).isSome → (written.periods.find? month).isSome
  unclosed : ∀ month, (accounts.periods.find? month).isSome → written.unclosed month = true →
    accounts.unclosed month = true

theorem transition_reopens {target : PeriodStatus}
    (returned : accounts.transition month target = .ok written) : Reopens accounts written := by
  obtain ⟨period, found, follows, rfl⟩ := transition_ok returned
  have running : period.status ≠ .closed := by
    intro ended
    rw [ended] at follows
    cases follows
  have itself : (accounts.periods.put ⟨period.month, target⟩).find? period.month =
      some ⟨period.month, target⟩ :=
    Table.find?_put_self found
  have others : ∀ wanted, wanted ≠ period.month →
      (accounts.periods.put ⟨period.month, target⟩).find? wanted =
        accounts.periods.find? wanted :=
    fun wanted different => Table.find?_put_of_ne different
  refine ⟨rfl, rfl, fun wanted placed => ?_, fun wanted placed unclosed => ?_⟩
  · by_cases own : wanted = period.month
    · rw [own]
      exact Option.isSome_of_mem itself
    · exact (congrArg Option.isSome (others wanted own)).trans placed
  · by_cases own : wanted = period.month
    · subst own
      simp [Accounts.unclosed, found, running]
    · unfold Accounts.unclosed at unclosed ⊢
      rwa [← others wanted own]

theorem performPeriod_reopens {call : PeriodCall}
    (returned : accounts.performPeriod call = .ok written) : Reopens accounts written := by
  obtain ⟨month, absent, rfl⟩ | ⟨month, target, moved⟩ := performPeriod_ok returned
  · have others : ∀ wanted, (accounts.periods.find? wanted).isSome →
        (accounts.periods.save ⟨month, .opened⟩).find? wanted =
          accounts.periods.find? wanted := by
      intro wanted placed
      have different : wanted ≠ month := by
        rintro rfl
        rw [absent] at placed
        cases placed
      exact Table.find?_save_of_ne different
    refine ⟨rfl, rfl, fun wanted placed => ?_, fun wanted placed unclosed => ?_⟩
    · exact (congrArg Option.isSome (others wanted placed)).trans placed
    · unfold Accounts.unclosed at unclosed ⊢
      rwa [← others wanted placed]
  · exact transition_reopens moved

end

/-- A reading stands on the baseline of its month: its previous value is the baseline's, and
its status and consumption are what an evaluation of that day makes of it. -/
def Grounded (accounts : Accounts) (day : Day) (reading : Reading) (value : ℚ) : Prop :=
  ∃ meter, accounts.meters.find? reading.meterId = some meter ∧
    reading.previousValue = accounts.previousValue reading.meterId reading.month ∧
      Evaluated day meter reading value

structure Worksheet.Sound (sheet : Worksheet) : Prop where
  placed : ∀ reading ∈ sheet.accounts.readings.rows, (sheet.accounts.periods.find? reading.month).isSome
  exact : ∀ reading ∈ sheet.accounts.readings.rows, Exact reading.value
  grounded : ∀ reading ∈ sheet.accounts.readings.rows, ∀ value, reading.value = some value →
    sheet.accounts.unclosed reading.month = true →
      Grounded sheet.accounts (sheet.enteredOn reading.key) reading value

namespace Worksheet.Sound

variable {days : ReadingKey → Day} {data : ReadingIn}

/-- One entry: its row is computed from the baseline there is, and the others keep theirs. -/
theorem upsert (sound : Worksheet.Sound ⟨accounts, days⟩)
    (stored : accounts.meters.find? meter.id = some meter)
    (opened : accounts.periods.find? period.month = some period)
    (spares : SparesLater openReading today period accounts meter data)
    (returned : accounts.upsertReading today period meter data = .ok written) :
    Worksheet.Sound ⟨written, Function.update days (meter.id, period.month) today⟩ ∧
      written.meters = accounts.meters ∧ written.periods = accounts.periods := by
  obtain ⟨row, result⟩ := upserted sound.exact spares.1 returned
  obtain rfl := result.saved
  have ownMeter : row.meterId = meter.id := congrArg Prod.fst result.key
  have ownMonth : row.month = period.month := congrArg Prod.snd result.key
  have unmoved : Unmoved accounts (openReading accounts) row.meterId row.month row.usableValue := by
    rw [ownMeter, ownMonth, result.usable]
    exact spares.2
  refine ⟨⟨?_, ?_, ?_⟩, rfl, rfl⟩
  · intro reading listed
    rcases mem_saveRow.mp listed with rfl | ⟨before, _⟩
    · exact Option.isSome_of_mem (ownMonth ▸ opened)
    · exact sound.placed reading before
  · intro reading listed
    rcases mem_saveRow.mp listed with rfl | ⟨before, _⟩
    · exact result.value ▸ spares.1
    · exact sound.exact reading before
  · intro reading listed value held unclosed
    rcases mem_saveRow.mp listed with rfl | ⟨before, different⟩
    · refine ⟨meter, ownMeter ▸ stored, ?_, ?_⟩
      · rw [previousValue_saveRow_self, ownMeter, ownMonth]
        exact result.previous
      · have day : Function.update days (meter.id, period.month) today reading.key = today := by
          rw [result.key, Function.update_self]
        change Evaluated (Function.update days (meter.id, period.month) today reading.key) meter
          reading value
        rw [day]
        exact result.evaluated value held
    · obtain ⟨known, found, previous, evaluated⟩ := sound.grounded reading before value held unclosed
      have counted : openReading accounts reading = true := by
        simp only [openReading, held, Option.isSome_some, Bool.true_and]
        exact unclosed
      have day : Function.update days (meter.id, period.month) today reading.key =
          days reading.key :=
        Function.update_of_ne (result.key ▸ different) _ _
      refine ⟨known, found, previous.trans (previousValue_saveRow unmoved before counted).symm, ?_⟩
      change Evaluated (Function.update days (meter.id, period.month) today reading.key) known
        reading value
      rw [day]
      exact evaluated

theorem enter (sound : Worksheet.Sound ⟨accounts, days⟩)
    (opened : accounts.periods.find? period.month = some period)
    (known : Known accounts entered)
    (spares : SparesAll openReading today period accounts entered)
    (returned : accounts.enter today period entered = .ok written) :
    Worksheet.Sound
      ⟨written, Worksheet.enter today days (entered.filterMap (entryKey period))⟩ := by
  induction entered generalizing accounts days with
  | nil =>
    cases returned
    exact sound
  | cons entry rest ih =>
    obtain ⟨found, data⟩ := entry
    obtain ⟨meter, rfl, saved⟩ := bind_eq_ok_iff.mp returned
    obtain ⟨middle, first, later⟩ := bind_eq_ok_iff.mp saved
    unfold SparesAll at spares
    simp only [first] at spares
    obtain ⟨next, sameMeters, samePeriods⟩ :=
      sound.upsert (known _ List.mem_cons_self meter rfl) opened spares.1 first
    refine ih next (samePeriods ▸ opened) ?_ spares.2 later
    intro other listed row named
    rw [sameMeters]
    exact known other (List.mem_cons_of_mem _ listed) row named

theorem reopens (sound : Worksheet.Sound ⟨accounts, days⟩) (moved : Reopens accounts written) :
    Worksheet.Sound ⟨written, days⟩ where
  placed := by
    intro reading listed
    exact moved.placed reading.month (sound.placed reading (moved.readings ▸ listed))
  exact := fun reading listed => sound.exact reading (moved.readings ▸ listed)
  grounded := by
    intro reading listed value held unclosed
    have before : reading ∈ accounts.readings.rows := moved.readings ▸ listed
    obtain ⟨meter, found, previous, evaluated⟩ := sound.grounded reading before value held
      (moved.unclosed reading.month (sound.placed reading before) unclosed)
    refine ⟨meter, moved.meters ▸ found, ?_, evaluated⟩
    rw [previous]
    unfold Accounts.previousValue Accounts.getPreviousAccepted
    rw [moved.readings]

theorem next {sheet : Worksheet} (sound : sheet.Sound) {event : Day × WorksheetCall}
    (allowed : sheet.Allowed event) : (sheet.next event).Sound := by
  obtain ⟨accounts, days⟩ := sheet
  obtain ⟨today, call⟩ := event
  unfold Worksheet.next
  dsimp only
  split
  · exact sound
  · next written performed =>
      cases call with
      | period call => exact sound.reopens (performPeriod_reopens performed)
      | entry call =>
        have safe : SafeEntry openReading accounts today call := allowed
        obtain ⟨⟨period, entered⟩, loaded, saved⟩ := bind_eq_ok_iff.mp performed
        obtain ⟨opened, known⟩ := entries_ok loaded
        have succeeded : accounts.performEntry today call = .ok written := performed
        simp only [SafeEntry, succeeded, loaded] at safe
        simp only [Worksheet.writtenKeys, loaded]
        exact sound.enter opened known safe saved

end Worksheet.Sound

def Worksheet.opening (meters : Table Meter.id) (rules : ResourceType → Option AnomalyRule)
    (days : ReadingKey → Day) : Worksheet :=
  ⟨.opening meters rules, days⟩

theorem Worksheet.sound_opening (meters : Table Meter.id)
    (rules : ResourceType → Option AnomalyRule) (days : ReadingKey → Day) :
    (Worksheet.opening meters rules days).Sound where
  placed := fun _ listed => (by cases listed)
  exact := fun _ listed => (by cases listed)
  grounded := fun _ listed => (by cases listed)

/-- As long as no entry moves the baseline of a later open reading, every open reading stands on
the baseline of its month. -/
theorem baselines_right (meters : Table Meter.id) (rules : ResourceType → Option AnomalyRule)
    (days : ReadingKey → Day) (events : List (Day × WorksheetCall))
    (careful : Obeys Worksheet.next Worksheet.Allowed (.opening meters rules days) events) :
    let sheet := run Worksheet.next (.opening meters rules days) events
    ∀ reading ∈ sheet.accounts.readings.rows, ∀ value, reading.value = some value →
      sheet.accounts.unclosed reading.month = true →
        reading.previousValue = sheet.accounts.previousValue reading.meterId reading.month ∧
          ∃ meter problems, sheet.accounts.meters.find? reading.meterId = some meter ∧
            valueProblems (sheet.enteredOn reading.key) meter reading.month
              reading.previousValue value reading.readAt reading.kind = .ok problems ∧
            (reading.status = .error ↔ problems ≠ []) ∧
            (problems = [] → ∃ consumption,
              computeConsumption reading.previousValue value meter.coefficient reading.kind
                meter.maxDigits = .ok consumption ∧ reading.consumption = some consumption) := by
  intro sheet reading listed value held unclosed
  have sound : sheet.Sound :=
    run_invariant_of_obeys Worksheet.next Worksheet.Sound
      (Worksheet.sound_opening meters rules days)
      (fun _ _ allowed sound => sound.next allowed) careful
  obtain ⟨meter, found, previous, problems, collected, outcome⟩ :=
    sound.grounded reading listed value held unclosed
  refine ⟨previous, meter, problems, found, collected, ?_, fun clean => ?_⟩
  · rcases outcome with ⟨some, failed, _⟩ | ⟨clean, accepted, _⟩
    · exact ⟨fun _ => some, fun _ => failed⟩
    · refine ⟨fun failed => ?_, fun some => absurd clean some⟩
      rw [failed] at accepted
      cases accepted
  · rcases outcome with ⟨some, _, _⟩ | ⟨_, _, computed⟩
    · exact absurd clean some
    · exact computed

def hallMeter : Meter := ⟨1, "RD-0001", "RD-0001", .electricity, .active, 1, none, 1, none⟩

def hallSheet : Worksheet :=
  .opening ((Table.empty : Table Meter.id).save hallMeter) (fun _ => none) fun _ => 0

def january : Month := 12 * 2026

def february : Month := january + 1

def readingDay : Day := 739675

def valueEntry (value : ℚ) : ReadingIn := ⟨some value, none, .normal, none, none⟩

def openMonths : List (Day × WorksheetCall) :=
  [(readingDay, .period (.create january)), (readingDay, .period (.create february))]

def orderedEntries : List (Day × WorksheetCall) :=
  openMonths ++ [(readingDay, .entry (.put january 1 (valueEntry 100))),
    (readingDay, .entry (.put february 1 (valueEntry 150)))]

def lateEntries : List (Day × WorksheetCall) :=
  openMonths ++ [(readingDay, .entry (.put february 1 (valueEntry 150))),
    (readingDay, .entry (.put january 1 (valueEntry 100)))]

theorem ordered_baselines_right :
    ∃ reading ∈ (run Worksheet.next hallSheet orderedEntries).accounts.readings.rows,
      reading.month = february ∧ reading.previousValue = some 100 ∧
        reading.previousValue =
          (run Worksheet.next hallSheet orderedEntries).accounts.previousValue
            reading.meterId reading.month := by
  have entered : ∃ reading ∈ (run Worksheet.next hallSheet orderedEntries).accounts.readings.rows,
      reading.month = february ∧ reading.previousValue = some 100 ∧ reading.value = some 150 ∧
        (run Worksheet.next hallSheet orderedEntries).accounts.unclosed reading.month = true := by
    decide +kernel
  obtain ⟨reading, listed, own, previous, held, unclosed⟩ := entered
  exact ⟨reading, listed, own, previous,
    (baselines_right _ _ _ orderedEntries (by decide +kernel) reading listed 150 held unclosed).1⟩

/-- January is entered after February, which keeps its consumption of a first reading. -/
theorem late_entry_leaves_baseline :
    ¬ ∀ reading ∈ (run Worksheet.next hallSheet lateEntries).accounts.readings.rows,
      reading.value.isSome = true →
        (run Worksheet.next hallSheet lateEntries).accounts.unclosed reading.month = true →
          reading.previousValue =
            (run Worksheet.next hallSheet lateEntries).accounts.previousValue
              reading.meterId reading.month := by
  decide +kernel

end InfrasafeBot.ResourceAccounting
