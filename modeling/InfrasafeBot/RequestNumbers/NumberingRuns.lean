import InfrasafeBot.RequestNumbers.Numbering

/-! No number is given to two requests. A transaction keeps the lock of a counter until it
ends, so that what it has numbered is above everything committed for the day; a seed matters
only as long as the day has no committed counter, and then nothing has been numbered. -/

set_option autoImplicit false

namespace InfrasafeBot.RequestNumbers

open Library Library.Machine RequestWorkflow

def RequestWrite.effect (occurrences : Nat) : RequestWrite → Nat
  | .insert _ => occurrences + 1
  | .delete _ => 0

theorem count_applyWrites (numbers : List RequestNumber) (writes : List RequestWrite)
    (number : RequestNumber) :
    (applyWrites numbers writes).count number =
      (writes.filter (·.number = number)).foldl RequestWrite.effect (numbers.count number) := by
  induction writes generalizing numbers with
  | nil => rfl
  | cons write rest ih =>
    have counted : (write.apply numbers).count number =
        if write.number = number then write.effect (numbers.count number)
        else numbers.count number := by
      cases write with
      | insert other =>
        by_cases same : other = number
        · simp [RequestWrite.apply, RequestWrite.number, RequestWrite.effect, same]
        · simp [RequestWrite.apply, RequestWrite.number, same]
      | delete other =>
        by_cases same : other = number
        · subst same
          simp [RequestWrite.apply, RequestWrite.number, RequestWrite.effect, List.count_eq_zero]
        · simp only [RequestWrite.apply, RequestWrite.number, same, if_false]
          exact List.count_filter (by simpa using Ne.symm same)
    change (applyWrites (write.apply numbers) rest).count number = _
    rw [ih, counted, List.filter_cons]
    by_cases same : write.number = number
    · simp [same]
    · simp [same]

variable {number : RequestNumber} {old : List RequestNumber} {work : Work} {store : NumberStore}
  {numbers : List RequestNumber} {writes : List RequestWrite}

theorem count_of_untouched (untouched : number ∉ writes.map RequestWrite.number) :
    (applyWrites numbers writes).count number = numbers.count number := by
  rw [count_applyWrites, List.filter_eq_nil_iff.mpr]
  · rfl
  · intro write listed same
    exact untouched (of_decide_eq_true same ▸ List.mem_map_of_mem listed)

theorem mem_applyWrites (listed : number ∈ applyWrites numbers writes) :
    number ∈ numbers ∨ .insert number ∈ writes := by
  induction writes generalizing numbers with
  | nil => exact .inl listed
  | cons write rest ih =>
    rcases ih (listed : number ∈ applyWrites (write.apply numbers) rest) with before | later
    · cases write with
      | insert other =>
        rcases List.mem_append.mp before with old | new
        · exact .inl old
        · rw [List.mem_singleton.mp new]
          exact .inr List.mem_cons_self
      | delete other => exact .inl (List.mem_filter.mp before).1
    · exact .inr (List.mem_cons_of_mem _ later)

theorem mem_created : number ∈ work.created ↔ .insert number ∈ work.writes := by
  unfold Work.created
  rw [List.mem_filterMap]
  constructor
  · intro found
    obtain ⟨write, listed, same⟩ := found
    cases write with
    | insert other =>
      cases same
      exact listed
    | delete other => cases same
  · intro listed
    exact ⟨.insert number, listed, rfl⟩

theorem mem_visible (listed : number ∈ store.visible work) :
    number ∈ store.requests ∨ number ∈ work.created :=
  (mem_applyWrites listed).imp_right mem_created.mpr

def Counted (counters : Table RequestNumberCounter.dayPrefix) (number : RequestNumber) : Prop :=
  ∃ day seq counter, number = formatNumber day seq ∧ counters.find? day = some counter ∧
    seq ≤ counter.lastSeq

def Increasing (numbers : List RequestNumber) : Prop :=
  ∀ day, ((numbers.filter (ofDay day)).map seqOf).Pairwise (· < ·)

structure NumberStore.Sound (old : List RequestNumber) (store : NumberStore) : Prop where
  nodup : store.requests.Nodup
  bounded : ∀ day counter, store.counters.find? day = some counter →
    ∀ number ∈ store.requests, ofDay day number = true → seqOf number ≤ counter.lastSeq
  counted : ∀ number ∈ store.created, Counted store.counters number
  increasing : Increasing store.created
  known : ∀ number ∈ store.requests, number ∈ old ∨ number ∈ store.created

structure Work.Holds (store : NumberStore) (work : Work) : Prop where
  nodup : (store.visible work).Nodup
  bounded : ∀ day counter, work.counters.find? day = some counter →
    ∀ number, number ∈ store.visible work ∨ number ∈ work.created → ofDay day number = true →
      seqOf number ≤ counter.lastSeq
  counted : ∀ number ∈ work.created, Counted work.counters number
  increasing : Increasing work.created
  newer : ∀ day counter stored, work.counters.find? day = some counter →
    store.counters.find? day = some stored → stored.lastSeq < counter.lastSeq ∧
      ∀ number ∈ work.created, ofDay day number = true → stored.lastSeq < seqOf number

theorem Work.holds_empty (sound : store.Sound old) : Work.empty.Holds store where
  nodup := sound.nodup
  bounded := fun _ _ found => by cases found
  counted := fun _ listed => by cases listed
  increasing := fun _ => List.Pairwise.nil
  newer := fun _ _ _ found => by cases found

variable {day : DayPrefix}

section

variable {counters : Table RequestNumberCounter.dayPrefix}

theorem Counted.of_day (counted : Counted counters number) (own : ofDay day number = true) :
    ∃ counter, counters.find? day = some counter ∧ seqOf number ≤ counter.lastSeq := by
  obtain ⟨other, seq, counter, rfl, found, bounded⟩ := counted
  obtain rfl := ofDay_formatNumber.mp own
  exact ⟨counter, found, by rwa [seqOf_formatNumber]⟩

theorem Counted.has_day (counted : Counted counters number) : ∃ day, ofDay day number = true := by
  obtain ⟨day, seq, _, rfl, _⟩ := counted
  exact ⟨day, ofDay_formatNumber.mpr rfl⟩

theorem Increasing.nodup {numbers : List RequestNumber} (increasing : Increasing numbers)
    (dated : ∀ number ∈ numbers, ∃ day, ofDay day number = true) : numbers.Nodup := by
  refine List.nodup_iff_sublist.mpr fun number twice => ?_
  obtain ⟨day, own⟩ := dated number (twice.subset List.mem_cons_self)
  have pair := (increasing day).sublist ((twice.filter (ofDay day)).map seqOf)
  rw [List.filter_cons_of_pos own, List.filter_cons_of_pos own] at pair
  have below := (List.pairwise_cons.mp pair).1 (seqOf number) List.mem_cons_self
  exact Nat.lt_irrefl _ below

end

variable {other : Work}

theorem find?_commit (day : DayPrefix) :
    (store.commit work).counters.find? day =
      (work.counters.find? day).or (store.counters.find? day) :=
  Table.find?_foldl_save work.counters.unique

theorem Counted.commit {number : RequestNumber} (holds : work.Holds store)
    (counted : Counted store.counters number) :
    Counted (store.commit work).counters number := by
  obtain ⟨day, seq, stored, rfl, found, bounded⟩ := counted
  cases own : work.counters.find? day with
  | none => exact ⟨day, seq, stored, rfl, by rw [find?_commit, own, found]; rfl, bounded⟩
  | some counter =>
    have newer := (holds.newer day counter stored own found).1
    exact ⟨day, seq, counter, rfl, by rw [find?_commit, own]; rfl, by omega⟩

theorem Counted.of_work {number : RequestNumber} (counted : Counted work.counters number) :
    Counted (store.commit work).counters number := by
  obtain ⟨day, seq, counter, rfl, found, bounded⟩ := counted
  exact ⟨day, seq, counter, rfl, by rw [find?_commit, found]; rfl, bounded⟩

theorem seqOf_lt_of_created (sound : store.Sound old) (holds : work.Holds store)
    {day : DayPrefix} {before after : RequestNumber} (committed : before ∈ store.created)
    (mine : after ∈ work.created) (beforeDay : ofDay day before = true)
    (afterDay : ofDay day after = true) : seqOf before < seqOf after := by
  obtain ⟨stored, found, bounded⟩ := (sound.counted before committed).of_day beforeDay
  obtain ⟨counter, own, _⟩ := (holds.counted after mine).of_day afterDay
  have newer := (holds.newer day counter stored own found).2 after mine afterDay
  omega

theorem Increasing.commit (sound : store.Sound old) (holds : work.Holds store) :
    Increasing (store.commit work).created := by
  intro day
  change (((store.created ++ work.created).filter (ofDay day)).map seqOf).Pairwise (· < ·)
  rw [List.filter_append, List.map_append, List.pairwise_append]
  refine ⟨sound.increasing day, holds.increasing day, ?_⟩
  intro left leftListed right rightListed
  obtain ⟨before, beforeListed, rfl⟩ := List.mem_map.mp leftListed
  obtain ⟨after, afterListed, rfl⟩ := List.mem_map.mp rightListed
  obtain ⟨committed, beforeDay⟩ := List.mem_filter.mp beforeListed
  obtain ⟨mine, afterDay⟩ := List.mem_filter.mp afterListed
  exact seqOf_lt_of_created sound holds committed mine beforeDay afterDay

theorem NumberStore.Sound.commit (sound : store.Sound old) (holds : work.Holds store) :
    (store.commit work).Sound old where
  nodup := holds.nodup
  bounded := by
    intro day counter found number listed own
    rw [find?_commit] at found
    cases mine : work.counters.find? day with
    | some kept =>
      rw [mine] at found
      cases found
      exact holds.bounded day counter mine number (.inl listed) own
    | none =>
      rw [mine] at found
      rcases mem_visible listed with before | created
      · exact sound.bounded day counter found number before own
      · obtain ⟨kept, known, _⟩ := (holds.counted number created).of_day own
        rw [mine] at known
        cases known
  counted := by
    intro number listed
    rcases List.mem_append.mp listed with before | created
    · exact (sound.counted number before).commit holds
    · exact (holds.counted number created).of_work
  increasing := Increasing.commit sound holds
  known := by
    intro number listed
    rcases mem_visible listed with before | created
    · exact (sound.known number before).imp_right (List.mem_append_left _)
    · exact .inr (List.mem_append_right _ created)

/-- The two transactions have neither a counter nor a request in common. -/
structure Work.Apart (work other : Work) : Prop where
  counters : ∀ day counter, other.counters.find? day = some counter → work.counters.find? day = none
  requests : ∀ number ∈ other.writes.map RequestWrite.number, number ∉ work.writes.map RequestWrite.number

theorem Work.apart_of_locks (apart : ∀ key ∈ other.locks, key ∉ work.locks) : work.Apart other where
  counters := by
    intro day counter found
    cases mine : work.counters.find? day with
    | none => rfl
    | some kept =>
      have theirs : NumberLock.counter day ∈ other.locks := by
        rw [← Table.key_of_find? found]
        exact List.mem_append_left _ (List.mem_map_of_mem (Table.mem_of_find? found))
      refine absurd ?_ (apart _ theirs)
      rw [← Table.key_of_find? mine]
      exact List.mem_append_left _ (List.mem_map_of_mem (Table.mem_of_find? mine))
  requests := by
    intro number listed mine
    have lock {some : Work} (written : number ∈ some.writes.map RequestWrite.number) :
        NumberLock.request number ∈ some.locks := by
      obtain ⟨write, member, rfl⟩ := List.mem_map.mp written
      exact List.mem_append_right _ (List.mem_map_of_mem member)
    exact apart _ (lock listed) (lock mine)

section

variable (apart : work.Apart other)

include apart

theorem count_visible_commit (number : RequestNumber) :
    ((store.commit other).visible work).count number = (store.visible work).count number ∨
      ((store.commit other).visible work).count number = (store.visible other).count number := by
  by_cases mine : number ∈ work.writes.map RequestWrite.number
  · left
    have untouched : number ∉ other.writes.map RequestWrite.number :=
      fun theirs => apart.requests number theirs mine
    have same : (store.commit other).requests.count number = store.requests.count number :=
      count_of_untouched untouched
    unfold NumberStore.visible
    rw [count_applyWrites, count_applyWrites, same]
  · exact .inr (count_of_untouched mine)

theorem mem_visible_commit {number : RequestNumber}
    (listed : number ∈ (store.commit other).visible work) :
    number ∈ store.visible work ∨ number ∈ other.created := by
  by_cases mine : number ∈ work.writes.map RequestWrite.number
  · left
    have untouched : number ∉ other.writes.map RequestWrite.number :=
      fun theirs => apart.requests number theirs mine
    have same : (store.commit other).requests.count number = store.requests.count number :=
      count_of_untouched untouched
    rw [← List.count_pos_iff] at listed ⊢
    unfold NumberStore.visible at listed ⊢
    rwa [count_applyWrites, same, ← count_applyWrites] at listed
  · have counted : ((store.commit other).visible work).count number =
        (store.visible other).count number := count_of_untouched mine
    rw [← List.count_pos_iff, counted, List.count_pos_iff] at listed
    rcases mem_visible listed with before | created
    · left
      rw [← List.count_pos_iff] at before ⊢
      rwa [NumberStore.visible, count_of_untouched mine]
    · exact .inr created

theorem find?_of_others (others : other.Holds store) {day : DayPrefix} {number : RequestNumber}
    (created : number ∈ other.created) (own : ofDay day number = true) :
    work.counters.find? day = none ∧ ∃ counter, other.counters.find? day = some counter := by
  obtain ⟨counter, found, _⟩ := (others.counted number created).of_day own
  exact ⟨apart.counters day counter found, counter, found⟩

theorem Work.Holds.others (holds : work.Holds store) (others : other.Holds store) :
    work.Holds (store.commit other) where
  nodup := by
    rw [List.nodup_iff_count_le_one]
    intro number
    rcases count_visible_commit apart number with same | same
    · rw [same]
      exact List.nodup_iff_count_le_one.mp holds.nodup number
    · rw [same]
      exact List.nodup_iff_count_le_one.mp others.nodup number
  bounded := by
    intro day counter found number listed own
    rcases listed with visible | mine
    · rcases mem_visible_commit apart visible with before | created
      · exact holds.bounded day counter found number (.inl before) own
      · rw [(find?_of_others apart others created own).1] at found
        cases found
    · exact holds.bounded day counter found number (.inr mine) own
  counted := holds.counted
  increasing := holds.increasing
  newer := by
    intro day counter stored found committed
    have theirs : other.counters.find? day = none := by
      cases known : other.counters.find? day with
      | none => rfl
      | some kept =>
        rw [apart.counters day kept known] at found
        cases found
    rw [find?_commit, theirs] at committed
    exact holds.newer day counter stored found committed

end

section

variable {seq seed : Nat}

/-- The transaction has its counter at `seq` and nothing of the day that is numbered so high. -/
structure Work.Numbers (store : NumberStore) (work : Work) (day : DayPrefix) (seq : Nat) : Prop where
  counter : work.counters.find? day = some ⟨day, seq⟩
  below : ∀ number, number ∈ store.visible work ∨ number ∈ work.created →
    ofDay day number = true → seqOf number < seq

/-- The seed bounds the day, as long as there is no counter to go on from. -/
def Seeds (store : NumberStore) (work : Work) (day : DayPrefix) (seed : Nat) : Prop :=
  store.lastSeq work day = none →
    ∀ number ∈ store.visible work, ofDay day number = true → seqOf number ≤ seed

def NumberStage.Relies (store : NumberStore) : NumberStage → Prop
  | .working work _ => work.Holds store
  | .upserting work day seed _ _ => work.Holds store ∧ Seeds store work day seed
  | .numbered work day seq _ _ => work.Holds store ∧ work.Numbers store day seq
  | .idle => True
  | .committed => True
  | .refused => True

theorem below_next (sound : store.Sound old) (holds : work.Holds store)
    (seeds : Seeds store work day seed) {number : RequestNumber}
    (listed : number ∈ store.visible work ∨ number ∈ work.created)
    (own : ofDay day number = true) :
    seqOf number < (store.lastSeq work day).getD seed + 1 := by
  apply Nat.lt_succ_of_le
  cases mine : work.counters.find? day with
  | some counter =>
    have known : store.lastSeq work day = some counter.lastSeq := by
      rw [NumberStore.lastSeq, mine]
      rfl
    rw [known]
    exact holds.bounded day counter mine number listed own
  | none =>
    have uncreated : number ∉ work.created := by
      intro created
      obtain ⟨counter, found, _⟩ := (holds.counted number created).of_day own
      rw [mine] at found
      cases found
    have visible := listed.resolve_right uncreated
    cases stored : store.counters.find? day with
    | some counter =>
      have known : store.lastSeq work day = some counter.lastSeq := by
        rw [NumberStore.lastSeq, mine, stored]
        rfl
      rw [known]
      have before := (mem_visible visible).resolve_right uncreated
      exact sound.bounded day counter stored number before own
    | none =>
      have unknown : store.lastSeq work day = none := by
        rw [NumberStore.lastSeq, mine, stored]
        rfl
      rw [unknown]
      exact seeds unknown number visible own

theorem stored_lt_next (holds : work.Holds store) {stored : RequestNumberCounter}
    (found : store.counters.find? day = some stored) :
    stored.lastSeq < (store.lastSeq work day).getD seed + 1 := by
  cases mine : work.counters.find? day with
  | some counter =>
    have newer := (holds.newer day counter stored mine found).1
    rw [NumberStore.lastSeq, mine]
    exact Nat.lt_succ_of_lt newer
  | none =>
    rw [NumberStore.lastSeq, mine, found]
    exact Nat.lt_succ_self _

theorem find?_setCounter_of_ne {other : DayPrefix} (different : other ≠ day) :
    (work.setCounter day seq).counters.find? other = work.counters.find? other :=
  Table.find?_save_of_ne different

theorem find?_setCounter : (work.setCounter day seq).counters.find? day = some ⟨day, seq⟩ :=
  Table.find?_save_self

theorem Work.Holds.setCounter (holds : work.Holds store)
    (below : ∀ number, number ∈ store.visible work ∨ number ∈ work.created →
      ofDay day number = true → seqOf number < seq)
    (newer : ∀ stored, store.counters.find? day = some stored → stored.lastSeq < seq)
    (numbered : ∀ stored, store.counters.find? day = some stored →
      ∀ number ∈ work.created, ofDay day number = true → stored.lastSeq < seqOf number) :
    (work.setCounter day seq).Holds store where
  nodup := holds.nodup
  bounded := by
    intro other counter found number listed own
    by_cases same : other = day
    · subst same
      rw [find?_setCounter] at found
      cases found
      exact (below number listed own).le
    · rw [find?_setCounter_of_ne same] at found
      exact holds.bounded other counter found number listed own
  counted := by
    intro number created
    obtain ⟨other, place, counter, rfl, found, bounded⟩ := holds.counted number created
    by_cases same : other = day
    · subst same
      have before := below (formatNumber other place) (.inr created) (ofDay_formatNumber.mpr rfl)
      rw [seqOf_formatNumber] at before
      exact ⟨other, place, ⟨other, seq⟩, rfl, find?_setCounter, before.le⟩
    · exact ⟨other, place, counter, rfl, (find?_setCounter_of_ne same).trans found, bounded⟩
  increasing := holds.increasing
  newer := by
    intro other counter stored found committed
    by_cases same : other = day
    · subst same
      rw [find?_setCounter] at found
      cases found
      exact ⟨newer stored committed, numbered stored committed⟩
    · rw [find?_setCounter_of_ne same] at found
      exact holds.newer other counter stored found committed

theorem created_write (write : RequestWrite) :
    (work.write write).created = work.created ++ (Work.created ⟨.empty, [write]⟩) :=
  List.filterMap_append

theorem visible_write (write : RequestWrite) :
    store.visible (work.write write) = write.apply (store.visible work) := by
  simp [NumberStore.visible, Work.write, applyWrites]

theorem Work.Holds.delete (holds : work.Holds store) (number : RequestNumber) :
    (work.write (.delete number)).Holds store := by
  have created : (work.write (.delete number)).created = work.created := by
    rw [created_write]
    exact List.append_nil _
  have visible : store.visible (work.write (.delete number)) =
      (store.visible work).filter (· ≠ number) := visible_write _
  refine ⟨?_, ?_, ?_, ?_, ?_⟩
  · rw [visible]
    exact holds.nodup.filter _
  · intro day counter found other listed own
    rw [visible, created] at listed
    exact holds.bounded day counter found other
      (listed.imp_left fun kept => (List.mem_filter.mp kept).1) own
  · rw [created]
    exact holds.counted
  · rw [created]
    exact holds.increasing
  · rw [created]
    exact holds.newer

theorem Work.Holds.insert (holds : work.Holds store) (numbers : work.Numbers store day seq)
    (absent : formatNumber day seq ∉ store.visible work) :
    (work.write (.insert (formatNumber day seq))).Holds store := by
  have created : (work.write (.insert (formatNumber day seq))).created =
      work.created ++ [formatNumber day seq] := created_write _
  have visible : store.visible (work.write (.insert (formatNumber day seq))) =
      store.visible work ++ [formatNumber day seq] := visible_write _
  have new {number : RequestNumber} (listed : number ∈ store.visible work ++
      [formatNumber day seq] ∨ number ∈ work.created ++ [formatNumber day seq]) :
      (number ∈ store.visible work ∨ number ∈ work.created) ∨ number = formatNumber day seq := by
    rcases listed with listed | listed
    · exact (List.mem_append.mp listed).imp .inl List.mem_singleton.mp
    · exact (List.mem_append.mp listed).imp .inr List.mem_singleton.mp
  refine ⟨?_, ?_, ?_, ?_, ?_⟩
  · rw [visible, List.nodup_append]
    refine ⟨holds.nodup, List.nodup_singleton _, ?_⟩
    intro kept listed added single same
    exact absent (List.mem_singleton.mp single ▸ same ▸ listed)
  · intro other counter found number listed own
    rw [visible, created] at listed
    rcases new listed with before | rfl
    · exact holds.bounded other counter found number before own
    · obtain rfl := ofDay_formatNumber.mp own
      have same := numbers.counter.symm.trans found
      cases same
      rw [seqOf_formatNumber]
  · intro number listed
    rw [created] at listed
    rcases List.mem_append.mp listed with before | last
    · exact holds.counted number before
    · rw [List.mem_singleton.mp last]
      exact ⟨day, seq, ⟨day, seq⟩, rfl, numbers.counter, le_rfl⟩
  · intro other
    rw [created, List.filter_append, List.map_append, List.pairwise_append]
    refine ⟨holds.increasing other, ?_, ?_⟩
    · rw [List.filter_singleton]
      cases ofDay other (formatNumber day seq) with
      | true => exact List.pairwise_singleton _ _
      | false => exact List.Pairwise.nil
    · intro left leftListed right rightListed
      obtain ⟨before, beforeListed, rfl⟩ := List.mem_map.mp leftListed
      obtain ⟨after, afterListed, rfl⟩ := List.mem_map.mp rightListed
      obtain ⟨mine, beforeDay⟩ := List.mem_filter.mp beforeListed
      obtain ⟨last, afterDay⟩ := List.mem_filter.mp afterListed
      rw [List.mem_singleton.mp last] at afterDay ⊢
      obtain rfl := ofDay_formatNumber.mp afterDay
      rw [seqOf_formatNumber]
      exact numbers.below before (.inr mine) beforeDay
  · intro other counter stored found committed
    obtain ⟨newer, above⟩ := holds.newer other counter stored found committed
    refine ⟨newer, fun number listed own => ?_⟩
    rw [created] at listed
    rcases List.mem_append.mp listed with before | last
    · exact above number before own
    · rw [List.mem_singleton.mp last] at own ⊢
      obtain rfl := ofDay_formatNumber.mp own
      have same := numbers.counter.symm.trans found
      cases same
      rwa [seqOf_formatNumber]

theorem Work.Holds.upsert (sound : store.Sound old) (holds : work.Holds store)
    (seeds : Seeds store work day seed) :
    (work.setCounter day ((store.lastSeq work day).getD seed + 1)).Holds store := by
  refine holds.setCounter (fun _ listed own => below_next sound holds seeds listed own)
    (fun _ found => stored_lt_next holds found) ?_
  intro stored found number created own
  obtain ⟨counter, mine, _⟩ := (holds.counted number created).of_day own
  exact (holds.newer day counter stored mine found).2 number created own

theorem performNumber_holds {stage : NumberStage} (sound : store.Sound old)
    (relies : stage.Relies store) :
    (performNumber store stage).1.Sound old ∧
      (performNumber store stage).2.Relies (performNumber store stage).1 := by
  have seeded {work : Work} {date : BusinessDate} {seed : Nat}
      (found : maxSuffix date.dayPrefix (store.visible work) = some seed) :
      Seeds store work date.dayPrefix seed :=
    fun _ _ listed own => seqOf_le_maxSuffix found listed own
  cases stage with
  | idle | committed | refused => exact ⟨sound, trivial⟩
  | working work actions =>
    cases actions with
    | nil => exact ⟨sound.commit relies, trivial⟩
    | cons action rest =>
      cases action with
      | create date | take date =>
        simp only [performNumber]
        cases found : maxSuffix date.dayPrefix (store.visible work) with
        | none => exact ⟨sound, trivial⟩
        | some seed => exact ⟨sound, relies, seeded found⟩
      | delete number =>
        simp only [performNumber]
        split
        · exact ⟨sound, Work.Holds.delete relies number⟩
        · exact ⟨sound, relies⟩
  | upserting work day seed creates actions =>
    obtain ⟨holds, seeds⟩ := relies
    simp only [performNumber]
    split
    · exact ⟨sound, trivial⟩
    · exact ⟨sound, holds.upsert sound seeds, find?_setCounter,
        fun number listed own => below_next sound holds seeds listed own⟩
  | numbered work day seq creates actions =>
    obtain ⟨holds, numbers⟩ := relies
    simp only [performNumber]
    split
    · exact ⟨sound, holds⟩
    · split
      · exact ⟨sound, trivial⟩
      · next admitted => exact ⟨sound, holds.insert numbers (not_or.mp admitted).1⟩

theorem performNumber_reads (store : NumberStore) (stage : NumberStage) :
    (performNumber store stage).1 = store ∨
      ∃ work, stage = .working work [] ∧ (performNumber store stage).1 = store.commit work := by
  cases stage with
  | working work actions =>
    cases actions with
    | nil => exact .inr ⟨work, rfl, rfl⟩
    | cons action rest =>
      left
      cases action with
      | create | take | delete =>
        simp only [performNumber]
        split
        · rfl
        · rfl
  | upserting work day seed creates actions =>
    left
    simp only [performNumber]
    split
    · rfl
    · rfl
  | numbered work day seq creates actions =>
    left
    simp only [performNumber]
    split
    · rfl
    · split
      · rfl
      · rfl
  | idle | committed | refused => exact .inl rfl

theorem NumberStage.Relies.others {stage : NumberStage} (relies : stage.Relies store)
    (others : other.Holds store) (apart : ∀ key ∈ other.locks, key ∉ stage.locks) :
    stage.Relies (store.commit other) := by
  cases stage with
  | idle | committed | refused => trivial
  | working work actions => exact Work.Holds.others (Work.apart_of_locks apart) relies others
  | upserting work day seed creates actions =>
    obtain ⟨holds, seeds⟩ := relies
    have separate : work.Apart other := Work.apart_of_locks apart
    refine ⟨holds.others separate others, fun none number listed own => ?_⟩
    cases mine : work.counters.find? day with
    | some counter =>
      rw [NumberStore.lastSeq, mine] at none
      cases none
    | none =>
      rw [NumberStore.lastSeq, mine, find?_commit, Option.none_or, Option.map_eq_none_iff,
        Option.or_eq_none_iff] at none
      have before : store.lastSeq work day = Option.none := by
        rw [NumberStore.lastSeq, mine, none.2]
        rfl
      rcases mem_visible_commit separate listed with seen | created
      · exact seeds before number seen own
      · obtain ⟨_, counter, found⟩ := find?_of_others separate others created own
        rw [none.1] at found
        cases found
  | numbered work day seq creates actions =>
    obtain ⟨holds, numbers⟩ := relies
    have separate : work.Apart other := Work.apart_of_locks apart
    refine ⟨holds.others separate others, numbers.counter, fun number listed own => ?_⟩
    rcases listed with visible | mine
    · rcases mem_visible_commit separate visible with seen | created
      · exact numbers.below number (.inl seen) own
      · have gone := (find?_of_others separate others created own).1
        rw [numbers.counter] at gone
        cases gone
    · exact numbers.below number (.inr mine) own

end

theorem number_sound (old : List RequestNumber) :
    numberProgram.Sound Program.Anytime Program.Regardless (NumberStore.Sound old)
      (fun store stage => stage.Relies store) where
  idle := fun _ _ => trivial
  start := fun _ _ sound => Work.holds_empty sound
  step := fun _ _ _ sound relies => performNumber_holds sound relies
  others := by
    intro store stage other _ _ relies others _ apart _
    change other.Relies (performNumber store stage).1
    rcases performNumber_reads store stage with same | ⟨work, rfl, commits⟩
    · rw [same]
      exact others
    · rw [commits]
      exact others.others relies apart

theorem NumberStore.sound_opening (distinct : old.Nodup) : (NumberStore.opening old).Sound old where
  nodup := distinct
  bounded := fun _ _ found => by cases found
  counted := fun _ listed => by cases listed
  increasing := fun _ => List.Pairwise.nil
  known := fun _ listed => .inl listed

/-- No request has the number of another one; the created ones are numbered upwards for each
day in the order of their commits, deleted ones included; and a number that a transaction has
just taken is that of no request it sees, nor of one that has ever been created. -/
theorem numbers_never_reused {n : Nat} (old : Table (fun number : RequestNumber => number))
    (events : List (Program.Event (List NumberAction) n)) :
    let state := run numberProgram.next (numberProgram.initial (.opening old.rows)) events
    state.store.requests.Nodup ∧ state.store.created.Nodup ∧
      (∀ day, ((state.store.created.filter (ofDay day)).map seqOf).Pairwise (· < ·)) ∧
      (∀ number ∈ state.store.requests, number ∈ old.rows ∨ number ∈ state.store.created) ∧
      ∀ worker work day seq creates actions,
        state.workers worker = .numbered work day seq creates actions →
          formatNumber day seq ∉ state.store.created ∧
            formatNumber day seq ∉ state.store.visible work := by
  intro state
  have distinct : old.rows.Nodup := by
    have unique := old.unique
    rwa [List.map_id'] at unique
  have initially : numberProgram.Holds (NumberStore.Sound old.rows)
      (fun store stage => stage.Relies store)
      (numberProgram.initial (.opening old.rows) : Program.State NumberStore NumberStage n) :=
    (number_sound old.rows).holds_initial (NumberStore.sound_opening distinct)
  have holds := (number_sound old.rows).holds_run initially
    (numberProgram.careful_anytime _ events)
  have sound : state.store.Sound old.rows := holds.store
  refine ⟨sound.nodup, ?_, sound.increasing, sound.known, ?_⟩
  · apply sound.increasing.nodup
    exact fun number listed => (sound.counted number listed).has_day
  · intro worker work day seq creates actions stage
    have relies := holds.workers worker
    change NumberStage.Relies state.store (state.workers worker) at relies
    rw [stage] at relies
    obtain ⟨kept, numbers⟩ := relies
    constructor
    · intro created
      obtain ⟨stored, found, bounded⟩ := (sound.counted _ created).of_day (ofDay_formatNumber.mpr rfl)
      have newer := (kept.newer day _ stored numbers.counter found).1
      rw [seqOf_formatNumber] at bounded
      exact Nat.lt_irrefl _ (newer.trans_le bounded)
    · intro seen
      have below := numbers.below _ (.inl seen) (ofDay_formatNumber.mpr rfl)
      rw [seqOf_formatNumber] at below
      exact Nat.lt_irrefl _ below

end InfrasafeBot.RequestNumbers
