import InfrasafeBot.ResourceAccounting.PeriodSeal

/-! Whether the revisions of a reading explain its value. A revision takes its old value from
the row as the request has loaded it; the trail has no gap where the row still holds that value
when the revision is committed. -/

set_option autoImplicit false

namespace InfrasafeBot.ResourceAccounting

open Library Machine Program

/-- The revisions lead from one value to the other, each from where the one before ends. -/
def Explains : Option ℚ → List ReadingRevision → Option ℚ → Prop
  | start, [], value => start = value
  | start, revision :: rest, value => revision.oldValue = start ∧ Explains revision.newValue rest value

instance explainsDecidable (start : Option ℚ) (revisions : List ReadingRevision)
    (value : Option ℚ) : Decidable (Explains start revisions value) := by
  induction revisions generalizing start with
  | nil => exact inferInstanceAs (Decidable (start = value))
  | cons revision rest ih =>
    have := ih revision.newValue
    exact inferInstanceAs (Decidable (_ ∧ Explains revision.newValue rest value))

section

variable {start middle value : Option ℚ} {revisions more : List ReadingRevision}

theorem Explains.append (first : Explains start revisions middle)
    (second : Explains middle more value) : Explains start (revisions ++ more) value := by
  induction revisions generalizing start with
  | nil =>
    obtain rfl : start = middle := first
    exact second
  | cons revision rest ih => exact ⟨first.1, ih first.2⟩

theorem Explains.ne_nil (explained : Explains start revisions value) (changed : value ≠ start) :
    revisions ≠ [] := by
  intro none
  subst none
  exact changed (Eq.symm explained)

end

def revisionsOf (meter : MeterId) (revisions : List ReadingRevision) : List ReadingRevision :=
  revisions.filter (·.meterId = meter)

theorem revisionsOf_append (meter : MeterId) (first second : List ReadingRevision) :
    revisionsOf meter (first ++ second) = revisionsOf meter first ++ revisionsOf meter second :=
  List.filter_append first second

/-- A write that adds a row or a revision meets the value that its request has loaded. -/
def UpToDate (desk : PeriodDesk) (write : ReadingWrite) : Prop :=
  write.loaded = none ∨ write.revision.isSome = true →
    amountColumn write.oldValue = .ok (desk.valueOf write.meterId)

instance upToDateDecidable (desk : PeriodDesk) (write : ReadingWrite) : Decidable (UpToDate desk write) :=
  inferInstanceAs (Decidable (_ → _))

/-- The writes of one commit, each on what the ones before it leave. -/
def AllUpToDate : PeriodDesk → List ReadingWrite → Prop
  | _, [] => True
  | desk, write :: rest => UpToDate desk write ∧ AllUpToDate (desk.applyWrite write) rest

instance allUpToDateDecidable (desk : PeriodDesk) (writes : List ReadingWrite) :
    Decidable (AllUpToDate desk writes) := by
  induction writes generalizing desk with
  | nil => exact .isTrue trivial
  | cons write rest ih =>
    have := ih (desk.applyWrite write)
    exact inferInstanceAs (Decidable (_ ∧ AllUpToDate (desk.applyWrite write) rest))

/-- At its commit a request finds the values that it has loaded. -/
def ValuesCurrent (desk : PeriodDesk) : DeskStage → Prop
  | .entering _ writes [] => AllUpToDate desk writes
  | .amended write => UpToDate desk write
  | _ => True

instance valuesCurrentDecidable (desk : PeriodDesk) (stage : DeskStage) :
    Decidable (ValuesCurrent desk stage) :=
  match stage with
  | .entering _ writes [] => allUpToDateDecidable desk writes
  | .amended write => upToDateDecidable desk write
  | .entering _ _ (_ :: _) | .idle | .opening _ _ | .flushing _ _ _ _ _ | .moving _
  | .setting _ _ | .submitting | .scanning _ | .selecting _ _ | .sealing _ _
  | .locating _ _ _ _ _ | .amending _ | .returning _ => .isTrue trivial

/-- The revisions that are added explain what happens to every value. -/
def Grows (before after : PeriodDesk) : Prop :=
  ∃ added, after.revisions = before.revisions ++ added ∧
    ∀ meter, Explains (before.valueOf meter) (revisionsOf meter added) (after.valueOf meter)

section

variable {desk middle after : PeriodDesk} {write : ReadingWrite} {writes : List ReadingWrite}
  {stage : DeskStage} {meter : MeterId}

theorem Grows.same (revisions : after.revisions = desk.revisions)
    (readings : after.readings = desk.readings) : Grows desk after := by
  refine ⟨[], by rw [revisions, List.append_nil], fun meter => ?_⟩
  unfold PeriodDesk.valueOf
  rw [readings]
  exact rfl

theorem Grows.trans (first : Grows desk middle) (second : Grows middle after) : Grows desk after := by
  obtain ⟨added, grown, explained⟩ := first
  obtain ⟨more, grownAgain, explainedAgain⟩ := second
  refine ⟨added ++ more, by rw [grownAgain, grown, List.append_assoc], fun meter => ?_⟩
  rw [revisionsOf_append]
  exact (explained meter).append (explainedAgain meter)

theorem UpToDate.old (current : UpToDate desk write)
    (adds : write.loaded = none ∨ write.revision.isSome = true) :
    amountColumn write.oldValue = .ok (desk.valueOf write.meterId) :=
  current adds

theorem valueOf_unrevised (made : write.Made) (current : UpToDate desk write)
    (unrevised : write.revision = none) :
    (desk.applyWrite write).valueOf write.meterId = desk.valueOf write.meterId := by
  have same := made.unrevised unrevised
  unfold ReadingWrite.oldValue at same
  cases loaded : write.loaded with
  | none =>
    have old := current.old (.inl loaded)
    have stored := made.value
    rw [ReadingWrite.oldValue, loaded] at old
    rw [same, loaded] at stored
    rw [PeriodDesk.valueOf_inserted made loaded]
    exact Except.ok.inj (stored.symm.trans old)
  | some row =>
    rw [loaded] at same
    cases found : desk.readings.find? write.meterId with
    | none =>
      unfold PeriodDesk.applyWrite
      simp only [loaded, found]
    | some held =>
      rw [PeriodDesk.valueOf_updated loaded found]
      unfold PeriodDesk.valueOf
      rw [found]
      exact if_pos same

theorem valueOf_revised {revision : ReadingRevision} (made : write.Made)
    (current : UpToDate desk write) (revised : write.revision = some revision)
    (present : write.loaded = none ∨ (desk.readings.find? write.meterId).isSome = true) :
    revision.oldValue = desk.valueOf write.meterId ∧
      revision.newValue = (desk.applyWrite write).valueOf write.meterId := by
  obtain ⟨_, old, new⟩ := made.revised revision revised
  have loadedValue := current.old (.inr (Option.isSome_of_mem revised))
  have start : revision.oldValue = desk.valueOf write.meterId := Except.ok.inj (old.symm.trans loadedValue)
  refine ⟨start, new.trans ?_⟩
  cases loaded : write.loaded with
  | none => exact (PeriodDesk.valueOf_inserted made loaded).symm
  | some row =>
    rw [loaded] at present
    obtain ⟨held, found⟩ := Option.isSome_iff_exists.mp
      (present.resolve_left (fun impossible => (by cases impossible)))
    rw [PeriodDesk.valueOf_updated loaded found]
    unfold writtenColumn
    split
    · next same =>
        -- the value has not been changed, so that the row keeps the one that has been loaded
        have stored := made.value
        have kept : write.changed.value = write.oldValue := by
          rw [same, ReadingWrite.oldValue, loaded]
          rfl
        rw [kept] at stored
        have value : desk.valueOf write.meterId = held.value := by
          unfold PeriodDesk.valueOf
          rw [found]
          rfl
        exact (Except.ok.inj (stored.symm.trans loadedValue)).trans value
    · rfl

theorem applyWrite_grows (made : write.Made) (current : UpToDate desk write) :
    Grows desk (desk.applyWrite write) := by
  by_cases present : write.loaded = none ∨ (desk.readings.find? write.meterId).isSome = true
  · have grown : (desk.applyWrite write).revisions =
        desk.revisions ++ write.revision.toList := by
      unfold PeriodDesk.applyWrite
      cases loaded : write.loaded with
      | none => rfl
      | some row =>
        rw [loaded] at present
        obtain ⟨held, found⟩ := Option.isSome_iff_exists.mp
          (present.resolve_left (fun impossible => (by cases impossible)))
        simp only [found]
    refine ⟨write.revision.toList, grown, fun meter => ?_⟩
    by_cases own : meter = write.meterId
    · subst own
      cases revised : write.revision with
      | none => exact (valueOf_unrevised made current revised).symm
      | some revision =>
        obtain ⟨start, ending⟩ := valueOf_revised made current revised present
        have listed : revisionsOf write.meterId [revision] = [revision] := by
          simp [revisionsOf, (made.revised revision revised).1]
        change Explains _ (revisionsOf write.meterId [revision]) _
        rw [listed]
        exact ⟨start, ending⟩
    · have foreign : revisionsOf meter write.revision.toList = [] := by
        cases revised : write.revision with
        | none => rfl
        | some revision =>
          have other : revision.meterId ≠ meter := fun same =>
            own (same.symm.trans (made.revised revision revised).1)
          simp [revisionsOf, other]
      rw [foreign]
      exact (PeriodDesk.valueOf_applyWrite_of_ne made own).symm
  · have absent : desk.applyWrite write = desk := by
      unfold PeriodDesk.applyWrite
      cases loaded : write.loaded with
      | none => exact absurd (.inl loaded) present
      | some row =>
        cases found : desk.readings.find? write.meterId with
        | none => rfl
        | some held => exact absurd (.inr (Option.isSome_of_mem found)) present
    rw [absent]
    exact .same rfl rfl

theorem applyWrites_grows (made : ∀ write ∈ writes, write.Made)
    (current : AllUpToDate desk writes) : Grows desk (desk.applyWrites writes) := by
  induction writes generalizing desk with
  | nil => exact .same rfl rfl
  | cons write rest ih =>
    have first := applyWrite_grows (made write List.mem_cons_self) current.1
    exact first.trans (ih (fun other listed => made other (List.mem_cons_of_mem _ listed)) current.2)

theorem performDesk_grows (current : ValuesCurrent desk stage)
    (made : ∀ write ∈ stage.writes, write.Made) : Grows desk (performDesk desk stage).1 := by
  have commits := performDesk_commits desk stage
  generalize (performDesk desk stage).1 = after at commits ⊢
  cases commits with
  | nothing | status | submission => exact .same rfl rfl
  | entries loaded writes => exact applyWrites_grows made current
  | correction write => exact applyWrite_grows (made write List.mem_cons_self) current

end

section

variable {n : Nat}

/-- The trail of every reading starts from null and ends at its value. -/
def PeriodDesk.Explained (desk : PeriodDesk) : Prop :=
  ∀ meter, Explains none (revisionsOf meter desk.revisions) (desk.valueOf meter)

theorem PeriodDesk.Explained.grows {before after : PeriodDesk} (explained : before.Explained)
    (grows : Grows before after) : after.Explained := by
  obtain ⟨added, grown, leads⟩ := grows
  intro meter
  rw [grown, revisionsOf_append]
  exact (explained meter).append (leads meter)

def MadeOnly (_ : PeriodDesk) (stage : DeskStage) : Prop := ∀ write ∈ stage.writes, write.Made

theorem trail_sound : deskProgram.Sound ValuesCurrent Regardless PeriodDesk.Explained MadeOnly where
  idle := fun _ _ => made_of_no_writes rfl
  start := fun desk call _ => (deskRelies_start desk call).2
  step := fun _ _ current explained made =>
    ⟨explained.grows (performDesk_grows current made), performDesk_made made⟩
  others := fun _ _ _ _ _ _ other _ _ _ => other

/-- Where every commit finds the values that its request has loaded, the revisions of each
reading are a chain from null to its value, and every step adds the ones that explain it. -/
theorem revisions_explain (month : Month) (events : List (DeskEvent n))
    (careful : deskProgram.Careful ValuesCurrent Regardless
      (deskProgram.initial (.fresh month)) events) (meter : MeterId) :
    Explains none
        (revisionsOf meter
          (run deskProgram.next (deskProgram.initial (.fresh month)) events).store.revisions)
        ((run deskProgram.next (deskProgram.initial (.fresh month)) events).store.valueOf meter) ∧
      ∀ taken ∈ trace deskProgram.next (deskProgram.initial (.fresh month)) events,
        ∃ added, (deskProgram.next taken.1 taken.2).store.revisions = taken.1.store.revisions ++ added ∧
          Explains (taken.1.store.valueOf meter) (revisionsOf meter added)
            ((deskProgram.next taken.1 taken.2).store.valueOf meter) ∧
          ((deskProgram.next taken.1 taken.2).store.valueOf meter ≠
              taken.1.store.valueOf meter → revisionsOf meter added ≠ []) := by
  have initially : deskProgram.Holds PeriodDesk.Explained MadeOnly
      (deskProgram.initial (.fresh month) : DeskState n) :=
    trail_sound.holds_initial fun _ => rfl
  refine ⟨(trail_sound.holds_run initially careful).store meter, fun taken listed => ?_⟩
  have grows : Grows taken.1.store (deskProgram.next taken.1 taken.2).store :=
    trail_sound.steps_trace (fun _ => .same rfl rfl)
      (fun _ _ current _ made => performDesk_grows current made) initially careful taken listed
  obtain ⟨added, grown, leads⟩ := grows
  exact ⟨added, grown, leads meter, fun changed => (leads meter).ne_nil changed⟩

end

def serialEntries : List (DeskEvent 2) := whole 0 (yardEntry 100) 4 ++ whole 1 (yardEntry 120) 4

/-- Both requests select the reading before either of them writes it. -/
def crossingEntries : List (DeskEvent 2) :=
  whole 0 (yardEntry 100) 4 ++ whole 0 (yardEntry 110) 2 ++ whole 1 (yardEntry 120) 2 ++
    [.step 0, .step 0, .step 1, .step 1]

theorem serial_revisions_explain :
    Explains none
      (revisionsOf 1 (run deskProgram.next (deskProgram.initial yardDesk) serialEntries).store.revisions)
      ((run deskProgram.next (deskProgram.initial yardDesk) serialEntries).store.valueOf 1) := by
  have careful : deskProgram.Careful ValuesCurrent Regardless
      (deskProgram.initial yardDesk) serialEntries := by decide +kernel
  exact (revisions_explain _ serialEntries careful 1).1

/-- The second revision starts from a value that the first has replaced. -/
theorem crossing_revisions_break :
    ¬ Explains none
      (revisionsOf 1 (run deskProgram.next (deskProgram.initial yardDesk) crossingEntries).store.revisions)
      ((run deskProgram.next (deskProgram.initial yardDesk) crossingEntries).store.valueOf 1) := by
  decide +kernel

end InfrasafeBot.ResourceAccounting
