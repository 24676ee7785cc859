import InfrasafeBot.MediaStorageProperties

/-! What becomes of a file whose deletion took effect: `delete_media` in any number of
processes, with the crashes and the recovery runs between its steps. -/

set_option autoImplicit false

namespace InfrasafeBot.MediaStorage

open Library Machine RequestWorkflow

/-- The steps of deletions. A call says whether the message is gone with it, whatever its end
will say. -/
inductive DeletionStep where
  | reserve (process : Nat) (now : Moment) (mediaFileId : Nat)
  | load (process : Nat)
  | call (process : Nat) (takesEffect : Bool)
  | finish (process : Nat) (succeeded : Bool) (now : Moment)
  | crash (process : Nat)
  | resolve (now : Moment) (olderThanMinutes : Nat)

def DeletionStep.input : DeletionStep → Input
  | .reserve process now mediaFileId => .reserve process now .delete mediaFileId
  | .load process => .load process
  | .call process _ => .call process
  | .finish process succeeded now => .finish process succeeded now
  | .crash process => .crash process
  | .resolve now olderThanMinutes => .resolve now olderThanMinutes

/-- The files with the sagas, and the files whose message is gone. -/
structure Deletions where
  world : World
  gone : Nat → Bool

def Deletions.initial (files : MediaFiles) : Deletions := ⟨⟨files, fun _ => none⟩, fun _ => false⟩

def goneAfter (state : Deletions) : DeletionStep → Nat → Bool
  | .call process true =>
    match deletion state.world (.call process) with
    | some (mediaFileId, _) => Function.update state.gone mediaFileId true
    | none => state.gone
  | _ => state.gone

def nextDeletion (state : Deletions) (step : DeletionStep) : Deletions :=
  ⟨next state.world step.input, goneAfter state step⟩

def Withheld (state : Deletions) : Prop :=
  ∀ id file, state.gone id = true → state.world.files.find? id = some file → file.status ≠ .active

/-- A deletion that took effect is not reported as failed. -/
def ReportsTruly (state : Deletions) : DeletionStep → Prop
  | .finish process false _ => ∀ id, state.world.sagas process = some ⟨.delete, id, .called⟩ →
      state.gone id = false
  | _ => True

def Withdrawn (file : MediaFile) : Prop := file.status = .deleting ∨ file.status = .deleted

theorem Withdrawn.not_active {file : MediaFile} (withdrawn : Withdrawn file) : file.status ≠ .active := by
  rcases withdrawn with deleting | deleted
  · simp [deleting]
  · simp [deleted]

/-- A file no archive saga has taken. -/
def Deletable (file : MediaFile) : Prop := file.status = .active ∨ Withdrawn file

/-- The live sagas of deletions: one for a file, which is out of use. -/
structure DeletionsSound (world : World) : Prop where
  kind : ∀ process saga, world.sagas process = some saga → saga.kind = .delete
  held : ∀ process saga, world.sagas process = some saga →
    ∃ file, world.files.find? saga.mediaFileId = some file ∧ Withdrawn file
  alone : ∀ process other saga rival, world.sagas process = some saga →
    world.sagas other = some rival → saga.mediaFileId = rival.mediaFileId → process = other

section

variable {world : World} {step : DeletionStep}

theorem DeletionsSound.kind_step (sound : DeletionsSound world) (process : Nat) (saga : Saga)
    (live : (next world step.input).sagas process = some saga) : saga.kind = .delete := by
  generalize taken : step.input = input at live
  cases saga_origin input live with
  | continued before kind ours loaded => exact kind.trans (sound.kind process _ before)
  | reserved idle reserved =>
    cases step with
    | reserve other now mediaFileId => cases taken; rfl
    | _ => cases taken

theorem DeletionsSound.free (sound : DeletionsSound world) {process : Nat} {saga : Saga}
    (live : world.sagas process = some saga) {now : Moment} {kind : SagaKind} {mediaFileId : Nat}
    (taken : (reserve now kind mediaFileId world.files).2 = .reserved) :
    saga.mediaFileId ≠ mediaFileId := by
  intro same
  obtain ⟨file, found, free⟩ := reserve_taken taken
  obtain ⟨row, stored, withdrawn⟩ := sound.held process saga live
  rw [same, found] at stored
  cases stored
  exact withdrawn.not_active (reservable_iff.mp free).2.1

theorem DeletionsSound.alone_step (sound : DeletionsSound world) (input : Input)
    (process other : Nat) (saga rival : Saga)
    (live : (next world input).sagas process = some saga)
    (rivalLive : (next world input).sagas other = some rival)
    (same : saga.mediaFileId = rival.mediaFileId) : process = other := by
  cases saga_origin input live with
  | continued before kind ours loaded =>
    cases saga_origin input rivalLive with
    | continued rivalBefore rivalKind rivalOurs rivalLoaded =>
      exact sound.alone process other _ _ before rivalBefore
        (ours.symm.trans (same.trans rivalOurs))
    | reserved idle taken => exact absurd (ours.symm.trans same) (sound.free before taken)
  | reserved idle taken =>
    cases saga_origin _ rivalLive with
    | continued rivalBefore rivalKind rivalOurs rivalLoaded =>
      exact absurd (rivalOurs.symm.trans same.symm) (sound.free rivalBefore taken)
    | reserved rivalIdle rivalTaken => rfl

theorem withdrawn_step (input : Input) {id : Nat} {file : MediaFile}
    (found : world.files.find? id = some file) (withdrawn : Withdrawn file) :
    ∃ reached, (next world input).files.find? id = some reached ∧
      (Withdrawn reached ∨ ∃ process succeeded now saga,
        input = .finish process succeeded now ∧ world.sagas process = some saga ∧
          saga.mediaFileId = id ∧ (next world input).sagas process = none ∧
            reached = finalized saga.kind succeeded now file) := by
  obtain ⟨reached, foundNext, step⟩ := file_step input found
  refine ⟨reached, foundNext, ?_⟩
  cases step with
  | kept | released => exact .inl withdrawn
  | acquired free => exact absurd free withdrawn.not_active
  | reserved free => exact absurd (reservable_iff.mp free).2.1 withdrawn.not_active
  | @finalized process succeeded now saga file live ours ended =>
    have named : saga.mediaFileId = id := ours.symm.trans (Table.key_of_find? found)
    exact .inr ⟨process, succeeded, now, saga, rfl, live, named, ended, rfl⟩
  | reverted stuck =>
    rcases withdrawn with deleting | deleted
    · cases (stale_status stuck).symm.trans deleting
    · cases (stale_status stuck).symm.trans deleted
  | settled stuck => exact .inl (.inr rfl)

theorem DeletionsSound.deletable_step (sound : DeletionsSound world) {id : Nat}
    {file : MediaFile} (found : world.files.find? id = some file) (free : Deletable file) :
    ∃ reached, (next world step.input).files.find? id = some reached ∧ Deletable reached := by
  obtain ⟨reached, foundNext, moved⟩ := file_step step.input found
  refine ⟨reached, foundNext, ?_⟩
  generalize taken : step.input = input at moved
  cases moved with
  | kept | acquired | released => exact free
  | reserved _ =>
    cases step with
    | reserve process now mediaFileId => cases taken; exact .inr (.inl rfl)
    | _ => cases taken
  | @finalized process succeeded now saga file live ours ended =>
    rw [sound.kind process saga live]
    cases succeeded with
    | true => exact .inr (.inr rfl)
    | false => exact .inl rfl
  | reverted stuck => exact .inl rfl
  | settled stuck => exact .inr (.inr rfl)

theorem DeletionsSound.held_step (sound : DeletionsSound world) (process : Nat) (saga : Saga)
    (live : (next world step.input).sagas process = some saga) :
    ∃ file, (next world step.input).files.find? saga.mediaFileId = some file ∧
      Withdrawn file := by
  generalize taken : step.input = input at live ⊢
  cases saga_origin input live with
  | @continued _ earlier _ before kind ours loaded =>
    rw [ours]
    obtain ⟨file, found, withdrawn⟩ := sound.held process earlier before
    obtain ⟨reached, foundNext, kept | ⟨other, succeeded, now, rival, -, rivalLive, named, ended,
      -⟩⟩ := withdrawn_step input found withdrawn
    · exact ⟨reached, foundNext, kept⟩
    · -- the saga that ended would be the one that lives on
      have own := sound.alone process other earlier rival before rivalLive named.symm
      subst own
      rw [ended] at live
      cases live
  | @reserved now kind mediaFileId idle reserved =>
    have deletes : kind = .delete := by
      cases step with
      | reserve other now mediaFileId => cases taken; rfl
      | _ => cases taken
    subst deletes
    obtain ⟨file, found, free⟩ := reserve_taken reserved
    refine ⟨{ file with status := .deleting, updatedAt := some now }, ?_, .inl rfl⟩
    simp [next, reservePhase, idle, reserve, found, Table.find?_update, free, SagaKind.reservingStatus]

theorem DeletionsSound.preserved (sound : DeletionsSound world) (taken : DeletionStep) :
    DeletionsSound (next world taken.input) where
  kind := sound.kind_step
  held := sound.held_step
  alone := sound.alone_step taken.input

end

theorem deletionsSound_initial (files : MediaFiles) : DeletionsSound (Deletions.initial files).world where
  kind process saga live := by cases live
  held process saga live := by cases live
  alone process other saga rival live := by cases live

section

variable {state : Deletions}

theorem deletion_live {process id : Nat} {message : Int × Int}
    (issued : deletion state.world (.call process) = some (id, message)) :
    ∃ saga, state.world.sagas process = some saga ∧ saga.mediaFileId = id := by
  simp only [deletion] at issued
  split at issued
  · next loaded live =>
      cases issued
      exact ⟨_, live, rfl⟩
  · cases issued

theorem gone_origin {step : DeletionStep} {id : Nat} (gone : goneAfter state step id = true) :
    state.gone id = true ∨ ∃ process saga, step = .call process true ∧
      state.world.sagas process = some saga ∧ saga.mediaFileId = id := by
  cases step with
  | call process takesEffect =>
    cases takesEffect with
    | false => exact .inl gone
    | true =>
      simp only [goneAfter] at gone
      cases issued : deletion state.world (.call process) with
      | none =>
        rw [issued] at gone
        exact .inl gone
      | some message =>
        rw [issued] at gone
        obtain ⟨saga, live, named⟩ := deletion_live issued
        by_cases same : id = message.1
        · exact .inr ⟨process, saga, rfl, live, named.trans same.symm⟩
        · exact .inl ((Function.update_of_ne same true state.gone).symm.trans gone)
  | _ => exact .inl gone

structure Tracked (state : Deletions) : Prop where
  sound : DeletionsSound state.world
  present : ∀ id, state.gone id = true → ∃ file, state.world.files.find? id = some file ∧ Deletable file

theorem Tracked.preserved (tracked : Tracked state) (step : DeletionStep) :
    Tracked (nextDeletion state step) where
  sound := tracked.sound.preserved step
  present id gone := by
    rcases gone_origin gone with before | ⟨process, saga, -, live, named⟩
    · obtain ⟨file, found, free⟩ := tracked.present id before
      exact tracked.sound.deletable_step found free
    · obtain ⟨file, found, withdrawn⟩ := tracked.sound.held process saga live
      exact tracked.sound.deletable_step (named ▸ found) (.inr withdrawn)

theorem called_of_ended {world : World} {process : Nat} {succeeded : Bool} {now : Moment}
    {saga : Saga} (live : world.sagas process = some saga) (deletes : saga.kind = .delete)
    (ended : (next world (.finish process succeeded now)).sagas process = none) :
    saga.phase = .called := by
  obtain ⟨kind, id, phase⟩ := saga
  cases deletes
  cases phase with
  | called => rfl
  | reserved | loaded =>
    simp only [next, finishPhase, live] at ended
    cases ended

theorem withheld_step_iff (step : DeletionStep) (tracked : Tracked state)
    (withheld : Withheld state) :
    Withheld (nextDeletion state step) ↔ ReportsTruly state step := by
  have sound := tracked.sound
  constructor
  · intro kept
    cases step with
    | finish process succeeded now =>
      cases succeeded with
      | true => trivial
      | false =>
        intro id live
        cases gone : state.gone id with
        | false => rfl
        | true =>
          -- the compensation would put the file back into use
          obtain ⟨file, found, -⟩ := sound.held process _ live
          have compensated : (next state.world (.finish process false now)).files.find? id =
              some { file with status := .active, updatedAt := some now } := by
            have own : file.id = id := Table.key_of_find? found
            simp only [next, finishPhase, live]
            rw [find?_finalize found, if_pos own]
            rfl
          exact absurd rfl (kept id _ gone compensated)
    | _ => trivial
  · intro truly id reached gone foundNext
    have held : ∃ file, state.world.files.find? id = some file ∧ Withdrawn file ∧
        ∀ process now, step = .finish process false now → state.gone id = true := by
      rcases gone_origin gone with before | ⟨process, saga, rfl, live, named⟩
      · obtain ⟨file, found, free⟩ := tracked.present id before
        exact ⟨file, found, free.resolve_left (withheld id file before found), fun _ _ _ => before⟩
      · obtain ⟨file, found, withdrawn⟩ := sound.held process saga live
        exact ⟨file, named ▸ found, withdrawn, fun _ _ same => by cases same⟩
    obtain ⟨file, found, withdrawn, before⟩ := held
    obtain ⟨moved, stored, kept | ⟨process, succeeded, now, saga, finishes, live, named, ended,
      rfl⟩⟩ := withdrawn_step step.input found withdrawn
    · cases foundNext.symm.trans stored
      exact kept.not_active
    · cases foundNext.symm.trans stored
      cases step with
      | finish other told at' =>
        cases finishes
        have deletes := sound.kind process saga live
        cases succeeded with
        | true => simp [finalized, deletes]
        | false =>
          have phase := called_of_ended live deletes ended
          have called : state.world.sagas process = some ⟨.delete, id, .called⟩ := by
            rw [live, ← deletes, ← named, ← phase]
          exact absurd ((truly id called).symm.trans (before process now rfl)) (by decide)
      | _ => cases finishes

end

theorem photoFiles_unique : [1].Nodup := List.nodup_singleton 1

private def photoFiles : MediaFiles :=
  ⟨[⟨1, 100, 5, "file", none, .active, false, none, none⟩], photoFiles_unique⟩

end InfrasafeBot.MediaStorage
