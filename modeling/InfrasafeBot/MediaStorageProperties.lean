import InfrasafeBot.Library.Machine
import InfrasafeBot.MediaStorage

/-! Exclusion between publication locks and the destructive sagas: what a step does
to a file, which file a live saga has reserved, and what a whole run keeps. -/

set_option autoImplicit false

namespace InfrasafeBot.MediaStorage

open Library Machine RequestWorkflow

def SameMessage (before after : MediaFile) : Prop :=
  after.telegramChannelId = before.telegramChannelId ∧ after.telegramMessageId = before.telegramMessageId

inductive FileStep (world : World) : Input → MediaFile → MediaFile → Prop where
  | kept {input : Input} {file : MediaFile} : FileStep world input file file
  | acquired {now : Moment} {mediaFileId : Nat} {file : MediaFile}
      (free : file.status = .active) :
      FileStep world (.acquire now mediaFileId) file
        { file with publicationLocked := true, updatedAt := some now }
  | released {now : Moment} {mediaFileId : Nat} {file : MediaFile} :
      FileStep world (.release now mediaFileId) file
        { file with publicationLocked := false, updatedAt := some now }
  | reserved {process : Nat} {now : Moment} {kind : SagaKind} {mediaFileId : Nat}
      {file : MediaFile} (free : reservable mediaFileId file = true) :
      FileStep world (.reserve process now kind mediaFileId) file
        { file with status := kind.reservingStatus, updatedAt := some now }
  | finalized {process : Nat} {succeeded : Bool} {now : Moment} {saga : Saga}
      {file : MediaFile} (live : world.sagas process = some saga)
      (ours : file.id = saga.mediaFileId)
      (ended : (next world (.finish process succeeded now)).sagas process = none) :
      FileStep world (.finish process succeeded now) file
        (finalized saga.kind succeeded now file)
  | reverted {now : Moment} {olderThanMinutes : Nat} {file : MediaFile}
      (stuck : stale (now - 60 * olderThanMinutes) .archiving file = true) :
      FileStep world (.resolve now olderThanMinutes) file
        { file with status := .active, updatedAt := some now }
  | settled {now : Moment} {olderThanMinutes : Nat} {file : MediaFile}
      (stuck : stale (now - 60 * olderThanMinutes) .deleting file = true) :
      FileStep world (.resolve now olderThanMinutes) file
        { file with status := .deleted, updatedAt := some now }

variable {world : World} {input : Input} {mediaFileId process : Nat} {now : Moment}
  {kind : SagaKind}

section

variable {id : Nat} {file reached : MediaFile}

variable {files : MediaFiles} {succeeded : Bool}

theorem reservable_iff : reservable mediaFileId file = true ↔
    file.id = mediaFileId ∧ file.status = .active ∧ file.publicationLocked = false := by
  simp [reservable, and_assoc]

theorem stale_status {cutoff : Moment} {status : MediaStatus}
    (stuck : stale cutoff status file = true) : file.status = status := by
  simp only [stale, Bool.and_eq_true, decide_eq_true_eq] at stuck
  exact stuck.1

theorem finalized_message (kind : SagaKind) (succeeded : Bool) (now : Moment) :
    SameMessage file (finalized kind succeeded now file) := by
  unfold finalized
  split
  · cases kind <;> exact ⟨rfl, rfl⟩
  · exact ⟨rfl, rfl⟩

theorem finalized_locked (kind : SagaKind) (succeeded : Bool) (now : Moment) :
    (finalized kind succeeded now file).publicationLocked = file.publicationLocked := by
  unfold finalized
  split
  · cases kind <;> rfl
  · rfl

theorem file_step_acquire (found : world.files.find? id = some file) :
    ∃ reached, (next world (.acquire now mediaFileId)).files.find? id = some reached ∧
      FileStep world (.acquire now mediaFileId) file reached := by
  simp only [next, acquirePublicationLock, Table.find?_update, found, Option.map_some]
  cases hit : active mediaFileId file with
  | true =>
    simp only [active, Bool.and_eq_true, decide_eq_true_eq] at hit
    exact ⟨_, rfl, .acquired hit.2⟩
  | false => exact ⟨_, rfl, .kept⟩

theorem file_step_release (found : world.files.find? id = some file) :
    ∃ reached, (next world (.release now mediaFileId)).files.find? id = some reached ∧
      FileStep world (.release now mediaFileId) file reached := by
  simp only [next, releasePublicationLock, Table.find?_update, found, Option.map_some]
  by_cases hit : file.id = mediaFileId
  · subst hit
    simp only [decide_true, if_true]
    exact ⟨_, rfl, .released⟩
  · simp only [hit, decide_false, Bool.false_eq_true, if_false]
    exact ⟨_, rfl, .kept⟩

theorem file_step_reserve (found : world.files.find? id = some file) :
    ∃ reached,
      (next world (.reserve process now kind mediaFileId)).files.find? id = some reached ∧
      FileStep world (.reserve process now kind mediaFileId) file reached := by
  simp only [next, reservePhase]
  cases world.sagas process with
  | some saga => exact ⟨file, found, .kept⟩
  | none =>
    simp only [reserve]
    cases world.files.find? mediaFileId with
    | none => exact ⟨file, found, .kept⟩
    | some target =>
      simp only [Table.find?_update, found, Option.map_some]
      cases hit : reservable mediaFileId file with
      | true => exact ⟨_, rfl, .reserved hit⟩
      | false => exact ⟨_, rfl, .kept⟩

theorem find?_finalize (found : files.find? id = some file) :
    (finalize kind succeeded now mediaFileId files).find? id =
      some (if file.id = mediaFileId then finalized kind succeeded now file else file) := by
  simp only [finalize, Table.find?_update, found, Option.map_some]
  by_cases hit : file.id = mediaFileId
  · simp [hit]
  · simp [hit]

theorem finishPhase_cases (world : World) (process : Nat) (succeeded : Bool) (now : Moment) :
    finishPhase world process succeeded now = world ∨
    ∃ saga, world.sagas process = some saga ∧
      finishPhase world process succeeded now =
        { world.enter process none with
          files := finalize saga.kind succeeded now saga.mediaFileId world.files } := by
  unfold finishPhase
  split
  · next kind mediaFileId live => exact .inr ⟨_, live, rfl⟩
  · next mediaFileId loaded live =>
      cases succeeded with
      | true => exact .inl rfl
      | false => exact .inr ⟨_, live, rfl⟩
  · exact .inl rfl

theorem file_step_finish (found : world.files.find? id = some file) :
    ∃ reached, (next world (.finish process succeeded now)).files.find? id = some reached ∧
      FileStep world (.finish process succeeded now) file reached := by
  rcases finishPhase_cases world process succeeded now with same | ⟨saga, live, changed⟩
  · exact ⟨file, by rw [next, same, found], .kept⟩
  · have ended : (next world (.finish process succeeded now)).sagas process = none := by
      rw [next, changed]
      exact Function.update_self process none world.sagas
    refine ⟨_, by rw [next, changed]; exact find?_finalize found, ?_⟩
    by_cases ours : file.id = saga.mediaFileId
    · rw [if_pos ours]
      exact .finalized live ours ended
    · rw [if_neg ours]
      exact .kept

theorem file_step_resolve {olderThanMinutes : Nat} (found : world.files.find? id = some file) :
    ∃ reached, (next world (.resolve now olderThanMinutes)).files.find? id = some reached ∧
      FileStep world (.resolve now olderThanMinutes) file reached := by
  simp only [next, resolveStaleTransitions, Table.find?_update, found, Option.map_some]
  cases stuck : stale (now - 60 * olderThanMinutes) .archiving file with
  | true =>
    refine ⟨_, rfl, ?_⟩
    simpa [stale] using FileStep.reverted stuck
  | false =>
    cases lost : stale (now - 60 * olderThanMinutes) .deleting file with
    | true => exact ⟨_, rfl, by simpa [lost] using FileStep.settled lost⟩
    | false => exact ⟨_, rfl, by simpa [lost] using FileStep.kept⟩

theorem saveMediaMetadata_found {message : Message} {requestNumber : String}
    (found : files.find? id = some file) :
    (saveMediaMetadata message requestNumber files).find? id = some file := by
  unfold saveMediaMetadata
  split
  · exact found
  · rw [Table.find?_insert, found]
    rfl

theorem file_step (input : Input) (found : world.files.find? id = some file) :
    ∃ reached, (next world input).files.find? id = some reached ∧
      FileStep world input file reached := by
  cases input with
  | upload message requestNumber => exact ⟨file, saveMediaMetadata_found found, .kept⟩
  | acquire now mediaFileId => exact file_step_acquire found
  | release now mediaFileId => exact file_step_release found
  | reserve process now kind mediaFileId => exact file_step_reserve found
  | load process =>
    refine ⟨file, ?_, .kept⟩
    simp only [next, loadPhase]
    split <;> exact found
  | call process =>
    refine ⟨file, ?_, .kept⟩
    simp only [next, callPhase]
    split <;> exact found
  | finish process succeeded now => exact file_step_finish found
  | crash process => exact ⟨file, found, .kept⟩
  | resolve now olderThanMinutes => exact file_step_resolve found

theorem FileStep.message (step : FileStep world input file reached) : SameMessage file reached := by
  cases step with
  | finalized live ours ended => exact finalized_message _ _ _
  | kept | acquired | released | reserved | reverted | settled => exact ⟨rfl, rfl⟩

end

theorem file_origin {world : World} (input : Input) {id : Nat} {reached : MediaFile}
    (found : (next world input).files.find? id = some reached) :
    (∃ file, world.files.find? id = some file ∧ FileStep world input file reached) ∨
      (reached.status = .active ∧ reached.publicationLocked = false) := by
  cases before : world.files.find? id with
  | some file =>
    obtain ⟨moved, same, step⟩ := file_step input before
    cases same.symm.trans found
    exact .inl ⟨file, rfl, step⟩
  | none =>
    right
    cases input with
    | upload message requestNumber =>
      simp only [next, saveMediaMetadata] at found
      split at found
      · rw [before] at found
        cases found
      · rw [Table.find?_insert, before, Option.none_or] at found
        split at found
        · cases found
          exact ⟨rfl, rfl⟩
        · cases found
    | acquire now mediaFileId =>
      simp only [next, acquirePublicationLock, Table.find?_update, before] at found
      cases found
    | release now mediaFileId =>
      simp only [next, releasePublicationLock, Table.find?_update, before] at found
      cases found
    | reserve process now kind mediaFileId =>
      simp only [next, reservePhase, reserve] at found
      split at found
      · cases before.symm.trans found
      · dsimp only at found
        split at found
        · cases before.symm.trans found
        · simp only [Table.find?_update, before] at found
          cases found
    | load process =>
      simp only [next, loadPhase] at found
      split at found <;> cases before.symm.trans found
    | call process =>
      simp only [next, callPhase] at found
      split at found <;> cases before.symm.trans found
    | finish process succeeded now =>
      rw [next] at found
      rcases finishPhase_cases world process succeeded now with same | ⟨saga, live, changed⟩
      · rw [same] at found
        cases before.symm.trans found
      · simp only [changed, finalize, Table.find?_update, before] at found
        cases found
    | crash process => cases before.symm.trans found
    | resolve now olderThanMinutes =>
      simp only [next, resolveStaleTransitions, Table.find?_update, before] at found
      cases found

/-- Where the saga a process is in comes from. -/
inductive SagaOrigin (world : World) (process : Nat) : Input → Saga → Prop where
  | continued {input : Input} {before saga : Saga} (live : world.sagas process = some before)
      (kind : saga.kind = before.kind) (ours : saga.mediaFileId = before.mediaFileId)
      (loaded : ∀ file, saga.phase = .loaded file →
        before.phase = .loaded file ∨ world.files.find? saga.mediaFileId = some file) :
      SagaOrigin world process input saga
  | reserved {now : Moment} {kind : SagaKind} {mediaFileId : Nat}
      (idle : world.sagas process = none)
      (taken : (reserve now kind mediaFileId world.files).2 = .reserved) :
      SagaOrigin world process (.reserve process now kind mediaFileId)
        ⟨kind, mediaFileId, .reserved⟩

section

variable {saga : Saga}

variable {other : Nat}

theorem SagaOrigin.of_same (live : world.sagas process = some saga) : SagaOrigin world process input saga :=
  .continued live rfl rfl fun _ loaded => .inl loaded

theorem enter_origin {entered : Option Saga}
    (own : other = process → entered = some saga → SagaOrigin world process input saga)
    (live : (world.enter other entered).sagas process = some saga) :
    SagaOrigin world process input saga := by
  simp only [World.enter] at live
  by_cases same : process = other
  · subst same
    rw [Function.update_self] at live
    exact own rfl live
  · rw [Function.update_of_ne same] at live
    exact .of_same live

theorem saga_origin_reserve
    (live : (next world (.reserve other now kind mediaFileId)).sagas process = some saga) :
    SagaOrigin world process (.reserve other now kind mediaFileId) saga := by
  simp only [next, reservePhase] at live
  split at live
  · exact .of_same live
  · next idle =>
      refine enter_origin ?_ live
      intro same entered
      subst same
      split at entered
      · next taken =>
          cases entered
          exact .reserved idle taken
      · cases entered

theorem saga_origin_load (live : (next world (.load other)).sagas process = some saga) :
    SagaOrigin world process (.load other) saga := by
  simp only [next, loadPhase] at live
  split at live
  · next kind mediaFileId before =>
      refine enter_origin ?_ live
      intro same entered
      subst same
      obtain ⟨file, found, rfl⟩ := Option.map_eq_some_iff.mp entered
      refine .continued before rfl rfl ?_
      intro loaded same
      cases same
      exact .inr found
  · exact .of_same live

theorem saga_origin_call (live : (next world (.call other)).sagas process = some saga) :
    SagaOrigin world process (.call other) saga := by
  simp only [next, callPhase] at live
  split at live
  · next kind mediaFileId file before =>
      refine enter_origin ?_ live
      intro same entered
      subst same
      cases entered
      exact .continued before rfl rfl (fun loaded same => by cases same)
  · exact .of_same live

theorem saga_origin_finish {succeeded : Bool}
    (live : (next world (.finish other succeeded now)).sagas process = some saga) :
    SagaOrigin world process (.finish other succeeded now) saga := by
  rw [next] at live
  rcases finishPhase_cases world other succeeded now with same | ⟨ended, _, changed⟩
  · rw [same] at live
    exact .of_same live
  · rw [changed] at live
    refine enter_origin ?_ live
    intro same entered
    cases entered

theorem saga_origin (input : Input) (live : (next world input).sagas process = some saga) :
    SagaOrigin world process input saga := by
  cases input with
  | reserve other now kind mediaFileId => exact saga_origin_reserve live
  | load other => exact saga_origin_load live
  | call other => exact saga_origin_call live
  | finish other succeeded now => exact saga_origin_finish live
  | crash other =>
    refine enter_origin ?_ live
    intro same entered
    cases entered
  | upload | acquire | release | resolve => exact .of_same live

theorem reserve_taken {files : MediaFiles}
    (taken : (reserve now kind mediaFileId files).2 = .reserved) :
    ∃ file, files.find? mediaFileId = some file ∧ reservable mediaFileId file = true := by
  unfold reserve at taken
  split at taken
  · cases taken
  · dsimp only at taken
    split at taken
    · next counted =>
        obtain ⟨file, stored, free⟩ := List.countP_pos_iff.mp counted
        have same : file.id = mediaFileId := (reservable_iff.mp free).1
        exact ⟨file, same ▸ Table.find?_of_mem stored, free⟩
    · cases taken

end

/-- The assumption on recovery: a row it touches has no live saga, its process has
crashed. -/
def TouchesOnlyCrashed (world : World) : Input → Prop
  | .resolve now olderThanMinutes =>
    ∀ file ∈ world.files.rows,
      stale (now - 60 * olderThanMinutes) .archiving file = true ∨
        stale (now - 60 * olderThanMinutes) .deleting file = true →
      ∀ process saga, world.sagas process = some saga → saga.mediaFileId ≠ file.id
  | _ => True

structure Sound (world : World) : Prop where
  guarded : ∀ id file, world.files.find? id = some file →
    file.publicationLocked = true → file.status = .active
  reserved : ∀ process saga, world.sagas process = some saga →
    ∃ file, world.files.find? saga.mediaFileId = some file ∧ file.status = saga.kind.reservingStatus
  alone : ∀ process other saga rival, world.sagas process = some saga →
    world.sagas other = some rival → saga.mediaFileId = rival.mediaFileId → process = other
  loaded : ∀ process saga file, world.sagas process = some saga →
    saga.phase = .loaded file →
    ∃ row, world.files.find? saga.mediaFileId = some row ∧ SameMessage file row

theorem reserving_transient (kind : SagaKind) : kind.reservingStatus ≠ .active ∧
    kind.reservingStatus ≠ .archived ∧ kind.reservingStatus ≠ .deleted := by
  cases kind <;> decide

theorem SameMessage.trans {first second third : MediaFile} (before : SameMessage first second)
    (after : SameMessage second third) : SameMessage first third :=
  ⟨after.1.trans before.1, after.2.trans before.2⟩

section

variable (sound : Sound world)

include sound

theorem Sound.guarded_step (id : Nat) (reached : MediaFile)
    (found : (next world input).files.find? id = some reached)
    (locked : reached.publicationLocked = true) : reached.status = .active := by
  rcases file_origin input found with ⟨file, before, step⟩ | ⟨uploaded, unlocked⟩
  · cases step with
    | kept => exact sound.guarded id _ before locked
    | acquired free => exact free
    | released => cases locked
    | reserved free =>
      have unlocked := (reservable_iff.mp free).2.2
      rw [unlocked] at locked
      cases locked
    | @finalized process succeeded now saga file live ours ended =>
      -- the file is in the saga's reserving status, so it is not locked
      rw [finalized_locked] at locked
      obtain ⟨row, stored, status⟩ := sound.reserved process saga live
      have same : saga.mediaFileId = id := ours.symm.trans (Table.key_of_find? before)
      rw [same, before] at stored
      cases stored
      have free := sound.guarded id file before locked
      exact absurd (status.symm.trans free) (reserving_transient _).1
    | reverted stuck => rfl
    | settled stuck =>
      have free := sound.guarded id _ before locked
      cases (stale_status stuck).symm.trans free
  · exact uploaded

theorem Sound.reserved_held (recovery : TouchesOnlyCrashed world input) {process : Nat}
    {saga survivor : Saga} (live : world.sagas process = some saga)
    (lives : (next world input).sagas process = some survivor) :
    ∃ file, (next world input).files.find? saga.mediaFileId = some file ∧
      file.status = saga.kind.reservingStatus := by
  obtain ⟨file, found, status⟩ := sound.reserved process saga live
  obtain ⟨reached, foundNext, step⟩ := file_step input found
  refine ⟨reached, foundNext, ?_⟩
  have transient := (reserving_transient saga.kind).1
  cases step with
  | kept | released => exact status
  | acquired free => exact absurd (status.symm.trans free) transient
  | reserved free => exact absurd (status.symm.trans (reservable_iff.mp free).2.1) transient
  | @finalized other succeeded now rival file rivalLive ours ended =>
    have same : saga.mediaFileId = rival.mediaFileId := (Table.key_of_find? found).symm.trans ours
    have own := sound.alone process other saga rival live rivalLive same
    subst own
    rw [ended] at lives
    cases lives
  | reverted stuck =>
    have spared := recovery file (Table.mem_of_find? found) (.inl stuck) process saga live
    exact absurd (Table.key_of_find? found).symm spared
  | settled stuck =>
    have spared := recovery file (Table.mem_of_find? found) (.inr stuck) process saga live
    exact absurd (Table.key_of_find? found).symm spared

theorem Sound.reserved_step (recovery : TouchesOnlyCrashed world input) (process : Nat)
    (saga : Saga) (live : (next world input).sagas process = some saga) :
    ∃ file, (next world input).files.find? saga.mediaFileId = some file ∧
      file.status = saga.kind.reservingStatus := by
  cases saga_origin input live with
  | continued before kind ours loaded =>
    rw [kind, ours]
    exact sound.reserved_held recovery before live
  | @reserved now kind mediaFileId idle taken =>
    obtain ⟨file, found, free⟩ := reserve_taken taken
    refine ⟨{ file with status := kind.reservingStatus, updatedAt := some now }, ?_, rfl⟩
    simp [next, reservePhase, idle, reserve, found, Table.find?_update, free]

theorem Sound.fresh_alone {process : Nat} {saga : Saga} {now : Moment} {kind : SagaKind}
    {mediaFileId : Nat} (live : world.sagas process = some saga)
    (taken : (reserve now kind mediaFileId world.files).2 = .reserved) :
    saga.mediaFileId ≠ mediaFileId := by
  intro same
  obtain ⟨file, found, free⟩ := reserve_taken taken
  obtain ⟨row, stored, status⟩ := sound.reserved process saga live
  rw [same, found] at stored
  cases stored
  exact (reserving_transient _).1 (status.symm.trans (reservable_iff.mp free).2.1)

theorem Sound.alone_step (process other : Nat) (saga rival : Saga)
    (live : (next world input).sagas process = some saga)
    (rivalLive : (next world input).sagas other = some rival)
    (same : saga.mediaFileId = rival.mediaFileId) : process = other := by
  cases saga_origin input live with
  | continued before kind ours loaded =>
    cases saga_origin input rivalLive with
    | continued rivalBefore rivalKind rivalOurs rivalLoaded =>
      exact sound.alone process other _ _ before rivalBefore
        (ours.symm.trans (same.trans rivalOurs))
    | reserved idle taken => exact absurd (ours.symm.trans same) (sound.fresh_alone before taken)
  | reserved idle taken =>
    cases saga_origin _ rivalLive with
    | continued rivalBefore rivalKind rivalOurs rivalLoaded =>
      exact absurd (rivalOurs.symm.trans same.symm) (sound.fresh_alone rivalBefore taken)
    | reserved rivalIdle rivalTaken => rfl

theorem Sound.loaded_step (process : Nat) (saga : Saga) (file : MediaFile)
    (live : (next world input).sagas process = some saga) (phase : saga.phase = .loaded file) :
    ∃ row, (next world input).files.find? saga.mediaFileId = some row ∧
      SameMessage file row := by
  cases saga_origin input live with
  | continued before kind ours loaded =>
    have stored : ∃ row, world.files.find? saga.mediaFileId = some row ∧
        SameMessage file row := by
      rcases loaded file phase with earlier | found
      · rw [ours]
        exact sound.loaded process _ file before earlier
      · exact ⟨file, found, rfl, rfl⟩
    obtain ⟨row, found, message⟩ := stored
    obtain ⟨reached, foundNext, step⟩ := file_step input found
    exact ⟨reached, foundNext, message.trans step.message⟩
  | reserved idle taken => cases phase

theorem Sound.step (recovery : TouchesOnlyCrashed world input) :
    Sound (next world input) where
  guarded := sound.guarded_step
  reserved := sound.reserved_step recovery
  alone := sound.alone_step
  loaded := sound.loaded_step

theorem Sound.final_step (input : Input) {id : Nat} {file : MediaFile}
    (found : world.files.find? id = some file)
    (final : file.status = .archived ∨ file.status = .deleted) :
    ∃ reached, (next world input).files.find? id = some reached ∧
      reached.status = file.status := by
  obtain ⟨reached, foundNext, step⟩ := file_step input found
  refine ⟨reached, foundNext, ?_⟩
  cases step with
  | kept | acquired | released => rfl
  | reserved free =>
    have active := (reservable_iff.mp free).2.1
    rcases final with archived | deleted
    · cases active.symm.trans archived
    · cases active.symm.trans deleted
  | @finalized process succeeded now saga file live ours ended =>
    obtain ⟨row, stored, status⟩ := sound.reserved process saga live
    rw [← ours, Table.key_of_find? found, found] at stored
    cases stored
    obtain ⟨_, notArchived, notDeleted⟩ := reserving_transient saga.kind
    rcases final with archived | deleted
    · exact absurd (status.symm.trans archived) notArchived
    · exact absurd (status.symm.trans deleted) notDeleted
  | reverted stuck | settled stuck =>
    rcases final with archived | deleted
    · cases (stale_status stuck).symm.trans archived
    · cases (stale_status stuck).symm.trans deleted

theorem Sound.deletion_reserved {id : Nat} {channelId messageId : Int}
    (issued : deletion world input = some (id, channelId, messageId)) :
    ∃ file, world.files.find? id = some file ∧ file.status = .deleting ∧
      file.publicationLocked = false ∧ file.telegramChannelId = channelId ∧
      file.telegramMessageId = messageId := by
  unfold deletion at issued
  split at issued
  · next process =>
      split at issued
      · next mediaFileId loaded live =>
          cases issued
          obtain ⟨file, found, status⟩ := sound.reserved process _ live
          obtain ⟨row, stored, message⟩ := sound.loaded process _ loaded live rfl
          cases stored.symm.trans found
          refine ⟨file, found, status, ?_, message.1, message.2⟩
          cases locked : file.publicationLocked with
          | false => rfl
          | true => cases (sound.guarded _ file found locked).symm.trans status
      · cases issued
  · cases issued

end

theorem sound_initial : Sound .initial where
  guarded := by
    intro id file found
    cases found
  reserved := by
    intro process saga live
    cases live
  alone := by
    intro process other saga rival live
    cases live
  loaded := by
    intro process saga file live
    cases live

theorem final_run {world : World} (sound : Sound world) {id : Nat} {file : MediaFile}
    (found : world.files.find? id = some file)
    (final : file.status = .archived ∨ file.status = .deleted) {later : List Input}
    (recovery : Obeys next TouchesOnlyCrashed world later) :
    ∃ kept, (run next world later).files.find? id = some kept ∧
      kept.status = file.status := by
  induction later generalizing world file with
  | nil => exact ⟨file, found, rfl⟩
  | cons input rest ih =>
    obtain ⟨first, obeyed⟩ := (obeys_cons next _ world input rest).mp recovery
    obtain ⟨reached, foundNext, same⟩ := sound.final_step input found final
    obtain ⟨kept, foundLater, status⟩ := ih (sound.step first) foundNext (by rwa [same]) obeyed
    exact ⟨kept, foundLater, status.trans same⟩

/-- A locked file is active, an archived or deleted file stays so, and only files
that are committed as deleting and are not locked are deleted from Telegram. -/
theorem media_deletion_saga (inputs : List Input)
    (recovery : Obeys next TouchesOnlyCrashed .initial inputs) :
    (∀ file ∈ (run next .initial inputs).files.rows,
      file.publicationLocked = true → file.status = .active) ∧
    (∀ before after id file, inputs = before ++ after →
      (run next .initial before).files.find? id = some file →
      file.status = .archived ∨ file.status = .deleted →
      ∃ kept, (run next .initial inputs).files.find? id = some kept ∧ kept.status = file.status) ∧
    (∀ taken ∈ trace next .initial inputs, ∀ id channelId messageId,
      deletion taken.1 taken.2 = some (id, channelId, messageId) →
      ∃ file, taken.1.files.find? id = some file ∧ file.status = .deleting ∧
        file.publicationLocked = false ∧ file.telegramChannelId = channelId ∧
        file.telegramMessageId = messageId) := by
  have kept : ∀ world input, TouchesOnlyCrashed world input → Sound world →
      Sound (next world input) := fun world input allowed sound => sound.step allowed
  refine ⟨?_, ?_, ?_⟩
  · intro file stored locked
    have sound := run_invariant_of_obeys next Sound sound_initial kept recovery
    exact sound.guarded file.id file (Table.find?_of_mem stored) locked
  · intro before after id file split found final
    subst split
    obtain ⟨first, later⟩ := (obeys_append next _ World.initial before after).mp recovery
    have sound := run_invariant_of_obeys next Sound sound_initial kept first
    rw [run_append]
    exact final_run sound found final later
  · intro taken stepped id channelId messageId issued
    have sound := trace_invariant_of_obeys next Sound sound_initial kept recovery
    exact (sound taken stepped).deletion_reserved issued

/-- A file is published, refused to a deletion, released and deleted; the process of a
second deletion crashes after its reservation, and recovery settles its row. -/
def sampleDeletions : List Input :=
  [.upload ⟨-100, 7, "front"⟩ "250101-001", .upload ⟨-100, 8, "back"⟩ "250101-001",
    .acquire 10 1, .reserve 0 20 .delete 1, .release 30 1, .reserve 0 40 .delete 1,
    .load 0, .acquire 45 1, .call 0, .finish 0 true 50,
    .reserve 1 60 .delete 2, .crash 1, .resolve 2000 15]

theorem sampleDeletions_recover : Obeys next TouchesOnlyCrashed .initial sampleDeletions := by
  simp only [sampleDeletions, obeys_cons]
  refine ⟨trivial, trivial, trivial, trivial, trivial, trivial, trivial, trivial, trivial,
    trivial, trivial, trivial, ?_, ?_⟩
  · intro file stored stuck process saga live
    match process with
    | 0 => cases (show none = some saga from live)
    | 1 => cases (show none = some saga from live)
    | other + 2 => cases (show none = some saga from live)
  · intro taken stepped
    cases stepped

theorem media_deletion_saga_after_crash :
    (∀ file ∈ (run next .initial sampleDeletions).files.rows,
      file.publicationLocked = true → file.status = .active) ∧
    (run next .initial sampleDeletions).files.rows.map (·.status) = [.deleted, .deleted] ∧
    ∃ taken ∈ trace next .initial sampleDeletions, deletion taken.1 taken.2 = some (1, -100, 7) ∧
      ∃ file, taken.1.files.find? 1 = some file ∧ file.status = .deleting := by
  obtain ⟨guarded, _, issued⟩ := media_deletion_saga sampleDeletions sampleDeletions_recover
  have called : ∃ taken ∈ trace next .initial sampleDeletions,
      deletion taken.1 taken.2 = some (1, -100, 7) :=
    ⟨(run next .initial (sampleDeletions.take 8), .call 0), by
      simp [sampleDeletions], rfl⟩
  obtain ⟨taken, stepped, same⟩ := called
  obtain ⟨file, found, status, _⟩ := issued taken stepped 1 (-100) 7 same
  exact ⟨guarded, by decide +kernel, taken, stepped, same, file, found, status⟩

end InfrasafeBot.MediaStorage
