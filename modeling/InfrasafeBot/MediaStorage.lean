import InfrasafeBot.Library.Table
import InfrasafeBot.RequestWorkflow.Types

/-! The media files of the media service: publication locks, and the two-phase
archive and delete sagas around a Telegram call (`services/media_storage.py`). -/

set_option autoImplicit false

namespace InfrasafeBot.MediaStorage

open Library RequestWorkflow

inductive MediaStatus where
  | active
  | archived
  | deleted
  | archiving
  | deleting
  deriving DecidableEq

structure MediaFile where
  id : Nat
  telegramChannelId : Int
  telegramMessageId : Int
  telegramFileId : String
  requestNumber : Option String
  status : MediaStatus
  publicationLocked : Bool
  updatedAt : Option Moment
  archivedAt : Option Moment
  deriving DecidableEq

abbrev MediaFiles := Table MediaFile.id

structure Message where
  channelId : Int
  messageId : Int
  fileId : String

/-- A file already stored under the same `telegram_file_id` is reused. -/
def saveMediaMetadata (message : Message) (requestNumber : String) (files : MediaFiles) : MediaFiles :=
  if files.rows.any (·.telegramFileId = message.fileId) then files
  else
    files.insert
      (fun id => {
        id := id
        telegramChannelId := message.channelId
        telegramMessageId := message.messageId
        telegramFileId := message.fileId
        requestNumber := some requestNumber
        status := .active
        publicationLocked := false
        updatedAt := none
        archivedAt := none })
      fun _ => rfl

def active (mediaFileId : Nat) (file : MediaFile) : Bool := file.id = mediaFileId && file.status = .active

def acquirePublicationLock (now : Moment) (mediaFileId : Nat) (files : MediaFiles) : MediaFiles × Bool :=
  (files.update (active mediaFileId)
      (fun file => { file with publicationLocked := true, updatedAt := some now }) fun _ => rfl,
    0 < files.rowcount (active mediaFileId))

def releasePublicationLock (now : Moment) (mediaFileId : Nat) (files : MediaFiles) : MediaFiles :=
  files.update (fun file => file.id = mediaFileId)
    (fun file => { file with publicationLocked := false, updatedAt := some now }) fun _ => rfl

def reservable (mediaFileId : Nat) (file : MediaFile) : Bool :=
  file.id = mediaFileId && file.status = .active && !file.publicationLocked

inductive SagaKind where
  | archive
  | delete

def SagaKind.reservingStatus : SagaKind → MediaStatus
  | .archive => .archiving
  | .delete => .deleting

inductive Reservation where
  | notFound
  | refused
  | reserved
  deriving DecidableEq

def reserve (now : Moment) (kind : SagaKind) (mediaFileId : Nat) (files : MediaFiles) :
    MediaFiles × Reservation :=
  match files.find? mediaFileId with
  | none => (files, .notFound)
  | some _ =>
    (files.update (reservable mediaFileId)
        (fun file => { file with status := kind.reservingStatus, updatedAt := some now })
        fun _ => rfl,
      if 0 < files.rowcount (reservable mediaFileId) then .reserved else .refused)

/-- The second phase commits: the terminal status after a successful call, the
compensation after a failed one. The flush writes the row whatever it holds now. -/
def finalized (kind : SagaKind) (succeeded : Bool) (now : Moment) (file : MediaFile) : MediaFile :=
  if succeeded then
    match kind with
    | .archive => { file with status := .archived, archivedAt := some now, updatedAt := some now }
    | .delete => { file with status := .deleted, updatedAt := some now }
  else { file with status := .active, updatedAt := some now }

theorem finalized_id (kind : SagaKind) (succeeded : Bool) (now : Moment) (file : MediaFile) :
    (finalized kind succeeded now file).id = file.id := by
  unfold finalized
  split
  · cases kind <;> rfl
  · rfl

def finalize (kind : SagaKind) (succeeded : Bool) (now : Moment) (mediaFileId : Nat)
    (files : MediaFiles) : MediaFiles :=
  files.update (fun file => file.id = mediaFileId) (finalized kind succeeded now)
    fun file => finalized_id kind succeeded now file

def stale (cutoff : Moment) (status : MediaStatus) (file : MediaFile) : Bool :=
  file.status = status && file.updatedAt.any (· < cutoff)

structure Resolved where
  archivingReverted : Nat
  deletingFinalized : Nat

def resolveStaleTransitions (now : Moment) (olderThanMinutes : Nat) (files : MediaFiles) :
    MediaFiles × Resolved :=
  let cutoff := now - 60 * olderThanMinutes
  let reverted := files.update (stale cutoff .archiving)
    (fun file => { file with status := .active, updatedAt := some now }) fun _ => rfl
  (reverted.update (stale cutoff .deleting)
      (fun file => { file with status := .deleted, updatedAt := some now }) fun _ => rfl,
    ⟨files.rowcount (stale cutoff .archiving), reverted.rowcount (stale cutoff .deleting)⟩)

/-- Where a reserved saga stands: the first phase committed, the row loaded for the
call, the call issued to Telegram. -/
inductive Phase where
  | reserved
  | loaded (file : MediaFile)
  | called

structure Saga where
  kind : SagaKind
  mediaFileId : Nat
  phase : Phase

/-- The committed files, and the saga each process is in. -/
structure World where
  files : MediaFiles
  sagas : Nat → Option Saga

inductive Input where
  | upload (message : Message) (requestNumber : String)
  | acquire (now : Moment) (mediaFileId : Nat)
  | release (now : Moment) (mediaFileId : Nat)
  | reserve (process : Nat) (now : Moment) (kind : SagaKind) (mediaFileId : Nat)
  | load (process : Nat)
  | call (process : Nat)
  | finish (process : Nat) (succeeded : Bool) (now : Moment)
  | crash (process : Nat)
  | resolve (now : Moment) (olderThanMinutes : Nat)

def World.enter (world : World) (process : Nat) (saga : Option Saga) : World :=
  { world with sagas := Function.update world.sagas process saga }

def reservePhase (world : World) (process : Nat) (now : Moment) (kind : SagaKind)
    (mediaFileId : Nat) : World :=
  match world.sagas process with
  | some _ => world
  | none =>
    let (files, reservation) := reserve now kind mediaFileId world.files
    let entered := if reservation = .reserved then some ⟨kind, mediaFileId, .reserved⟩ else none
    { world.enter process entered with files := files }

def loadPhase (world : World) (process : Nat) : World :=
  match world.sagas process with
  | some ⟨kind, mediaFileId, .reserved⟩ =>
    world.enter process
      ((world.files.find? mediaFileId).map fun file => ⟨kind, mediaFileId, .loaded file⟩)
  | _ => world

def callPhase (world : World) (process : Nat) : World :=
  match world.sagas process with
  | some ⟨kind, mediaFileId, .loaded _⟩ => world.enter process (some ⟨kind, mediaFileId, .called⟩)
  | _ => world

/-- A second phase that fails before its call, on a missing archive channel, is
compensated as well. -/
def finishPhase (world : World) (process : Nat) (succeeded : Bool) (now : Moment) : World :=
  match world.sagas process with
  | some ⟨kind, mediaFileId, .called⟩ =>
    { world.enter process none with files := finalize kind succeeded now mediaFileId world.files }
  | some ⟨.archive, mediaFileId, .loaded _⟩ =>
    if succeeded then world
    else { world.enter process none with files := finalize .archive false now mediaFileId world.files }
  | _ => world

def next (world : World) : Input → World
  | .upload message requestNumber =>
    { world with files := saveMediaMetadata message requestNumber world.files }
  | .acquire now mediaFileId =>
    { world with files := (acquirePublicationLock now mediaFileId world.files).1 }
  | .release now mediaFileId => { world with files := releasePublicationLock now mediaFileId world.files }
  | .reserve process now kind mediaFileId => reservePhase world process now kind mediaFileId
  | .load process => loadPhase world process
  | .call process => callPhase world process
  | .finish process succeeded now => finishPhase world process succeeded now
  | .crash process => world.enter process none
  | .resolve now olderThanMinutes =>
    { world with files := (resolveStaleTransitions now olderThanMinutes world.files).1 }

def deletion (world : World) : Input → Option (Nat × Int × Int)
  | .call process =>
    match world.sagas process with
    | some ⟨.delete, mediaFileId, .loaded file⟩ =>
      some (mediaFileId, file.telegramChannelId, file.telegramMessageId)
    | _ => none
  | _ => none

def World.initial : World := ⟨.empty, fun _ => none⟩

end InfrasafeBot.MediaStorage
