import InfrasafeBot.Library.Machine
import InfrasafeBot.AccessControl.Events

/-! The durable channel of the commands (`api/commands.py`,
`repositories/barrier_commands_repo.py`): creation, lease and acknowledgement. What an edge
has lost, or has kept over a restart, shows in the calls it makes. -/

set_option autoImplicit false

namespace InfrasafeBot.AccessControl.Channel

open Library RequestWorkflow

inductive CommandStatus where
  | pending
  | leased
  | acked
  | dead
  deriving DecidableEq

structure QueuedCommand (Result : Type) where
  command : BarrierCommand
  createdAt : Moment
  status : CommandStatus
  leaseToken : Option String
  leaseExpiresAt : Option Moment
  attempts : Nat
  ackResult : Option Result

def QueuedCommand.commandId {Result : Type} (row : QueuedCommand Result) : Nat := row.command.commandId

structure LeasedCommand where
  commandId : Nat
  barrierId : Nat
  leaseToken : String
  expiresAt : Moment

structure AckRequest (Result : Type) where
  controllerId : Nat
  commandId : Nat
  leaseToken : String
  result : Option Result

structure AckOutcome (Result : Type) where
  commandId : Nat
  result : Option Result
  replayed : Bool

/-- "stale/invalid lease token or controller" -/
inductive AckError where
  | conflict (commandId : Nat)

/-- `leases` are the commands that have been handed out, and `acks` the acknowledgements that
have hit. -/
structure State (Result : Type) where
  queue : Table (@QueuedCommand.commandId Result)
  time : Moment
  leases : List LeasedCommand
  acks : List (AckRequest Result)

variable {Result : Type}

section

variable (hashLeaseToken : String → String) (leaseTtl : Nat) (state : State Result)

def pendingCommand (decisionId : Option Nat) (controllerId barrierId : Nat)
    (expiresAt createdAt : Moment) (id : Nat) : QueuedCommand Result :=
  ⟨openCommand decisionId controllerId barrierId expiresAt id, createdAt, .pending, none, none, 0, none⟩

theorem pendingCommand_id (decisionId : Option Nat) (controllerId barrierId : Nat)
    (expiresAt createdAt : Moment) (id : Nat) :
    (pendingCommand decisionId controllerId barrierId expiresAt createdAt id :
      QueuedCommand Result).commandId = id := rfl

def createOpenCommand (decisionId : Option Nat) (controllerId barrierId : Nat)
    (ttlSeconds : Int) : State Result :=
  if decisionId.any fun decisionId =>
      state.queue.rows.any fun row => row.command.decisionId = some decisionId then state
  else
    { state with
      queue := state.queue.insert
        (pendingCommand decisionId controllerId barrierId (state.time + ttlSeconds) state.time)
        (pendingCommand_id decisionId controllerId barrierId (state.time + ttlSeconds) state.time) }

/-- A command that runs out within a lease is not given out. -/
def leasable (now : Moment) (controllerId : Nat) (row : QueuedCommand Result) : Bool :=
  row.command.controllerId = controllerId && row.status = .pending && now + leaseTtl < row.command.expiresAt

def nextPending (controllerId : Nat) (locked : List Nat) : Option (QueuedCommand Result) :=
  (state.queue.rows.filter fun row =>
    leasable leaseTtl state.time controllerId row && !locked.contains row.commandId).argmin
      QueuedCommand.createdAt

def leasedRow (leaseToken : String) (row : QueuedCommand Result) : QueuedCommand Result :=
  { row with
    status := .leased
    leaseToken := some (hashLeaseToken leaseToken)
    leaseExpiresAt := some (state.time + leaseTtl)
    attempts := row.attempts + 1 }

theorem leasedRow_id (leaseToken : String) (row : QueuedCommand Result) :
    (leasedRow hashLeaseToken leaseTtl state leaseToken row).commandId = row.commandId := rfl

def leaseNextCommand (controllerId : Nat) (leaseToken : String) (locked : List Nat) :
    State Result × Option LeasedCommand :=
  match nextPending leaseTtl state controllerId locked with
  | none => (state, none)
  | some row =>
    let leased : LeasedCommand := ⟨row.commandId, row.command.barrierId, leaseToken, row.command.expiresAt⟩
    ({ state with
        queue := state.queue.update (·.commandId = row.commandId)
          (leasedRow hashLeaseToken leaseTtl state leaseToken)
          (leasedRow_id hashLeaseToken leaseTtl state leaseToken)
        leases := state.leases ++ [leased] },
      some leased)

def ackable (request : AckRequest Result) (row : QueuedCommand Result) : Bool :=
  row.commandId = request.commandId && row.command.controllerId = request.controllerId &&
    row.leaseToken = some (hashLeaseToken request.leaseToken) && row.status = .leased

def ackedRow (result : Option Result) (row : QueuedCommand Result) : QueuedCommand Result :=
  { row with status := .acked, ackResult := result }

theorem ackedRow_id (result : Option Result) (row : QueuedCommand Result) :
    (ackedRow result row).commandId = row.commandId := rfl

def ackStored (request : AckRequest Result) : Except AckError (AckOutcome Result) :=
  match state.queue.rows.find? fun row =>
      row.commandId = request.commandId && row.command.controllerId = request.controllerId with
  | some row =>
    if row.status = .acked ∧ row.leaseToken = some (hashLeaseToken request.leaseToken) then
      .ok ⟨request.commandId, row.ackResult, true⟩
    else .error (.conflict request.commandId)
  | none => .error (.conflict request.commandId)

def ackCommand (request : AckRequest Result) : Except AckError (State Result × AckOutcome Result) :=
  if state.queue.rows.any (ackable hashLeaseToken request) then
    .ok ({ state with
        queue := state.queue.update (ackable hashLeaseToken request) (ackedRow request.result)
          (ackedRow_id request.result)
        acks := state.acks ++ [request] },
      ⟨request.commandId, request.result, false⟩)
  else (ackStored hashLeaseToken state request).map fun outcome => (state, outcome)

end

/-- `locked` are the rows other transactions have locked at the moment. -/
inductive Event (Result : Type) where
  | create (decisionId : Option Nat) (controllerId barrierId : Nat) (ttlSeconds : Int)
  | lease (controllerId : Nat) (leaseToken : String) (locked : List Nat)
  | ack (request : AckRequest Result)
  | tick (elapsed : Nat)

def State.initial {Result : Type} (time : Moment) : State Result := ⟨.empty, time, [], []⟩

section

variable (hashLeaseToken : String → String) (leaseTtl : Nat)

def next (state : State Result) : Event Result → State Result
  | .create decisionId controllerId barrierId ttlSeconds =>
    createOpenCommand state decisionId controllerId barrierId ttlSeconds
  | .lease controllerId leaseToken locked =>
    (leaseNextCommand hashLeaseToken leaseTtl state controllerId leaseToken locked).1
  | .ack request =>
    match ackCommand hashLeaseToken state request with
    | .ok (acked, _) => acked
    | .error _ => state
  | .tick elapsed => { state with time := state.time + elapsed }

def leaseAll (controllerId : Nat) : State Result → List String → List LeasedCommand
  | _, [] => []
  | state, leaseToken :: rest =>
    let answered := leaseNextCommand hashLeaseToken leaseTtl state controllerId leaseToken []
    answered.2.toList ++ leaseAll controllerId answered.1 rest

end

end InfrasafeBot.AccessControl.Channel
