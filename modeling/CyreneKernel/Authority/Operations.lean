import CyreneKernel.Authority.Leases

/-!
# Operation actions

Operations are created by callers, reported by their executors and cancelled by their owners; the
kernel itself remembers one operation for every start and stop of a worker.  A cancellation that
cannot be delivered, or whose deadline passes, loses the operation.
-/

namespace CyreneKernel

open Lib

def semanticOperationEventKind : OperationState → String
  | .created => "operation.created"
  | .pending => "operation.pending"
  | .running => "operation.running"
  | .succeeded => "operation.succeeded"
  | .failed => "operation.failed"
  | .cancelling => "operation.cancelling"
  | .cancelled => "operation.cancelled"
  | .lost => "operation.lost"

/-- The operation the kernel keeps for starting or stopping a worker. -/
def workerOperation (verb : String) (worker : Worker) (state : OperationState) : Operation where
  identity := ⟨"operation/" ++ verb ++ "/" ++ worker.identity.id, worker.identity.generation⟩
  owner := worker.principal
  executor := worker.provider
  kind := "worker." ++ verb
  state := state
  deadlineUnixMs := none
  parent := none
  metadata := (∅ : BTreeMap String String).insert "worker.id" worker.identity.id

variable (operation : Operation) (worker : Identity)

/-- Whether the operation runs on a worker: as its executor, or for its start or stop. -/
def Operation.targets : Bool :=
  operation.executor = worker || operation.metadata["worker.id"]? = some worker.id

/-- Whether the loss of a worker loses the operation. -/
def Operation.isLostWith : Bool :=
  operation.targets worker && operation.state.canTransitionTo .lost

/-- The objects after the loss of a worker: the operations on it, in whichever namespace, are
lost. -/
def loseOperations (s : Core) : Core :=
  { s with
    semanticOperations := s.semanticOperations.map fun _ operation =>
      if operation.isLostWith worker then { operation with state := .lost } else operation }

/-- The operations that `loseOperations` touches. -/
def lostOperations (s : Core) : List Identity :=
  (s.semanticOperations.toList.filter (·.2.isLostWith worker)).map (·.2.identity)

/-- The fields of an operation that never change. -/
def Operation.SameAuthority (other : Operation) : Prop :=
  operation.owner = other.owner ∧ operation.executor = other.executor ∧
    operation.kind = other.kind ∧ operation.deadlineUnixMs = other.deadlineUnixMs ∧
    operation.parent = other.parent

instance (operation other : Operation) : Decidable (operation.SameAuthority other) :=
  inferInstanceAs (Decidable (_ ∧ _))

namespace Authority

variable (env : Environment)

variable (context : AuthorityCallContext) (principal : Principal) (operation : Operation)

def putOperation : Action Unit :=
  modify fun s => { s with
    semanticOperations :=
      s.semanticOperations.insert (context.objectRef operation.identity) operation }

def publishOperation : Action Unit :=
  publishSemanticEventIn env context.ns operation.identity
    (semanticOperationEventKind operation.state) "cyrene.operation.v1"

/-- Store an operation, whatever was stored under its identity. -/
def rememberOperation : Action Operation := do
  putOperation context operation
  publishOperation env context operation
  return operation

/-- Store a new operation; the same one may be created again. -/
def createOperation : Action Operation := do
  validateContext context
  bindNamespace context principal
  rejectIf (operation.state ≠ .created)
    ⟨"STATE_TRANSITION_INVALID", "CreateOperation requires CREATED state"⟩
  let s ← get
  match s.semanticOperations[context.objectRef operation.identity]? with
  | some existing =>
    rejectIf (existing ≠ operation)
      ⟨"OPERATION_EXISTS", "an operation with this identity already exists"⟩
    return existing
  | none =>
    rejectIf (s.semanticOperations.toList.any fun entry =>
        entry.1.ns = context.ns && entry.2.identity.id = operation.identity.id &&
          operation.identity.generation < entry.2.identity.generation)
      ⟨"STALE_GENERATION", "operation identity generation is stale"⟩
    putOperation context operation
    publishOperation env context operation
    return operation

def operationUnknown : Rejection := ⟨"OPERATION_NOT_FOUND", "operation is unknown"⟩

/-- Move an operation to a state that its present one allows. -/
def reportOperation (reported : Operation) : Action Operation := do
  validateContext context
  requireNamespaceOwner context principal
  let s ← get
  let current ← okOr (s.semanticOperations[context.objectRef reported.identity]?)
    operationUnknown
  rejectIf (¬ current.SameAuthority reported)
    ⟨"OPERATION_IMMUTABLE_FIELDS_CHANGED",
      "operation report attempted to change immutable authority fields"⟩
  rejectIf (!current.state.canTransitionTo reported.state)
    ⟨"STATE_TRANSITION_INVALID", "operation report is not an idempotent or forward transition"⟩
  putOperation context reported
  publishOperation env context reported
  return reported

/-- A cancellation that was not delivered or not completed in time loses its operation. -/
def markCancellingOperationLost (identity : Identity) : Action Operation := do
  let s ← get
  -- the source panics here: the deadline of a cancellation is set for a stored operation
  let current ← okOr (s.semanticOperations[context.objectRef identity]?)
    ⟨"OPERATION_NOT_FOUND", "operation was checked before cancellation delivery"⟩
  let operation :=
    if current.state = .cancelling then { current with state := .lost } else current
  set { s with
    semanticOperations := s.semanticOperations.insert (context.objectRef identity) operation }
  if operation.state = .lost then
    publishOperation env context operation
  return operation

/-- Cancel an operation and hand the cancellation to the worker that executes it. -/
def cancelOperation (identity : Identity) : Action Operation := do
  validateContext context
  requireNamespaceOwner context principal
  let s ← get
  let current ← okOr (s.semanticOperations[context.objectRef identity]?) operationUnknown
  if current.state = .cancelling ∨ current.state = .cancelled then
    return current
  rejectIf (!current.state.canTransitionTo .cancelling)
    ⟨"STATE_TRANSITION_INVALID", "operation cannot be cancelled from its current state"⟩
  let cancelling := { current with state := .cancelling }
  set { s with
    semanticOperations := s.semanticOperations.insert (context.objectRef identity) cancelling }
  publishOperation env context cancelling
  let entries ← instanceEntries env
  let delivered ← ask env.deliver
  match entries.find? fun entry =>
      entry.2.semanticWorker.any fun worker => cancelling.executor = worker.identity with
  | some (_, process) =>
    match process.actor.requestCancel delivered with
    | .ok _ => return cancelling
    | .error _ => markCancellingOperationLost env context cancelling.identity
  | none => markCancellingOperationLost env context cancelling.identity

end Authority

end CyreneKernel
