import CyreneKernel.Contract.Resource

/-!
# Leases, workers, operations and endpoints of the semantic contract

The objects the authority hands out and their lifecycles.  Each lifecycle is given by its
`canTransitionTo` table: a state report is an idempotent replay or one of the listed forward
transitions.
-/

namespace CyreneKernel

open Lib

/-! ### Leases -/

inductive LeaseState
  | active
  | releasing
  | released
  | expired
  | revoked
  | failed
deriving DecidableEq

/-- Whether a state report is an idempotent replay or a legal forward-only transition for the
same lease generation. -/
def LeaseState.canTransitionTo (state next : LeaseState) : Bool :=
  state == next ||
    match state, next with
    | .active, .releasing | .active, .expired | .active, .revoked | .active, .failed => true
    | .releasing, .released | .releasing, .revoked | .releasing, .failed => true
    | _, _ => false

structure Lease where
  identity : Identity
  holder : Identity
  resources : List Identity
  state : LeaseState
  fenceToken : Nat
  expiresAtUnixMs : Option Nat
deriving DecidableEq

/-! ### Workers -/

inductive WorkerState
  | registered
  | starting
  | running
  | draining
  | stopped
  | failed
  | lost
deriving DecidableEq

def WorkerState.canTransitionTo (state next : WorkerState) : Bool :=
  state == next ||
    match state, next with
    | .registered, .starting | .registered, .draining | .registered, .stopped
    | .registered, .failed | .registered, .lost => true
    | .starting, .running | .starting, .draining | .starting, .stopped
    | .starting, .failed | .starting, .lost => true
    | .running, .draining | .running, .stopped | .running, .failed | .running, .lost => true
    | .draining, .stopped | .draining, .failed | .draining, .lost => true
    | _, _ => false

structure Worker where
  identity : Identity
  principal : Identity
  provider : Identity
  lease : Identity
  state : WorkerState
  executionRef : String
  limits : BTreeMap String Quantity
deriving DecidableEq

def Worker.validate (worker : Worker) : Except ContractError Unit := do
  worker.identity.validate
  worker.principal.validate
  worker.provider.validate
  worker.lease.validate
  validateText "worker execution reference" worker.executionRef maxExecutionRefBytes
  if worker.limits.size > maxProperties then
    throw ⟨"WORKER_LIMIT_COUNT_EXCEEDED", "worker has too many generic execution limits"⟩
  worker.limits.toList.forM fun (key, quantity) => do
    validateNamespacedId "worker limit key" key
    quantity.validate

/-! ### Operations -/

inductive OperationState
  | created
  | pending
  | running
  | succeeded
  | failed
  | cancelling
  | cancelled
  | lost
deriving DecidableEq

def OperationState.canTransitionTo (state next : OperationState) : Bool :=
  state == next ||
    match state, next with
    | .created, .pending | .created, .running | .created, .cancelling | .created, .cancelled
    | .created, .failed => true
    | .pending, .running | .pending, .cancelling | .pending, .cancelled | .pending, .failed
    | .pending, .lost => true
    | .running, .succeeded | .running, .failed | .running, .cancelling | .running, .lost => true
    | .cancelling, .cancelled | .cancelling, .failed | .cancelling, .lost => true
    | _, _ => false

structure Operation where
  identity : Identity
  owner : Identity
  executor : Identity
  kind : String
  state : OperationState
  deadlineUnixMs : Option Nat
  parent : Option Identity
  metadata : BTreeMap String String
deriving DecidableEq

def Operation.validate (operation : Operation) : Except ContractError Unit := do
  operation.identity.validate
  operation.owner.validate
  operation.executor.validate
  validateNamespacedId "operation kind" operation.kind
  if let some deadline := operation.deadlineUnixMs then
    validateTimestamp "operation deadline" deadline
  if let some parent := operation.parent then
    parent.validate
    if parent = operation.identity then
      throw ⟨"OPERATION_PARENT_INVALID", "operation cannot be its own parent"⟩
  validateProperties operation.metadata

/-! ### Endpoints -/

structure Endpoint where
  identity : Identity
  provider : Identity
  owner : Identity
  transport : String
  schemaId : String
  capabilities : List Capability
  publicAttributes : BTreeMap String String
  connectionRef : String
  credentialRef : Option String
deriving DecidableEq

def Endpoint.validate (endpoint : Endpoint) : Except ContractError Unit := do
  endpoint.identity.validate
  endpoint.provider.validate
  endpoint.owner.validate
  validateNamespacedId "endpoint transport" endpoint.transport
  validateNamespacedId "endpoint schema id" endpoint.schemaId
  validateCapabilities endpoint.capabilities
  validateProperties endpoint.publicAttributes
  validateText "endpoint connection reference" endpoint.connectionRef maxConnectionRefBytes
  if let some credentialRef := endpoint.credentialRef then
    validateNamespacedId "endpoint credential reference" credentialRef

structure EndpointGrant where
  identity : Identity
  endpoint : Identity
  grantee : Identity
  lease : Identity
  fenceToken : Nat
  expiresAtUnixMs : Nat
deriving DecidableEq

end CyreneKernel
