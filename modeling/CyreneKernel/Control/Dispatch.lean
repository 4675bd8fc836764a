import CyreneKernel.Control.Intent
import CyreneKernel.Contract.Namespace
import CyreneKernel.Fabric.Admission
import CyreneKernel.Lib.Program

/-!
# Dispatching an execution

The controller places an execution on a node, records its intent, acquires one lease, launches the
runtime where it is not connected yet, and delivers the assignment.  Every failure after the lease
was acquired either rolls the lease back or leaves the intent to reconciliation.

The controller is a program over the calls that it makes: to its clock, to the sessions of the
agents, to the kernel, to the launcher and to the intent store.  Placement and the validation of
assignments belong to the fabric; they are functions of the request and the time.
-/

namespace CyreneKernel.Control

open Lib Fabric

/-! ### Errors -/

structure DispatchError where
  reasonCode : String
  message : String
  reconciliationRequired : Bool
deriving DecidableEq

namespace DispatchError

def input (reasonCode message : String) : DispatchError := ⟨reasonCode, message, false⟩

def transient (reasonCode message : String) : DispatchError := input reasonCode message

def unknown (message : String) : DispatchError :=
  ⟨"UNKNOWN_REQUIRES_RECONCILIATION", message, true⟩

def authority (rejection : Rejection) : DispatchError :=
  ⟨rejection.reasonCode, rejection.message, false⟩

def ofContract (error : FabricContractError) : DispatchError :=
  input error.reasonCode error.message

/-- The text of an error in messages. -/
def display (error : DispatchError) : String := error.reasonCode ++ ": " ++ error.message

end DispatchError

def storeError (error : IntentStoreError) (externalEffectPossible : Bool) : DispatchError :=
  if externalEffectPossible then
    .unknown ("durable execution-intent state could not be committed: " ++ error.display)
  else
    .transient
      (match error.kind with
      | .invalidRecord => "EXECUTION_INTENT_INVALID"
      | .alreadyExists => "EXECUTION_INTENT_ALREADY_RECORDED"
      | .notFound => "EXECUTION_INTENT_NOT_FOUND"
      | .revisionConflict => "EXECUTION_INTENT_REVISION_CONFLICT"
      | .persistence => "INTENT_STORE_UNAVAILABLE")
      error.message

/-! ### Requests -/

structure WorkloadScope where
  organizationId : String
  workspaceId : String
deriving DecidableEq

structure WorkloadIdentity where
  scope : Option WorkloadScope
  identity : Option Identity
  expiresAt : Option Timestamp
deriving DecidableEq

/-- The fields of an assignment that need no lease; `payload` are its profile and artifacts. -/
structure RuntimeAssignmentBuilder (P : Type) where
  assignmentId : String
  runtime : Identity
  operation : Identity
  attemptId : String
  workloadIdentity : WorkloadIdentity
  payload : P

structure RuntimeAssignment (P : Type) where
  builder : RuntimeAssignmentBuilder P
  lease : Option WireLease

/-- The decisions of the fabric about placements `L`, targets `T` and payloads `P`. -/
structure FabricPorts (L T P : Type) where
  resourceQuery : L → ResourceQuery
  targetNode : T → NodeRef
  placeExecutionTarget : L → Nat → Except FabricContractError T
  validatePayload : RuntimeAssignmentBuilder P → Nat → Except FabricContractError Unit
  validateArtifactProjection : RuntimeAssignmentBuilder P → L → T → Except FabricContractError Unit
  validateAssignment : RuntimeAssignment P → Nat → Except FabricContractError Unit

/-- Bind a lease to an assignment. -/
def RuntimeAssignmentBuilder.build {L T P : Type} (fabric : FabricPorts L T P)
    (builder : RuntimeAssignmentBuilder P) (lease : Lease) (nowUnixMs : Nat) :
    Except FabricContractError (RuntimeAssignment P) := do
  fabric.validatePayload builder nowUnixMs
  let assignment : RuntimeAssignment P := ⟨builder, some (semanticLeaseToProto lease)⟩
  fabric.validateAssignment assignment nowUnixMs
  return assignment

structure ExecutionDispatchRequest (L P : Type) where
  placement : L
  assignment : RuntimeAssignmentBuilder P
  intentPayloadDigest : String
  acquireCommandId : String
  acquireContext : AuthorityCallContext
  releaseCommandId : String
  releaseContext : AuthorityCallContext
  leaseTtlNanos : Nat

inductive AssignmentAckDisposition
  | unspecified
  | accepted
  | duplicate
  | rejected
deriving DecidableEq

def AssignmentAckDisposition.ofNumber (number : Int) : Option AssignmentAckDisposition :=
  if number = 0 then some .unspecified
  else if number = 1 then some .accepted
  else if number = 2 then some .duplicate
  else if number = 3 then some .rejected
  else none

/-- The runtime has the assignment. -/
def AssignmentAckDisposition.confirms (disposition : AssignmentAckDisposition) : Bool :=
  disposition matches .accepted | .duplicate

/-- The parts of an acknowledgement that the controller reads. -/
structure AssignmentAck where
  disposition : Int
  rejection : Option Rejection
deriving DecidableEq

structure DispatchReceipt (P : Type) where
  node : NodeRef
  assignment : RuntimeAssignment P
  lease : Lease
  ackDisposition : AssignmentAckDisposition

structure ExecutionReleaseRequest where
  assignmentId : String
  node : NodeRef
  lease : Lease
  commandId : String
  context : AuthorityCallContext

/-! ### Sessions -/

structure HostRouteSnapshot where
  node : NodeRef
  sessionId : String
deriving DecidableEq

structure RuntimeRouteSnapshot where
  runtime : Identity
  node : NodeRef
  sessionId : String
deriving DecidableEq

structure RouteSnapshot where
  host : HostRouteSnapshot
  runtime : RuntimeRouteSnapshot
deriving DecidableEq

structure RuntimeSessionView where
  node : NodeRef
  organizationId : String
  workspaceId : String
  workloadIdentity : Identity
  workloadIdentityExpiresAtUnixMs : Nat
deriving DecidableEq

structure LeaseAcquisition where
  node : NodeRef
  commandId : String
  context : AuthorityCallContext
  holder : Identity
  query : ResourceQuery
  ttlNanos : Nat

/-! ### Checks -/

def timestampUnixMs (timestamp : Timestamp) : Option Nat :=
  if timestamp.seconds ≤ 0 ∨ timestamp.nanos < 0 ∨ timestamp.nanos.tmod 1000000 ≠ 0 then none
  else
    let millis := timestamp.seconds.toNat * 1000 + (timestamp.nanos.tdiv 1000000).toNat
    if millis > u64Max then none else some millis

def WorkloadIdentity.expiry (identity : WorkloadIdentity) : Option Nat :=
  identity.expiresAt.bind timestampUnixMs

def defaultNamespace : String := "default"

def validateContext (context : AuthorityCallContext) : Except DispatchError Unit := do
  failIf (context.ns.asStr ≠ defaultNamespace)
    (.input "CORE_V1_NAMESPACE_UNSUPPORTED"
      "NodeControl Core v1 authority routing supports only the default namespace")
  (context.validateFor .current).mapError .authority

section Programs

variable {L T P : Type}

variable (fabric : FabricPorts L T P) (polls : Nat) (initialRoute : Option RouteSnapshot)
  (hostRoute : HostRouteSnapshot) (targetNode : NodeRef) (request : ExecutionDispatchRequest L P)
  (intent : ExecutionIntentRecord)

def validateRequest (nowUnixMs : Nat) : Except DispatchError Unit := do
  failIf (request.acquireCommandId.isEmpty ∨ request.releaseCommandId.isEmpty ∨
      request.acquireCommandId = request.releaseCommandId)
    (.input "COMMAND_ID_INVALID"
      "distinct non-empty acquire and rollback-release command ids are required")
  validateContext request.acquireContext
  validateContext request.releaseContext
  failIf (request.acquireContext.effectiveIdempotencyKey =
      request.releaseContext.effectiveIdempotencyKey)
    (.input "IDEMPOTENCY_KEY_REUSED"
      "acquire and rollback release require distinct stable idempotency keys")
  failIf (request.leaseTtlNanos = 0) (.input "LEASE_TTL_INVALID" "Lease TTL must be positive")
  let ttlMs := request.leaseTtlNanos / 1000000
  failIf (ttlMs > u64Max)
    (.input "LEASE_TTL_INVALID" "Lease TTL exceeds the supported range")
  let workloadExpiry ← foundOr request.assignment.workloadIdentity.expiry
    (.input "WORKLOAD_IDENTITY_EXPIRY_INVALID"
      "workload identity requires an exact positive millisecond expiry")
  failIf (saturatingAdd nowUnixMs ttlMs > workloadExpiry)
    (.input "WORKLOAD_IDENTITY_WINDOW_TOO_SHORT"
      "workload identity must remain valid for the requested Lease lifetime")

def validateWorkloadScope (assignment : RuntimeAssignmentBuilder P) (session : RuntimeSessionView) :
    Except DispatchError Unit := do
  let scope ← foundOr assignment.workloadIdentity.scope
    (.input "WORKLOAD_SCOPE_REQUIRED" "workload scope is required")
  failIf (scope.organizationId ≠ session.organizationId ∨ scope.workspaceId ≠ session.workspaceId)
    (.input "WORKLOAD_SCOPE_MISMATCH"
      "workload identity scope does not match the authenticated Runtime session")
  let workloadIdentity ← foundOr assignment.workloadIdentity.identity
    (.input "WORKLOAD_IDENTITY_REQUIRED" "workload identity is required")
  failIf (workloadIdentity.id ≠ session.workloadIdentity.id ∨
      workloadIdentity.generation ≠ session.workloadIdentity.generation ∨
      assignment.workloadIdentity.expiry ≠ some session.workloadIdentityExpiresAtUnixMs)
    (.input "WORKLOAD_IDENTITY_GRANT_MISMATCH"
      "assignment workload identity does not match the authenticated enrollment grant")

/-- The checks before the intent, up to the choice of a node. -/
def admitRequest (nowUnixMs : Nat) : Except DispatchError NodeRef := do
  validateRequest request nowUnixMs
  (fabric.validatePayload request.assignment nowUnixMs).mapError .ofContract
  let target ← (fabric.placeExecutionTarget request.placement nowUnixMs).mapError .ofContract
  (fabric.validateArtifactProjection request.assignment request.placement target).mapError
    .ofContract
  return fabric.targetNode target

/-- The checks between the lease and the launch: the lease does not outlive the workload, and the
placement, repeated now, still chooses the node. -/
def bindLease (targetNode : NodeRef) (lease : Lease) (assignmentTime : Nat) :
    Except DispatchError (RuntimeAssignment P) := do
  let target ← (fabric.placeExecutionTarget request.placement assignmentTime).mapError .ofContract
  failIf (fabric.targetNode target ≠ targetNode)
    (.transient "PLACEMENT_TARGET_CHANGED"
      "placement changed while acquiring the Lease; a fresh dispatch is required")
  (fabric.validateArtifactProjection request.assignment request.placement target).mapError
    .ofContract
  (request.assignment.build fabric lease assignmentTime).mapError .ofContract

/-! ### Calls of the controller -/

/-- The calls of the controller.  `transition` is `transition_intent`: it reads the clock, forms the
next record and writes it to the store. -/
inductive Query (P : Type)
  | now
  | snapshotRoute (node : NodeRef) (runtime : Identity)
  | snapshotHostRoute (node : NodeRef)
  | runtimeSessionOnRoute (route : RouteSnapshot)
  | load (assignmentId : String)
  | create (record : ExecutionIntentRecord)
  | transition (current : ExecutionIntentRecord) (disposition : IntentDisposition)
      (authority : Option (NodeRef × Lease))
  | acquireLeaseOnRoute (route : RouteSnapshot) (acquisition : LeaseAcquisition)
  | acquireLeaseOnHostRoute (route : HostRouteSnapshot) (acquisition : LeaseAcquisition)
  | launch (node : NodeRef) (assignment : RuntimeAssignment P) (lease : Lease)
  | reconcile (node : NodeRef) (assignment : RuntimeAssignment P) (lease : Lease)
  | dispatchAssignmentOnRoute (route : RuntimeRouteSnapshot) (assignment : RuntimeAssignment P)
  | releaseLeaseOnRoute (route : HostRouteSnapshot) (lease : Lease) (commandId : String)
      (context : AuthorityCallContext)
  | releaseLease (node : NodeRef) (lease : Lease) (commandId : String)
      (context : AuthorityCallContext)

/-- A missing or replaced session is a refusal; it never asks for reconciliation. -/
@[reducible] def Query.Answer : Query P → Type
  | .now => Nat
  | .snapshotRoute .. => Except Rejection RouteSnapshot
  | .snapshotHostRoute .. => Except Rejection HostRouteSnapshot
  | .runtimeSessionOnRoute .. => Except Rejection RuntimeSessionView
  | .load .. => Option ExecutionIntentRecord
  | .create .. => Except PersistFailure Unit
  | .transition .. => Except PersistFailure ExecutionIntentRecord
  | .acquireLeaseOnRoute .. | .acquireLeaseOnHostRoute .. => Except DispatchError WireLease
  | .launch .. | .reconcile .. => Except DispatchError Unit
  | .dispatchAssignmentOnRoute .. => Except DispatchError AssignmentAck
  | .releaseLeaseOnRoute .. | .releaseLease .. => Except DispatchError Unit

abbrev ControlProgram (P α : Type) := Program (Query P) Query.Answer α

abbrev ControlLog (P : Type) := List (Exchange (Query P) Query.Answer)

export Lib.Program (ask)

/-- Record the intent of a dispatch, or say what became of an earlier one for the assignment. -/
def beginIntent (assignmentId payloadDigest : String) (nowUnixMs : Nat) :
    ControlProgram P (Except DispatchError ExecutionIntentRecord) :=
  match ExecutionIntentRecord.pending assignmentId payloadDigest nowUnixMs with
  | .error error => return .error (storeError error false)
  | .ok record => do
    match ← ask (Query.create record) with
    | .ok () => return .ok record
    | .error failure =>
      if failure.error.kind = .alreadyExists then
        match ← ask (Query.load assignmentId) with
        | none =>
          return .error (.transient "INTENT_STORE_INCONSISTENT"
            "intent tombstone disappeared after duplicate detection")
        | some existing =>
          if existing.payloadDigest ≠ payloadDigest then
            return .error (.input "EXECUTION_INTENT_PAYLOAD_MISMATCH"
              "assignment id is already bound to a different immutable intent digest")
          else if existing.disposition.mayHaveEffects then
            return .error (.unknown ("execution intent may have external effects; reconcile " ++
              "canonical Lease and Runtime observations before retrying"))
          else
            return .error (.input "EXECUTION_INTENT_ALREADY_RECORDED"
              ("execution intent is already " ++ existing.disposition.debug))
      else
        return .error (storeError failure.error false)

def rollbackReleaseCanRetry (error : DispatchError) : Bool :=
  error.reconciliationRequired ||
    error.reasonCode ∈ ["SESSION_FENCED", "AGENT_SESSION_CLOSED", "HOST_SESSION_UNAVAILABLE"]

/-- The release of a rollback: on the captured route, and once more on the current one. -/
def rollbackRelease (route : HostRouteSnapshot) (node : NodeRef)
    (request : ExecutionDispatchRequest L P) (lease : Lease) :
    ControlProgram P (Except DispatchError Unit) := do
  match ← ask (Query.releaseLeaseOnRoute route lease request.releaseCommandId
      request.releaseContext) with
  | .ok () => return .ok ()
  | .error error =>
    if rollbackReleaseCanRetry error then
      match ← ask (Query.releaseLease node lease request.releaseCommandId
        request.releaseContext) with
      | .ok () => return .ok ()
      | .error retryError =>
        return .error (.unknown ("captured-route Lease release failed (" ++ error.display ++
          "); exact idempotent retry on the current Host route failed (" ++ retryError.display ++
          ")"))
    else
      return .error error

/-- Release the lease of a dispatch that failed, and record how that ended. -/
def rollbackAfterKnownLease (route : HostRouteSnapshot) (node : NodeRef)
    (request : ExecutionDispatchRequest L P) (intent : ExecutionIntentRecord) (lease : Lease)
    (original : DispatchError) : ControlProgram P (Except DispatchError (DispatchReceipt P)) := do
  match ← rollbackRelease route node request lease with
  | .ok () =>
    match ← ask (Query.transition intent .failed (some (node, lease))) with
    | .ok _ => return .error original
    | .error failure =>
      return .error (.unknown ("canonical Lease rollback succeeded after assignment failure (" ++
        original.display ++ "), but durable intent transition failed (" ++
        failure.error.display ++ ")"))
  | .error releaseError =>
    match ← ask (Query.transition intent .unknownRequiresReconciliation (some (node, lease))) with
    | .ok _ =>
      return .error (.unknown ("assignment failed (" ++ original.display ++
        "); canonical Lease release is unconfirmed (" ++ releaseError.display ++ ")"))
    | .error failure =>
      return .error (.unknown ("assignment failed (" ++ original.display ++
        "); canonical Lease release is unconfirmed (" ++ releaseError.display ++
        "); durable intent transition also failed (" ++ failure.error.display ++ ")"))

/-- Leave an intent to reconciliation, and report the unknown outcome; the result of the transition
is dropped. -/
def leaveUnknown {α : Type} (intent : ExecutionIntentRecord) (message : String) :
    ControlProgram P (Except DispatchError α) := do
  let _ ← ask (Query.transition intent .unknownRequiresReconciliation none)
  return .error (.unknown message)

/-- Record a disposition, and report `error`; when that fails, report that the outcome, described
by `summary`, is unknown. -/
def recordOutcome {α : Type} (intent : ExecutionIntentRecord) (disposition : IntentDisposition)
    (error : DispatchError) (summary : String) : ControlProgram P (Except DispatchError α) := do
  match ← ask (Query.transition intent disposition none) with
  | .ok _ => return .error error
  | .error failure =>
    return .error (.unknown (summary ++ "; durable intent transition also failed (" ++
      failure.error.display ++ ")"))

/-! ### Dispatch -/

/-- Deliver the assignment on the route of its runtime, and record what became of it. -/
def deliverAssignment (route : RouteSnapshot) (targetNode : NodeRef)
    (request : ExecutionDispatchRequest L P) (intent : ExecutionIntentRecord) (lease : Lease)
    (assignment : RuntimeAssignment P) :
    ControlProgram P (Except DispatchError (DispatchReceipt P)) := do
  match ← ask (Query.transition intent .assignmentDispatching none) with
  | .error failure =>
    rollbackAfterKnownLease hostRoute targetNode request intent lease
      (storeError failure.error true)
  | .ok intent =>
    match ← ask (Query.dispatchAssignmentOnRoute route.runtime assignment) with
    | .error error =>
      if error.reconciliationRequired then
        recordOutcome intent .unknownRequiresReconciliation
          (.unknown ("Assignment delivery outcome is unknown: " ++ error.display))
          ("Assignment delivery outcome is unknown (" ++ error.display ++ ")")
      else
        rollbackAfterKnownLease hostRoute targetNode request intent lease error
    | .ok ack =>
      match AssignmentAckDisposition.ofNumber ack.disposition with
      | none => leaveUnknown intent "Runtime returned an unknown AssignmentAck disposition"
      | some disposition =>
        if disposition.confirms then
          match ← ask (Query.transition intent .completed none) with
          | .ok _ => return .ok ⟨targetNode, assignment, lease, disposition⟩
          | .error failure => return .error (storeError failure.error true)
        else
          let rejection := ack.rejection.getD
            ⟨"ASSIGNMENT_REJECTED", "Runtime rejected the assignment without structured detail"⟩
          rollbackAfterKnownLease hostRoute targetNode request intent lease
            (.input rejection.reasonCode rejection.message)

/-- Look for a session of the runtime, `polls` times again before the deadline. -/
def awaitRoute (node : NodeRef) (runtime : Identity) :
    Nat → ControlProgram P (Option RouteSnapshot)
  | 0 => do
    match ← ask (Query.snapshotRoute node runtime) with
    | .ok route => return some route
    | .error _ => return none
  | polls + 1 => do
    match ← ask (Query.snapshotRoute node runtime) with
    | .ok route => return some route
    | .error refusal =>
      if refusal.reasonCode = "RUNTIME_SESSION_UNAVAILABLE" then awaitRoute node runtime polls
      else return none

/-- The session of a route, with the scope of the workload. -/
def checkSession (assignment : RuntimeAssignmentBuilder P) (route : RouteSnapshot) :
    ControlProgram P (Except DispatchError Unit) := do
  match ← ask (Query.runtimeSessionOnRoute route) with
  | .error refusal => return .error (.authority refusal)
  | .ok session => return validateWorkloadScope assignment session

/-- Launch the runtime, wait for it, and deliver the assignment. -/
def launchAndDeliver (lease : Lease) (assignment : RuntimeAssignment P) :
    ControlProgram P (Except DispatchError (DispatchReceipt P)) := do
  match ← ask (Query.launch targetNode assignment lease) with
  | .error error =>
    if error.reconciliationRequired then
      leaveUnknown intent ("Provider launch outcome is unknown; retain the original Lease and " ++
        "reconcile the same Runtime generation")
    else
      rollbackAfterKnownLease hostRoute targetNode request intent lease error
  | .ok () =>
    match ← awaitRoute targetNode request.assignment.runtime polls with
    | none =>
      leaveUnknown intent ("Launched Runtime has not authenticated on the selected Node; " ++
        "reconcile before acquiring another Lease")
    | some route =>
      match ← checkSession request.assignment route with
      | .error error => rollbackAfterKnownLease hostRoute targetNode request intent lease error
      | .ok () => deliverAssignment hostRoute route targetNode request intent lease assignment

/-- Go on with a lease that the kernel granted. -/
def useLease (lease : Lease) : ControlProgram P (Except DispatchError (DispatchReceipt P)) := do
  match ← ask (Query.transition intent .leaseAcquired (some (targetNode, lease))) with
  | .error failure =>
    rollbackAfterKnownLease hostRoute targetNode request intent lease
      (storeError failure.error true)
  | .ok intent =>
    -- `validateRequest` found the expiry of the workload.
    let workloadExpiry := request.assignment.workloadIdentity.expiry.getD 0
    if lease.expiresAtUnixMs.all (· > workloadExpiry) then
      rollbackAfterKnownLease hostRoute targetNode request intent lease
        (.input "WORKLOAD_IDENTITY_WINDOW_TOO_SHORT"
          "authority-returned Lease outlives the authenticated workload identity")
    else
      let assignmentTime ← ask Query.now
      match bindLease fabric request targetNode lease assignmentTime with
      | .error error => rollbackAfterKnownLease hostRoute targetNode request intent lease error
      | .ok assignment =>
        match initialRoute with
        | some route =>
          deliverAssignment hostRoute route targetNode request intent lease assignment
        | none =>
          launchAndDeliver polls hostRoute targetNode request intent lease assignment

/-- The route to a connected runtime, or, for one that is to be launched, to its host. -/
def findRoute (launched : Bool) (targetNode : NodeRef) (request : ExecutionDispatchRequest L P) :
    ControlProgram P (Except DispatchError (Option RouteSnapshot × HostRouteSnapshot)) := do
  if launched then
    match ← ask (Query.snapshotHostRoute targetNode) with
    | .error refusal => return .error (.authority refusal)
    | .ok hostRoute => return .ok (none, hostRoute)
  else
    match ← ask (Query.snapshotRoute targetNode request.assignment.runtime) with
    | .error refusal => return .error (.authority refusal)
    | .ok route =>
      match ← checkSession request.assignment route with
      | .error error => return .error error
      | .ok () => return .ok (some route, route.host)

def acquisitionFor : LeaseAcquisition where
  node := targetNode
  commandId := request.acquireCommandId
  context := request.acquireContext
  holder := request.assignment.runtime
  query := fabric.resourceQuery request.placement
  ttlNanos := request.leaseTtlNanos

/-- Acquire the lease on the route that is known. -/
def acquireLease (acquisition : LeaseAcquisition) :
    ControlProgram P (Except DispatchError WireLease) :=
  match initialRoute with
  | some route => ask (Query.acquireLeaseOnRoute route acquisition)
  | none => ask (Query.acquireLeaseOnHostRoute hostRoute acquisition)

/-- Acquire the lease of an intent that was recorded, and go on with it. -/
def acquireAndUse : ControlProgram P (Except DispatchError (DispatchReceipt P)) := do
  match ← acquireLease initialRoute hostRoute (acquisitionFor fabric targetNode request) with
  | .error error =>
    recordOutcome intent
      (if error.reconciliationRequired then .unknownRequiresReconciliation else .failed) error
      ("Lease acquisition failed (" ++ error.display ++ ")")
  | .ok leaseProto =>
    match semanticLeaseFromProto leaseProto with
    | .error error =>
      leaveUnknown intent ("Kernel returned an invalid Lease after acquisition: " ++
        error.reasonCode ++ ": " ++ error.message)
    | .ok lease => useLease fabric polls initialRoute hostRoute targetNode request intent lease

/-- Dispatch an execution; the runtime is launched, or connected already. -/
def dispatchInner (launched : Bool) (request : ExecutionDispatchRequest L P) :
    ControlProgram P (Except DispatchError (DispatchReceipt P)) := do
  let placementTime ← ask Query.now
  match admitRequest fabric request placementTime with
  | .error error => return .error error
  | .ok targetNode =>
    match ← findRoute launched targetNode request with
    | .error error => return .error error
    | .ok (initialRoute, hostRoute) =>
      match ← beginIntent request.assignment.assignmentId request.intentPayloadDigest
          placementTime with
      | .error error => return .error error
      | .ok intent =>
        acquireAndUse fabric polls initialRoute hostRoute targetNode request intent

end Programs

end CyreneKernel.Control
