import CyreneKernel.Control.Dispatch

/-!
# The calls of the controller, and the store that answers them

Besides dispatching, the controller releases the lease of a completed execution and reconciles an
execution whose outcome is unknown.  Neither acquires a lease.  All of them ask the intent store,
which answers as the file store does; the other parties answer as they like.
-/

namespace CyreneKernel.Control

open Lib Fabric

variable {L T P : Type}

/-! ### Release -/

def validateReleaseRequest (request : ExecutionReleaseRequest) : Except DispatchError Unit := do
  failIf (request.assignmentId.isEmpty ∨ request.commandId.isEmpty)
    (.input "RELEASE_IDENTITY_REQUIRED" "assignment and release command identities are required")
  validateContext request.context
  request.lease.validate.mapError fun error =>
    .input error.reasonCode ("invalid release Lease: " ++ error.message)

/-- Whether a release may go ahead for the stored intent. -/
def checkReleasable (request : ExecutionReleaseRequest) (intent : ExecutionIntentRecord) :
    Except DispatchError Unit := do
  failIf (intent.disposition = .unknownRequiresReconciliation)
    (.unknown "cannot release an assignment whose prior outcome requires reconciliation")
  failIf (intent.disposition ≠ .completed)
    (.input "EXECUTION_INTENT_NOT_RELEASABLE"
      "only a completed dispatch can release its canonical Lease")
  failIf (¬ intent.matchesAuthority request.node request.lease)
    (.input "RELEASE_AUTHORITY_MISMATCH"
      "release Node or Lease does not match the durable dispatch evidence")

/-- Release the lease of a completed execution. -/
def releaseExecution (request : ExecutionReleaseRequest) :
    ControlProgram P (Except DispatchError Unit) := do
  match validateReleaseRequest request with
  | .error error => return .error error
  | .ok () =>
    match ← ask (Query.load request.assignmentId) with
    | none =>
      return .error (.input "EXECUTION_INTENT_NOT_FOUND"
        "release requires a durable completed execution intent")
    | some intent =>
      match checkReleasable request intent with
      | .error error => return .error error
      | .ok () =>
        match ← ask (Query.releaseLease request.node request.lease request.commandId
            request.context) with
        | .ok () =>
          match ← ask (Query.transition intent .released none) with
          | .ok _ => return .ok ()
          | .error failure => return .error (storeError failure.error true)
        | .error error =>
          if error.reconciliationRequired then
            recordOutcome intent .unknownRequiresReconciliation error
              ("Lease release outcome is unknown (" ++ error.display ++ ")")
          else return .error error

/-! ### Reconciliation -/

/-- Whether the stored intent is one that reconciliation may take up with this lease. -/
def checkReconcilable (request : ExecutionDispatchRequest L P) (node : NodeRef) (lease : Lease)
    (nowUnixMs : Nat) (intent : ExecutionIntentRecord) : Except DispatchError Unit := do
  failIf (intent.payloadDigest ≠ request.intentPayloadDigest)
    (.input "EXECUTION_INTENT_PAYLOAD_MISMATCH"
      "reconciliation request does not match the immutable intent digest")
  failIf (intent.disposition ≠ .unknownRequiresReconciliation)
    (.input "EXECUTION_INTENT_NOT_RECONCILABLE"
      "only an unknown execution intent can enter launch reconciliation")
  failIf (¬ intent.matchesAuthority node lease)
    (.input "RECONCILIATION_AUTHORITY_MISMATCH"
      "the observed Node or Lease does not match durable authority evidence")
  failIf (lease.expiresAtUnixMs.any (· ≤ nowUnixMs))
    (.unknown ("the original Lease expired; fence the old execution before creating a new " ++
      "generation"))

def admitReconciliation (fabric : FabricPorts L T P) (request : ExecutionDispatchRequest L P)
    (lease : Lease) (nowUnixMs : Nat) : Except DispatchError NodeRef := do
  validateRequest request nowUnixMs
  (fabric.validatePayload request.assignment nowUnixMs).mapError .ofContract
  lease.validate.mapError fun error =>
    .input error.reasonCode ("invalid reconciliation Lease: " ++ error.message)
  let target ← (fabric.placeExecutionTarget request.placement nowUnixMs).mapError .ofContract
  (fabric.validateArtifactProjection request.assignment request.placement target).mapError
    .ofContract
  return fabric.targetNode target

/-- Deliver the assignment of a reconciled execution again. -/
def redeliverAssignment (route : RouteSnapshot) (node : NodeRef) (intent : ExecutionIntentRecord)
    (lease : Lease) (assignment : RuntimeAssignment P) :
    ControlProgram P (Except DispatchError (DispatchReceipt P)) := do
  match ← ask (Query.transition intent .assignmentDispatching (some (node, lease))) with
  | .error failure => return .error (storeError failure.error true)
  | .ok intent =>
    match ← ask (Query.dispatchAssignmentOnRoute route.runtime assignment) with
    | .error error =>
      leaveUnknown intent ("reconciled assignment delivery remains unknown: " ++ error.display)
    | .ok ack =>
      match AssignmentAckDisposition.ofNumber ack.disposition with
      | none => leaveUnknown intent "Runtime returned an unknown reconciliation disposition"
      | some disposition =>
        if disposition.confirms then
          match ← ask (Query.transition intent .completed none) with
          | .ok _ => return .ok ⟨node, assignment, lease, disposition⟩
          | .error failure => return .error (storeError failure.error true)
        else
          leaveUnknown intent
            "Runtime did not confirm the original assignment; fence it before retrying"

/-- Find the runtime of a reconciled execution, and deliver its assignment again. -/
def reconnectAndRedeliver (polls : Nat) (node : NodeRef) (request : ExecutionDispatchRequest L P)
    (intent : ExecutionIntentRecord) (lease : Lease) (assignment : RuntimeAssignment P) :
    ControlProgram P (Except DispatchError (DispatchReceipt P)) := do
  match ← ask (Query.reconcile node assignment lease) with
  | .error _ =>
    return .error (.unknown
      "the original Runtime instance was not confirmed; no replacement was created")
  | .ok () =>
    match ← awaitRoute node request.assignment.runtime polls with
    | none =>
      return .error (.unknown "the original Runtime did not authenticate during reconciliation")
    | some route =>
      match ← ask (Query.runtimeSessionOnRoute route) with
      | .error _ =>
        return .error (.unknown "the reconnected Runtime session could not be verified")
      | .ok session =>
        match validateWorkloadScope request.assignment session with
        | .error _ =>
          return .error (.unknown
            "the reconnected Runtime scope does not match the original workload")
        | .ok () => redeliverAssignment route node intent lease assignment

def reconcileWithLauncher (fabric : FabricPorts L T P) (polls : Nat)
    (request : ExecutionDispatchRequest L P) (lease : Lease) :
    ControlProgram P (Except DispatchError (DispatchReceipt P)) := do
  let now ← ask Query.now
  match admitReconciliation fabric request lease now with
  | .error error => return .error error
  | .ok node =>
    match ← ask (Query.load request.assignment.assignmentId) with
    | none =>
      return .error (.input "EXECUTION_INTENT_NOT_FOUND"
        "reconciliation requires the original durable execution intent")
    | some intent =>
      match checkReconcilable request node lease now intent with
      | .error error => return .error error
      | .ok () =>
        match request.assignment.build fabric lease now with
        | .error error => return .error (.ofContract error)
        | .ok assignment =>
          match ← ask (Query.snapshotHostRoute node) with
          | .error _ =>
            return .error (.unknown ("the original Node route is unavailable; retain the " ++
              "intent until authority can be reconciled"))
          | .ok _ => reconnectAndRedeliver polls node request intent lease assignment

/-! ### The store -/

namespace FileExecutionIntentStore

def transitionIntent (store : FileExecutionIntentStore) (outcome : PersistOutcome) (nowUnixMs : Nat)
    (current : ExecutionIntentRecord) (disposition : IntentDisposition)
    (authority : Option (NodeRef × Lease)) :
    Except PersistFailure ExecutionIntentRecord × FileExecutionIntentStore :=
  match current.transition disposition authority nowUnixMs with
  | .error error => (.error ⟨false, error⟩, store)
  | .ok next =>
    match store.compareAndSet outcome current.revision next with
    | (.ok (), store) => (.ok next, store)
    | (.error failure, store) => (.error failure, store)

/-- The store answers its own calls; every answer of another party is possible. -/
def Answers : (query : Query P) → FileExecutionIntentStore → query.Answer →
    FileExecutionIntentStore → Prop
  | .load assignmentId, store, answer, store' => answer = store.load assignmentId ∧ store' = store
  | .create record, store, answer, store' =>
    ∃ outcome, store.create outcome record = (answer, store')
  | .transition current disposition authority, store, answer, store' =>
    ∃ outcome now, store.transitionIntent outcome now current disposition authority =
      (answer, store')
  | .now, store, _, store' | .snapshotRoute .., store, _, store'
  | .snapshotHostRoute .., store, _, store' | .runtimeSessionOnRoute .., store, _, store'
  | .acquireLeaseOnRoute .., store, _, store' | .acquireLeaseOnHostRoute .., store, _, store'
  | .launch .., store, _, store' | .reconcile .., store, _, store'
  | .dispatchAssignmentOnRoute .., store, _, store'
  | .releaseLeaseOnRoute .., store, _, store' | .releaseLease .., store, _, store' =>
    store' = store

end FileExecutionIntentStore

/-! ### Scripts -/

/-- Fixed answers of the other parties, and of the file system for every write of the store. -/
structure Script where
  now : Nat
  route : Except Rejection RouteSnapshot
  hostRoute : Except Rejection HostRouteSnapshot
  session : Except Rejection RuntimeSessionView
  acquire : Except DispatchError WireLease
  launch : Except DispatchError Unit
  acknowledge : Except DispatchError AssignmentAck
  release : Except DispatchError Unit
  persist : IntentDisposition → PersistOutcome

variable (script : Script)

def Script.oracle :
    (query : Query P) → FileExecutionIntentStore → query.Answer × FileExecutionIntentStore
  | .now, store => (script.now, store)
  | .snapshotRoute .., store => (script.route, store)
  | .snapshotHostRoute .., store => (script.hostRoute, store)
  | .runtimeSessionOnRoute .., store => (script.session, store)
  | .load assignmentId, store => (store.load assignmentId, store)
  | .create record, store => store.create (script.persist record.disposition) record
  | .transition current disposition authority, store =>
    store.transitionIntent (script.persist disposition) script.now current disposition authority
  | .acquireLeaseOnRoute .., store | .acquireLeaseOnHostRoute .., store => (script.acquire, store)
  | .launch .., store | .reconcile .., store => (script.launch, store)
  | .dispatchAssignmentOnRoute .., store => (script.acknowledge, store)
  | .releaseLeaseOnRoute .., store | .releaseLease .., store => (script.release, store)

theorem Script.answers (query : Query P) (store : FileExecutionIntentStore) :
    FileExecutionIntentStore.Answers query store (script.oracle query store).1
      (script.oracle query store).2 := by
  cases query with
  | load => exact ⟨rfl, rfl⟩
  | create record => exact ⟨_, rfl⟩
  | transition current disposition authority => exact ⟨_, _, rfl⟩
  | _ => rfl

theorem Script.runs {α : Type} (p : ControlProgram P α) (store : FileExecutionIntentStore) :
    Program.Runs FileExecutionIntentStore.Answers p store (p.exec script.oracle store).1
      (p.exec script.oracle store).2.1 (p.exec script.oracle store).2.2 :=
  Program.runs_exec script.answers p store

/-! ### A sample -/

def sampleNode : NodeRef := ⟨"node-1", 1⟩

/-- A fabric that places every execution on one node, and accepts every assignment. -/
def sampleFabric : FabricPorts Unit Unit Unit where
  resourceQuery _ := ⟨"cyrene.gpu", 1, [], ∅⟩
  targetNode _ := sampleNode
  placeExecutionTarget _ _ := .ok ()
  validatePayload _ _ := .ok ()
  validateArtifactProjection _ _ _ := .ok ()
  validateAssignment _ _ := .ok ()

def sampleContext (requestId : String) : AuthorityCallContext :=
  ⟨.current, default, requestId, ""⟩

def sampleDispatch : ExecutionDispatchRequest Unit Unit where
  placement := ()
  assignment :=
    { assignmentId := "assignment-1"
      runtime := ⟨"runtime-1", 1⟩
      operation := ⟨"operation-1", 1⟩
      attemptId := "attempt-1"
      workloadIdentity := ⟨some ⟨"organization-1", "workspace-1"⟩, some ⟨"workload-1", 1⟩,
        some ⟨100, 0⟩⟩
      payload := () }
  intentPayloadDigest :=
    "sha256:0123456789abcdef0123456789abcdef0123456789abcdef0123456789abcdef"
  acquireCommandId := "acquire-1"
  acquireContext := sampleContext "acquire-1"
  releaseCommandId := "release-1"
  releaseContext := sampleContext "release-1"
  leaseTtlNanos := 5000000000

/-- The lease that the kernel grants to the sample. -/
def sampleLease : Lease where
  identity := ⟨"lease-1", 1⟩
  holder := ⟨"runtime-1", 1⟩
  resources := [⟨"resource-1", 1⟩]
  state := .active
  fenceToken := 9
  expiresAtUnixMs := some 20000

/-- Every party does what it is asked for. -/
def sampleScript : Script where
  now := 10000
  route := .ok ⟨⟨sampleNode, "host-1"⟩, ⟨⟨"runtime-1", 1⟩, sampleNode, "session-1"⟩⟩
  hostRoute := .ok ⟨sampleNode, "host-1"⟩
  session := .ok ⟨sampleNode, "organization-1", "workspace-1", ⟨"workload-1", 1⟩, 100000⟩
  acquire := .ok (semanticLeaseToProto sampleLease)
  launch := .ok ()
  acknowledge := .ok ⟨1, none⟩
  release := .ok ()
  persist _ := .replaced

/-- The sample, from an empty store. -/
def sampleRun : List (Exchange (Query Unit) Query.Answer) ×
    Except DispatchError (DispatchReceipt Unit) × FileExecutionIntentStore :=
  (dispatchInner sampleFabric 0 true sampleDispatch).exec script.oracle ⟨∅, .blank⟩

theorem runs_sampleRun :
    Program.Runs FileExecutionIntentStore.Answers (dispatchInner sampleFabric 0 true sampleDispatch)
      ⟨∅, .blank⟩ (sampleRun script).1 (sampleRun script).2.1 (sampleRun script).2.2 := by
  rw [sampleRun]
  exact script.runs (dispatchInner sampleFabric 0 true sampleDispatch) ⟨∅, .blank⟩

example : (sampleRun sampleScript).2.1.isOk = true := by decide +kernel

end CyreneKernel.Control
