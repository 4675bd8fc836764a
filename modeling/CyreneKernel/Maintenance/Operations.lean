import CyreneKernel.Maintenance.Model

/-!
# Readiness, tasks and operations on bindings

Every operation holds the lock of the gate while it reads the state, decides, and appends at most
one event of its own.  What it decides depends on the state, on the catalog of its process, and on
what it samples: the clock, fresh tokens and the facts of the runtime.
-/

namespace CyreneKernel.Maintenance

open Lib

/-! ### Answers -/

structure BindingOperationAdmission where
  requestId : String
  sourceId : String
  scope : BindingOperationScope
  operationToken : String
  catalogGeneration : Nat
  gateGeneration : Nat
  alreadyInFlight : Bool
  alreadyCompleted : Bool
deriving DecidableEq

structure BindingOperationActivity where
  requestId : String
  sourceId : String
  scope : BindingOperationScope
  startedAtUnixMs : Nat
deriving DecidableEq

structure BindingOperationCompletion where
  completed : Bool
  gateGeneration : Nat
deriving DecidableEq

structure ReadinessSnapshot where
  status : ReadinessStatus
  gateGeneration : Nat
  installCatalogGeneration : Nat
  activeTaskCount : Nat
  activeTasks : List TaskActivityRecord
  inflightRuntimeAdmissionCount : Nat
  activeBindingOperationCount : Nat
  activeBindingOperations : List BindingOperationActivity
  unknownActivitySources : List String
  activeWorkerCount : Nat
  activeAllocationCount : Nat
  blockerCodes : List String
  requiresRestartConfirmation : Bool
deriving DecidableEq

structure BeginMaintenanceResult where
  status : ReadinessStatus
  maintenanceToken : Option String
  gateGeneration : Nat
  blockerCodes : List String
deriving DecidableEq

structure EndMaintenanceResult where
  unlocked : Bool
  status : ReadinessStatus
  gateGeneration : Nat
deriving DecidableEq

structure MaintenanceHoldValidation where
  valid : Bool
  requestId : String
  targetKind : UpdateTargetKind
  plan : MaintenancePlan
  componentId : String
  artifactDigest : String
  gateGeneration : Nat
  catalogGeneration : Nat
deriving DecidableEq

inductive Answer
  | done
  | generation (generation : Nat)
  | eligible (eligible : Bool)
  | task (admission : TaskAdmission)
  | tasks (tasks : List TaskActivityRecord)
  | binding (admission : BindingOperationAdmission)
  | bindingCompleted (completion : BindingOperationCompletion)
  | readiness (snapshot : ReadinessSnapshot)
  | begun (result : BeginMaintenanceResult)
  | ended (result : EndMaintenanceResult)
  | hold (validation : MaintenanceHoldValidation)
deriving DecidableEq

/-- What an operation decides: to answer, or to append an event and answer from the state after
it. -/
inductive Decision
  | answer (answer : Answer)
  | append (event : JournalEvent) (answer : PersistedState → Answer)

/-- What a process knows before it takes the lock, and what it samples while it holds it.  The clock
may be read twice. -/
structure Sample where
  catalog : TrustedActivitySourceCatalog
  sourceStaleness : Nat
  now : Nat
  later : Nat
  uuid : Nat → String
  usage : RuntimeUsage

/-- An operation that was denied. -/
def denied {α : Type} (code : String) : Except MaintenanceError α := .error (.admissionDenied code)

/-! ### Readiness -/

variable (sha256 : String → String) (state : PersistedState) (sample : Sample)
  (request : ReadinessRequest) (requestId sourceId taskId : String)
  (caller : BindingOperationCaller) (scope : BindingOperationScope)

def activeTasksFor (sourceId : Option String) : List TaskActivityRecord :=
  (state.tasks.toList.map Prod.snd).filterMap fun admission =>
    if sourceId.all (admission.sourceId = ·) then
      some ⟨admission.sourceId, admission.taskId, admission.state⟩
    else none

def BindingOperationRecord.activity (record : BindingOperationRecord) :
    BindingOperationActivity where
  requestId := record.requestId
  sourceId := record.sourceId
  scope := record.scope
  startedAtUnixMs := record.startedAtUnixMs

/-- The distinct sources of a request, in order. -/
def ReadinessRequest.sources : List String :=
  (BTreeSet.insertList ∅ request.expectedActivitySources).toList

/-- Whether the last heartbeat of a source is missing or too old. -/
def isStale : Bool :=
  state.sources[sourceId]?.all fun heartbeat => sample.now - heartbeat > sample.sourceStaleness

/-- The trusted sources that a request does not name, those that it names without trust, and those
that are stale. -/
def unknownActivitySources : List String :=
  let trusted := sample.catalog.sourceIds.toList
  (BTreeSet.insertList ∅
    (trusted.filter (fun id => id ∉ request.sources ∨ isStale state sample id) ++
      request.sources.filter (· ∉ trusted))).toList

def activeTasksWithAdmissions : List TaskActivityRecord :=
  activeTasksFor state none ++ state.runtimeAdmissions.toList.map fun (token, action) =>
    ⟨"cyrene.kernel", action ++ "-" ++ token, .inflight⟩

/-- The status of the gate for a request, and what blocks it. -/
def readinessStatus (usage : RuntimeUsage) : ReadinessStatus × List String :=
  let bindings := state.bindingOperations.toList
  if state.installCatalogGeneration ≠ request.expectedCatalogGeneration ∨
      state.installCatalogGeneration ≠ sample.catalog.generation ∨
      unknownActivitySources state sample request ≠ [] then
    (.unknown, ["ACTIVITY_SOURCE_UNKNOWN"])
  else if state.maintenance.isSome then (.maintenanceActive, ["MAINTENANCE_ALREADY_ACTIVE"])
  else if usage.known = false ∧ request.targetKind = .coreRuntime then
    (.unknown, ["RUNTIME_ACTIVITY_UNKNOWN"])
  else if activeTasksWithAdmissions state ≠ [] then
    (.activeTasks, "ACTIVE_TASKS_PRESENT" ::
      if bindings ≠ [] then ["BINDING_OPERATIONS_INFLIGHT"] else [])
  else if bindings ≠ [] then (.activeBindingOperations, ["BINDING_OPERATIONS_INFLIGHT"])
  else if request.targetKind = .coreRuntime ∧
      (usage.activeWorkerCount > 0 ∨ usage.activeAllocationCount > 0) then
    (.idleRuntimeRequiresUnload, ["IDLE_RUNTIME_REQUIRES_UNLOAD"])
  else (.ready, [])

def readinessSnapshot (usage : RuntimeUsage) : ReadinessSnapshot :=
  let (status, codes) := readinessStatus state sample request usage
  let bootstrap := request.targetKind = .coreRuntime ∧
    state.maintenance.any (·.origin = .coreBootstrap) ∧ usage.known = false
  { status := status
    gateGeneration := state.gateGeneration
    installCatalogGeneration := sample.catalog.generation
    activeTaskCount := (activeTasksWithAdmissions state).length
    activeTasks := activeTasksWithAdmissions state
    inflightRuntimeAdmissionCount := state.runtimeAdmissions.size
    activeBindingOperationCount := state.bindingOperations.size
    activeBindingOperations :=
      state.bindingOperations.toList.map fun (_, record) => record.activity
    unknownActivitySources := unknownActivitySources state sample request
    activeWorkerCount := usage.activeWorkerCount
    activeAllocationCount := usage.activeAllocationCount
    blockerCodes := codes ++ if bootstrap then ["RUNTIME_ACTIVITY_UNKNOWN"] else []
    requiresRestartConfirmation := request.requiresRestart }

/-! ### Tasks -/

def requireTrustedSourceCurrent : Except MaintenanceError Unit :=
  failIf (sample.catalog.source sourceId = none) (.admissionDenied "ACTIVITY_SOURCE_UNTRUSTED")

def requireFreshSource : Except MaintenanceError Unit := do
  failIf (state.sources[sourceId]? = none) (.admissionDenied "ACTIVITY_SOURCE_NOT_READY")
  failIf (isStale state sample sourceId) (.admissionDenied "ACTIVITY_SOURCE_STALE")

def heartbeatActivitySource : Except MaintenanceError Decision := do
  requireTrustedSourceCurrent sample sourceId
  return .append (.sourceHeartbeat sourceId sample.now) fun _ => .done

def admitTask (activityState : TaskActivityState) : Except MaintenanceError Decision := do
  requireTrustedSourceCurrent sample sourceId
  failIf state.maintenance.isSome (.admissionDenied "UPDATE_MAINTENANCE_ACTIVE")
  requireFreshSource state sample sourceId
  match state.tasks[taskKey sourceId taskId]? with
  | some existing =>
    let admission := { existing with state := activityState }
    if admission.state ≠ existing.state then
      return .append (.taskUpdated admission) fun _ => .task admission
    else return .answer (.task admission)
  | none =>
    let admission : TaskAdmission :=
      { token := sample.uuid 0
        sourceId := sourceId
        taskId := taskId
        state := activityState
        gateGeneration := state.nextGeneration }
    return .append (.taskAdmitted admission) fun _ => .task admission

def updateTaskActivity (activityState : TaskActivityState) : Except MaintenanceError Decision := do
  requireTrustedSourceCurrent sample sourceId
  let existing ← foundOr state.tasks[taskKey sourceId taskId]?
    (.admissionDenied "TASK_ADMISSION_NOT_FOUND")
  let admission :=
    { existing with state := activityState, gateGeneration := state.nextGeneration }
  return .append (.taskUpdated admission) fun _ => .task admission

def completeTask : Except MaintenanceError Decision := do
  requireTrustedSourceCurrent sample sourceId
  if state.tasks.contains (taskKey sourceId taskId) then
    return .append (.taskCompleted sourceId taskId) fun _ => .done
  else return .answer .done

/-- The admission that a reconciliation writes for a task: the stored one, or one with a new
token. -/
def reconciledAdmission (task : TaskActivityRecord × Nat) : TaskAdmission :=
  match state.tasks[taskKey sourceId task.1.taskId]? with
  | some existing =>
    { existing with state := task.1.state, gateGeneration := state.nextGeneration }
  | none =>
    { token := sample.uuid task.2
      sourceId := sourceId
      taskId := task.1.taskId
      state := task.1.state
      gateGeneration := state.nextGeneration }

def reconcileActivitySource (activeTasks : List TaskActivityRecord) :
    Except MaintenanceError Decision := do
  requireTrustedSourceCurrent sample sourceId
  failIf (state.maintenance.isSome ∧ ∃ task ∈ activeTasks,
      state.tasks.contains (taskKey sourceId task.taskId) = false)
    (.admissionDenied "UPDATE_MAINTENANCE_ACTIVE")
  if activeTasks = [] ∧ state.tasks.isEmpty ∧ state.maintenance.any (fun active =>
      active.origin = .standard ∧ active.targetKind = .packageOnly) then
    return .append (.sourceHeartbeat sourceId sample.now) fun _ => .done
  else
    let admissions := activeTasks.zipIdx.map (reconciledAdmission state sample sourceId)
    return .append (.tasksReconciled sourceId admissions sample.now) fun _ => .done

/-! ### Operations on bindings -/

def sameBindingOperation (stored : BindingOperationRecord) (requestId sourceId : String)
    (scope : BindingOperationScope) : Bool :=
  stored.requestId = requestId ∧ stored.sourceId = sourceId ∧ stored.scope = scope

def BindingOperationRecord.admission (record : BindingOperationRecord) (state : PersistedState)
    (alreadyInFlight alreadyCompleted : Bool) : BindingOperationAdmission where
  requestId := record.requestId
  sourceId := record.sourceId
  scope := record.scope
  operationToken := record.operationToken
  catalogGeneration := state.installCatalogGeneration
  gateGeneration := state.gateGeneration
  alreadyInFlight := alreadyInFlight
  alreadyCompleted := alreadyCompleted

/-- The caller is a trusted source of the current catalog, and may make the operation; `sha256` is
the hexadecimal digest of a text. -/
def requireBindingOperationAuthority : Except MaintenanceError Unit := do
  failIf (caller.expectedCatalogGeneration ≠ sample.catalog.generation ∨
      caller.expectedCatalogGeneration ≠ state.installCatalogGeneration)
    (.admissionDenied "ACTIVITY_CATALOG_GENERATION_MISMATCH")
  let source ← foundOr (sample.catalog.source caller.sourceId)
    (.admissionDenied "ACTIVITY_SOURCE_UNTRUSTED")
  failIf (source.uid ≠ caller.peerUid ∨ source.gid.any (· ≠ caller.peerGid))
    (.admissionDenied "ACTIVITY_SOURCE_CALLER_MISMATCH")
  failIf (source.sourceTokenSha256 ≠ sha256 caller.sourceToken)
    (.admissionDenied "ACTIVITY_SOURCE_AUTH_INVALID")
  failIf (source.bindingScopes.any (fun trusted => trusted.bindingId = scope.bindingId ∧
      trusted.packageId = scope.packageId ∧ scope.installationId ∈ trusted.installationIds ∧
      scope.operation ∈ trusted.operations) = false)
    (.admissionDenied "BINDING_OPERATION_SCOPE_UNTRUSTED")

def admitBindingOperation : Except MaintenanceError Decision := do
  requireBindingOperationAuthority sha256 state sample caller scope
  match state.bindingOperations[requestId]?, state.completedBindingOperations[requestId]? with
  | some existing, _ =>
    failIf (sameBindingOperation existing requestId caller.sourceId scope = false)
      (.admissionDenied "BINDING_OPERATION_REQUEST_ID_CONFLICT")
    failIf state.maintenance.isSome (.admissionDenied "UPDATE_MAINTENANCE_ACTIVE")
    return .answer (.binding (existing.admission state true false))
  | none, some existing =>
    failIf (sameBindingOperation existing requestId caller.sourceId scope = false)
      (.admissionDenied "BINDING_OPERATION_REQUEST_ID_CONFLICT")
    return .answer (.binding (existing.admission state false true))
  | none, none =>
    failIf (state.bindingOperations.toList.any fun (_, active) =>
      active.scope.bindingId = scope.bindingId)
      (.admissionDenied "BINDING_OPERATION_ALREADY_INFLIGHT")
    failIf state.maintenance.isSome (.admissionDenied "UPDATE_MAINTENANCE_ACTIVE")
    let record : BindingOperationRecord :=
      { requestId := requestId
        operationToken := sample.uuid 0
        sourceId := caller.sourceId
        scope := scope
        startedAtUnixMs := sample.now }
    return .append (.bindingOperationAdmitted record) fun after =>
      .binding (record.admission after false false)

def completeBindingOperation (operationToken : String) : Except MaintenanceError Decision := do
  requireBindingOperationAuthority sha256 state sample caller scope
  match state.completedBindingOperations[requestId]?, state.bindingOperations[requestId]? with
  | some completed, _ =>
    failIf (sameBindingOperation completed requestId caller.sourceId scope = false ∨
        completed.operationToken ≠ operationToken)
      (.admissionDenied "BINDING_OPERATION_COMPLETION_SCOPE_MISMATCH")
    return .answer (.bindingCompleted ⟨true, state.gateGeneration⟩)
  | none, none => denied "BINDING_OPERATION_NOT_FOUND"
  | none, some active =>
    failIf (sameBindingOperation active requestId caller.sourceId scope = false ∨
        active.operationToken ≠ operationToken)
      (.admissionDenied "BINDING_OPERATION_COMPLETION_SCOPE_MISMATCH")
    return .append (.bindingOperationCompleted active) fun after =>
      .bindingCompleted ⟨true, after.gateGeneration⟩

end CyreneKernel.Maintenance
