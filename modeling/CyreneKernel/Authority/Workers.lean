import CyreneKernel.Authority.Operations

/-!
# Worker actions

Starting and stopping a worker, and the two heartbeats that report it running.  A worker is
started on an active lease that it holds; the launch is journaled before and after the process is
spawned, and a launch whose outcome cannot be journaled is reaped.
-/

namespace CyreneKernel

open Lib

/-! ### The launch plan -/

/-- Tighten the limits of a lease by one limit of a worker. -/
def enforceWorkerLimit (limits : Ledger.CgroupLimits) (entry : String × Quantity) :
    Except Rejection Ledger.CgroupLimits :=
  let unsupported : Rejection :=
    ⟨"WORKER_LIMIT_UNSUPPORTED", "unsupported Worker limit or unit: " ++ entry.1⟩
  let value := entry.2.value
  if value = 0 then .error unsupported
  else if entry.1 = "memory.bytes" ∧ entry.2.unit = "byte" then
    .ok { limits with
      memoryMaxBytes := some ((limits.memoryMaxBytes.map (min · value)).getD value) }
  else if entry.1 = "cpu.time" ∧ entry.2.unit = "millicore" ∧ value < 2 ^ 32 then
    .ok { limits with
      cpuMaxMillicores := some ((limits.cpuMaxMillicores.map (min · value)).getD value) }
  else .error unsupported

/-- The limits of a worker: those of its lease, tightened by the ones it asks for. -/
def enforcedWorkerLimits (lease : Ledger.CgroupLimits) (requested : BTreeMap String Quantity) :
    Except Rejection Ledger.CgroupLimits :=
  requested.toList.foldlM enforceWorkerLimit lease

/-- The variables the kernel sets for a worker. -/
def heartbeatEnvironment (heartbeat : WorkerHeartbeatConfig) (instanceName : String)
    (generation : Nat) : List (String × String) :=
  [("CYRENE_HEARTBEAT_SOCKET", heartbeat.socketPath),
    ("CYRENE_WORKER_CONTROL_SOCKET", heartbeat.socketPath),
    ("CYRENE_PLUGIN_INSTANCE_NAME", instanceName),
    ("CYRENE_PLUGIN_INSTANCE_GENERATION", toString generation),
    ("CYRENE_HEARTBEAT_INTERVAL_MS", toString heartbeat.intervalMs)]

def injectHeartbeatEnvironment (environment : BTreeMap String String)
    (heartbeat : WorkerHeartbeatConfig) (instanceName : String) (generation : Nat) :
    Except ProviderError (BTreeMap String String) :=
  let injected := heartbeatEnvironment heartbeat instanceName generation
  if injected.any fun entry => environment.contains entry.1 then
    .error ⟨"kernel-daemon", "RESERVED_HEARTBEAT_ENVIRONMENT",
      "installation record attempted to override Kernel heartbeat configuration"⟩
  else .ok (environment.insertMany injected)

namespace Authority

variable (env : Environment)

/-! ### Starting -/

variable (lease : Ledger.ResourceLease) (context : AuthorityCallContext) (principal : Principal)
  (workerIdentity leaseIdentity : Identity) (fenceToken : Nat)

/-- The lease a worker is to be started on. -/
def launchLease (worker : Worker) : Action Ledger.ResourceLease := do
  let lease ← leaseFor env context worker.lease
  let lapsed ← isLapsed env lease
  rejectIf (lease.generation ≠ worker.lease.generation ∨ lease.holder ≠ worker.identity ∨
      lease.state ≠ .active ∨ lapsed)
    ⟨"LEASE_NOT_ACTIVE", "worker does not hold the referenced active Lease incarnation"⟩
  return lease

/-- The plan of a worker, with the limits and the environment the kernel imposes on it. -/
def launchPlan (instanceName : String) (worker : Worker) (lease : Ledger.ResourceLease) :
    Action LaunchPlan := do
  liftExcept providerRejection ((← ask env.bindingForLease) lease)
  liftExcept providerRejection (← ask env.preflightBinding)
  let plan ← liftExcept providerRejection ((← ask env.resolveWorkerLaunchPlan) worker)
  rejectIf (plan.instanceName ≠ worker.identity.id)
    ⟨"EXECUTION_REFERENCE_MISMATCH", "resolver returned a plan for another Worker identity"⟩
  let limits ← liftExcept id (enforcedWorkerLimits lease.limits worker.limits)
  let s ← get
  let environment ← liftExcept providerRejection
    (injectHeartbeatEnvironment plan.environment s.heartbeat instanceName lease.fenceToken)
  liftExcept providerRejection ((← ask env.mergeEnvironment) environment)
  return ⟨instanceName, environment, limits⟩

/-- Reap a process whose launch cannot be recorded; a reap that is not complete is journaled. -/
def reapLaunch (actor : InstanceActor) (worker : Worker) (lease : Ledger.ResourceLease) :
    Action Unit := do
  match (actor.stop (← ask env.stop)).1 with
  | .ok report =>
    if !report.complete then
      ignoreFailure (recordRuntime env .instanceCleanupFailed (some worker.identity.id)
        (some lease) report.reasonCode)
  | .error _ => return

/-- Spawn the process of a worker between the two journal records of its launch. -/
def launch (plan : LaunchPlan) (worker : Worker) (lease : Ledger.ResourceLease) :
    Action InstanceActor := do
  recordRuntime env .instanceLaunching (some worker.identity.id) (some lease) "WORKER_LAUNCHING"
  let instant ← ask env.instant
  let cleanup ← ask env.stop
  let (started, actor) := InstanceActor.new.start instant cleanup ((← ask env.launch) plan)
  liftExcept providerRejection started
  match actor.recoveryEvidence with
  | .error error =>
    reapLaunch env actor worker lease
    throw (providerRejection error)
  | .ok evidence =>
    match ← tryAction (recordRuntimeLaunch env worker.identity.id lease evidence) with
    | .error rejection =>
      reapLaunch env actor worker lease
      throw rejection
    | .ok _ => return actor

/-- A process as it is first managed. -/
def launched (actor : InstanceActor) (worker : Worker) (lease : Ledger.ResourceLease) :
    ManagedProcess where
  actor := actor
  lease := some ⟨lease.name, lease.fenceToken⟩
  semanticWorker := some worker
  generation := lease.fenceToken
  lastHeartbeatAt := none
  watchdogTriggered := false
  transportDisconnected := false
  control := none
  semanticControl := none
  pendingShutdown := none
  history := [worker.state]

/-- Launch the process of a worker under its lease. -/
def startWorker (worker : Worker) : Action Operation := do
  validateContext context
  requireNamespaceOwner context principal
  rejectIf (worker.state ≠ .registered ∧ worker.state ≠ .starting)
    ⟨"STATE_TRANSITION_INVALID", "StartWorker requires REGISTERED or STARTING state"⟩
  let object := context.objectRef worker.identity
  let s ← get
  rejectIf (s.workers.contains object)
    ⟨"WORKER_EXISTS", "worker identity is already managed by this Kernel"⟩
  let worker := { worker with principal := principal.identity }
  let lease ← launchLease env context worker
  let instanceName := scopedRuntimeName "worker" object
  let plan ← launchPlan env instanceName worker lease
  let actor ← launch env plan worker lease
  let worker := { worker with state := .starting }
  modify fun s => { s with
    instances := s.instances.insert instanceName (launched actor worker lease)
    workers := s.workers.insert object instanceName }
  publishSemanticEventIn env context.ns worker.identity "worker.starting" "cyrene.worker.v1"
  rememberOperation env context (workerOperation "start" worker .running)

/-! ### Stopping -/

/-- The worker under a runtime name, when it is the given incarnation on the given lease. -/
def managedWorker (s : Core) (name : String) (worker lease : Identity)
    (compatibilityOnly : String) : Except Rejection (ManagedProcess × Worker) :=
  match s.instances[name]? with
  | none => .error workerNotFound
  | some process =>
    match process.semanticWorker with
    | none => .error ⟨"WORKER_COMPATIBILITY_ONLY", compatibilityOnly⟩
    | some stored =>
      if stored.identity ≠ worker ∨ stored.lease ≠ lease then
        .error ⟨"STALE_GENERATION", "worker identity or lease generation is stale"⟩
      else .ok (process, stored)

/-- Whether a lease no longer gives a worker the authority it claims. -/
def fenceMismatch : Bool :=
  lease.generation ≠ leaseIdentity.generation || lease.fenceToken ≠ fenceToken ||
    lease.holder ≠ workerIdentity || lease.state ≠ .active

/-- Give up the lease of a worker that was stopped completely. -/
def releaseStopped (lease releasing : Ledger.ResourceLease) (fenceToken : Nat)
    (report : CleanupReport) : Action Unit := do
  recordRuntime env .instanceTerminated (some workerIdentity.id) (some releasing)
    report.reasonCode
  recordRuntime env .leaseReleased (some workerIdentity.id) (some releasing) "LEASE_RELEASED"
  let _ ← ledgerCall (Ledger.completeRelease lease.name fenceToken)
  let _ ← purgeEndpointAuthority workerIdentity

/-- Stop the process of a worker, and release its lease when nothing is left of it. -/
def stopWorker : Action Operation := do
  validateContext context
  requireNamespaceOwner context principal
  let lease ← leaseFor env context leaseIdentity
  let workerName ← workerInstanceName context workerIdentity
  rejectIf (fenceMismatch lease workerIdentity leaseIdentity fenceToken)
    ⟨"FENCE_MISMATCH", "worker stop no longer has active lease authority"⟩
  recordRuntime env .leaseReleaseStarted (some workerIdentity.id) (some lease)
    "LEASE_RELEASE_STARTED"
  let releasing ← daemonBeginRelease env lease.name fenceToken
  let s ← get
  match managedWorker s.toCore workerName workerIdentity leaseIdentity
      "legacy plugin process is not a semantic Worker" with
  | .error rejection =>
    ignoreFailure (ledgerCall (Ledger.failRelease releasing.name fenceToken))
    throw rejection
  | .ok (process, worker) =>
    let report ← stopManaged env workerName process releasing.name fenceToken
    if report.complete then
      releaseStopped env workerIdentity lease releasing fenceToken report
    else
      ignoreFailure (recordRuntime env .instanceCleanupFailed (some workerIdentity.id)
        (some releasing) report.reasonCode)
    publishSemanticEventIn env context.ns worker.identity
      (if report.complete then "worker.stopped" else "worker.failed") "cyrene.worker.v1"
    rememberOperation env context
      (workerOperation "stop" worker (if report.complete then .succeeded else .failed))

/-! ### Heartbeats -/

/-- A heartbeat reports a worker running. -/
def markRunning (name : String) (process : ManagedProcess) (worker : Worker) : Action Worker := do
  rejectIf (!worker.state.canTransitionTo .running)
    ⟨"STATE_TRANSITION_INVALID", "worker cannot enter RUNNING from its current state"⟩
  let instant ← ask env.instant
  let now ← ask env.now
  putInstance name { process.withState .running with
    actor := process.actor.onHeartbeatReceived instant
    lastHeartbeatAt := some now }
  publishSemanticEventIn env context.ns worker.identity "worker.running" "cyrene.worker.v1"
  return { worker with state := .running }

/-- A sign of life of a worker, which makes it a running one. -/
def reportHeartbeat : Action Worker := do
  validateContext context
  requireNamespaceOwner context principal
  let lease ← leaseFor env context leaseIdentity
  let lapsed ← isLapsed env lease
  rejectIf (fenceMismatch lease workerIdentity leaseIdentity fenceToken || lapsed)
    ⟨"FENCE_MISMATCH", "worker heartbeat no longer has active lease authority"⟩
  let workerName ← workerInstanceName context workerIdentity
  let s ← get
  let (process, worker) ← liftExcept id (managedWorker s.toCore workerName workerIdentity
    leaseIdentity "legacy plugin process is not a semantic Worker")
  markRunning env context workerName process worker

/-- Check that a worker may use its control channel; returns its runtime name and process too. -/
def controlledWorker : Action (String × ManagedProcess × Worker) := do
  validateContext context
  let lease ← leaseFor env context leaseIdentity
  rejectIf (fenceMismatch lease workerIdentity leaseIdentity fenceToken)
    ⟨"FENCE_MISMATCH", "worker control no longer has active lease authority"⟩
  let workerName ← workerInstanceName context workerIdentity
  let s ← get
  let managed ← liftExcept id (managedWorker s.toCore workerName workerIdentity leaseIdentity
    "legacy plugin process cannot use semantic Worker control")
  return (workerName, managed)

def verifyWorkerControl : Action Worker := do
  let (_, _, worker) ← controlledWorker env context workerIdentity leaseIdentity fenceToken
  return worker

def acceptWorkerControlHeartbeat : Action Worker := do
  -- the source looks the process up a second time, and finds the same
  let (name, process, worker) ←
    controlledWorker env context workerIdentity leaseIdentity fenceToken
  markRunning env context name process worker

end Authority

end CyreneKernel
