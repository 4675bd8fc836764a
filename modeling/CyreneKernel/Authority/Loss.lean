import CyreneKernel.Authority.Endpoints

/-!
# The loss of a worker, and the expiry scan

`markWorkerLost` commits the disappearance of a worker: its lease is revoked, its process is
stopped at once, the operations on it are lost and its endpoint authority is removed; the
resources are given up once the cleanup is confirmed and everything is journaled.

The expiry scan looks for leases that lapsed or whose revocation is unfinished.  A lease with a
semantic worker loses the worker; the others are revoked directly.
-/

namespace CyreneKernel

open Lib

inductive ProviderReconcileAction
  | noop
  | markWorkerLost (worker : Identity)
  | revokeLease (lease : Identity)
  | markOperationLost (operation : Identity)
  | revokeEndpoint (endpoint : Identity)
  | refreshResource (resource : Identity)
  | terminateStaleWorker (worker : Identity)
deriving DecidableEq

namespace Authority

variable (env : Environment)

variable (s : Core) (lease : Ledger.ResourceLease) (context : AuthorityCallContext)
  (leaseName workerName : String) (worker : Worker)

def daemonRevoke (fenceToken : Nat) : Action Ledger.ResourceLease := do
  let now ← ask env.now
  ledgerCall (Ledger.revoke now leaseName fenceToken)

/-- The states of a lease that still has authority to revoke. -/
def isRevocable (state : Ledger.LeaseState) : Bool :=
  state = .active || state = .releasing || state = .expired

/-- The process of a lost worker: the transport sessions are closed. -/
def lostProcess (process : ManagedProcess) (actor : InstanceActor) : ManagedProcess :=
  { process.withState .lost with
    actor := actor
    watchdogTriggered := true
    control := none
    semanticControl := none
    pendingShutdown := none }

/-- Stop the process of a lost worker at once; returns what the sandbox reported, if it did. -/
def stopLost (name : String) : Action (Option CleanupReport) := do
  let s ← get
  let process ← okOr (s.instances[name]?) workerNotFound
  rejectIf process.semanticWorker.isNone
    ⟨"WORKER_COMPATIBILITY_ONLY", "legacy plugin process is not a semantic Worker"⟩
  let (result, actor) := process.actor.stop (← ask env.stop)
  putInstance name (lostProcess process actor)
  return match result with
    | .ok report => some report
    | .error _ => none

/-- Record the revocation of a lost worker's lease, and give up its resources after a confirmed
cleanup. -/
def finishRevocation (revoked : Ledger.ResourceLease) (cleanup : Option CleanupReport)
    (reasonCode : String) : Action Unit := do
  recordRuntime env .leaseRevoked (some workerName) (some revoked) reasonCode
  recordRuntime env .fenceAdvanced (some workerName) (some revoked) reasonCode
  if let some report := cleanup then
    if report.complete then
      recordRuntime env .instanceTerminated (some worker.identity.id) (some revoked)
        report.reasonCode
      let _ ← ledgerCall (Ledger.completeRevocation revoked.name revoked.fenceToken)

/-- Record and publish that objects of a lost worker are gone. -/
def announce (event : RuntimeJournalEvent) (workerName : String) (revoked : Ledger.ResourceLease)
    (reasonCode kind schemaId : String) (objects : List Identity) : Action Unit :=
  objects.forM fun object => do
    recordRuntime env event (some workerName) (some revoked) reasonCode
    publishSemanticEventIn env context.ns object kind schemaId

/-- The part of a loss after the lease was revoked: stop the process, lose the operations on the
worker, remove its endpoint authority and finish the revocation. -/
def retireWorker (revoking : Bool) (revoked : Ledger.ResourceLease) (reasonCode : String) :
    Action (List ProviderReconcileAction) := do
  let cleanup ← stopLost env workerName
  let s ← get
  let operations := lostOperations worker.identity s.toCore
  set { s with toCore := loseOperations worker.identity s.toCore }
  let endpoints ← purgeEndpointAuthority worker.identity
  if revoking then finishRevocation env workerName worker revoked cleanup reasonCode
  announce env context .operationLost workerName revoked reasonCode "operation.lost"
    "cyrene.operation.v1" operations
  announce env context .endpointRevoked workerName revoked reasonCode "endpoint.revoked"
    "cyrene.endpoint.v1" endpoints
  publishSemanticEventIn env context.ns worker.identity "worker.lost" "cyrene.worker.v1"
  if revoking then
    publishSemanticEventIn env context.ns worker.lease "lease.revoked" "cyrene.lease.v1"
  return [.markWorkerLost worker.identity] ++ (if revoking then [.revokeLease worker.lease] else [])
    ++ operations.map .markOperationLost ++ endpoints.map .revokeEndpoint

/-- The part of a loss after it was journaled. -/
def commitLoss (lease : Ledger.ResourceLease) (reasonCode : String) :
    Action (List ProviderReconcileAction) := do
  if isRevocable lease.state then
    let revoked ← daemonRevoke env lease.name lease.fenceToken
    retireWorker env context workerName worker true revoked reasonCode
  else
    retireWorker env context workerName worker (lease.state = .revoked) lease reasonCode

/-- Whether a worker has nothing left to lose: it is lost already and its resources are free, or
it ended in another way. -/
def isSettled (allocated : Bool) : Bool :=
  (worker.state = .lost && !allocated) || !worker.state.canTransitionTo .lost

/-- The part of `markWorkerLost` after the worker was found. -/
def loseWorker (reasonCode : String) : Action (List ProviderReconcileAction) := do
  let lease ← leaseFor env context worker.lease
  let s ← get
  if isSettled worker (s.ledger.isAllocated lease.name) then
    return [.noop]
  rejectIf (lease.holder ≠ worker.identity)
    ⟨"FENCE_MISMATCH", "worker no longer owns the referenced lease"⟩
  recordRuntime env .workerLost (some workerName) (some lease) reasonCode
  commitLoss env context workerName worker lease reasonCode

/-- Commit the loss of a worker. -/
def markWorkerLost (workerIdentity : Identity) (reasonCode : String) :
    Action (List ProviderReconcileAction) := do
  validateContext context
  let workerName ← workerInstanceName context workerIdentity
  let s ← get
  let worker ← okOr ((s.instances[workerName]?).bind (·.semanticWorker)) workerNotFound
  rejectIf (worker.identity ≠ workerIdentity)
    ⟨"STALE_GENERATION", "worker identity generation is stale"⟩
  loseWorker env context workerName worker reasonCode

/-! ### The expiry scan -/

/-- Whether a lease has lapsed at `now`, or was revoked without giving up its resources.  The
second test asks for resources allocated by whichever lease. -/
def needsActiveExpiry (now : Nat) (lease : Ledger.ResourceLease) : Bool :=
  (lease.expiresAtUnixMs.any (· ≤ now) && isRevocable lease.state) ||
    (lease.state = .revoked && s.ledger.isAllocated lease.name)

/-- The object under which a lease is indexed. -/
def leaseObject? : Option ObjectRef :=
  (s.leases.toList.find? fun entry => entry.2 = leaseName).map (·.1)

/-- The object the scan takes a lease for: an unindexed lease counts as one of the default
namespace. -/
def scannedObject : ObjectRef :=
  (leaseObject? s lease.name).getD ⟨default, ⟨lease.name, lease.generation⟩⟩

/-- The three ways in which the scan matches a worker with a lease. -/
def isBoundTo (leaseIdentity : Identity) (process : ManagedProcess) (worker : Worker) : Bool :=
  worker.lease = leaseIdentity || worker.lease.id = leaseIdentity.id ||
    process.lease.any (·.leaseName = leaseName)

/-- The first worker that the scan matches with a lease. -/
def boundWorker (entries : List (String × ManagedProcess)) (leaseName : String)
    (leaseIdentity : Identity) : Option Identity :=
  entries.findSome? fun entry => entry.2.semanticWorker.bind fun worker =>
    if isBoundTo leaseName leaseIdentity entry.2 worker then some worker.identity else none

def expiryContext (ns : NamespaceId) (worker : Identity) : AuthorityCallContext where
  contract := .current
  ns := ns
  requestId := "expiry-lost-" ++ worker.id
  idempotencyKey := "expiry-lost-" ++ worker.id

/-- Revoke a lease unless it is revoked already. -/
def revokeOnce : Action (Except Rejection Ledger.ResourceLease) :=
  if lease.state = .revoked then return .ok lease
  else tryAction (daemonRevoke env lease.name lease.fenceToken)

/-- Expire the lease of a legacy process: stop the process, revoke the lease, and after a complete
cleanup give up the resources and forget the process. -/
def expireLegacy (name : String) (process : ManagedProcess) : Action Unit := do
  let (result, actor) := process.actor.stop (← ask env.stop)
  putInstance name { process with watchdogTriggered := true, actor := actor }
  ignoreFailure (recordRuntime env .leaseRevoked (some name) (some lease) "LEASE_EXPIRED")
  match ← revokeOnce env lease with
  | .error _ => return
  | .ok revoked =>
    ignoreFailure (recordRuntime env .fenceAdvanced (some name) (some revoked) "LEASE_EXPIRED")
    match result with
    | .error _ => return
    | .ok report =>
      if report.complete then
        ignoreFailure
          (recordRuntime env .instanceTerminated (some name) (some revoked) "LEASE_EXPIRED")
        ignoreFailure (ledgerCall (Ledger.completeRevocation revoked.name revoked.fenceToken))
        modify fun s => { s with instances := s.instances.erase name }

/-- Expire a lease without a process: revoke it and give up its resources. -/
def expireStandalone (object : ObjectRef) : Action (List ProviderReconcileAction) := do
  match ← revokeOnce env lease with
  | .error _ => return []
  | .ok revoked =>
    ignoreFailure (recordRuntime env .leaseRevoked none (some revoked) "LEASE_EXPIRED")
    ignoreFailure (recordRuntime env .fenceAdvanced none (some revoked) "LEASE_EXPIRED")
    ignoreFailure (ledgerCall (Ledger.completeRevocation revoked.name revoked.fenceToken))
    publishSemanticEventIn env object.ns object.identity "lease.revoked" "cyrene.lease.v1"
    return [.revokeLease object.identity]

/-- Expire a lease that needs it: through the worker it is matched with, through the legacy
process that was started on it, or directly. -/
def expireLease : Action (List ProviderReconcileAction) := do
  let s ← get
  let object := scannedObject s.toCore lease
  match boundWorker (← instanceEntries env) lease.name object.identity with
  | some worker =>
    match ← tryAction (markWorkerLost env (expiryContext object.ns worker) worker
        "LEASE_EXPIRED") with
    | .ok actions => return actions
    | .error _ => return []
  | none =>
    let entries ← instanceEntries env
    match entries.find? fun entry => entry.2.lease.any (·.leaseName = lease.name) with
    | some (name, process) =>
      expireLegacy env lease name process
      return []
    | none => expireStandalone env lease object

/-- The loop of the scan over the leases it read. -/
def expireLeases (now : Nat) :
    List Ledger.ResourceLease → Action (List ProviderReconcileAction)
  | [] => return []
  | lease :: rest => do
    let s ← get
    let actions ← if needsActiveExpiry s.toCore now lease then expireLease env lease else pure []
    return actions ++ (← expireLeases now rest)

/-- The scan after its clock reading; the leases are read at a time of their own. -/
def scanAt (now : Nat) : Action (List ProviderReconcileAction) := do
  let sweepNow ← ask env.now
  let leases ← ledgerCall (Ledger.leases sweepNow)
  expireLeases env now leases

/-- The periodic scan for leases that have expired. -/
def enforceLeaseExpiry : Action (List ProviderReconcileAction) := do
  let now ← ask env.now
  scanAt env now

end Authority

end CyreneKernel
