import CyreneKernel.Authority.Events

/-!
# Lease actions

Acquiring, renewing and releasing a lease.  A release first stops the process that was started on
the lease; the resources are given up only after the sandbox reported a complete cleanup and the
journal recorded it, and then the endpoints and grants of the holder are removed.
-/

namespace CyreneKernel

open Lib

namespace Authority

variable (env : Environment)

def daemonAcquireLease (request : Ledger.ResourceRequest) : Action Ledger.ResourceLease := do
  let s ← get
  rejectIf (!s.ledger.ready)
    ⟨"ADAPTER_DEGRADED", "required hardware adapter capability is not ready"⟩
  let now ← ask env.now
  let nowAgain ← ask env.now
  ledgerCall (Ledger.acquireLease now nowAgain request)

def daemonBeginRelease (leaseName : String) (fenceToken : Nat) :
    Action Ledger.ResourceLease := do
  let now ← ask env.now
  ledgerCall (Ledger.beginRelease now leaseName fenceToken)

/-- Journal a grant and index the lease; when the grant cannot be journaled it is released at
once. -/
def recordAcquired (object : ObjectRef) (lease : Ledger.ResourceLease) : Action Lease := do
  match ← tryAction (recordRuntime env .leaseAcquired none (some lease) "LEASE_ACQUIRED") with
  | .error rejection =>
    ignoreFailure (daemonBeginRelease env lease.name lease.fenceToken)
    ignoreFailure (ledgerCall (Ledger.completeRelease lease.name lease.fenceToken))
    throw rejection
  | .ok _ =>
    modify fun s => { s with leases := s.leases.insert object lease.name }
    return semanticLease object lease

/-- Grant a lease that is named after the request; the first caller of a namespace owns it. -/
def acquireLease (context : AuthorityCallContext) (principal : Principal) (holder : Identity)
    (query : ResourceQuery) (expiresAtUnixMs : Nat) : Action Lease := do
  validateContext context
  bindNamespace context principal
  let now ← ask env.now
  rejectIf (expiresAtUnixMs ≤ now)
    ⟨"LEASE_EXPIRY_INVALID", "lease expiry must be in the future"⟩
  let object := context.objectRef (leaseName context)
  let s ← get
  let lease ← daemonAcquireLease env {
    leaseName := leaseInternalName context object.identity
    expectedInventoryGeneration := s.ledger.generation
    holder := holder
    query := query
    expiresAtUnixMs := some expiresAtUnixMs
    limits := ⟨none, none, none⟩ }
  recordAcquired env object lease

/-- Move the expiry of a lease. -/
def renewLease (context : AuthorityCallContext) (principal : Principal) (lease : Identity)
    (fenceToken expiresAtUnixMs : Nat) : Action Lease := do
  validateContext context
  requireNamespaceOwner context principal
  let current ← leaseFor env context lease
  rejectIf (current.generation ≠ lease.generation)
    ⟨"LEASE_GENERATION_STALE", "lease generation no longer has authority"⟩
  let now ← ask env.now
  let renewed ← ledgerCall (Ledger.renewLease now current.name fenceToken expiresAtUnixMs)
  return semanticLease (context.objectRef lease) renewed

/-- The identities of the endpoints a worker owns, in whichever namespace. -/
def ownedEndpoints (s : Core) (worker : Identity) : List Identity :=
  (s.endpoints.toList.filter fun entry => entry.2.owner = worker).map (·.2.identity)

/-- The objects without the endpoints of a worker, and without the grants on these endpoints or to
the worker. -/
def purge (worker : Identity) (s : Core) : Core :=
  { s with
    endpoints := s.endpoints.filter fun _ endpoint => endpoint.owner ≠ worker
    endpointGrants := s.endpointGrants.filter fun _ grant =>
      grant.endpoint ∉ ownedEndpoints s worker ∧ grant.grantee ≠ worker }

def purgeEndpointAuthority (worker : Identity) : Action (List Identity) := do
  let s ← get
  set { s with toCore := purge worker s.toCore }
  return ownedEndpoints s.toCore worker

/-! ### Releasing -/

/-- The process that was started on a lease with a given fence token. -/
def findProcess (entries : List (String × ManagedProcess)) (leaseName : String)
    (fenceToken : Nat) : Option (String × ManagedProcess) :=
  entries.find? fun entry => entry.2.lease.any fun lease =>
    lease.leaseName = leaseName ∧ lease.fenceToken = fenceToken

/-- Stop a process whose lease is being released.  Its worker drains, and ends up stopped or
failed as the sandbox reports; without a complete cleanup the release fails. -/
def stopManaged (name : String) (process : ManagedProcess) (leaseName : String)
    (fenceToken : Nat) : Action CleanupReport := do
  let outcome ← ask env.stop
  let (result, actor) := process.actor.stop outcome
  let draining := { process.withState .draining with actor := actor }
  match result with
  | .error error =>
    putInstance name draining
    ignoreFailure (ledgerCall (Ledger.failRelease leaseName fenceToken))
    throw (providerRejection error)
  | .ok report =>
    putInstance name (draining.withState (if report.complete then .stopped else .failed))
    if !report.complete then
      ignoreFailure (ledgerCall (Ledger.failRelease leaseName fenceToken))
    return report

/-- Prove the physical cleanup of a lease whose release has begun; returns the runtime name of the
process that was stopped, and the name under which the journal records it. -/
def cleanUpHolder (current releasing : Ledger.ResourceLease) (fenceToken : Nat) :
    Action (Option (String × String)) := do
  let entries ← instanceEntries env
  match findProcess entries current.name fenceToken with
  | some (name, process) =>
    let report ← stopManaged env name process releasing.name fenceToken
    if !report.complete then
      ignoreFailure (recordRuntime env .instanceCleanupFailed (some name) (some releasing)
        report.reasonCode)
      throw ⟨"CLEANUP_INCOMPLETE", report.reasonCode⟩
    return some (name, (process.semanticWorker.map (·.identity.id)).getD name)
  | none =>
    if current.state = .failed then
      ignoreFailure (ledgerCall (Ledger.failRelease releasing.name fenceToken))
      throw ⟨"CLEANUP_INCOMPLETE",
        "a failed lease has no managed actor to prove physical cleanup"⟩
    return none

def releaseWithCleanup (context : AuthorityCallContext) (leaseIdentity : Identity)
    (fenceToken : Nat) : Action Lease := do
  let current ← leaseFor env context leaseIdentity
  rejectIf (current.generation ≠ leaseIdentity.generation)
    ⟨"STALE_GENERATION", "lease generation no longer has authority"⟩
  recordRuntime env .leaseReleaseStarted none (some current) "LEASE_RELEASE_STARTED"
  let releasing ← daemonBeginRelease env current.name fenceToken
  let stopped ← cleanUpHolder env current releasing fenceToken
  if let some (_, journalInstanceName) := stopped then
    recordRuntime env .instanceTerminated (some journalInstanceName) (some releasing)
      "CLEANUP_COMPLETE"
  recordRuntime env .leaseReleased (stopped.map (·.1)) (some releasing) "LEASE_RELEASED"
  let released ← ledgerCall (Ledger.completeRelease current.name fenceToken)
  let _ ← purgeEndpointAuthority current.holder
  return semanticLease (context.objectRef leaseIdentity) released

/-- Stop the holder of a lease, release it, and drop the endpoints of the holder. -/
def releaseLease (context : AuthorityCallContext) (principal : Principal) (lease : Identity)
    (fenceToken : Nat) : Action Lease := do
  validateContext context
  requireNamespaceOwner context principal
  releaseWithCleanup env context lease fenceToken

end Authority

end CyreneKernel
