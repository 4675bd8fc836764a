import CyreneKernel.Authority.Providers

/-!
# Worker control sessions, snapshots and event pages

The daemon's side of the worker control channel works on the same processes.  A session is
registered, and a shutdown acknowledged, under the bare id of the worker, not under the runtime
name the authority gave it.
-/

namespace CyreneKernel

open Lib

/-- What a client sees of one namespace. -/
structure AuthoritySnapshot where
  source : Identity
  cursor : EventCursor
  providers : List Provider
  workers : List Worker
  leases : List Lease
  operations : List Operation
  endpoints : List Endpoint
  endpointGrants : List EndpointGrant

namespace Authority

variable (env : Environment)

/-! ### Control sessions -/

def nextConnection : Action Nat := do
  let s ← get
  set { s with nextControlConnection := (s.nextControlConnection + 1) % 2 ^ 64 }
  return s.nextControlConnection

variable (context : AuthorityCallContext)

def registerSemanticWorkerControl (workerIdentity leaseIdentity : Identity) (fenceToken : Nat) :
    Action (Nat × Worker) := do
  let worker ← verifyWorkerControl env context workerIdentity leaseIdentity fenceToken
  let connectionId ← nextConnection
  let s ← get
  let process ← okOr (s.instances[workerIdentity.id]?) workerNotFound
  putInstance workerIdentity.id { process with
    semanticControl := some connectionId
    transportDisconnected := false }
  return (connectionId, worker)

def unregisterSemanticWorkerControl (workerId : String) (generation connectionId : Nat) :
    Action Unit := do
  let s ← get
  let some process := s.instances[workerId]? | return
  if process.semanticWorker.any (·.identity.generation = generation) ∧
      process.semanticControl = some connectionId then
    putInstance workerId { process with semanticControl := none, transportDisconnected := true }

def acceptSemanticShutdownAck (workerIdentity leaseIdentity : Identity) (fenceToken : Nat)
    (shutdownId : String) (drained : Bool) : Action Unit := do
  let _ ← verifyWorkerControl env context workerIdentity leaseIdentity fenceToken
  let s ← get
  let process ← okOr (s.instances[workerIdentity.id]?) workerNotFound
  rejectIf (!process.lease.any (·.fenceToken = fenceToken))
    ⟨"FENCE_MISMATCH", "worker shutdown acknowledgement is stale"⟩
  let pending ← okOr process.pendingShutdown
    ⟨"SHUTDOWN_NOT_REQUESTED", "Kernel did not request a worker shutdown"⟩
  rejectIf (pending.shutdownId ≠ shutdownId)
    ⟨"STALE_GENERATION", "worker shutdown acknowledgement is stale"⟩
  putInstance workerIdentity.id { process with
    pendingShutdown := some { pending with acknowledged := true, drained := drained } }

/-- Ask a worker to shut down; the acknowledgement it waits for arrives as a call of its own. -/
def requestSemanticWorkerShutdown (workerId : String) : Action Unit := do
  let connectionId ← nextConnection
  let s ← get
  let some process := s.instances[workerId]? | return
  if process.semanticControl.isSome ∧ process.semanticWorker.isSome ∧ process.lease.isSome then
    let sent ← ask env.deliver
    putInstance workerId { process with
      pendingShutdown :=
        if sent then some ⟨"shutdown-" ++ toString connectionId, false, false⟩ else none }

/-- Attach the transport over which an instance takes cancellations. -/
def attachTransportChannel (name : String) : Action Unit := do
  let s ← get
  let some process := s.instances[name]? | return
  putInstance name { process with actor := { process.actor with transportAttached := true } }

/-! ### Reading -/

/-- The ledger's leases under the given names, as the contract shows them. -/
def readLeases : List (ObjectRef × String) → Action (List Lease)
  | [] => return []
  | (object, name) :: rest => do
    let now ← ask env.now
    let lease ← ledgerCall (Ledger.getLease now name)
    return semanticLease object lease :: (← readLeases rest)

def snapshot (principal : Principal) : Action AuthoritySnapshot := do
  validateContext context
  requireNamespaceOwner context principal
  let s ← get
  let source := s.semanticEventSourceFor context.ns
  let history ← eventHistoryFor env context.ns source
  let leases ← readLeases env (s.leases.toList.filter (·.1.ns = context.ns))
  return {
    source := source
    cursor := ⟨source, (history.getLast?.map (·.sequence)).getD 0⟩
    providers := (s.providers.toList.filter (·.1.ns = context.ns)).map (·.2.provider)
    workers := (s.workers.toList.filter (·.1.ns = context.ns)).filterMap fun entry =>
      (s.instances[entry.2]?).bind (·.semanticWorker)
    leases := leases
    operations := (s.semanticOperations.toList.filter (·.1.ns = context.ns)).map (·.2)
    endpoints := (s.endpoints.toList.filter (·.1.ns = context.ns)).map (·.2)
    endpointGrants := (s.endpointGrants.toList.filter (·.1.ns = context.ns)).map (·.2) }

def readEvents (principal : Principal) (cursor : EventCursor) (limit : Nat) : Action EventPage := do
  validateContext context
  requireNamespaceOwner context principal
  rejectIf (limit = 0 ∨ operationEventHistoryCapacity < limit)
    ⟨"EVENT_PAGE_LIMIT_INVALID", "event page_size must be in 1..=256"⟩
  readEventsPage env context.ns cursor limit

end Authority

end CyreneKernel
