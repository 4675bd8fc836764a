import CyreneKernel.Authority.Control

/-!
# Calls of the authority

A `Call` is one completed action of the authority, of the daemon on its worker control channel, or
of the timers that watch cancellations, heartbeats and leases.  A call is atomic: it runs to its
end, returned or rejected, before the next one starts.
-/

namespace CyreneKernel

open Lib

namespace Authority

/-- An action with its arguments. -/
inductive Call
  | acquireLease (context : AuthorityCallContext) (principal : Principal) (holder : Identity)
      (query : ResourceQuery) (expiresAtUnixMs : Nat)
  | renewLease (context : AuthorityCallContext) (principal : Principal) (lease : Identity)
      (fenceToken expiresAtUnixMs : Nat)
  | releaseLease (context : AuthorityCallContext) (principal : Principal) (lease : Identity)
      (fenceToken : Nat)
  | startWorker (context : AuthorityCallContext) (principal : Principal) (worker : Worker)
  | stopWorker (context : AuthorityCallContext) (principal : Principal) (worker lease : Identity)
      (fenceToken : Nat)
  | reportHeartbeat (context : AuthorityCallContext) (principal : Principal)
      (worker lease : Identity) (fenceToken : Nat)
  | acceptWorkerControlHeartbeat (context : AuthorityCallContext) (worker lease : Identity)
      (fenceToken : Nat)
  | createOperation (context : AuthorityCallContext) (principal : Principal)
      (operation : Operation)
  | reportOperation (context : AuthorityCallContext) (principal : Principal)
      (reported : Operation)
  | cancelOperation (context : AuthorityCallContext) (principal : Principal)
      (operation : Identity)
  | cancellationDeadline (context : AuthorityCallContext) (operation : Identity)
  | publishEndpoint (context : AuthorityCallContext) (principal : Principal)
      (endpoint : Endpoint)
  | authorizeEndpoint (context : AuthorityCallContext) (principal : Principal)
      (grant : EndpointGrant)
  | revokeEndpoint (context : AuthorityCallContext) (principal : Principal) (grant : Identity)
  | markWorkerLost (context : AuthorityCallContext) (worker : Identity) (reasonCode : String)
  | enforceLeaseExpiry
  | registerProvider (context : AuthorityCallContext) (principal : Principal)
      (provider : Provider)
  | registerResourceFactsProvider (context : AuthorityCallContext) (principal : Principal)
      (provider : Provider)
  | publishInventory (context : AuthorityCallContext) (principal : Principal)
      (inventory : ProviderSnapshot)
  | reconcileProvider (context : AuthorityCallContext) (principal : Principal)
      (provider : Identity)
  | confirmStaleWorkerTermination (context : AuthorityCallContext) (principal : Principal)
      (provider : Identity) (snapshotGeneration : Nat) (worker : Identity) (terminated : Bool)
  | snapshot (context : AuthorityCallContext) (principal : Principal)
  | readEvents (context : AuthorityCallContext) (principal : Principal) (cursor : EventCursor)
      (limit : Nat)
  | registerSemanticWorkerControl (context : AuthorityCallContext) (worker lease : Identity)
      (fenceToken : Nat)
  | unregisterSemanticWorkerControl (workerId : String) (generation connectionId : Nat)
  | acceptSemanticShutdownAck (context : AuthorityCallContext) (worker lease : Identity)
      (fenceToken : Nat) (shutdownId : String) (drained : Bool)
  | requestSemanticWorkerShutdown (workerId : String)
  | attachTransportChannel (instanceName : String)
  | refreshInventory (inventory : InventorySnapshot)
  | quarantine (resourceId reasonCode : String)

/-- Run an action for its effect. -/
def effectOf {α : Type} (m : Action α) : Action Unit := do
  let _ ← m

variable (env : Environment)

/-- Run a call. -/
def Call.exec : Call → Action Unit
  | acquireLease context principal holder query expiresAtUnixMs =>
    effectOf (Authority.acquireLease env context principal holder query expiresAtUnixMs)
  | renewLease context principal lease fenceToken expiresAtUnixMs =>
    effectOf (Authority.renewLease env context principal lease fenceToken expiresAtUnixMs)
  | releaseLease context principal lease fenceToken =>
    effectOf (Authority.releaseLease env context principal lease fenceToken)
  | startWorker context principal worker =>
    effectOf (Authority.startWorker env context principal worker)
  | stopWorker context principal worker lease fenceToken =>
    effectOf (Authority.stopWorker env context principal worker lease fenceToken)
  | reportHeartbeat context principal worker lease fenceToken =>
    effectOf (Authority.reportHeartbeat env context principal worker lease fenceToken)
  | acceptWorkerControlHeartbeat context worker lease fenceToken =>
    effectOf (Authority.acceptWorkerControlHeartbeat env context worker lease fenceToken)
  | createOperation context principal operation =>
    effectOf (Authority.createOperation env context principal operation)
  | reportOperation context principal reported =>
    effectOf (Authority.reportOperation env context principal reported)
  | cancelOperation context principal operation =>
    effectOf (Authority.cancelOperation env context principal operation)
  | cancellationDeadline context operation =>
    effectOf (Authority.markCancellingOperationLost env context operation)
  | publishEndpoint context principal endpoint =>
    effectOf (Authority.publishEndpoint env context principal endpoint)
  | authorizeEndpoint context principal grant =>
    effectOf (Authority.authorizeEndpoint env context principal grant)
  | revokeEndpoint context principal grant => Authority.revokeEndpoint context principal grant
  | markWorkerLost context worker reasonCode =>
    effectOf (Authority.markWorkerLost env context worker reasonCode)
  | enforceLeaseExpiry => effectOf (Authority.enforceLeaseExpiry env)
  | registerProvider context principal provider =>
    effectOf (Authority.registerProvider env context principal provider)
  | registerResourceFactsProvider context principal provider =>
    effectOf (Authority.registerResourceFactsProvider env context principal provider)
  | publishInventory context principal inventory =>
    effectOf (Authority.publishInventory env context principal inventory)
  | reconcileProvider context principal provider =>
    effectOf (Authority.reconcileProvider env context principal provider)
  | confirmStaleWorkerTermination context principal provider snapshotGeneration worker
      terminated =>
    Authority.confirmStaleWorkerTermination context principal provider snapshotGeneration worker
      terminated
  | snapshot context principal => effectOf (Authority.snapshot env context principal)
  | readEvents context principal cursor limit =>
    effectOf (Authority.readEvents env context principal cursor limit)
  | registerSemanticWorkerControl context worker lease fenceToken =>
    effectOf (Authority.registerSemanticWorkerControl env context worker lease fenceToken)
  | unregisterSemanticWorkerControl workerId generation connectionId =>
    Authority.unregisterSemanticWorkerControl workerId generation connectionId
  | acceptSemanticShutdownAck context worker lease fenceToken shutdownId drained =>
    Authority.acceptSemanticShutdownAck env context worker lease fenceToken shutdownId drained
  | requestSemanticWorkerShutdown workerId =>
    Authority.requestSemanticWorkerShutdown env workerId
  | attachTransportChannel instanceName => Authority.attachTransportChannel instanceName
  | refreshInventory inventory => ledgerCall (Ledger.refreshInventory inventory)
  | quarantine resourceId reasonCode => ledgerCall (Ledger.quarantine resourceId reasonCode)

/-- The transition function of the authority. -/
def step (s : AuthorityRuntime) (call : Call) : AuthorityRuntime :=
  finalState (call.exec env s)

/-- The states that the authority reaches from a fresh ledger. -/
def Reachable (s : AuthorityRuntime) : Prop :=
  ∃ (resources : List Resource) (nextFenceToken : Nat) (nodeId : String) (nodeEpoch : Nat)
    (calls : List Call),
    s = run (step env)
      (.new (Ledger.withNextFenceToken resources nextFenceToken) nodeId nodeEpoch) calls

end Authority

end CyreneKernel
