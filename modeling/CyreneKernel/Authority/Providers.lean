import CyreneKernel.Authority.Loss

/-!
# Provider actions

Providers register their sessions, publish inventories and are reconciled: a worker that the
kernel manages for a provider, and that the provider no longer reports, is lost, and a worker that
only the provider knows is to be terminated.
-/

namespace CyreneKernel

open Lib

structure ProviderReconcileResult where
  provider : Identity
  snapshotGeneration : Nat
  actions : List ProviderReconcileAction

namespace Authority

variable (env : Environment)

/-! ### Registration and inventories -/

variable (context : AuthorityCallContext) (principal : Principal) (provider : Provider)

/-- The record of a session that was just opened. -/
def freshRecord (principal : Principal) : ProviderRecord where
  provider := provider
  principal := principal
  inventoryScope := .full
  inventory := none
  reconciledSnapshotGeneration := none
  pendingStaleWorkers := []

/-- Whether a registration opens a session over the current one: a newer generation, or the same
generation becoming unavailable. -/
def opensSession (current provider : Provider) : Bool :=
  current.identity.generation < provider.identity.generation ||
    (provider.identity.generation = current.identity.generation &&
      current.state ≠ .unavailable && provider.state = .unavailable &&
      current.capabilities = provider.capabilities)

def putProvider (id : String) (record : ProviderRecord) : Action Unit :=
  modify fun s => { s with providers := s.providers.insert ⟨context.ns, id⟩ record }

def modifyProvider (id : String) (f : ProviderRecord → ProviderRecord) : Action Unit :=
  modify fun s => { s with providers := s.providers.modify ⟨context.ns, id⟩ f }

def openSession : Action Provider := do
  putProvider context provider.identity.id (freshRecord provider principal)
  publishSemanticEventIn env context.ns provider.identity "provider.registered"
    "cyrene.provider.v1"
  return provider

/-- Open a session of a provider, or confirm the present one. -/
def registerProvider : Action Provider := do
  validateContext context
  rejectIf (provider.identity.generation = 0)
    ⟨"GENERATION_INVALID", "provider session generation must be non-zero"⟩
  liftExcept contractRejection provider.validate
  let s ← get
  match s.providers[(⟨context.ns, provider.identity.id⟩ : ProviderKey)]? with
  | none => openSession env context principal provider
  | some current =>
    rejectIf (current.principal ≠ principal)
      ⟨"AUTHORITY_DENIED", "Provider session belongs to another authenticated Principal"⟩
    rejectIf (provider.identity.generation < current.provider.identity.generation)
      ⟨"STALE_GENERATION", "provider session generation is stale"⟩
    if provider.identity.generation = current.provider.identity.generation ∧
        current.provider = provider then
      return current.provider
    rejectIf (!opensSession current.provider provider)
      ⟨"STALE_GENERATION", "provider session generation cannot change its facts or recover"⟩
    openSession env context principal provider

def registerResourceFactsProvider : Action Provider := do
  let registered ← registerProvider env context principal provider
  modifyProvider context registered.identity.id ({ · with inventoryScope := .resourceFactsOnly })
  return registered

/-- The record of the session a call addresses. -/
def providerSession (provider : Identity) (unknown denied stale : String) :
    Action ProviderRecord := do
  let s ← get
  let record ← okOr (s.providers[(⟨context.ns, provider.id⟩ : ProviderKey)]?)
    ⟨"PROVIDER_NOT_FOUND", unknown⟩
  rejectIf (record.principal ≠ principal) ⟨"AUTHORITY_DENIED", denied⟩
  rejectIf (record.provider.identity ≠ provider) ⟨"STALE_GENERATION", stale⟩
  return record

/-- Store the inventory of a provider, which has to be a newer one. -/
def publishInventory (snapshot : ProviderSnapshot) : Action ProviderSnapshot := do
  validateContext context
  liftExcept contractRejection snapshot.validate
  let record ← providerSession context principal snapshot.provider
    "provider has not registered this session"
    "Provider inventory caller does not own the registered session"
    "inventory belongs to a stale provider session"
  rejectIf (record.inventory.any (snapshot.snapshotGeneration ≤ ·.snapshotGeneration))
    ⟨"STALE_GENERATION", "inventory snapshot generation must advance"⟩
  putProvider context snapshot.provider.id
    { record with inventory := some snapshot, reconciledSnapshotGeneration := none }
  publishSemanticEventIn env context.ns snapshot.provider "provider.inventory.observed"
    "cyrene.provider.v1"
  return snapshot

/-! ### Reconciliation -/

/-- The inventory of a session while it is current. -/
def dropExpiredInventory (record : ProviderRecord) (now : Nat) : ProviderRecord :=
  if record.inventory.any (·.expiresAtUnixMs ≤ now) then
    { record with inventory := none, reconciledSnapshotGeneration := none }
  else record

def refreshActions (snapshot : Option ProviderSnapshot) : List ProviderReconcileAction :=
  (snapshot.map fun snapshot =>
    snapshot.resources.map fun resource => .refreshResource resource.identity).getD []

/-- A list of actions is never empty. -/
def orNoop (actions : List ProviderReconcileAction) : List ProviderReconcileAction :=
  if actions.isEmpty then [.noop] else actions

/-- The workers of a namespace that the kernel manages for a provider and that have not ended. -/
def recordedWorkers (s : Core) (ns : NamespaceId) (provider : Identity)
    (entries : List (String × ManagedProcess)) : List Worker :=
  let names := (s.workers.toList.filter (·.1.ns = ns)).map (·.2)
  (entries.filter fun entry => entry.1 ∈ names).filterMap fun entry =>
    entry.2.semanticWorker.filter fun worker =>
      worker.provider.id = provider.id ∧
        worker.state ≠ .stopped ∧ worker.state ≠ .failed ∧ worker.state ≠ .lost

/-- Lose the workers that the provider does not observe, or that have no active lease. -/
def loseUnobserved (context : AuthorityCallContext) (snapshot : Option ProviderSnapshot)
    (observed : List Identity) : List Worker → Action (List ProviderReconcileAction)
  | [] => return []
  | worker :: rest => do
    let missing : Bool := worker.identity ∉ observed
    let lease ← tryAction (leaseFor env context worker.lease)
    let valid : Bool := match lease with
      | .ok lease => lease.state = .active && lease.holder = worker.identity
      | .error _ => false
    let actions ←
      if missing || !valid then
        markWorkerLost env context worker.identity
          (if missing && snapshot.isSome then "WORKER_MISSING_FROM_PROVIDER"
            else if missing then "PROVIDER_UNAVAILABLE" else "WORKER_LEASE_INVALID")
      else pure []
    return actions ++ (← loseUnobserved context snapshot observed rest)

/-- The workers a provider should terminate, with the observed ones that the kernel does not know
added at the generation of their snapshot. -/
def addStaleWorkers (s : Core) (ns : NamespaceId) (snapshotGeneration : Nat)
    (observed : List Identity) (pending : List (Identity × Nat)) : List (Identity × Nat) :=
  (observed.filter fun worker => !s.workers.contains ⟨ns, worker⟩).foldl
    (fun pending worker =>
      if pending.any (·.1 = worker) then pending else pending ++ [(worker, snapshotGeneration)])
    pending

/-- Report a reconciliation. -/
def reconciled (context : AuthorityCallContext) (provider : Identity) (snapshotGeneration : Nat)
    (actions : List ProviderReconcileAction) : Action ProviderReconcileResult := do
  publishSemanticEventIn env context.ns provider "provider.reconciled" "cyrene.provider.v1"
  return ⟨provider, snapshotGeneration, actions⟩

/-- The reconciliation of a provider that reports workers. -/
def reconcileWorkers (provider : Identity) (snapshot : Option ProviderSnapshot)
    (snapshotGeneration : Nat) : Action ProviderReconcileResult := do
  let observed := (snapshot.map fun snapshot => snapshot.workers.map (·.identity)).getD []
  let entries ← instanceEntries env
  let s ← get
  let lost ← loseUnobserved env context snapshot observed
    (recordedWorkers s.toCore context.ns provider entries)
  let s ← get
  modifyProvider context provider.id fun record => { record with
    pendingStaleWorkers := addStaleWorkers s.toCore context.ns snapshotGeneration observed
      record.pendingStaleWorkers }
  let s ← get
  let pending := ((s.providers[(⟨context.ns, provider.id⟩ : ProviderKey)]?).map
    (·.pendingStaleWorkers)).getD []
  if pending.isEmpty then
    modifyProvider context provider.id
      ({ · with reconciledSnapshotGeneration := some snapshotGeneration })
  reconciled env context provider snapshotGeneration
    (orNoop (refreshActions snapshot ++ lost ++ pending.map (.terminateStaleWorker ·.1)))

/-- Compare the workers of a provider with its inventory, once for each inventory. -/
def reconcileProvider (provider : Identity) : Action ProviderReconcileResult := do
  validateContext context
  let stored ← providerSession context principal provider
    "provider is unknown in this namespace"
    "Provider reconciliation caller does not own the registered session"
    "reconciliation targets a stale provider session"
  let now ← ask env.now
  let record := dropExpiredInventory stored now
  putProvider context provider.id record
  let snapshotGeneration := (record.inventory.map (·.snapshotGeneration)).getD 0
  rejectIf (stored.inventory.isNone ∧ stored.provider.state ≠ .unavailable)
    ⟨"PROVIDER_INVENTORY_MISSING", "provider has no current inventory"⟩
  if record.reconciledSnapshotGeneration = some snapshotGeneration ∧
      record.pendingStaleWorkers.isEmpty then
    return ⟨provider, snapshotGeneration, [.noop]⟩
  if record.inventoryScope = .resourceFactsOnly then
    modifyProvider context provider.id
      ({ · with reconciledSnapshotGeneration := some snapshotGeneration })
    reconciled env context provider snapshotGeneration (orNoop (refreshActions record.inventory))
  else
    reconcileWorkers env context provider record.inventory snapshotGeneration

/-- A provider reports the termination of a worker that it was told to terminate.  The generation
of the session is checked before its principal here. -/
def confirmStaleWorkerTermination (provider : Identity) (snapshotGeneration : Nat)
    (worker : Identity) (terminated : Bool) : Action Unit := do
  validateContext context
  let s ← get
  let record ← okOr (s.providers[(⟨context.ns, provider.id⟩ : ProviderKey)]?)
    ⟨"PROVIDER_NOT_FOUND", "provider has not registered this session"⟩
  rejectIf (record.provider.identity ≠ provider)
    ⟨"STALE_GENERATION", "termination result targets a stale provider session"⟩
  rejectIf (record.principal ≠ principal)
    ⟨"AUTHORITY_DENIED", "termination result caller does not own the registered Provider session"⟩
  rejectIf ((worker, snapshotGeneration) ∉ record.pendingStaleWorkers)
    ⟨"RECONCILIATION_RESULT_UNKNOWN",
      "termination result does not match a pending stale Worker action"⟩
  if terminated then
    rejectIf (record.inventory.any fun snapshot =>
        snapshot.workers.any (·.identity = worker))
      ⟨"PROVIDER_REALITY_STALE",
        "a successful termination result requires a later complete snapshot without the Worker"⟩
    putProvider context provider.id { record with
      pendingStaleWorkers := record.pendingStaleWorkers.erase (worker, snapshotGeneration) }

end Authority

end CyreneKernel
