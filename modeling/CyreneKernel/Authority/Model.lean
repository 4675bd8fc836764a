import CyreneKernel.Authority.Actor
import CyreneKernel.Contract.Snapshot
import CyreneKernel.Ledger.Model

/-!
# The state of the local kernel authority

The authority owns the canonical objects of one kernel process.  Workers, leases, operations,
endpoints and grants are indexed by namespace and identity; the managed processes are kept in a
map keyed by a private runtime name, and the leases themselves live in the ledger.

An action runs in `EStateM Rejection AuthorityRuntime`.  Whatever the authority cannot decide
itself (the clock, the journal, the event store, the sandbox, the hardware adapters, the order in
which a hash map is iterated) comes from an `Environment`, which answers the `n`-th interaction of
the run; the field `tick` counts them.
-/

namespace CyreneKernel

open Std (TransOrd TransCmp LawfulEqOrd)
open Lib
open Journal (RuntimeProcessEvidence)

/-! ### The ports of the authority -/

inductive RuntimeJournalEvent
  | kernelStarted
  | leaseAcquired
  | leaseReleaseStarted
  | leaseReleased
  | leaseRevoked
  | fenceAdvanced
  | instanceLaunching
  | instanceLaunched
  | instanceTerminated
  | instanceCleanupFailed
  | watchdogReaped
  | workerLost
  | operationLost
  | endpointRevoked
deriving DecidableEq

structure RuntimeJournalRecord where
  event : RuntimeJournalEvent
  nodeId : String
  nodeEpoch : Nat
  instanceName : Option String
  leaseName : Option String
  fenceToken : Option Nat
  reasonCode : String
  runtimeEvidence : Option RuntimeProcessEvidence
deriving DecidableEq

/-- The launch plan of a worker; what only the sandbox reads is left out. -/
structure LaunchPlan where
  instanceName : String
  environment : BTreeMap String String
  limits : Ledger.CgroupLimits

/-- The answers of the outside world to the interactions of a run. -/
structure Environment where
  /-- The wall clock, in milliseconds since the epoch. -/
  now : Nat → Nat
  /-- The monotonic clock. -/
  instant : Nat → Nat
  /-- The journal sink: whether an append succeeds. -/
  append : Nat → Except ProviderError Unit
  /-- The event store: whether an append succeeds. -/
  appendEvent : Nat → Except ProviderError Unit
  /-- The event store: the stored history of a source, if the store keeps one. -/
  eventsForSource : Nat → Except ProviderError (Option (List DurableEventRecord))
  /-- The hardware adapters: whether a lease has a device binding. -/
  bindingForLease : Nat → Ledger.ResourceLease → Except ProviderError Unit
  /-- The sandbox: whether it can enforce the device binding. -/
  preflightBinding : Nat → Except ProviderError Unit
  /-- The device binding: whether its environment can be merged with the plan's. -/
  mergeEnvironment : Nat → BTreeMap String String → Except ProviderError Unit
  /-- The plan resolver. -/
  resolveWorkerLaunchPlan : Nat → Worker → Except ProviderError LaunchPlan
  launch : Nat → LaunchPlan → Except ProviderError ProcessHandle
  stop : Nat → Except ProviderError CleanupReport
  /-- Whether a worker transport takes a message. -/
  deliver : Nat → Bool
  /-- The order in which a hash map is iterated. -/
  order : Nat → List String → List String
  order_perm : ∀ n l, (order n l).Perm l

/-- What the authority itself reads of the heartbeat configuration. -/
structure WorkerHeartbeatConfig where
  socketPath : String
  intervalMs : Nat

/-! ### Managed processes -/

/-- The lease a process was started on, with the fence token it had then. -/
structure ResourceLeaseRef where
  leaseName : String
  fenceToken : Nat
deriving DecidableEq

structure PendingWorkerShutdown where
  shutdownId : String
  acknowledged : Bool
  drained : Bool
deriving DecidableEq

/-- A process under a runtime name.  `control` and `semanticControl` hold the connection of the
legacy and of the canonical control channel.  `history` is a history variable that no action reads:
the states that were assigned to the worker, the latest first. -/
structure ManagedProcess where
  actor : InstanceActor
  lease : Option ResourceLeaseRef
  semanticWorker : Option Worker
  generation : Nat
  lastHeartbeatAt : Option Nat
  watchdogTriggered : Bool
  transportDisconnected : Bool
  control : Option Nat
  semanticControl : Option Nat
  pendingShutdown : Option PendingWorkerShutdown
  history : List WorkerState
deriving DecidableEq

/-- The process after a state was assigned to its worker. -/
def ManagedProcess.withState (process : ManagedProcess) (state : WorkerState) : ManagedProcess :=
  { process with
    semanticWorker := process.semanticWorker.map ({ · with state := state })
    history := state :: process.history }

/-! ### Provider records and event histories -/

inductive ProviderInventoryScope
  | full
  | resourceFactsOnly
deriving DecidableEq

structure ProviderRecord where
  provider : Provider
  principal : Principal
  inventoryScope : ProviderInventoryScope
  inventory : Option ProviderSnapshot
  reconciledSnapshotGeneration : Option Nat
  pendingStaleWorkers : List (Identity × Nat)

/-- Providers are kept by namespace and logical id. -/
structure ProviderKey where
  ns : NamespaceId
  id : String
deriving DecidableEq

namespace ProviderKey

instance : Ord ProviderKey := ⟨compareLex (compareOn ns) (compareOn id)⟩

instance : TransOrd ProviderKey :=
  inferInstanceAs (TransCmp (compareLex (compareOn ns) (compareOn id)))

instance : LawfulEqOrd ProviderKey :=
  lawfulEqCmp_compareLex (by rintro ⟨⟩ ⟨⟩ ⟨⟩ ⟨⟩; rfl)

end ProviderKey

/-- The recent events of a namespace; `nextSequence` is `none` once an event was lost. -/
structure NamespaceEventHistory where
  nextSequence : Option Nat
  events : List Event

/-! ### The state -/

/-- The canonical objects: the ledger, the maps that share its identities, the provider sessions,
and the journal that the running kernel writes for its own node and epoch. -/
structure Core where
  ledger : Ledger.State
  instances : BTreeMap String ManagedProcess
  workers : BTreeMap ObjectRef String
  leases : BTreeMap ObjectRef String
  semanticOperations : BTreeMap ObjectRef Operation
  endpoints : BTreeMap ObjectRef Endpoint
  endpointGrants : BTreeMap ObjectRef EndpointGrant
  providers : BTreeMap ProviderKey ProviderRecord
  nodeId : String
  nodeEpoch : Nat
  journal : List RuntimeJournalRecord

/-- The state of the authority: its canonical objects, and what it keeps beside them. -/
structure AuthorityRuntime extends Core where
  semanticEvents : BTreeMap NamespaceId NamespaceEventHistory
  namespaceOwners : BTreeMap NamespaceId Identity
  heartbeat : WorkerHeartbeatConfig
  nextControlConnection : Nat
  tick : Nat

/-- An authority without objects over a given ledger. -/
def AuthorityRuntime.new (ledger : Ledger.State) (nodeId : String) (nodeEpoch : Nat) :
    AuthorityRuntime where
  ledger := ledger
  instances := ∅
  workers := ∅
  leases := ∅
  semanticOperations := ∅
  endpoints := ∅
  endpointGrants := ∅
  nodeId := nodeId
  nodeEpoch := nodeEpoch
  semanticEvents := ∅
  providers := ∅
  namespaceOwners := ∅
  heartbeat := ⟨"/run/cyrene/kernel.sock", 5000⟩
  nextControlConnection := 1
  journal := []
  tick := 0

/-- An action of the authority. -/
abbrev Action := EStateM Rejection AuthorityRuntime

/-- The answer of the outside world to the next interaction. -/
def ask {α : Type} (answer : Nat → α) : Action α := do
  let s ← get
  set { s with tick := s.tick + 1 }
  return answer s.tick

/-- Run an action and report its outcome as a value. -/
def tryAction {α : Type} (m : Action α) : Action (Except Rejection α) := attempt m

/-- Run an action whose failure is ignored. -/
def ignoreFailure {α : Type} (m : Action α) : Action Unit := do
  let _ ← tryAction m

def providerRejection (error : ProviderError) : Rejection := ⟨error.reasonCode, error.message⟩

def contractRejection (error : ContractError) : Rejection := ⟨error.reasonCode, error.message⟩

/-- A call of the ledger. -/
def ledgerCall {α : Type} (m : EStateM ProviderError Ledger.State α) : Action α :=
  zoom (fun s => s.ledger) (fun ledger s => { s with ledger := ledger }) providerRejection m

section Helpers

variable (env : Environment)

/-- The processes in the order in which the hash map is iterated. -/
def instanceEntries : Action (List (String × ManagedProcess)) := do
  let order ← ask env.order
  let s ← get
  return (order s.instances.keys).filterMap fun name =>
    (s.instances[name]?).map fun process => (name, process)

def putInstance (name : String) (process : ManagedProcess) : Action Unit :=
  modify fun s => { s with instances := s.instances.insert name process }

/-! ### Guards -/

variable (event : RuntimeJournalEvent) (instanceName : Option String)
  (lease : Option Ledger.ResourceLease) (context : AuthorityCallContext) (reasonCode : String)
  (identity : Identity)

def validateContext : Action Unit :=
  liftExcept id (context.validateFor .current)

def namespaceDenied : Rejection :=
  ⟨"NAMESPACE_AUTHORITY_DENIED", "authenticated Principal does not own this namespace"⟩

/-- The first mutation binds a namespace to its principal. -/
def bindNamespace (principal : Principal) : Action Unit := do
  let s ← get
  match s.namespaceOwners[context.ns]? with
  | none =>
    set { s with namespaceOwners := s.namespaceOwners.insert context.ns principal.identity }
  | some owner => rejectIf (owner ≠ principal.identity) namespaceDenied

def requireNamespaceOwner (principal : Principal) : Action Unit := do
  let s ← get
  rejectIf ((s.namespaceOwners[context.ns]?).any (· ≠ principal.identity)) namespaceDenied

/-! ### Names -/

def releaseName : String :=
  "lease-" ++ context.effectiveIdempotencyKey

def leaseName : Identity := ⟨releaseName context, 1⟩

/-- The runtime name of an object: its id in the default namespace, and a name that spells out
namespace, id and generation elsewhere. -/
def scopedRuntimeName (kind : String) (object : ObjectRef) : String :=
  if object.ns = default then object.identity.id
  else
    kind ++ "-n" ++ toString object.ns.asStr.utf8ByteSize ++ "-" ++ object.ns.asStr ++ "-i" ++
      toString object.identity.id.utf8ByteSize ++ "-" ++ object.identity.id ++ "-g" ++
      toString object.identity.generation

def leaseInternalName : String :=
  scopedRuntimeName "lease" (context.objectRef identity)

/-! ### Lookups -/

/-- The ledger's lease of an identity in the namespace of the call. -/
def leaseFor : Action Ledger.ResourceLease := do
  let s ← get
  let name ← okOr (s.leases[context.objectRef identity]?)
    ⟨"LEASE_NOT_FOUND", "lease is unknown in this namespace"⟩
  let now ← ask env.now
  ledgerCall (Ledger.getLease now name)

/-- Whether the expiry of a lease is not in the future. -/
def isLapsed (lease : Ledger.ResourceLease) : Action Bool :=
  match lease.expiresAtUnixMs with
  | none => return false
  | some expiry => return expiry ≤ (← ask env.now)

def workerNotFound : Rejection :=
  ⟨"WORKER_NOT_FOUND", "worker is not managed by this Kernel"⟩

/-- The runtime name of a worker in the namespace of the call; in the default namespace the id
itself serves when the worker is not indexed. -/
def Core.workerInstanceName? (s : Core) (ns : NamespaceId) (identity : Identity) :
    Option String :=
  (s.workers[(⟨ns, identity⟩ : ObjectRef)]?).or
    (if ns = default then some identity.id else none)

def workerInstanceName (context : AuthorityCallContext) (identity : Identity) :
    Action String := do
  let s ← get
  okOr (s.workerInstanceName? context.ns identity) workerNotFound

/-- The lease as the contract shows it. -/
def semanticLease (object : ObjectRef) (lease : Ledger.ResourceLease) : Lease where
  identity := object.identity
  holder := lease.holder
  resources := lease.allocations.map (·.resource)
  state := lease.state.toSemantic
  fenceToken := lease.fenceToken
  expiresAtUnixMs := lease.expiresAtUnixMs

/-! ### The journal -/

/-- A record of the running kernel. -/
def Core.record (c : Core) (event : RuntimeJournalEvent) (instanceName : Option String)
    (lease : Option Ledger.ResourceLease) (reasonCode : String)
    (evidence : Option RuntimeProcessEvidence) : RuntimeJournalRecord where
  event := event
  nodeId := c.nodeId
  nodeEpoch := c.nodeEpoch
  instanceName := instanceName
  leaseName := lease.map (·.name)
  fenceToken := lease.map (·.fenceToken)
  reasonCode := reasonCode
  runtimeEvidence := evidence

/-- The objects after records were appended to the journal. -/
def Core.log (c : Core) (records : List RuntimeJournalRecord) : Core :=
  { c with journal := c.journal ++ records }

/-- Append a record to the journal. -/
def appendRecord (evidence : Option RuntimeProcessEvidence) : Action Unit := do
  let outcome ← ask env.append
  liftExcept providerRejection outcome
  modify fun s => { s with
    toCore := s.toCore.log [s.toCore.record event instanceName lease reasonCode evidence] }

def recordRuntime : Action Unit :=
  appendRecord env event instanceName lease reasonCode none

def recordRuntimeLaunch (instanceName : String) (lease : Ledger.ResourceLease)
    (evidence : RuntimeProcessEvidence) : Action Unit :=
  appendRecord env .instanceLaunched (some instanceName) (some lease) "WORKER_LAUNCHED"
    (some evidence)

end Helpers

end CyreneKernel
