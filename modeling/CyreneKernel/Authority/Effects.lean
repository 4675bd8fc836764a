import CyreneKernel.Authority.Rules

/-!
# The effects of the authority on its objects

Every call of the authority is a sequence of the effects listed here, each with the guards under
which the code reaches it.  Some of them touch several maps at once: a process is stopped together
with the lease it runs on, and a worker is lost together with its lease, its operations and its
endpoint authority.  An effect that concerns a process or a revocation carries the journal records
that are due for it; they are all written unless the journal fails.

What distinguishes one call from another is its `Scope`: the namespaces it acts in, and the objects
it may touch beyond them.  The invariants of the authority are proved from the effects, and the
conditions of the conditional ones are conditions on the scope.
-/

namespace CyreneKernel

open Lib Relation
open Ledger (ResourceLease ResourceRequest)

/-- No process was started on the lease of this name. -/
def Core.Idle (c : Core) (leaseName : String) : Prop :=
  ∀ {name : String} {process : ManagedProcess} {lease : ResourceLeaseRef},
    c.instances[name]? = some process → process.lease = some lease → lease.leaseName ≠ leaseName

/-- No object has the lease of this name. -/
def Core.Unindexed (c : Core) (leaseName : String) : Prop :=
  ∀ object : ObjectRef, c.leases[object]? ≠ some leaseName

/-- The lease stored under its own name. -/
def Core.Stores (c : Core) (lease : ResourceLease) : Prop :=
  c.ledger.leases.get? lease.name = some lease

/-- The journal has the termination of a worker that ran on the lease of this name. -/
def Core.Terminated (c : Core) (worker : Worker) (leaseName : String) : Prop :=
  ∃ record ∈ c.journal, record.event = .instanceTerminated ∧
    record.instanceName = some worker.identity.id ∧ record.leaseName = some leaseName

/-- The processes that were started on the lease of this name are gone, and the journal has it. -/
def Core.Cleared (c : Core) (leaseName : String) : Prop :=
  ∀ ⦃name : String⦄ ⦃process : ManagedProcess⦄ ⦃worker : Worker⦄ ⦃lease : ResourceLeaseRef⦄,
    c.instances[name]? = some process → process.semanticWorker = some worker →
    process.lease = some lease → lease.leaseName = leaseName →
    process.actor.process.handle = none ∧ c.Terminated worker leaseName

@[simp] theorem Core.log_nil (c : Core) : c.log [] = c := by
  simp [Core.log]

theorem Core.log_log (c : Core) (records records' : List RuntimeJournalRecord) :
    (c.log records).log records' = c.log (records ++ records') := by
  simp [Core.log]

variable {c : Core} {leaseName : String}

theorem Core.Terminated.log {worker : Worker} (h : c.Terminated worker leaseName)
    (records : List RuntimeJournalRecord) : (c.log records).Terminated worker leaseName := by
  obtain ⟨record, hmem, hrecord⟩ := h
  exact ⟨record, List.mem_append_left _ hmem, hrecord⟩

theorem Core.Cleared.log (h : c.Cleared leaseName) (records : List RuntimeJournalRecord) :
    (c.log records).Cleared leaseName := by
  intro name process worker lease hprocess hworker hlease hname
  obtain ⟨hhandle, hterminated⟩ := h hprocess hworker hlease hname
  exact ⟨hhandle, hterminated.log records⟩

theorem Core.Idle.cleared (h : c.Idle leaseName) : c.Cleared leaseName :=
  fun _ _ _ _ hprocess _ hlease hname => absurd hname (h hprocess hlease)

/-- What a process is bound to: the lease it was started on, its worker and the worker's lease. -/
def ManagedProcess.binding (process : ManagedProcess) :
    Option ResourceLeaseRef × Option (Identity × Identity) :=
  (process.lease, process.semanticWorker.map fun worker => (worker.identity, worker.lease))

theorem worker_of_binding {process process' : ManagedProcess} {worker : Worker}
    (h : process'.binding = process.binding) (hworker : process'.semanticWorker = some worker) :
    ∃ stored, process.semanticWorker = some stored ∧ stored.identity = worker.identity ∧
      stored.lease = worker.lease := by
  have hmap := congrArg Prod.snd h
  simp only [ManagedProcess.binding] at hmap
  rw [hworker, Option.map_some, eq_comm, Option.map_eq_some_iff] at hmap
  obtain ⟨stored, hstored, heq⟩ := hmap
  exact ⟨stored, hstored, Prod.mk.inj heq⟩

/-- The events that say nothing about a process. -/
def RuntimeJournalEvent.isNeutral : RuntimeJournalEvent → Bool
  | .instanceLaunched | .instanceTerminated | .watchdogReaped => false
  | _ => true

namespace Authority

/-- What a call may touch. -/
structure Scope where
  /-- The namespaces the call acts in. -/
  namespaces : NamespaceId → Prop
  /-- The workers whose endpoint authority the call may remove. -/
  purges : Identity → Prop
  /-- The runtime names under which the call may change a control session. -/
  sessions : String → Prop
  /-- The leases that the call may stop a process for, with the worker of the process. -/
  stops : ResourceLease → Worker → Prop
  /-- The workers that the call may start. -/
  starts : ObjectRef → Prop
  /-- The endpoints that the call may publish. -/
  publishes : ObjectRef → Prop
  /-- The operations that the call stores under an object, over what was stored there. -/
  remembers : ObjectRef → Option Operation → Operation → Prop
  /-- The changes that the call may make to a stored operation. -/
  advances : ObjectRef → Operation → Operation → Prop
  /-- The leases that the call may revoke although no process was started on them. -/
  revokes : String → Prop
  /-- The leases that the call may end with their worker, or whose resources it may give up. -/
  frees : String → Prop
  /-- The records that the call may store for a provider, over what was stored there. -/
  providers : ProviderKey → Option ProviderRecord → ProviderRecord → Prop
  /-- The journal may refuse a record. -/
  faulty : Prop

/-- The records that are written of those that are due: all of them, unless the journal fails. -/
structure Writes (faulty : Prop) (due records : List RuntimeJournalRecord) : Prop where
  sublist : records.Sublist due
  complete : records = due ∨ faulty

namespace Writes

variable {faulty faulty' : Prop} {due records : List RuntimeJournalRecord}

theorem all (faulty : Prop) (due : List RuntimeJournalRecord) : Writes faulty due due :=
  ⟨.refl due, .inl rfl⟩

theorem of_faulty (h : faulty) (hsublist : records.Sublist due) : Writes faulty due records :=
  ⟨hsublist, .inr h⟩

theorem mono (h : Writes faulty due records) (hfaulty : faulty → faulty') :
    Writes faulty' due records :=
  ⟨h.sublist, h.complete.imp_right hfaulty⟩

end Writes

/-- The state of a worker after its process was stopped. -/
def stoppedState : Except ProviderError CleanupReport → WorkerState
  | .error _ => .draining
  | .ok report => if report.complete then .stopped else .failed

/-- The state of a lease after the process that runs on it was stopped. -/
def stoppedLeaseState : Except ProviderError CleanupReport → Ledger.LeaseState
  | .error _ => .failed
  | .ok report => if report.complete then .releasing else .failed

/-- A process with the binding of another one, which keeps the states that were assigned there. -/
structure Inherits (process process' : ManagedProcess) : Prop where
  binding_eq : process'.binding = process.binding
  history : process.history <:+ process'.history

namespace Inherits

variable {process process' process'' : ManagedProcess}

theorem refl (process : ManagedProcess) : Inherits process process := ⟨rfl, List.suffix_rfl⟩

theorem trans (h : Inherits process process') (h' : Inherits process' process'') :
    Inherits process process'' :=
  ⟨h'.binding_eq.trans h.binding_eq, h.history.trans h'.history⟩

/-- A state is assigned to the worker. -/
theorem assign (state : WorkerState) (hlease : process'.lease = process.lease)
    (hworker : process'.semanticWorker = process.semanticWorker.map ({ · with state := state }))
    (hhistory : process'.history = state :: process.history) : Inherits process process' := by
  refine ⟨?_, hhistory ▸ List.suffix_cons state process.history⟩
  rw [ManagedProcess.binding, hlease, hworker, Option.map_map]
  rfl

end Inherits

variable (s : Ledger.State) (lease : ResourceLease) (process : ManagedProcess)
  (outcome : Except ProviderError CleanupReport)

/-- The ledger after the process of a lease was stopped. -/
def stopLease (result : Except ProviderError CleanupReport) : Ledger.State :=
  if lease.state = .released then s
  else s.put { lease with state := stoppedLeaseState result }

/-- The process after the sandbox was asked to stop it: it drains first, and a failed stop leaves it
at that. -/
def stoppedProcess : ManagedProcess :=
  let draining := { process.withState .draining with actor := (process.actor.stop outcome).2 }
  match (process.actor.stop outcome).1 with
  | .error _ => draining
  | .ok report => draining.withState (if report.complete then .stopped else .failed)

theorem stoppedProcess_actor :
    (stoppedProcess process outcome).actor = (process.actor.stop outcome).2 := by
  unfold stoppedProcess
  split <;> rfl

theorem withState_semanticWorker {process : ManagedProcess} {worker : Worker}
    (hworker : process.semanticWorker = some worker) (state : WorkerState) :
    (process.withState state).semanticWorker = some { worker with state := state } := by
  rw [ManagedProcess.withState, hworker, Option.map_some]

theorem stoppedProcess_semanticWorker {process : ManagedProcess} {worker : Worker}
    (hworker : process.semanticWorker = some worker)
    (outcome : Except ProviderError CleanupReport) :
    (stoppedProcess process outcome).semanticWorker =
      some { worker with state := stoppedState (process.actor.stop outcome).1 } := by
  unfold stoppedProcess stoppedState
  split <;> simp only [ManagedProcess.withState, hworker, Option.map_some]

theorem inherits_stoppedProcess : Inherits process (stoppedProcess process outcome) := by
  have hdraining : Inherits process
      { process.withState .draining with actor := (process.actor.stop outcome).2 } :=
    .assign .draining rfl rfl rfl
  unfold stoppedProcess
  split
  · exact hdraining
  · exact hdraining.trans (.assign _ rfl rfl rfl)

/-- The ledger after the loss of the worker that holds a lease. -/
def revokeIfRevocable : Ledger.State :=
  if isRevocable lease.state then s.revokeLease lease else s

/-- Whether the loss of a worker revokes a lease in this state, or finishes its revocation. -/
def isRevoking (state : Ledger.LeaseState) : Bool := isRevocable state || state = .revoked

/-- The lease of a lost worker. -/
def revokedLease : ResourceLease :=
  if isRevocable lease.state then s.revoked lease else lease

/-- The record that is due after the stop of a process. -/
def terminationRecords (c : Core) (worker : Worker) (lease : ResourceLease) (reasonCode : String) :
    Except ProviderError CleanupReport → List RuntimeJournalRecord
  | .ok report =>
    if report.complete then
      [c.record .instanceTerminated (some worker.identity.id) (some lease) reasonCode none]
    else []
  | .error _ => []

/-- The records that are due after a revocation. -/
def revocationRecords (c : Core) (instanceName : Option String) (revoked : ResourceLease)
    (reasonCode : String) : List RuntimeJournalRecord :=
  [c.record .leaseRevoked instanceName (some revoked) reasonCode none,
    c.record .fenceAdvanced instanceName (some revoked) reasonCode none]

/-- The records that are due after the loss of a worker, given how its process was stopped. -/
def lossRecords (c : Core) (name : String) (worker : Worker) (lease : ResourceLease)
    (reasonCode terminationCode : String) (result : Except ProviderError CleanupReport) :
    List RuntimeJournalRecord :=
  if isRevoking lease.state then
    revocationRecords c (some name) (revokedLease c.ledger lease) reasonCode ++
      terminationRecords c worker (revokedLease c.ledger lease) terminationCode result
  else []

/-- The objects after the loss of a worker. -/
def loss (c : Core) (name : String) (process : ManagedProcess) (actor : InstanceActor)
    (worker : Identity) (lease : ResourceLease) : Core :=
  purge worker (loseOperations worker { c with
    ledger := revokeIfRevocable c.ledger lease
    instances := c.instances.insert name (lostProcess process actor) })

variable (Γ : Scope)

/-- The effects of losing workers and expiring leases. -/
inductive LossEffect (c : Core) : Core → Prop
  | lapse (now : Nat) : LossEffect c (c.lapse now)
  | record (event : RuntimeJournalEvent) (instanceName : Option String)
      (lease : Option ResourceLease) (reasonCode : String) (hneutral : event.isNeutral = true) :
      LossEffect c (c.log [c.record event instanceName lease reasonCode none])
  | lose {ns : NamespaceId} {name : String} {process : ManagedProcess} {worker : Worker}
      {lease : ResourceLease} {reasonCode terminationCode : String}
      {records : List RuntimeJournalRecord} (outcome : Except ProviderError CleanupReport)
      (hns : Γ.namespaces ns) (hpurge : Γ.purges worker.identity)
      (hname : c.workerInstanceName? ns worker.identity = some name)
      (hprocess : c.instances[name]? = some process)
      (hworker : process.semanticWorker = some worker)
      (hstate : worker.state.canTransitionTo .lost = true)
      (hleased : c.leases[(⟨ns, worker.lease⟩ : ObjectRef)]? = some lease.name)
      (hlease : c.Stores lease) (hfree : Γ.frees lease.name)
      (hrecords : Writes Γ.faulty (lossRecords c name worker lease reasonCode terminationCode
        (process.actor.stop outcome).1) records) :
      LossEffect c
        ((loss c name process (process.actor.stop outcome).2 worker.identity lease).log records)
  | reclaim {lease : ResourceLease} (hlease : c.Stores lease) (hstate : lease.state = .revoked)
      (hfree : Γ.frees lease.name) (hcleared : c.Cleared lease.name) :
      LossEffect c { c with ledger := c.ledger.free lease }
  | expire {lease : ResourceLease} {reasonCode : String} {records : List RuntimeJournalRecord}
      (hlease : c.Stores lease) (hstate : isRevocable lease.state = true)
      (hidle : c.Idle lease.name) (hrevoke : Γ.revokes lease.name)
      (hrecords : Writes Γ.faulty (revocationRecords c none (c.ledger.revoked lease) reasonCode)
        records) :
      LossEffect c (({ c with ledger := c.ledger.revokeLease lease } : Core).log records)

/-- The effects of the calls of the authority. -/
inductive Effect (c : Core) : Core → Prop
  | loss {c' : Core} (h : LossEffect Γ c c') : Effect c c'
  | inventory (generation : Nat) (resources : Index fun r : Resource => r.identity.id)
      (quarantined : BTreeSet String) :
      Effect c { c with ledger := { c.ledger with
        generation := generation
        resources := resources
        quarantined := quarantined } }
  | grant {request : ResourceRequest} (resources : List Resource)
      (hnew : c.ledger.leases.get? request.leaseName = none) :
      Effect c { c with ledger := c.ledger.grant request resources }
  | index {object : ObjectRef} {lease : ResourceLease} (hns : Γ.namespaces object.ns)
      (hname : lease.name = scopedRuntimeName "lease" object) (hlease : c.Stores lease)
      (hnew : c.Unindexed lease.name)
      (hrecord : ∃ record ∈ c.journal, record.nodeId = c.nodeId ∧
        record.fenceToken = some lease.fenceToken) :
      Effect c { c with leases := c.leases.insert object lease.name }
  | renew {lease : ResourceLease} (expiresAtUnixMs : Nat) (hlease : c.Stores lease)
      (hstate : lease.state = .active) :
      Effect c { c with
        ledger := c.ledger.put { lease with expiresAtUnixMs := some expiresAtUnixMs } }
  | begin {lease : ResourceLease} (hlease : c.Stores lease) (hstate : lease.state = .active)
      (hidle : c.Idle lease.name) :
      Effect c { c with ledger := c.ledger.put { lease with state := .releasing } }
  | fail {lease : ResourceLease} (hlease : c.Stores lease) (hstate : lease.state = .active) :
      Effect c { c with ledger := c.ledger.put { lease with state := .failed } }
  | discard {lease : ResourceLease} (hlease : c.Stores lease) (hstate : lease.state = .releasing)
      (hunindexed : c.Unindexed lease.name) :
      Effect c { c with ledger := (c.ledger.free lease).put { lease with state := .released } }
  | release {lease : ResourceLease} (hlease : c.Stores lease) (hstate : lease.state = .releasing)
      (hpurge : Γ.purges lease.holder) (hcleared : c.Cleared lease.name) :
      Effect c (purge lease.holder { c with
        ledger := (c.ledger.free lease).put { lease with state := .released } })
  | purge {worker : Identity} (hpurge : Γ.purges worker) : Effect c (purge worker c)
  | stop {object : ObjectRef} {name : String} {process : ManagedProcess} {worker : Worker}
      {lease : ResourceLease} {reasonCode : String} {records : List RuntimeJournalRecord}
      (outcome : Except ProviderError CleanupReport)
      (hns : Γ.namespaces object.ns) (hstop : Γ.stops lease worker)
      (hprocess : c.instances[name]? = some process)
      (hworker : process.semanticWorker = some worker)
      (hleased : c.leases[object]? = some lease.name) (hlease : c.Stores lease)
      (hfence : process.lease = some ⟨lease.name, lease.fenceToken⟩)
      (hstate : isReleasable lease.state = true)
      (hrecords : Writes Γ.faulty (terminationRecords c worker lease reasonCode
        (process.actor.stop outcome).1) records) :
      Effect c (({ c with
        ledger := stopLease c.ledger lease (process.actor.stop outcome).1
        instances := c.instances.insert name (stoppedProcess process outcome) } : Core).log records)
  | launch {ns : NamespaceId} {process : ManagedProcess} {worker : Worker}
      {lease : ResourceLease} {evidence : Journal.RuntimeProcessEvidence} (hns : Γ.namespaces ns)
      (hnew : c.workers[(⟨ns, worker.identity⟩ : ObjectRef)]? = none)
      (hworker : process.semanticWorker = some worker) (hstarting : worker.state = .starting)
      (hhistory : process.history = [worker.state])
      (hleased : c.leases[(⟨ns, worker.lease⟩ : ObjectRef)]? = some lease.name)
      (hlease : c.Stores lease) (hstate : lease.state = .active)
      (hholder : lease.holder = worker.identity)
      (hfence : process.lease = some ⟨lease.name, lease.fenceToken⟩)
      (hstart : Γ.starts ⟨ns, worker.identity⟩)
      (hevidence : process.actor.recoveryEvidence = .ok evidence) :
      Effect c (({ c with
        instances :=
          c.instances.insert (scopedRuntimeName "worker" ⟨ns, worker.identity⟩) process
        workers :=
          c.workers.insert ⟨ns, worker.identity⟩
            (scopedRuntimeName "worker" ⟨ns, worker.identity⟩) } : Core).log
        [c.record .instanceLaunched (some worker.identity.id) (some lease) "WORKER_LAUNCHED"
          (some evidence)])
  | run {ns : NamespaceId} {name : String} {process : ManagedProcess} {worker : Worker}
      (actor : InstanceActor) (heartbeatAt : Option Nat) (hns : Γ.namespaces ns)
      (hname : c.workerInstanceName? ns worker.identity = some name)
      (hprocess : c.instances[name]? = some process)
      (hworker : process.semanticWorker = some worker)
      (hstate : worker.state.canTransitionTo .running = true)
      (hactor : actor.process = process.actor.process) :
      Effect c { c with instances := c.instances.insert name { process.withState .running with
        actor := actor
        lastHeartbeatAt := heartbeatAt } }
  | session {name : String} {process process' : ManagedProcess} (hsession : Γ.sessions name)
      (hprocess : c.instances[name]? = some process)
      (hworker : process'.semanticWorker = process.semanticWorker)
      (hlease : process'.lease = process.lease)
      (hactor : process'.actor.process = process.actor.process)
      (hhistory : process'.history = process.history) :
      Effect c { c with instances := c.instances.insert name process' }
  | create {object : ObjectRef} {operation : Operation} (hns : Γ.namespaces object.ns)
      (hnew : c.semanticOperations[object]? = none) :
      Effect c { c with semanticOperations := c.semanticOperations.insert object operation }
  | advance {object : ObjectRef} {operation operation' : Operation} (hns : Γ.namespaces object.ns)
      (hstored : c.semanticOperations[object]? = some operation)
      (hsame : operation.SameAuthority operation')
      (hstate : operation.state.canTransitionTo operation'.state = true)
      (hadvance : Γ.advances object operation operation') :
      Effect c { c with semanticOperations := c.semanticOperations.insert object operation' }
  | remember {object : ObjectRef} {operation : Operation} (hns : Γ.namespaces object.ns)
      (hremember : Γ.remembers object (c.semanticOperations[object]?) operation) :
      Effect c { c with semanticOperations := c.semanticOperations.insert object operation }
  | publish {ns : NamespaceId} {name : String} {process : ManagedProcess} {worker : Worker}
      {lease : ResourceLease} {endpoint : Endpoint} (hns : Γ.namespaces ns)
      (hname : c.workerInstanceName? ns endpoint.owner = some name)
      (hprocess : c.instances[name]? = some process)
      (hworker : process.semanticWorker = some worker) (howner : worker.identity = endpoint.owner)
      (hleased : c.leases[(⟨ns, worker.lease⟩ : ObjectRef)]? = some lease.name)
      (hlease : c.Stores lease) (hstate : lease.state = .active)
      (hholder : lease.holder = worker.identity)
      (hpublish : Γ.publishes ⟨ns, endpoint.identity⟩) :
      Effect c (publish ns endpoint c)
  | authorize {ns : NamespaceId} {endpoint : Endpoint} {lease : ResourceLease}
      {grant : EndpointGrant} (hns : Γ.namespaces ns)
      (hendpoint : c.endpoints[(⟨ns, grant.endpoint⟩ : ObjectRef)]? = some endpoint)
      (hleased : c.leases[(⟨ns, grant.lease⟩ : ObjectRef)]? = some lease.name)
      (hlease : c.Stores lease) (hstate : lease.state = .active)
      (hholder : lease.holder = grant.grantee) (hfence : lease.fenceToken = grant.fenceToken) :
      Effect c { c with
        endpointGrants := c.endpointGrants.insert ⟨ns, grant.identity⟩ grant }
  | unauthorize {object : ObjectRef} (hns : Γ.namespaces object.ns) :
      Effect c { c with endpointGrants := c.endpointGrants.erase object }
  | provider {key : ProviderKey} {record : ProviderRecord}
      (hprovider : Γ.providers key (c.providers[key]?) record) :
      Effect c { c with providers := c.providers.insert key record }

/-- A sequence of losses and expiries within a scope. -/
abbrev LossPath : Core → Core → Prop := ReflTransGen (LossEffect Γ)

/-- A sequence of effects within a scope. -/
abbrev Path : Core → Core → Prop := ReflTransGen (Effect Γ)

/-- From `c` the action follows a path of effects from `c₀`, also when it fails. -/
abbrev Follows {α : Type} (c₀ : Core) (m : Action α) (c : Core) : Prop :=
  Does m c (fun _ => Path Γ c₀) (Path Γ c₀)

/-! ### Processes -/

/-- The start of a worker. -/
structure Starts (object : ObjectRef) (process : ManagedProcess) (c c' : Core) : Prop where
  new : c.workers[object]? = none
  workers : c'.workers = c.workers.insert object (scopedRuntimeName "worker" object)
  instances : c'.instances = c.instances.insert (scopedRuntimeName "worker" object) process

/-- The workers are the same, and every process inherits from the one before. -/
structure Sustains (c c' : Core) : Prop where
  workers : c'.workers = c.workers
  instances : ∀ name : String, Option.Rel Inherits c.instances[name]? c'.instances[name]?

variable {Γ : Scope} {c c' : Core} {name : String} {process process' : ManagedProcess}

theorem Sustains.of_eq (hworkers : c'.workers = c.workers)
    (hinstances : c'.instances = c.instances) : Sustains c c' := by
  refine ⟨hworkers, fun name => ?_⟩
  rw [hinstances]
  cases c.instances[name]? with
  | none => exact .none
  | some process => exact .some (.refl process)

theorem Sustains.insert (hprocess : c.instances[name]? = some process)
    (hworkers : c'.workers = c.workers)
    (hinstances : c'.instances = c.instances.insert name process')
    (h : Inherits process process') : Sustains c c' := by
  refine ⟨hworkers, fun n => ?_⟩
  rw [hinstances, BTreeMap.getElem?_insert]
  split
  · next heq => exact heq ▸ hprocess ▸ .some h
  · exact (Sustains.of_eq (c := c) rfl rfl).instances n

theorem Sustains.before (h : Sustains c c') (hprocess : c'.instances[name]? = some process') :
    ∃ process, c.instances[name]? = some process ∧ Inherits process process' := by
  have hrel := h.instances name
  rw [hprocess] at hrel
  generalize c.instances[name]? = before at hrel ⊢
  cases hrel with
  | some hinherits => exact ⟨_, rfl, hinherits⟩

theorem Sustains.after (h : Sustains c c') (hprocess : c.instances[name]? = some process) :
    ∃ process', c'.instances[name]? = some process' ∧ Inherits process process' := by
  have hrel := h.instances name
  rw [hprocess] at hrel
  generalize c'.instances[name]? = after at hrel ⊢
  cases hrel with
  | some hinherits => exact ⟨_, rfl, hinherits⟩

theorem LossEffect.sustains (h : LossEffect Γ c c') : Sustains c c' := by
  cases h with
  | lose outcome hns hpurge hname hprocess =>
    exact .insert hprocess rfl rfl (.assign .lost rfl rfl rfl)
  | _ => exact .of_eq rfl rfl

/-- Only the start of a worker can replace a process. -/
theorem Effect.sustains_or_starts (h : Effect Γ c c') :
    Sustains c c' ∨ ∃ object process, Γ.starts object ∧
      process.semanticWorker.map (·.identity) = some object.identity ∧
      Starts object process c c' := by
  cases h with
  | loss hloss => exact .inl hloss.sustains
  | stop outcome hns hstop hprocess =>
    exact .inl (.insert hprocess rfl rfl (inherits_stoppedProcess _ _))
  | launch hns hnew hworker _ _ _ _ _ _ _ hstart =>
    exact .inr ⟨_, _, hstart, by rw [hworker, Option.map_some], hnew, rfl, rfl⟩
  | run actor heartbeatAt hns hname hprocess =>
    exact .inl (.insert hprocess rfl rfl (.assign .running rfl rfl rfl))
  | session hsession hprocess hworker hlease hactor hhistory =>
    refine .inl (.insert hprocess rfl rfl ⟨?_, by rw [hhistory]⟩)
    rw [ManagedProcess.binding, hworker, hlease]
    rfl
  | _ => exact .inl (.of_eq rfl rfl)

end Authority

end CyreneKernel
