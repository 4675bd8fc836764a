import CyreneKernel.Authority.ProviderEffects

/-!
# Every call is a path of effects

`Call.scope` says what a call may touch, in terms of its arguments and of the objects before the
call.  Every call is a path of effects within its scope, and with it every state that the
authority reaches is coherent.  The properties of the authority are proved from the effects and
the scopes; no action is looked at again.

## Main definitions

* `Call.scope`: what a call may touch.

## Main results

* `step_path`: a call is a path of effects within its scope.
* `coherent_of_reachable`: the invariant holds in every reachable state.
-/

namespace CyreneKernel

open Lib Relation
open Ledger (ResourceLease)

namespace Authority

/-- A scope in which nothing may be touched except the objects of the given namespaces. -/
def Scope.within (env : Environment) (namespaces : NamespaceId → Prop) : Scope where
  namespaces := namespaces
  purges _ := False
  sessions _ := False
  stops _ _ := False
  starts _ := False
  publishes _ := False
  remembers _ _ _ := False
  advances _ _ _ := False
  revokes _ := False
  frees _ := False
  providers _ _ _ := False
  faulty := env.Faulty

/-- The release of a lease by its current fence token stops the process that was started on it. -/
def ReleaseStops (c : Core) (object : ObjectRef) (fenceToken : Nat) (lease : ResourceLease)
    (worker : Worker) : Prop :=
  c.leases[object]? = some lease.name ∧ c.Stores lease ∧ lease.fenceToken = fenceToken ∧
    ∃ (name : String) (process : ManagedProcess), c.instances[name]? = some process ∧
      process.semanticWorker = some worker ∧ process.lease = some ⟨lease.name, fenceToken⟩

/-- The operation that the start of a worker stores. -/
def startOperation (principal : Principal) (worker : Worker) : Operation :=
  workerOperation "start" { worker with principal := principal.identity, state := .starting }
    .running

/-- The operations that stopping a worker on an active lease may store. -/
def IsStopOperation (c : Core) (ns : NamespaceId) (worker leaseIdentity : Identity)
    (operation : Operation) : Prop :=
  ∃ (lease : ResourceLease) (name : String) (process : ManagedProcess) (stored : Worker)
    (state : OperationState), c.leases[(⟨ns, leaseIdentity⟩ : ObjectRef)]? = some lease.name ∧
    c.Stores lease ∧ lease.state = .active ∧
    c.workerInstanceName? ns worker = some name ∧ c.instances[name]? = some process ∧
      process.semanticWorker = some stored ∧ stored.identity = worker ∧
      (state = .succeeded ∨ state = .failed) ∧ operation = workerOperation "stop" stored state

/-- What a call may touch. -/
def Call.scope (env : Environment) (s : AuthorityRuntime) : Call → Scope
  | acquireLease context .. | renewLease context .. | reportHeartbeat context ..
  | acceptWorkerControlHeartbeat context .. | createOperation context ..
  | authorizeEndpoint context .. | revokeEndpoint context ..
  | snapshot context .. | readEvents context .. =>
    .within env (· = context.ns)
  | releaseLease context _ lease fenceToken =>
    { Scope.within env (· = context.ns) with
      purges := fun worker => ∃ stored : ResourceLease,
        s.leases[context.objectRef lease]? = some stored.name ∧ s.toCore.Stores stored ∧
          stored.holder = worker
      stops := ReleaseStops s.toCore (context.objectRef lease) fenceToken }
  | publishEndpoint context _ endpoint =>
    { Scope.within env (· = context.ns) with
      publishes := (· = context.objectRef endpoint.identity) }
  | reportOperation context .. | cancellationDeadline context .. =>
    { Scope.within env (· = context.ns) with
      advances := fun object operation _ => s.semanticOperations[object]? = some operation }
  | cancelOperation context _ identity =>
    { Scope.within env (· = context.ns) with
      advances := Cancels (context.objectRef identity) }
  | startWorker context principal worker =>
    { Scope.within env (· = context.ns) with
      starts := (· = context.objectRef worker.identity)
      remembers := fun object stored operation =>
        object = context.objectRef operation.identity ∧ stored = s.semanticOperations[object]? ∧
          s.workers[context.objectRef worker.identity]? = none ∧
          operation = startOperation principal worker }
  | stopWorker context _ worker lease _ =>
    { Scope.within env (· = context.ns) with
      purges := (· = worker)
      stops := fun lease _ => lease.state = .active
      remembers := fun object stored operation =>
        object = context.objectRef operation.identity ∧ stored = s.semanticOperations[object]? ∧
          IsStopOperation s.toCore context.ns worker lease operation }
  | markWorkerLost context worker _ =>
    { Scope.within env (· = context.ns) with
      purges := (· = worker)
      frees := fun _ => True }
  | reconcileProvider context _ provider =>
    { Scope.within env (· = context.ns) with
      purges := fun identity => ∃ worker, Recorded s.toCore context.ns provider worker ∧
        worker.identity = identity
      frees := fun _ => True
      providers := Reviews (env.now s.tick) context.ns provider }
  | registerProvider context principal provider =>
    { Scope.within env (· = context.ns) with
      providers := OpensOver context.ns principal provider }
  | registerResourceFactsProvider context principal provider =>
    { Scope.within env (· = context.ns) with
      providers := fun key stored record =>
        OpensOver context.ns principal provider key stored record ∨ KeepsFacts stored record }
  | publishInventory context _ inventory =>
    { Scope.within env (· = context.ns) with providers := Observes context.ns inventory }
  | confirmStaleWorkerTermination context .. =>
    { Scope.within env (· = context.ns) with providers := fun _ => KeepsFacts }
  | enforceLeaseExpiry => scanScope env s.toCore (env.now s.tick)
  | registerSemanticWorkerControl context worker _ _
  | acceptSemanticShutdownAck context worker _ _ _ _ =>
    { Scope.within env (· = context.ns) with sessions := (· = worker.id) }
  | unregisterSemanticWorkerControl workerId _ _ | requestSemanticWorkerShutdown workerId =>
    { Scope.within env fun _ => False with sessions := (· = workerId) }
  | attachTransportChannel instanceName =>
    { Scope.within env fun _ => False with sessions := (· = instanceName) }
  | refreshInventory _ | quarantine _ _ => .within env fun _ => False

variable {env : Environment} {s : AuthorityRuntime}

theorem finalState_effectOf {α : Type} (m : Action α) (s : AuthorityRuntime) :
    finalState (effectOf m s) = finalState (m s) := by
  change finalState (EStateM.bind m (fun _ => pure ()) s) = _
  unfold EStateM.bind
  cases m s <;> rfl

theorem path_effectOf {Γ : Scope} {α : Type} {m : Action α}
    (h : Does m s.toCore (fun _ => Path Γ s.toCore) (Path Γ s.toCore)) :
    Path Γ s.toCore (finalState (effectOf m s)).toCore := by
  rw [finalState_effectOf]
  exact Holds.finalState h

theorem path_of_quiet {Γ : Scope} {α : Type} {m : Action α} (h : Quiet m) :
    Path Γ s.toCore (finalState (effectOf m s)).toCore :=
  path_effectOf (h.holds_of .refl fun _ => .refl)

theorem path_of_and {Γ : Scope} {α : Type} {m : Action α} {Q : α → Core → Prop}
    (h : Does m s.toCore (fun a c' => Path Γ s.toCore c' ∧ Q a c') (Path Γ s.toCore)) :
    Path Γ s.toCore (finalState (effectOf m s)).toCore :=
  path_effectOf (h.mono (fun _ _ h' => h'.1) fun _ h' => h')

/-- A call is a path of effects within its scope. -/
theorem step_path (hc : Coherent s.toCore) (call : Call) :
    Path (call.scope env s) s.toCore (step env s call).toCore := by
  cases call with
  | acquireLease => exact path_of_and (does_acquireLease hc rfl)
  | renewLease => exact path_of_and does_renewLease
  | releaseLease =>
    refine path_of_and (does_releaseLease hc rfl id ?_ ?_)
    · exact fun hleased hlease => ⟨_, hleased, hlease, rfl⟩
    · exact fun hleased hlease hfence hprocess hworker href =>
        ⟨hleased, hlease, hfence, _, _, hprocess, hworker, href⟩
  | startWorker =>
    exact path_effectOf (does_startWorker rfl rfl fun hnew operation hoperation =>
      ⟨rfl, rfl, hnew, hoperation⟩)
  | stopWorker =>
    refine path_effectOf (does_stopWorker hc rfl id rfl id ?_)
    exact fun hleased hlease hactive hname hprocess hworker hidentity hstate operation
        hoperation =>
      ⟨rfl, rfl, _, _, _, _, _, hleased, hlease, hactive, hname, hprocess, hworker, hidentity,
        hstate, hoperation⟩
  | reportHeartbeat => exact path_effectOf (does_reportHeartbeat rfl)
  | acceptWorkerControlHeartbeat => exact path_effectOf (does_acceptWorkerControlHeartbeat rfl)
  | createOperation => exact path_effectOf (does_createOperation rfl)
  | reportOperation => exact path_effectOf (does_reportOperation rfl fun _ => id)
  | cancelOperation => exact path_effectOf (does_cancelOperation rfl fun _ _ _ => id)
  | cancellationDeadline =>
    exact path_effectOf (does_markCancellingOperationLost .refl rfl fun _ _ hstored _ => hstored)
  | publishEndpoint => exact path_effectOf (does_publishEndpoint rfl rfl)
  | authorizeEndpoint => exact path_of_and (does_authorizeEndpoint rfl)
  | revokeEndpoint => exact Holds.finalState (does_revokeEndpoint rfl)
  | markWorkerLost =>
    exact path_effectOf ((does_markWorkerLost hc rfl id rfl fun _ => trivial).mono
      (fun _ _ => LossPath.path) fun _ => LossPath.path)
  | enforceLeaseExpiry =>
    change Path _ _ (finalState (effectOf (Authority.enforceLeaseExpiry env) s)).toCore
    rw [finalState_effectOf]
    exact (scan_lossPath env s hc).path
  | registerProvider => exact path_effectOf (does_registerProvider fun _ _ h => h)
  | registerResourceFactsProvider =>
    exact path_effectOf (does_registerResourceFactsProvider (fun _ _ h => .inl h)
      fun _ _ _ h => .inr h)
  | publishInventory => exact path_effectOf (does_publishInventory fun _ _ h => h)
  | reconcileProvider context principal provider =>
    change Path _ _
      (finalState (effectOf (Authority.reconcileProvider env context principal provider) s)).toCore
    rw [finalState_effectOf]
    exact path_reconcileProvider s hc rfl id (fun _ _ _ h => h)
      (fun hworker => ⟨_, hworker, rfl⟩) fun _ => trivial
  | confirmStaleWorkerTermination =>
    exact Holds.finalState (does_confirmStaleWorkerTermination fun _ _ h => h)
  | snapshot => exact path_of_and does_snapshot
  | readEvents context principal cursor limit => exact path_of_quiet (quiet_readEvents cursor limit)
  | registerSemanticWorkerControl => exact path_effectOf (does_registerSemanticWorkerControl rfl)
  | unregisterSemanticWorkerControl =>
    exact Holds.finalState (does_unregisterSemanticWorkerControl rfl)
  | acceptSemanticShutdownAck => exact Holds.finalState (does_acceptSemanticShutdownAck rfl)
  | requestSemanticWorkerShutdown workerId =>
    exact Holds.finalState (does_requestSemanticWorkerShutdown rfl)
  | attachTransportChannel => exact Holds.finalState (does_attachTransportChannel rfl)
  | refreshInventory => exact Holds.finalState does_refreshInventory
  | quarantine => exact Holds.finalState does_quarantine

/-! ### Reachable states -/

theorem coherent_new (resources : List Resource) (nextFenceToken : Nat) (nodeId : String)
    (nodeEpoch : Nat) :
    Coherent (AuthorityRuntime.new (Ledger.withNextFenceToken resources nextFenceToken) nodeId
      nodeEpoch).toCore where
  lease_name h := absurd h (by simp [AuthorityRuntime.new])
  lease_stored h := absurd h (by simp [AuthorityRuntime.new])
  lease_inj h := absurd h (by simp [AuthorityRuntime.new])
  worker_name h := absurd h (by simp [AuthorityRuntime.new])
  bound h := absurd h (by simp [AuthorityRuntime.new])

theorem Coherent.step (hc : Coherent s.toCore) (call : Call) :
    Coherent (Authority.step env s call).toCore :=
  hc.path (step_path hc call)

theorem Coherent.run (hc : Coherent s.toCore) (calls : List Call) :
    Coherent (Lib.run (Authority.step env) s calls).toCore :=
  run_induction (I := fun s : AuthorityRuntime => Coherent s.toCore) (C := fun _ _ => True) hc
    (fun _ call h _ => h.step call) (along_of_forall (fun _ _ => trivial) _ _)

/-- The invariant holds in every reachable state. -/
theorem coherent_of_reachable (h : Reachable env s) : Coherent s.toCore := by
  obtain ⟨resources, nextFenceToken, nodeId, nodeEpoch, calls, rfl⟩ := h
  exact (coherent_new resources nextFenceToken nodeId nodeEpoch).run calls

/-- In every run each process is that of exactly one worker in one namespace, on a lease that the
worker holds and whose state fits, and no two processes are on the same lease. -/
theorem processes_bound (resources : List Resource) (nextFenceToken : Nat) (nodeId : String)
    (nodeEpoch : Nat) (calls : List Call) :
    let c := (Lib.run (Authority.step env) (.new (Ledger.withNextFenceToken resources
      nextFenceToken) nodeId nodeEpoch) calls).toCore
    (∀ name process, c.instances[name]? = some process →
      ∃ ns worker lease, Bound c name process ns worker lease ∧
        ∀ ns' worker' lease', Bound c name process ns' worker' lease' →
          ns' = ns ∧ worker' = worker ∧ lease' = lease) ∧
    ∀ name name' process process' ns ns' worker worker' lease,
      Bound c name process ns worker lease → Bound c name' process' ns' worker' lease →
        name = name' := by
  intro c
  have hc : Coherent c := (coherent_new resources nextFenceToken nodeId nodeEpoch).run calls
  refine ⟨fun name process hprocess => ?_, ?_⟩
  · obtain ⟨ns, worker, lease, hb⟩ := hc.bound hprocess
    exact ⟨ns, worker, lease, hb, fun _ _ _ hb' => hb.unique hb' hc⟩
  · exact fun _ _ _ _ _ _ _ _ _ hb hb' => hb.name_unique hb' hc rfl

/-! ### A sample authority -/

/-- An outside world in which everything but the clock, the journal and the cleanup of processes
is as it should be. -/
def sampleEnvironment (now : Nat → Nat) (append : Nat → Except ProviderError Unit)
    (stop : Nat → Except ProviderError CleanupReport) : Environment where
  now := now
  instant _ := 0
  append := append
  appendEvent _ := .ok ()
  eventsForSource _ := .ok none
  bindingForLease _ _ := .ok ()
  preflightBinding _ := .ok ()
  mergeEnvironment _ _ := .ok ()
  resolveWorkerLaunchPlan _ worker := .ok ⟨worker.identity.id, ∅, ⟨none, none, none⟩⟩
  launch _ _ := .ok ⟨1, some "cgroup", some 1⟩
  stop := stop
  deliver _ := true
  order _ names := names
  order_perm _ names := .refl names

/-- An authority over ready accelerators with the given ids. -/
def sampleAuthority (ids : List String) : AuthorityRuntime :=
  .new (Ledger.withNextFenceToken (ids.map Ledger.sampleResource) 1) "node" 1

def sampleContext (ns : NamespaceId) (key : String) : AuthorityCallContext :=
  ⟨.current, ns, key, key⟩

def samplePrincipal : Principal := ⟨⟨"principal", 1⟩⟩

/-- A worker that is ready to be started on a lease. -/
def sampleWorker (id : String) (generation : Nat) (lease : Identity) : Worker where
  identity := ⟨id, generation⟩
  principal := ⟨"principal", 1⟩
  provider := ⟨"provider", 1⟩
  lease := lease
  state := .registered
  executionRef := "run"
  limits := ∅

/-- An endpoint of a worker. -/
def sampleEndpoint (id : String) (owner : Identity) : Endpoint where
  identity := ⟨id, 1⟩
  provider := ⟨"provider", 1⟩
  owner := owner
  transport := "uds"
  schemaId := "example.v1"
  capabilities := []
  publicAttributes := ∅
  connectionRef := "connection"
  credentialRef := none

/-- An operation that a worker is to execute. -/
def sampleOperation (id : String) (executor : Identity) : Operation where
  identity := ⟨id, 1⟩
  owner := ⟨"owner", 1⟩
  executor := executor
  kind := "job.run"
  state := .created
  deadlineUnixMs := none
  parent := none
  metadata := ∅

/-- The grant of one accelerator until `expiresAtUnixMs`. -/
def sampleAcquire (ns : NamespaceId) (key : String) (holder : Identity) (expiresAtUnixMs : Nat) :
    Call :=
  .acquireLease (sampleContext ns key) samplePrincipal holder ⟨"accelerator", 1, [], ∅⟩
    expiresAtUnixMs

theorem reachable_sampleAuthority (ids : List String) (calls : List Call) :
    Reachable env (run (step env) (sampleAuthority ids) calls) :=
  ⟨_, _, _, _, calls, rfl⟩

end Authority

end CyreneKernel
