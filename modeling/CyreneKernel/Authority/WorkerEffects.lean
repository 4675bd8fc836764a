import CyreneKernel.Authority.LeaseEffects

/-!
# The effects of the worker actions

Starting and stopping workers, heartbeats, control sessions and operations as paths of effects.
-/

namespace CyreneKernel

open Lib Relation
open Ledger (ResourceLease)

namespace Authority

variable {Γ : Scope} {c c₀ : Core} {env : Environment} {context : AuthorityCallContext}
  {principal : Principal} {β : Type} {R : β → Core → Prop} {E : Core → Prop}

/-! ### Starting -/

theorem Does.launchLease {worker : Worker} {f : ResourceLease → Action β} (hE : E c)
    (hlapse : ∀ now, E (c.lapse now))
    (hf : ∀ now lease, c.leases[context.objectRef worker.lease]? = some lease.name →
      (c.lapse now).Stores lease → lease.holder = worker.identity → lease.state = .active →
      Does (f lease) (c.lapse now) R E) :
    Does (launchLease env context worker >>= f) c R E := by
  unfold Authority.launchLease
  rw [bind_assoc]
  refine Does.leaseFor hE hlapse fun now lease hleased hlease => ?_
  rw [bind_assoc]
  refine (quiet_isLapsed lease).holds_bind (hlapse now) fun lapsed => ?_
  rw [bind_assoc]
  refine Holds.rejectIf (hlapse now) fun hvalid => ?_
  simp only [not_or, ne_eq, not_not] at hvalid
  exact hf now lease hleased hlease hvalid.2.1 hvalid.2.2.1

theorem quiet_launchPlan (instanceName : String) (worker : Worker) (lease : ResourceLease) :
    Quiet (launchPlan env instanceName worker lease) := by
  refine (quiet_ask _).bind fun _ => (Silent.liftExcept _ _).bind fun _ => ?_
  refine (quiet_ask _).bind fun _ => (Silent.liftExcept _ _).bind fun _ => ?_
  refine (quiet_ask _).bind fun _ => (Silent.liftExcept _ _).bind fun plan => ?_
  refine (Silent.rejectIf _ _).bind fun _ => (Silent.liftExcept _ _).bind fun limits => ?_
  refine Silent.get.bind fun s => (Silent.liftExcept _ _).bind fun environment => ?_
  exact (quiet_ask _).bind fun _ => (Silent.liftExcept _ _).bind fun _ => .pure _

theorem does_reapLaunch (h : Path Γ c₀ c) (actor : InstanceActor) (worker : Worker)
    (lease : ResourceLease) :
    Follows Γ c₀ (reapLaunch env actor worker lease) c := by
  refine Does.ask fun t => ?_
  split
  · refine Holds.ite (fun _ => ?_) fun _ => Holds.pure h
    rw [← bind_pure (ignoreFailure _)]
    exact Does.ignoreRecord (fun _ => Holds.pure h)
      (Holds.pure (h.record .instanceCleanupFailed _ _ _ rfl))
  · exact Holds.pure h

variable {lease : ResourceLease} {name : String} {leaseIdentity workerIdentity : Identity}
  {process : ManagedProcess} {fenceToken : Nat}

/-- A launch that succeeds ends with its record; one that fails leaves no process behind that the
kernel manages. -/
theorem Does.launch (h : Path Γ c₀ c) {plan : LaunchPlan} {worker : Worker}
    {f : InstanceActor → Action β}
    (hf : ∀ actor evidence records, actor.recoveryEvidence = .ok evidence →
      Path Γ c₀ (c.log records) →
      Does (f actor) ((c.log records).log [(c.log records).record .instanceLaunched
        (some worker.identity.id) (some lease) "WORKER_LAUNCHED" (some evidence)]) R (Path Γ c₀)) :
    Does (Authority.launch env plan worker lease >>= f) c R (Path Γ c₀) := by
  unfold Authority.launch
  simp only [bind_assoc]
  refine Does.recordRuntime (fun _ => h) ?_
  have h' := h.record .instanceLaunching (some worker.identity.id) (some lease) "WORKER_LAUNCHING"
    rfl
  refine Does.ask fun t => Does.ask fun t' => Does.ask fun t'' => ?_
  generalize InstanceActor.new.start (env.instant t) (env.stop t') (env.launch t'' plan) = result
  obtain ⟨started, actor⟩ := result
  refine Holds.liftExcept h' fun _ _ => ?_
  cases hevidence : actor.recoveryEvidence with
  | error e =>
    simp only [bind_assoc]
    exact (does_reapLaunch h' _ _ _).bind fun _ _ h'' => Holds.throw_bind h''
  | ok evidence =>
    simp only [bind_assoc]
    refine Does.tryAppendRecord (fun _ rejection => ?_) ?_
    · simp only [bind_assoc]
      exact (does_reapLaunch h' _ _ _).bind fun _ _ h'' => Holds.throw_bind h''
    · exact hf actor evidence _ hevidence h'

theorem does_rememberOperation (h : Path Γ c₀ c) (hns : Γ.namespaces context.ns)
    {operation : Operation}
    (hremember : Γ.remembers (context.objectRef operation.identity)
      (c.semanticOperations[context.objectRef operation.identity]?) operation) :
    Follows Γ c₀ (rememberOperation env context operation) c := by
  have h' := h.tail (.remember hns hremember)
  exact Does.putOperation
    ((quiet_publishSemanticEventIn _ _ _ _).holds_bind h' fun _ => Holds.pure h')

theorem does_startWorker {worker : Worker} (hns : Γ.namespaces context.ns)
    (hstart : Γ.starts (context.objectRef worker.identity))
    (hremember : c.workers[context.objectRef worker.identity]? = none → ∀ operation,
      operation = workerOperation "start"
        { worker with principal := principal.identity, state := .starting } .running →
      Γ.remembers (context.objectRef operation.identity)
        (c.semanticOperations[context.objectRef operation.identity]?) operation) :
    Follows Γ c (startWorker env context principal worker) c := by
  have h : Path Γ c c := .refl
  refine Does.asOwner h ?_
  refine Holds.rejectIf h fun _ => Holds.get fun s hs => Holds.rejectIf h fun hnew => ?_
  refine Does.launchLease h h.lapse fun now lease hleased hlease hholder hactive => ?_
  refine (quiet_launchPlan _ _ _).holds_bind (h.lapse now) fun plan => ?_
  refine Does.launch (h.lapse now) fun actor evidence records hevidence hlaunching => ?_
  let started : Worker := { worker with principal := principal.identity, state := .starting }
  have hnone : c.workers[context.objectRef worker.identity]? = none := by
    rw [← hs]
    simpa using hnew
  have hnone' : c.workers[(⟨context.ns, started.identity⟩ : ObjectRef)]? = none := hnone
  have hstarted : (launched actor started lease).semanticWorker = some started := rfl
  have hfence : (launched actor started lease).lease = some ⟨lease.name, lease.fenceToken⟩ := rfl
  have hactor : (launched actor started lease).actor.recoveryEvidence = .ok evidence := hevidence
  have h' := hlaunching.tail
    (.launch hns hnone' hstarted rfl rfl hleased hlease hactive hholder hfence hstart hactor)
  refine holds_modify_bind fun s' hs' => ?_
  simp only [hs']
  refine (quiet_publishSemanticEventIn _ _ _ _).holds_bind h' fun _ => ?_
  exact does_rememberOperation h' hns (hremember hnone _ rfl)

/-! ### Stopping -/

theorem managedWorker_eq_ok {message : String} {identity : Identity} {worker : Worker}
    (h : managedWorker c name identity leaseIdentity message = .ok (process, worker)) :
    c.instances[name]? = some process ∧ process.semanticWorker = some worker ∧
      worker.identity = identity ∧ worker.lease = leaseIdentity := by
  unfold managedWorker at h
  split at h
  · exact absurd h (by simp)
  · next process' hprocess =>
    split at h
    · exact absurd h (by simp)
    · next worker' hworker =>
      split at h
      · exact absurd h (by simp)
      · next hsame =>
        simp only [ne_eq, not_or, not_not] at hsame
        obtain ⟨rfl, rfl⟩ := h
        exact ⟨hprocess, hworker, hsame.1, hsame.2⟩

theorem fenceMismatch_eq_false {worker : Identity}
    (h : ¬ fenceMismatch lease worker leaseIdentity fenceToken = true) :
    lease.fenceToken = fenceToken ∧ lease.holder = worker ∧ lease.state = .active := by
  simp only [fenceMismatch, Bool.or_eq_true, decide_eq_true_eq, not_or, ne_eq, not_not]
    at h
  exact ⟨h.1.1.2, h.1.2, h.2⟩


/-- The objects after a release began and failed: the lease has failed. -/
theorem put_failed_begun (ledger : Ledger.State) :
    (ledger.put (begun lease)).put { begun lease with state := .failed } =
      ledger.put { lease with state := .failed } := by
  have hbegun : { begun lease with state := .failed } = { lease with state := .failed } := by
    unfold begun
    split <;> rfl
  rw [hbegun]
  exact Ledger.put_put _ (begun_name lease).symm

theorem does_releaseStopped (hfaulty : env.Faulty → Γ.faulty) {releasing stored : ResourceLease}
    {identity : Identity} {report : CleanupReport} (h : Unrecorded Γ c₀ lease identity.id c)
    (hstored : c.Stores stored) (hstate : stored.state = .releasing ∨ stored.state = .released)
    (hname : stored.name = lease.name) (hreleasing : releasing.name = lease.name)
    (hfence : releasing.fenceToken = lease.fenceToken) (hholder : stored.holder = identity)
    (hpurge : Γ.purges identity) {f : Action β}
    (hf : ∀ c', Path Γ c₀ c' → c'.semanticOperations = c.semanticOperations →
      Does f c' R (Path Γ c₀)) :
    Does (releaseStopped env identity lease releasing stored.fenceToken report >>= fun _ => f) c R
      (Path Γ c₀) := by
  unfold releaseStopped
  simp only [bind_assoc]
  refine Does.recordTermination hfaulty h hreleasing hfence fun records h' hcleared => ?_
  subst hholder
  rw [← hname] at hcleared ⊢
  exact does_completeRelease h' hstored hcleared hstate hpurge fun c' h'' hoperations _ _ _ => by
    exact hf c' h'' hoperations

theorem does_stopWorker (hc : Coherent c) (hns : Γ.namespaces context.ns)
    (hfaulty : env.Faulty → Γ.faulty) (hpurge : Γ.purges workerIdentity)
    (hstop : ∀ {lease : ResourceLease} {worker : Worker}, lease.state = .active →
      Γ.stops lease worker)
    (hremember : ∀ {lease : ResourceLease} {name : String} {process : ManagedProcess}
      {worker : Worker} {state : OperationState},
      c.leases[context.objectRef leaseIdentity]? = some lease.name → c.Stores lease →
      lease.state = .active → c.workerInstanceName? context.ns workerIdentity = some name →
      c.instances[name]? = some process → process.semanticWorker = some worker →
      worker.identity = workerIdentity → state = .succeeded ∨ state = .failed →
      ∀ operation, operation = workerOperation "stop" worker state →
      Γ.remembers (context.objectRef operation.identity)
        (c.semanticOperations[context.objectRef operation.identity]?) operation) :
    Follows Γ c (stopWorker env context principal workerIdentity leaseIdentity fenceToken) c := by
  have h : Path Γ c c := .refl
  refine Does.asOwner h ?_
  refine Does.leaseFor h h.lapse fun now current hleased hcurrent => ?_
  have h₁ := h.lapse now
  refine Does.workerInstanceName h₁ fun name hname => Holds.rejectIf h₁ fun hmatch => ?_
  obtain ⟨_, hholder, hactive⟩ := fenceMismatch_eq_false hmatch
  refine Does.recordRuntime (fun _ => h₁) ?_
  have h₂ := h₁.record .leaseReleaseStarted (some workerIdentity.id) (some current)
    "LEASE_RELEASE_STARTED" rfl
  refine Does.daemonBeginRelease h₂.lapse fun now' lease hlease hleaseName hfence hstate => ?_
  have h₃ := h₂.lapse now'
  obtain rfl : current = lease :=
    stores_unique (stores_of_lapse hlease hstate) hcurrent hleaseName.symm
  have hstored : c.Stores current :=
    stores_of_lapse (stores_of_lapse hlease hstate) (by rw [hactive]; decide)
  refine Holds.get fun s hs => ?_
  subst hfence
  cases hmanaged : managedWorker s.toCore name workerIdentity leaseIdentity
      "legacy plugin process is not a semantic Worker" with
  | error rejection =>
    rw [← begun_fenceToken current]
    refine Does.failRelease (stores_put rfl) (fun _ => ?_) (fun hreleased => ?_)
      (begun_state hstate)
    · rw [put_failed_begun]
      exact Holds.throw (h₃.tail (.fail hlease hactive))
    · rw [begun, if_pos (.inl hactive)] at hreleased
      exact absurd hreleased (by simp)
  | ok managed =>
    obtain ⟨process, worker⟩ := managed
    rw [hs] at hmanaged
    obtain ⟨hprocess, hworker, rfl, rfl⟩ := managedWorker_eq_ok hmanaged
    obtain ⟨bound, hb⟩ := (hc.path h₃).bound_of_name hname hprocess hworker
    obtain rfl := hb.lease_eq hleased hlease
    obtain ⟨token, hprocessLease, htoken⟩ := hb.fence
    rw [htoken (by rw [hactive]; decide)] at hprocessLease
    refine Does.stopBound h₃ (show Γ.namespaces (context.objectRef worker.lease).ns from hns)
      (hstop hactive) hprocess hworker hleased hlease hprocessLease hstate
      fun outcome report hreport hpath => ?_
    have hfinish : ∀ c', Path Γ c c' → c'.semanticOperations = c.semanticOperations →
        Does (do
          publishSemanticEventIn env context.ns worker.identity
            (if report.complete then "worker.stopped" else "worker.failed") "cyrene.worker.v1"
          rememberOperation env context
            (workerOperation "stop" worker (if report.complete then .succeeded else .failed)))
          c' (fun _ => Path Γ c) (Path Γ c) := by
      intro c' h'' hoperations
      refine (quiet_publishSemanticEventIn _ _ _ _).holds_bind h'' fun _ => ?_
      refine does_rememberOperation h'' hns ?_
      rw [hoperations]
      refine hremember hleased hstored hactive hname hprocess hworker rfl ?_ _ rfl
      split
      · exact .inl rfl
      · exact .inr rfl
    refine Holds.ite (fun hcomplete => ?_) (fun hincomplete => ?_)
    · obtain ⟨l, hl, hlname, hlfence, hlholder, hlstate⟩ := stores_stopped hlease hreport hcomplete
      have hholder' : l.holder = worker.identity := hlholder.trans hb.held
      have hunrecorded := unrecorded_stopped (hc.path h₃) hb hreport hcomplete hpath
      rw [← hlfence]
      exact does_releaseStopped hfaulty hunrecorded hl hlstate hlname (begun_name bound)
        (begun_fenceToken bound) hholder' hpurge fun c' h'' hoperations =>
          hfinish c' h'' hoperations
    · have h' := hpath "" [] (by
        simp only [terminationRecords, if_neg hincomplete]
        exact .all _ _)
      rw [Core.log_nil] at h'
      exact Does.ignoreRecord (fun _ => hfinish _ h' rfl)
        (hfinish _ (h'.record .instanceCleanupFailed _ _ _ rfl) rfl)

/-! ### Heartbeats -/

theorem does_markRunning (h : Path Γ c₀ c) (hns : Γ.namespaces context.ns) {worker : Worker}
    (hname : c.workerInstanceName? context.ns worker.identity = some name)
    (hprocess : c.instances[name]? = some process)
    (hworker : process.semanticWorker = some worker) :
    Follows Γ c₀ (markRunning env context name process worker) c := by
  refine Holds.rejectIf h fun hstate => Does.ask fun t => Does.ask fun t' => ?_
  have hstate : worker.state.canTransitionTo .running = true := by simpa using hstate
  have h' := h.tail (.run (process.actor.onHeartbeatReceived (env.instant t)) (some (env.now t'))
    hns hname hprocess hworker hstate (InstanceActor.process_onHeartbeatReceived _ _))
  exact Does.putInstance
    ((quiet_publishSemanticEventIn _ _ _ _).holds_bind h' fun _ => Holds.pure h')

theorem does_reportHeartbeat (hns : Γ.namespaces context.ns) :
    Follows Γ c (reportHeartbeat env context principal workerIdentity leaseIdentity fenceToken)
      c := by
  have h : Path Γ c c := .refl
  refine Does.asOwner h ?_
  refine Does.leaseFor h h.lapse fun now lease _ _ => ?_
  have h₁ := h.lapse now
  refine (quiet_isLapsed lease).holds_bind h₁ fun lapsed => Holds.rejectIf h₁ fun _ => ?_
  refine Does.workerInstanceName h₁ fun name hname => Holds.get fun s hs => ?_
  refine Holds.liftExcept h₁ fun managed hmanaged => ?_
  obtain ⟨process, worker⟩ := managed
  rw [hs] at hmanaged
  obtain ⟨hprocess, hworker, rfl, -⟩ := managedWorker_eq_ok hmanaged
  exact does_markRunning h₁ hns hname hprocess hworker

/-- The checks of the control channel only sweep the ledger. -/
theorem Does.controlledWorker {f : String × ManagedProcess × Worker → Action β} (hE : E c)
    (hlapse : ∀ now, E (c.lapse now)) (hf : ∀ now name process worker,
      c.workerInstanceName? context.ns worker.identity = some name →
      c.instances[name]? = some process → process.semanticWorker = some worker →
      Does (f (name, process, worker)) (c.lapse now) R E) :
    Does (controlledWorker env context workerIdentity leaseIdentity fenceToken >>= f) c R E := by
  unfold Authority.controlledWorker
  simp only [bind_assoc, pure_bind]
  refine (quiet_validateContext _).holds_bind hE fun _ => ?_
  refine Does.leaseFor hE hlapse fun now lease _ _ => Holds.rejectIf (hlapse now) fun _ => ?_
  refine Does.workerInstanceName (hlapse now) fun name hname => Holds.get fun s hs => ?_
  refine Holds.liftExcept (hlapse now) fun managed hmanaged => ?_
  obtain ⟨process, worker⟩ := managed
  rw [hs] at hmanaged
  obtain ⟨hprocess, hworker, rfl, -⟩ := managedWorker_eq_ok hmanaged
  exact hf now name process worker hname hprocess hworker

theorem Does.verifyWorkerControl {f : Worker → Action β} (hE : E c)
    (hlapse : ∀ now, E (c.lapse now)) (hf : ∀ now worker, Does (f worker) (c.lapse now) R E) :
    Does (verifyWorkerControl env context workerIdentity leaseIdentity fenceToken >>= f) c R E := by
  unfold Authority.verifyWorkerControl
  rw [bind_assoc]
  refine Does.controlledWorker hE hlapse fun now name process worker _ _ _ => ?_
  exact hf now worker

theorem does_acceptWorkerControlHeartbeat (hns : Γ.namespaces context.ns) :
    Follows Γ c (acceptWorkerControlHeartbeat env context workerIdentity leaseIdentity fenceToken)
      c := by
  have h : Path Γ c c := .refl
  exact Does.controlledWorker h h.lapse fun now name process worker hname hprocess hworker =>
    does_markRunning (h.lapse now) hns hname hprocess hworker

/-! ### Control sessions -/

theorem quiet_nextConnection : Quiet nextConnection := fun _ => rfl

/-- A change of the control session of a process. -/
theorem does_putSession (h : Path Γ c₀ c) {process' : ManagedProcess} (hsession : Γ.sessions name)
    (hprocess : c.instances[name]? = some process)
    (hworker : process'.semanticWorker = process.semanticWorker)
    (hlease : process'.lease = process.lease)
    (hactor : process'.actor.process = process.actor.process)
    (hhistory : process'.history = process.history) :
    Follows Γ c₀ (putInstance name process') c := by
  exact Does.putInstance
    (Holds.pure (h.tail (.session hsession hprocess hworker hlease hactor hhistory)))

theorem does_registerSemanticWorkerControl (hsession : Γ.sessions workerIdentity.id) :
    Follows Γ c (registerSemanticWorkerControl env context workerIdentity leaseIdentity fenceToken)
      c := by
  have h : Path Γ c c := .refl
  refine Does.verifyWorkerControl h h.lapse fun now worker => ?_
  refine quiet_nextConnection.holds_bind (h.lapse now) fun _ => Holds.get fun s hs => ?_
  refine Holds.okOr (h.lapse now) fun process hprocess => ?_
  rw [hs] at hprocess
  exact Holds.bind (does_putSession (h.lapse now) hsession hprocess rfl rfl rfl rfl)
    fun _ _ h' => Holds.pure h'

theorem does_unregisterSemanticWorkerControl {workerId : String} {generation connectionId : Nat}
    (hsession : Γ.sessions workerId) :
    Follows Γ c (unregisterSemanticWorkerControl workerId generation connectionId) c := by
  have h : Path Γ c c := .refl
  refine Holds.get fun s hs => ?_
  cases hprocess : s.instances[workerId]? with
  | none => exact Holds.pure h
  | some process =>
    rw [hs] at hprocess
    exact Holds.ite (fun _ => does_putSession h hsession hprocess rfl rfl rfl rfl)
      fun _ => Holds.pure h

theorem does_acceptSemanticShutdownAck {shutdownId : String} {drained : Bool}
    (hsession : Γ.sessions workerIdentity.id) :
    Follows Γ c (acceptSemanticShutdownAck env context workerIdentity leaseIdentity fenceToken
      shutdownId drained) c := by
  have h : Path Γ c c := .refl
  refine Does.verifyWorkerControl h h.lapse fun now worker => Holds.get fun s hs => ?_
  have h₁ := h.lapse now
  refine Holds.okOr h₁ fun process hprocess => Holds.rejectIf h₁ fun _ => ?_
  refine Holds.okOr h₁ fun pending _ => Holds.rejectIf h₁ fun _ => ?_
  rw [hs] at hprocess
  exact does_putSession h₁ hsession hprocess rfl rfl rfl rfl

theorem does_requestSemanticWorkerShutdown {workerId : String} (hsession : Γ.sessions workerId) :
    Follows Γ c (requestSemanticWorkerShutdown env workerId) c := by
  have h : Path Γ c c := .refl
  refine quiet_nextConnection.holds_bind h fun _ => Holds.get fun s hs => ?_
  cases hprocess : s.instances[workerId]? with
  | none => exact Holds.pure h
  | some process =>
    rw [hs] at hprocess
    exact Holds.ite
      (fun _ => Does.ask fun t => does_putSession h hsession hprocess rfl rfl rfl rfl)
      fun _ => Holds.pure h

theorem does_attachTransportChannel (hsession : Γ.sessions name) :
    Follows Γ c (attachTransportChannel name) c := by
  have h : Path Γ c c := .refl
  refine Holds.get fun s hs => ?_
  cases hprocess : s.instances[name]? with
  | none => exact Holds.pure h
  | some process =>
    rw [hs] at hprocess
    exact does_putSession h hsession hprocess rfl rfl rfl rfl

end Authority

end CyreneKernel
