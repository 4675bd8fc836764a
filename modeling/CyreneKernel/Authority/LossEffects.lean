import CyreneKernel.Authority.ObjectEffects

/-!
# The effects of losing a worker

The loss of a worker touches the ledger, the process, the operations and the endpoint authority
of the worker at once; what remains to be done is to give up the resources of the revoked lease.
`LossOutcome` collects the states in which the loss may end, and the two results below read off
it: every outcome is a path of effects, and when neither the journal nor the sandbox fails the
resources are given up.

## Main definitions

* `Environment.Succeeds`: the journal and the sandbox never fail.
* `Resolves`: the lease of the worker that an identity means in a namespace.
* `Ended`: a lease is revoked and its resources are free.

## Main results

* `does_markWorkerLost`: the loss of a worker as a path of effects.
* `does_markWorkerLost_succeeds`: a loss that nothing interrupts frees the resources.
-/

namespace CyreneKernel

open Lib Relation
open Ledger (ResourceLease)

/-- The journal takes every record and the sandbox completes every cleanup. -/
structure Environment.Succeeds (env : Environment) : Prop where
  append : ∀ n, env.append n = .ok ()
  stop : ∀ n, ∃ report, env.stop n = .ok report ∧ report.complete = true

theorem Environment.Succeeds.not_faulty {env : Environment} (h : env.Succeeds) : ¬ env.Faulty :=
  fun ⟨n, hn⟩ => hn (h.append n)

namespace Authority

variable {Γ : Scope} {c c' c₀ : Core} {env : Environment} {context : AuthorityCallContext}
  {β : Type} {R : β → Core → Prop} {E P : Core → Prop}

theorem LossPath.path (h : LossPath Γ c c') : Path Γ c c' :=
  ReflTransGen.mono (fun _ _ => Effect.loss) _ _ h

theorem LossPath.coherent (h : LossPath Γ c c') (hc : Coherent c) : Coherent c' := hc.path h.path

/-- Neutral records keep the property. -/
def RecordStable (P : Core → Prop) : Prop :=
  ∀ ⦃c : Core⦄, P c → ∀ event instanceName lease reasonCode,
    RuntimeJournalEvent.isNeutral event = true →
    P (c.log [c.record event instanceName lease reasonCode none])

theorem recordStable_lossPath : RecordStable (LossPath Γ c) :=
  fun _ h event instanceName lease reasonCode hneutral =>
    h.tail (.record event instanceName lease reasonCode hneutral)

variable (now : Nat) {revoked : ResourceLease}

theorem does_announce (hstable : RecordStable P) (hP : P c) {event : RuntimeJournalEvent}
    {workerName : String} {reasonCode kind schemaId : String} (hneutral : event.isNeutral = true)
    (objects : List Identity) :
    Does (announce env context event workerName revoked reasonCode kind schemaId objects) c
      (fun _ => P) P := by
  induction objects generalizing c with
  | nil => exact Holds.pure hP
  | cons object rest ih =>
    change Does ((_ >>= _) >>= _) c _ _
    rw [bind_assoc]
    refine Does.recordRuntime (fun _ => hP) ?_
    refine (mute_publishSemanticEventIn _ _ _ _).holds_bind fun _ => ?_
    exact ih (hstable hP event _ _ _ hneutral)

/-- Stopping the process of a lost worker. -/
theorem Does.stopLost {name : String} {process : ManagedProcess} {worker : Worker}
    {f : Option CleanupReport → Action β} (hprocess : c.instances[name]? = some process)
    (hworker : process.semanticWorker = some worker)
    (hf : ∀ outcome, (env.Succeeds → ∃ report, (process.actor.stop outcome).1 = .ok report ∧
        report.complete = true) →
      Does (f (process.actor.stop outcome).1.toOption)
        { c with
          instances := c.instances.insert name
            (lostProcess process (process.actor.stop outcome).2) } R E) :
    Does (stopLost env name >>= f) c R E := by
  unfold Authority.stopLost
  simp only [bind_assoc]
  refine Holds.get fun s hs => ?_
  subst hs
  rw [hprocess, okOr_some, pure_bind, rejectIf_of_not (by simp [hworker]), pure_bind]
  refine Does.ask fun t => Does.putInstance ?_
  have hf := hf (env.stop t) fun henv => InstanceActor.stop_complete process.actor (henv.stop t)
  generalize process.actor.stop (env.stop t) = result at hf ⊢
  obtain ⟨_ | _, _⟩ := result <;> exact hf

theorem Does.completeRevocation {lease : ResourceLease} {f : ResourceLease → Action β}
    (hlease : c.Stores lease) (hstate : lease.state = .revoked)
    (hf : Does (f lease) { c with ledger := c.ledger.free lease } R E) :
    Does (ledgerCall (Ledger.completeRevocation lease.name lease.fenceToken) >>= f) c R E := by
  refine does_ledgerCall_bind ?_
  simp only [Ledger.completeRevocation, ensures_bind, Ledger.fenced_stored hlease rfl, hstate,
    ensures_rejectIf, ensures_pure, ensures_modify]
  exact ⟨fun h => absurd rfl h, fun _ => hf⟩

/-- The records of a revocation, and after a confirmed cleanup the end of it. -/
theorem Does.finishRevocation {workerName : String} {worker : Worker} {revoked : ResourceLease}
    {result : Except ProviderError CleanupReport} {reasonCode : String} {f : Unit → Action β}
    (hrevoked : c.Stores revoked) (hstate : revoked.state = .revoked)
    (hE : env.Faulty → ∀ code records, records.Sublist
      (revocationRecords c (some workerName) revoked reasonCode ++
        terminationRecords c worker revoked code result) → E (c.log records))
    (hkept : (¬ ∃ report, result = .ok report ∧ report.complete = true) →
      Does (f ()) (c.log (revocationRecords c (some workerName) revoked reasonCode ++
        terminationRecords c worker revoked "" result)) R E)
    (hfreed : ∀ report, result = .ok report → report.complete = true →
      Does (f ()) { c.log (revocationRecords c (some workerName) revoked reasonCode ++
        terminationRecords c worker revoked report.reasonCode result) with
          ledger := c.ledger.free revoked } R E) :
    Does (finishRevocation env workerName worker revoked result.toOption reasonCode >>= f) c R
      E := by
  unfold Authority.finishRevocation
  simp only [bind_assoc]
  have hnil : env.Faulty → E c := fun h => by
    have h := hE h "" [] (List.nil_sublist _)
    rwa [Core.log_nil] at h
  have hone : env.Faulty →
      E (c.log [c.record .leaseRevoked (some workerName) (some revoked) reasonCode none]) :=
    fun h => hE h "" _ (List.singleton_sublist.2 List.mem_cons_self)
  refine Does.recordRuntime hnil (Does.recordRuntime hone ?_)
  rw [Core.log_log]
  cases result with
  | error e =>
    exact hkept (by simp)
  | ok report =>
    simp only [Except.toOption]
    cases hcomplete : report.complete with
    | false =>
      have hkept := hkept (by simp [hcomplete])
      simp only [terminationRecords, hcomplete, Bool.false_eq_true, if_false,
        List.append_nil] at hkept ⊢
      exact hkept
    | true =>
      have hfreed := hfreed report rfl hcomplete
      have htwo : env.Faulty → E (c.log
          (revocationRecords c (some workerName) revoked reasonCode)) :=
        fun h => hE h "" _ (List.sublist_append_left _ _)
      simp only [terminationRecords, hcomplete, if_true, bind_assoc] at hfreed ⊢
      refine Does.recordRuntime htwo ?_
      rw [Core.log_log]
      refine Does.completeRevocation hrevoked hstate ?_
      exact hfreed

/-! ### The outcome of a loss -/

section RevokedLease

variable {s : Ledger.State} {lease : ResourceLease}

theorem revokedLease_name (s : Ledger.State) (lease : ResourceLease) :
    (revokedLease s lease).name = lease.name := by
  unfold revokedLease
  split <;> rfl

theorem revokedLease_allocations (s : Ledger.State) (lease : ResourceLease) :
    (revokedLease s lease).allocations = lease.allocations := by
  unfold revokedLease
  split <;> rfl

theorem revokedLease_state (h : isRevoking lease.state = true) :
    (revokedLease s lease).state = .revoked := by
  unfold revokedLease
  split
  · rfl
  · next hnot => simpa [isRevoking, hnot] using h

theorem stores_revokedLease (h : s.leases.get? lease.name = some lease) :
    (revokeIfRevocable s lease).leases.get? (revokedLease s lease).name =
      some (revokedLease s lease) := by
  unfold revokeIfRevocable revokedLease
  split
  · exact (Ledger.revokeLease_get? _ _ _).trans (if_pos rfl)
  · exact h

end RevokedLease

/-- What holds of every state in which the loss of a worker may end.  The resources of the lease
are kept only when there is no revocation to finish, or when something failed. -/
structure LossOutcome (env : Environment) (P : Core → Prop) (c : Core) (name : String)
    (process : ManagedProcess) (worker : Worker) (lease : ResourceLease) (reasonCode : String) :
    Prop where
  kept : ∀ outcome code records,
    Writes env.Faulty (lossRecords c name worker lease reasonCode code
      (process.actor.stop outcome).1) records →
    ¬ (env.Succeeds ∧ isRevoking lease.state = true) →
    P ((loss c name process (process.actor.stop outcome).2 worker.identity lease).log records)
  freed : ∀ outcome report code, (process.actor.stop outcome).1 = .ok report →
    report.complete = true → isRevoking lease.state = true →
    P { (loss c name process (process.actor.stop outcome).2 worker.identity lease).log
        (lossRecords c name worker lease reasonCode code (.ok report)) with
      ledger := (revokeIfRevocable c.ledger lease).free (revokedLease c.ledger lease) }

variable {worker : Worker} {reasonCode name : String} {process : ManagedProcess}
  {lease lease₁ : ResourceLease} {c₁ : Core}

/-- The end of a loss leaves the objects alone. -/
theorem does_announceLoss (hstable : RecordStable P) (hP : P c) {workerName : String}
    {revoking : Bool} {operations endpoints : List Identity} :
    Does (do
      announce env context .operationLost workerName revoked reasonCode "operation.lost"
        "cyrene.operation.v1" operations
      announce env context .endpointRevoked workerName revoked reasonCode "endpoint.revoked"
        "cyrene.endpoint.v1" endpoints
      publishSemanticEventIn env context.ns worker.identity "worker.lost" "cyrene.worker.v1"
      if revoking then
        publishSemanticEventIn env context.ns worker.lease "lease.revoked" "cyrene.lease.v1"
      return [ProviderReconcileAction.markWorkerLost worker.identity]
        ++ (if revoking then [.revokeLease worker.lease] else [])
        ++ operations.map .markOperationLost ++ endpoints.map .revokeEndpoint) c
      (fun _ => P) P := by
  refine (does_announce hstable hP rfl operations).bind fun _ c₁ h₁ => ?_
  refine (does_announce hstable h₁ rfl endpoints).bind fun _ c₂ h₂ => ?_
  refine (mute_publishSemanticEventIn _ _ _ _).holds_bind fun _ => ?_
  refine Holds.ite (fun _ => ?_) fun _ => Holds.pure h₂
  exact (mute_publishSemanticEventIn _ _ _ _).holds_bind fun _ => Holds.pure h₂

/-- The loss of a worker after its lease was revoked. -/
theorem does_retireWorker (hstable : RecordStable P)
    (hprocess : c.instances[name]? = some process)
    (hworker : process.semanticWorker = some worker) (hlease : c.Stores lease)
    (h : LossOutcome env P c name process worker lease reasonCode) :
    Does (retireWorker env context name worker (isRevoking lease.state)
        (revokedLease c.ledger lease) reasonCode)
      { c with ledger := revokeIfRevocable c.ledger lease } (fun _ => P) P := by
  refine Does.stopLost hprocess hworker fun outcome hcleanup => ?_
  refine Holds.get fun s hs => Holds.set ?_
  rw [hs]
  refine Does.purgeEndpointAuthority ?_
  have hkept := h.kept outcome
  have hfreed := h.freed outcome
  unfold lossRecords at hkept hfreed
  refine Holds.ite (fun hrevoking => ?_) fun hrevoking => ?_
  · simp only [if_pos hrevoking] at hkept hfreed
    have hrevoked : (loss c name process (process.actor.stop outcome).2 worker.identity
        lease).Stores (revokedLease c.ledger lease) := stores_revokedLease hlease
    refine Does.finishRevocation hrevoked (revokedLease_state hrevoking)
      (fun hfaulty code records hsublist => ?_) (fun hincomplete => ?_)
      fun report hreport hcomplete => ?_
    · exact hkept code records (.of_faulty hfaulty hsublist) fun hboth =>
        hboth.1.not_faulty hfaulty
    · exact does_announceLoss hstable (hkept "" _ (.all _ _) fun hboth =>
        hincomplete (hcleanup hboth.1))
    · have hP := hfreed report report.reasonCode hreport hcomplete hrevoking
      rw [← hreport] at hP
      exact does_announceLoss hstable hP
  · simp only [if_neg hrevoking] at hkept
    have hP := hkept "" [] (.all _ _) fun hboth => hrevoking hboth.2
    rw [Core.log_nil] at hP
    exact does_announceLoss hstable hP

/-! ### The sweeps of a loss -/

theorem isRevocable_expireIfDue (lease : ResourceLease) :
    isRevocable (lease.expireIfDue now).state = isRevocable lease.state := by
  rcases Ledger.expireIfDue_cases now lease with h | ⟨hactive, -, h⟩ <;> rw [h]
  rw [hactive]
  rfl

theorem isRevoking_expireIfDue (lease : ResourceLease) :
    isRevoking (lease.expireIfDue now).state = isRevoking lease.state := by
  rcases Ledger.expireIfDue_cases now lease with h | ⟨hactive, -, h⟩ <;> rw [h]
  rw [hactive]
  rfl

theorem allocations_expireIfDue (lease : ResourceLease) :
    (lease.expireIfDue now).allocations = lease.allocations := by
  rcases Ledger.expireIfDue_cases now lease with h | ⟨-, -, h⟩ <;> rw [h]

theorem isAllocated_lapse (now : Nat) (c : Core) (leaseName : String) :
    (c.lapse now).ledger.isAllocated leaseName = c.ledger.isAllocated leaseName := by
  unfold Ledger.State.isAllocated Core.lapse
  rw [Ledger.expireDueLeases_get?, Option.any_map]
  congr 1
  funext lease
  rw [Ledger.resourceIds_expireIfDue]
  rfl

theorem Core.Stores.lapse (h : c.Stores lease) (now : Nat) :
    (c.lapse now).Stores (lease.expireIfDue now) := by
  unfold Core.Stores Core.lapse
  rw [ResourceLease.name_expireIfDue, Ledger.expireDueLeases_get?, h, Option.map_some]

/-- The objects and a lease after sweeps of the ledger. -/
structure Swept (c : Core) (lease : ResourceLease) (c₁ : Core) (lease₁ : ResourceLease) :
    Prop where
  path : ∀ Γ, LossPath Γ c c₁
  core_eq : c₁ = { c with ledger := c₁.ledger, journal := c₁.journal }
  stored : c₁.Stores lease₁
  name_eq : lease₁.name = lease.name
  allocations_eq : lease₁.allocations = lease.allocations
  revoking_eq : isRevoking lease₁.state = isRevoking lease.state

theorem Swept.refl (h : c.Stores lease) : Swept c lease c lease :=
  ⟨fun _ => .refl, rfl, h, rfl, rfl, rfl⟩

theorem Swept.lapse (h : Swept c lease c₁ lease₁) (now : Nat) :
    Swept c lease (c₁.lapse now) (lease₁.expireIfDue now) where
  path Γ := (h.path Γ).tail (.lapse now)
  core_eq := by rw [h.core_eq]; rfl
  stored := Core.Stores.lapse h.stored now
  name_eq := (ResourceLease.name_expireIfDue now lease₁).trans h.name_eq
  allocations_eq := (allocations_expireIfDue now lease₁).trans h.allocations_eq
  revoking_eq := (isRevoking_expireIfDue now lease₁).trans h.revoking_eq

theorem Swept.record (h : Swept c lease c₁ lease₁) (event : RuntimeJournalEvent)
    (instanceName : Option String) (subject : Option ResourceLease) (reasonCode : String)
    (hneutral : event.isNeutral = true) :
    Swept c lease (c₁.log [c₁.record event instanceName subject reasonCode none]) lease₁ where
  path Γ := (h.path Γ).tail (.record event instanceName subject reasonCode hneutral)
  core_eq := by rw [h.core_eq]; rfl
  stored := h.stored
  name_eq := h.name_eq
  allocations_eq := h.allocations_eq
  revoking_eq := h.revoking_eq

theorem Swept.trans {c₂ : Core} {lease₂ : ResourceLease} (h : Swept c lease c₁ lease₁)
    (h' : Swept c₁ lease₁ c₂ lease₂) : Swept c lease c₂ lease₂ where
  path Γ := (h.path Γ).trans (h'.path Γ)
  core_eq := by rw [h'.core_eq, h.core_eq]
  stored := h'.stored
  name_eq := h'.name_eq.trans h.name_eq
  allocations_eq := h'.allocations_eq.trans h.allocations_eq
  revoking_eq := h'.revoking_eq.trans h.revoking_eq

/-- A revocation of a lease that still has authority. -/
theorem Does.daemonRevoke {f : ResourceLease → Action β} (hlease : c.Stores lease)
    (hstate : isRevocable lease.state = true)
    (hf : ∀ now, Does (f ((c.lapse now).ledger.revoked (lease.expireIfDue now)))
      { c.lapse now with ledger := (c.lapse now).ledger.revokeLease (lease.expireIfDue now) } R E) :
    Does (daemonRevoke env lease.name lease.fenceToken >>= f) c R E := by
  unfold Authority.daemonRevoke
  rw [bind_assoc]
  refine Does.ask fun t => does_ledgerCall_bind ?_
  have hstored := Core.Stores.lapse hlease (env.now t)
  rw [Core.Stores, ResourceLease.name_expireIfDue] at hstored
  have hrevocable := isRevocable_expireIfDue (env.now t) lease
  rw [hstate] at hrevocable
  simp only [isRevocable, Bool.or_eq_true, decide_eq_true_eq, or_assoc] at hrevocable
  simp only [Ledger.revoke, ensures_bind, ensures_modify]
  refine (Ledger.fenced_stored hstored (Ledger.fenceToken_expireIfDue _ _)).2 ?_
  simp only [ensures_get, ensures_rejectIf, ensures_pure, ensures_set]
  refine ⟨fun hnone => absurd hrevocable ?_, fun _ => hf _⟩
  rw [not_or, not_or]
  exact hnone

/-- A lookup of a lease that is stored. -/
theorem Does.leaseFor_stored {identity : Identity} {f : ResourceLease → Action β}
    (hleased : c.leases[context.objectRef identity]? = some lease.name) (hlease : c.Stores lease)
    (hf : ∀ now, Does (f (lease.expireIfDue now)) (c.lapse now) R E) :
    Does (CyreneKernel.leaseFor env context identity >>= f) c R E := by
  unfold CyreneKernel.leaseFor
  simp only [bind_assoc]
  refine Holds.get fun s hs => ?_
  subst hs
  rw [hleased, okOr_some, pure_bind]
  refine Does.ask fun t => does_ledgerCall_bind ?_
  have hstored := Core.Stores.lapse hlease (env.now t)
  rw [Core.Stores, ResourceLease.name_expireIfDue] at hstored
  exact (Ledger.lookup_stored hstored).2 (hf _)

/-! ### The loss of a worker -/

theorem does_commitLoss (hstable : RecordStable P) (hprocess : c.instances[name]? = some process)
    (hworker : process.semanticWorker = some worker) (hlease : c.Stores lease)
    (h : ∀ c₁ lease₁, Swept c lease c₁ lease₁ →
      LossOutcome env P c₁ name process worker lease₁ reasonCode) :
    Does (commitLoss env context name worker lease reasonCode) c (fun _ => P) P := by
  refine Holds.ite (fun hstate => ?_) fun hstate => ?_
  · refine Does.daemonRevoke hlease hstate fun now => ?_
    have hswept := (Swept.refl hlease).lapse now
    have hrevocable := (isRevocable_expireIfDue now lease).trans hstate
    have hrevoking : isRevoking (lease.expireIfDue now).state = true := by
      rw [isRevoking, hrevocable, Bool.true_or]
    have hledger : revokeIfRevocable (c.lapse now).ledger (lease.expireIfDue now) =
        (c.lapse now).ledger.revokeLease (lease.expireIfDue now) := if_pos hrevocable
    have hrevoked : revokedLease (c.lapse now).ledger (lease.expireIfDue now) =
        (c.lapse now).ledger.revoked (lease.expireIfDue now) := if_pos hrevocable
    rw [← hledger, ← hrevoked, ← hrevoking]
    exact does_retireWorker hstable hprocess hworker hswept.stored (h _ _ hswept)
  · have hledger : revokeIfRevocable c.ledger lease = c.ledger := if_neg hstate
    have hrevoked : revokedLease c.ledger lease = lease := if_neg hstate
    have hrevoking : isRevoking lease.state = decide (lease.state = .revoked) := by
      rw [isRevoking, Bool.eq_false_iff.2 hstate, Bool.false_or]
    have hretire : Does (retireWorker env context name worker (isRevoking lease.state)
        (revokedLease c.ledger lease) reasonCode)
        { c with ledger := revokeIfRevocable c.ledger lease } (fun _ => P) P :=
      does_retireWorker hstable hprocess hworker hlease (h _ _ (.refl hlease))
    rw [hrevoking, hledger, hrevoked] at hretire
    exact hretire

theorem does_loseWorker (hstable : RecordStable P)
    (hb : Bound c name process context.ns worker lease)
    (hsettled : isSettled worker (c.ledger.isAllocated lease.name) = true → ∀ now, P (c.lapse now))
    (hrecord : env.Faulty → ∀ now, P (c.lapse now))
    (hlost : isSettled worker (c.ledger.isAllocated lease.name) = false →
      ∀ c₁ lease₁, Swept c lease c₁ lease₁ →
        LossOutcome env P c₁ name process worker lease₁ reasonCode) :
    Does (loseWorker env context name worker reasonCode) c (fun _ => P) P := by
  refine Does.leaseFor_stored hb.leased hb.stored fun now => Holds.get fun s hs => ?_
  have hallocated : s.ledger.isAllocated (lease.expireIfDue now).name =
      c.ledger.isAllocated lease.name := by
    rw [hs, ResourceLease.name_expireIfDue, isAllocated_lapse]
  rw [hallocated]
  refine Holds.ite (fun h => Holds.pure (hsettled h now)) fun hopen => ?_
  have hholder : (lease.expireIfDue now).holder = worker.identity := by
    rw [Ledger.holder_expireIfDue, hb.held]
  rw [rejectIf_of_not (not_not.2 hholder), pure_bind]
  refine Does.recordRuntime (fun h => hrecord h now) ?_
  have hswept := ((Swept.refl hb.stored).lapse now).record .workerLost (some name)
    (some (lease.expireIfDue now)) reasonCode rfl
  exact does_commitLoss hstable hb.managed hb.worker_eq hswept.stored fun c₁ lease₁ hswept' =>
    hlost (Bool.eq_false_iff.2 hopen) c₁ lease₁ (hswept.trans hswept')

/-- An identity means, in a namespace, a worker with this lease. -/
def Resolves (c : Core) (ns : NamespaceId) (worker : Identity) (leaseName : String) : Prop :=
  ∃ name process stored, c.workerInstanceName? ns worker = some name ∧
    c.instances[name]? = some process ∧ process.semanticWorker = some stored ∧
    stored.identity = worker ∧ c.leases[(⟨ns, stored.lease⟩ : ObjectRef)]? = some leaseName

/-- The lease of a lost worker whose process is gone is cleared. -/
theorem cleared_loss (hc : Coherent c) {ns : NamespaceId}
    {outcome : Except ProviderError CleanupReport} {report : CleanupReport}
    (hb : Bound c name process ns worker lease) (reasonCode code : String)
    (hreport : (process.actor.stop outcome).1 = .ok report) (hcomplete : report.complete = true)
    (hrevoking : isRevoking lease.state = true) :
    ((loss c name process (process.actor.stop outcome).2 worker.identity lease).log
      (lossRecords c name worker lease reasonCode code (.ok report))).Cleared lease.name := by
  have hrecords : lossRecords c name worker lease reasonCode code (.ok report) =
      revocationRecords c (some name) (revokedLease c.ledger lease) reasonCode ++
        [c.record .instanceTerminated (some worker.identity.id)
          (some (revokedLease c.ledger lease)) code none] := by
    rw [lossRecords, if_pos hrevoking, terminationRecords, if_pos hcomplete]
  refine hc.cleared hb rfl (.assign .lost rfl rfl rfl) ?_ ?_
  · exact InstanceActor.handle_of_stop_complete hreport hcomplete
  · rw [hrecords]
    refine ⟨c.record .instanceTerminated (some worker.identity.id)
      (some (revokedLease c.ledger lease)) code none, ?_, rfl, rfl, ?_⟩
    · exact List.mem_append_right _ (List.mem_append_right _ List.mem_cons_self)
    · exact congrArg some (revokedLease_name c.ledger lease)

/-- The loss of a worker as a path of effects. -/
theorem does_markWorkerLost (hc : Coherent c) {workerIdentity : Identity}
    (hns : Γ.namespaces context.ns) (hfaulty : env.Faulty → Γ.faulty)
    (hpurge : Γ.purges workerIdentity)
    (hfree : ∀ {leaseName}, Resolves c context.ns workerIdentity leaseName → Γ.frees leaseName) :
    Does (markWorkerLost env context workerIdentity reasonCode) c (fun _ => LossPath Γ c)
      (LossPath Γ c) := by
  have h : LossPath Γ c c := .refl
  refine (quiet_validateContext _).holds_bind h fun _ => ?_
  refine Does.workerInstanceName h fun name hname => Holds.get fun s hs => ?_
  refine Holds.okOr h fun worker hworker => Holds.rejectIf h fun hidentity => ?_
  rw [hs, Option.bind_eq_some_iff] at hworker
  obtain ⟨process, hprocess, hworker⟩ := hworker
  obtain rfl := not_not.1 hidentity
  obtain ⟨lease, hb⟩ := hc.bound_of_name hname hprocess hworker
  have hlapse : ∀ now, LossPath Γ c (c.lapse now) := fun now => h.tail (.lapse now)
  refine does_loseWorker recordStable_lossPath hb (fun _ => hlapse) (fun _ => hlapse)
    fun hopen c₁ lease₁ hswept => ?_
  have hstate : worker.state.canTransitionTo .lost = true := by
    simp only [isSettled, Bool.or_eq_false_iff, Bool.not_eq_false'] at hopen
    exact hopen.2
  have hfrees : Γ.frees lease₁.name := by
    rw [hswept.name_eq]
    exact hfree ⟨name, process, worker, hname, hprocess, hworker, rfl, hb.leased⟩
  obtain ⟨hpath, hcore, hstored, hnameEq, -, -⟩ := hswept
  have hname₁ : c₁.workerInstanceName? context.ns worker.identity = some name := by
    rw [hcore]
    exact hname
  have hprocess₁ : c₁.instances[name]? = some process := by
    rw [hcore]
    exact hprocess
  have hleased₁ : c₁.leases[(⟨context.ns, worker.lease⟩ : ObjectRef)]? = some lease₁.name := by
    rw [hcore, hnameEq]
    exact hb.leased
  have hlose : ∀ outcome code records,
      Writes env.Faulty (lossRecords c₁ name worker lease₁ reasonCode code
        (process.actor.stop outcome).1) records →
      LossPath Γ c ((loss c₁ name process (process.actor.stop outcome).2 worker.identity
        lease₁).log records) := fun outcome code records hrecords =>
    (hpath Γ).tail (.lose outcome hns hpurge hname₁ hprocess₁ hworker hstate hleased₁ hstored
      hfrees (hrecords.mono hfaulty))
  refine ⟨fun outcome code records hrecords _ => hlose outcome code records hrecords,
    fun outcome report code hreport hcomplete hrevoking => ?_⟩
  have hc₁ : Coherent c₁ := (hpath Γ).coherent hc
  obtain ⟨lease', hb'⟩ := hc₁.bound_of_name hname₁ hprocess₁ hworker
  obtain rfl := hb'.lease_eq hleased₁ hstored
  have hcleared := cleared_loss hc₁ hb' reasonCode code hreport hcomplete hrevoking
  rw [← revokedLease_name c₁.ledger lease'] at hcleared hfrees
  have hlost := hlose outcome code _ (by rw [hreport]; exact .all _ _)
  have hrevoked := stores_revokedLease hstored
  exact hlost.tail (.reclaim hrevoked (revokedLease_state hrevoking) hfrees hcleared)

/-- The lease is revoked and none of its resources is allocated. -/
structure Ended (lease : ResourceLease) (c : Core) : Prop where
  revoked : ∃ l, c.ledger.leases.get? lease.name = some l ∧ l.state = .revoked
  freed : ∀ id ∈ lease.resourceIds, id ∉ c.ledger.allocated

theorem recordStable_ended : RecordStable (Ended lease) :=
  fun _ h _ _ _ _ _ => ⟨h.revoked, h.freed⟩

theorem ended_of_free {s : Ledger.State} (hrevoked : s.leases.get? revoked.name = some revoked)
    (hstate : revoked.state = .revoked) (hname : revoked.name = lease.name)
    (halloc : revoked.allocations = lease.allocations) :
    Ended lease { c with ledger := s.free revoked } where
  revoked := ⟨revoked, hname ▸ hrevoked, hstate⟩
  freed id hid := by
    have hid : id ∈ revoked.resourceIds := by
      rw [ResourceLease.resourceIds, halloc]
      exact hid
    simp [Ledger.State.free, hid]

theorem notMem_of_not_isAllocated (hlease : c.Stores lease)
    (h : c.ledger.isAllocated lease.name = false) {id : String} (hid : id ∈ lease.resourceIds) :
    id ∉ c.ledger.allocated := by
  rw [Ledger.State.isAllocated, hlease, Option.any_some, List.any_eq_false] at h
  exact fun hmem => h id hid (Std.ExtTreeSet.contains_iff_mem.2 hmem)

theorem compatible_lost {state : WorkerState} {leaseState : Ledger.LeaseState}
    (h : compatible state leaseState = true) (hstate : state = .lost)
    (hlease : isRevoking leaseState = true) : leaseState = .revoked := by
  subst hstate
  revert h hlease
  cases leaseState <;> decide

/-- A loss that nothing interrupts ends the lease of the worker. -/
theorem does_markWorkerLost_succeeds (henv : env.Succeeds)
    (hvalid : context.validateFor .current = .ok ())
    (hb : Bound c name process context.ns worker lease)
    (hstate : worker.state.canTransitionTo .lost = true) (hlease : isRevoking lease.state = true) :
    Does (markWorkerLost env context worker.identity reasonCode) c (fun _ => Ended lease)
      (Ended lease) := by
  unfold markWorkerLost validateContext workerInstanceName
  simp only [hvalid, liftExcept_ok, pure_bind, bind_assoc]
  refine Holds.get fun s hs => ?_
  subst hs
  have hname : s.workerInstanceName? context.ns worker.identity = some name := by
    rw [Core.workerInstanceName?, hb.indexed, Option.some_or]
  rw [hname, okOr_some, pure_bind]
  refine Holds.get fun s' hs' => ?_
  rw [hs', hb.managed, Option.bind_some, hb.worker_eq, okOr_some, pure_bind,
    rejectIf_of_not (not_not.2 rfl), pure_bind]
  refine does_loseWorker recordStable_ended hb (fun hsettled now => ?_)
    (fun h => absurd h henv.not_faulty) fun _ c₁ lease₁ hswept => ?_
  · -- the worker was lost before, and its resources are free
    simp only [isSettled, hstate, Bool.not_true, Bool.or_false, Bool.and_eq_true,
      decide_eq_true_eq, Bool.not_eq_true'] at hsettled
    have hrevoked := compatible_lost hb.fits hsettled.1 hlease
    have hstored := Core.Stores.lapse hb.stored now
    have heq : lease.expireIfDue now = lease := by
      rcases Ledger.expireIfDue_cases now lease with h | ⟨hactive, -⟩
      · exact h
      · rw [hrevoked] at hactive
        exact absurd hactive (by decide)
    rw [heq] at hstored
    refine ⟨⟨lease, hstored, hrevoked⟩, fun id hid => ?_⟩
    exact notMem_of_not_isAllocated hb.stored hsettled.2 hid
  · refine ⟨fun outcome code records _ h => ?_, fun outcome report code _ _ hrevoking => ?_⟩
    · exact absurd ⟨henv, hswept.revoking_eq.trans hlease⟩ h
    · exact ended_of_free (stores_revokedLease hswept.stored) (revokedLease_state hrevoking)
        ((revokedLease_name _ _).trans hswept.name_eq)
        ((revokedLease_allocations _ _).trans hswept.allocations_eq)

end Authority

end CyreneKernel
