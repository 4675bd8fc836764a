import CyreneKernel.Authority.Coherence

/-!
# The effects of the lease actions

Acquiring, renewing and releasing a lease are paths of effects.  A release that finds a process
stops it together with the lease; one that finds none may go on only for a lease on which no
process runs, because a process keeps the fence token of its lease.
-/

namespace CyreneKernel

open Lib Relation
open Ledger (ResourceLease)

/-- Clients can see the token: on a lease of a namespace, or on an endpoint grant. -/
inductive Core.Shows (c : Core) (token : Nat) : Prop
  | lease {object : ObjectRef} {lease : ResourceLease}
      (hleased : c.leases[object]? = some lease.name) (hlease : c.Stores lease)
      (htoken : lease.fenceToken = token)
  | grant {object : ObjectRef} {grant : EndpointGrant}
      (hgrant : c.endpointGrants[object]? = some grant) (htoken : grant.fenceToken = token)

namespace Authority

/-- From `c` the action follows a path of effects from `c₀`, and clients can see the token that it
returns. -/
abbrev Issues {α : Type} (Γ : Scope) (c₀ : Core) (tokenOf : α → Nat) (m : Action α) (c : Core) :
    Prop :=
  Does m c (fun a c' => Path Γ c₀ c' ∧ c'.Shows (tokenOf a)) (Path Γ c₀)

variable {Γ : Scope} {c c₀ : Core} {env : Environment} {context : AuthorityCallContext}
  {principal : Principal} {β : Type} {R : β → Core → Prop} {E : Core → Prop}

theorem Path.lapse (h : Path Γ c₀ c) (now : Nat) : Path Γ c₀ (c.lapse now) :=
  h.tail (.loss (.lapse now))

theorem Path.record (h : Path Γ c₀ c) (event : RuntimeJournalEvent)
    (instanceName : Option String) (lease : Option ResourceLease) (reasonCode : String)
    (hneutral : event.isNeutral = true) :
    Path Γ c₀ (c.log [c.record event instanceName lease reasonCode none]) :=
  h.tail (.loss (.record event instanceName lease reasonCode hneutral))

variable {name : String} {object : ObjectRef} {fenceToken : Nat} {process : ManagedProcess}
  {worker : Worker}

theorem Coherent.unindexed_of_new (hc : Coherent c) (hnew : c.ledger.leases.get? name = none) :
    c.Unindexed name := by
  intro object hobject
  obtain ⟨lease, hlease⟩ := hc.lease_stored hobject
  rw [hlease] at hnew
  exact absurd hnew (by simp)

variable {lease : ResourceLease}

/-- A lease whose release may begin, or has begun, was not touched by the sweep. -/
theorem stores_of_lapse {now : Nat} (h : (c.lapse now).Stores lease)
    (hstate : isReleasable lease.state = true) : c.Stores lease := by
  rw [Core.Stores, Core.lapse, Ledger.expireDueLeases_get?, Option.map_eq_some_iff] at h
  obtain ⟨stored, hstored, rfl⟩ := h
  rcases Ledger.expireIfDue_cases now stored with heq | ⟨-, -, heq⟩ <;>
    rw [heq] at hstored hstate ⊢
  · exact hstored
  · exact absurd hstate (by simp [isReleasable])

theorem stores_put {s : Ledger.State} (h : c.ledger = s.put lease) : c.Stores lease := by
  rw [Core.Stores, h, Ledger.put_get?, if_pos rfl]

/-! ### Acquiring and renewing -/

/-- Abandoning a grant that could not be journaled: the lease is not indexed. -/
theorem does_abandon (hc : Coherent c₀) (h : Path Γ c₀ c) (hlease : c.Stores lease)
    (hstate : lease.state = .active) (hunindexed : c.Unindexed lease.name) (rejection : Rejection)
    {Q : Lease → Core → Prop} :
    Does (do
      ignoreFailure (daemonBeginRelease env lease.name lease.fenceToken)
      ignoreFailure (ledgerCall (Ledger.completeRelease lease.name lease.fenceToken))
      throw rejection : Action Lease) c Q (Path Γ c₀) := by
  refine (Does.ignoreFailure (Q := fun _ c' => Path Γ c₀ c' ∧ c'.Unindexed lease.name) ?_).bind ?_
  · rw [← bind_pure (daemonBeginRelease env lease.name lease.fenceToken)]
    refine Does.daemonBeginRelease (fun now => ⟨h.lapse now, hunindexed⟩) ?_
    intro now stored hstored hname _ hstate'
    obtain rfl : stored = lease := stores_unique hlease (stores_of_lapse hstored hstate') hname
    rw [begun, if_pos (.inl hstate)]
    refine Holds.pure ⟨(h.lapse now).tail (.begin hstored hstate ?_), hunindexed⟩
    exact (hc.path (h.lapse now)).idle_of_unindexed hunindexed
  · rintro _ c' ⟨h', hunindexed'⟩
    refine (Does.ignoreFailure (does_ledgerCall ?_)).bind fun _ _ h'' => Holds.throw h''
    refine Ledger.completeRelease_ensures.mono ?_ ?_
    · intro released ledger hdone
      generalize hname : lease.name = name, lease.fenceToken = token at hdone
      cases hdone with
      | completeRelease hstored hreleasing =>
        exact h'.tail (.discard hstored hreleasing (hname ▸ hunindexed'))
      | completeReleaseAgain hstored hreleased => exact h'
    · rintro _ ledger rfl
      exact h'

theorem does_recordAcquired (hc : Coherent c₀) (h : Path Γ c₀ c) (hns : Γ.namespaces object.ns)
    (hlease : c.Stores lease) (hstate : lease.state = .active) (hunindexed : c.Unindexed lease.name)
    (hname : lease.name = scopedRuntimeName "lease" object) :
    Issues Γ c₀ (·.fenceToken) (recordAcquired env object lease) c := by
  unfold recordAcquired
  refine Does.tryAppendRecord (fun _ rejection => ?_) ?_
  · exact does_abandon hc h hlease hstate hunindexed rejection
  · have hrecord := h.record .leaseAcquired none (some lease) "LEASE_ACQUIRED" rfl
    have hindex := hrecord.tail (.index hns hname hlease hunindexed
      ⟨c.record .leaseAcquired none (some lease) "LEASE_ACQUIRED" none,
        List.mem_append_right _ List.mem_cons_self, rfl, rfl⟩)
    refine holds_modify_bind fun s hs => Holds.pure ?_
    simp only [hs]
    exact ⟨hindex, .lease ((BTreeMap.getElem?_insert _ _ _ _).trans (if_pos rfl)) hlease rfl⟩

theorem does_acquireLease (hc : Coherent c) (hns : Γ.namespaces context.ns) {holder : Identity}
    {query : ResourceQuery} {expiresAtUnixMs : Nat} :
    Issues Γ c (·.fenceToken)
      (acquireLease env context principal holder query expiresAtUnixMs) c := by
  have h : Path Γ c c := .refl
  unfold acquireLease
  refine (quiet_validateContext _).holds_bind h fun _ => ?_
  refine (quiet_bindNamespace _ _).holds_bind h fun _ => Does.ask fun t => ?_
  refine Holds.rejectIf h fun _ => Holds.get fun s _ => ?_
  refine Does.daemonAcquireLease h h.lapse fun now resources hnew => ?_
  have hgrant := (h.lapse now).tail (.grant resources hnew)
  refine does_recordAcquired hc hgrant hns ?_ rfl ?_ rfl
  · exact (Ledger.grant_get? _ _ _ _).trans (if_pos rfl)
  · exact (hc.lapse now).unindexed_of_new hnew

theorem does_renewLease {lease : Identity} {expiresAtUnixMs : Nat} :
    Issues Γ c (·.fenceToken)
      (renewLease env context principal lease fenceToken expiresAtUnixMs) c := by
  have h : Path Γ c c := .refl
  unfold renewLease
  refine Does.asOwner h ?_
  refine Does.leaseFor h h.lapse fun now current hleased _ => ?_
  refine Holds.rejectIf (h.lapse now) fun _ => Does.ask fun t => does_ledgerCall_bind ?_
  refine (Ledger.renewLease_ensures expiresAtUnixMs).mono ?_ ?_
  · intro renewed ledger hdone
    generalize current.name = name at hdone hleased
    cases hdone with
    | renewLease hstored hstate _ =>
      have h' := ((h.lapse now).lapse _).tail (.renew expiresAtUnixMs hstored hstate)
      refine Holds.pure ⟨h', @Core.Shows.lease _ _ (context.objectRef lease) _ ?_
        (stores_put rfl) rfl⟩
      exact hleased
  · rintro _ ledger rfl
    exact (h.lapse now).lapse _

/-! ### Releasing -/

/-- The objects after the process of a lease was stopped. -/
def stopped (c : Core) (name : String) (process : ManagedProcess) (lease : ResourceLease)
    (outcome : Except ProviderError CleanupReport) : Core :=
  { c with
    ledger := stopLease c.ledger lease (process.actor.stop outcome).1
    instances := c.instances.insert name (stoppedProcess process outcome) }

/-- Stopping a process moves its lease along with it. -/
theorem Does.stopManaged {lease : ResourceLease} {f : CleanupReport → Action β}
    (hlease : c.Stores lease) (hstate : lease.state = .releasing ∨ lease.state = .released)
    (hE : ∀ outcome e, (process.actor.stop outcome).1 = .error e →
      E (stopped c name process lease outcome))
    (hf : ∀ outcome report, (process.actor.stop outcome).1 = .ok report →
      Does (f report) (stopped c name process lease outcome) R E) :
    Does (stopManaged env name process lease.name lease.fenceToken >>= f) c R E := by
  unfold Authority.stopManaged
  rw [bind_assoc]
  refine Does.ask fun t => ?_
  have hE' := hE (env.stop t)
  have hf' := hf (env.stop t)
  unfold stopped stoppedProcess stopLease stoppedLeaseState at hE' hf'
  generalize process.actor.stop (env.stop t) = outcome at hE' hf' ⊢
  obtain ⟨result, actor⟩ := outcome
  cases result with
  | error e =>
    simp only [bind_assoc]
    have hE' := hE' e rfl
    refine Does.putInstance (Does.failRelease hlease (fun h => ?_) (fun h => ?_) hstate)
    · rw [if_neg (by rw [h]; decide)] at hE'
      exact Holds.throw_bind hE'
    · rw [if_pos h] at hE'
      exact Holds.throw_bind hE'
  | ok report =>
    have hf' := hf' report rfl
    simp only [bind_assoc]
    refine Does.putInstance ?_
    cases hcomplete : report.complete with
    | true =>
      have hledger : (if lease.state = .released then c.ledger
          else c.ledger.put { lease with state := .releasing }) = c.ledger := by
        rcases hstate with hs | hs
        · rw [if_neg (by rw [hs]; decide), ← hs, Ledger.put_self hlease]
        · rw [if_pos hs]
      simp only [hcomplete, if_true, hledger] at hf'
      simpa only [hcomplete, Bool.not_true, Bool.false_eq_true, if_false, if_true, pure_bind]
        using hf'
    | false =>
      simp only [hcomplete, Bool.false_eq_true, if_false] at hf'
      simp only [Bool.not_false, if_true, Bool.false_eq_true, if_false, bind_assoc, pure_bind]
      refine Does.failRelease hlease (fun h => ?_) (fun h => ?_) hstate
      · rwa [if_neg (by rw [h]; decide)] at hf'
      · rwa [if_pos h] at hf'

theorem begun_state (h : isReleasable lease.state = true) :
    (begun lease).state = .releasing ∨ (begun lease).state = .released := by
  rcases begun_cases h with ⟨hbegun, -⟩ | ⟨hbegun, hstate⟩
  · exact .inl (by rw [hbegun])
  · exact .inr (by rw [hbegun, hstate])

theorem begun_name (lease : ResourceLease) : (begun lease).name = lease.name := by
  unfold begun
  split <;> rfl

theorem begun_fenceToken (lease : ResourceLease) :
    (begun lease).fenceToken = lease.fenceToken := by
  unfold begun
  split <;> rfl

theorem begun_holder (lease : ResourceLease) : (begun lease).holder = lease.holder := by
  unfold begun
  split <;> rfl

/-- Stopping a process after its release began does what stopping it at once does. -/
theorem stopped_begun (hlease : c.Stores lease) (hstate : isReleasable lease.state = true)
    (name : String) (process : ManagedProcess) (outcome : Except ProviderError CleanupReport) :
    stopped { c with ledger := c.ledger.put (begun lease) } name process (begun lease) outcome =
      stopped c name process lease outcome := by
  unfold stopped stopLease
  rcases begun_cases hstate with ⟨hbegun, hne⟩ | ⟨hbegun, heq⟩
  · have hput : (c.ledger.put { lease with state := .releasing }).put
        { lease with state := stoppedLeaseState (process.actor.stop outcome).1 } =
        c.ledger.put { lease with state := stoppedLeaseState (process.actor.stop outcome).1 } :=
      Ledger.put_put _ rfl
    simp only [hbegun, if_neg hne, reduceCtorEq, if_false, hput]
  · simp only [hbegun, if_pos heq, Ledger.put_self hlease]

/-- Stopping the process of a lease whose release has begun.  The effect is complete with the record
that is due. -/
theorem Does.stopBound (h : Path Γ c₀ c) (hns : Γ.namespaces object.ns)
    (hstop : Γ.stops lease worker) (hprocess : c.instances[name]? = some process)
    (hworker : process.semanticWorker = some worker) (hleased : c.leases[object]? = some lease.name)
    (hlease : c.Stores lease) (hfence : process.lease = some ⟨lease.name, lease.fenceToken⟩)
    (hstate : isReleasable lease.state = true) {f : CleanupReport → Action β}
    (hf : ∀ outcome report, (process.actor.stop outcome).1 = .ok report →
      (∀ reasonCode records,
        Writes Γ.faulty (terminationRecords c worker lease reasonCode (.ok report)) records →
        Path Γ c₀ ((stopped c name process lease outcome).log records)) →
      Does (f report) (stopped c name process lease outcome) R (Path Γ c₀)) :
    Does (Authority.stopManaged env name process (begun lease).name lease.fenceToken >>= f)
      { c with ledger := c.ledger.put (begun lease) } R (Path Γ c₀) := by
  have hpath : ∀ outcome reasonCode records,
      Writes Γ.faulty (terminationRecords c worker lease reasonCode (process.actor.stop outcome).1)
        records → Path Γ c₀ ((stopped c name process lease outcome).log records) :=
    fun outcome _ _ hrecords => h.tail
      (.stop outcome hns hstop hprocess hworker hleased hlease hfence hstate hrecords)
  rw [← begun_fenceToken lease]
  refine Does.stopManaged (stores_put rfl) (begun_state hstate) ?_ ?_
  · intro outcome e herror
    rw [stopped_begun hlease hstate]
    have herror := hpath outcome "" [] (by rw [herror]; exact .all _ _)
    rwa [Core.log_nil] at herror
  · intro outcome report hreport
    rw [stopped_begun hlease hstate]
    exact hf outcome report hreport fun reasonCode records hrecords =>
      hpath outcome reasonCode records (by rwa [hreport])

/-- A process found by its lease. -/
theorem findProcess_eq_some {entries : List (String × ManagedProcess)} {leaseName : String}
    (h : findProcess entries leaseName fenceToken = some (name, process)) :
    (name, process) ∈ entries ∧ process.lease = some ⟨leaseName, fenceToken⟩ := by
  refine ⟨List.mem_of_find?_eq_some h, ?_⟩
  have hfound := List.find?_some h
  rw [Option.any_eq_true] at hfound
  obtain ⟨ref, href, hmatch⟩ := hfound
  obtain ⟨rfl, rfl⟩ := of_decide_eq_true hmatch
  exact href

/-- A lease on which no process was found has none: a process keeps the fence token. -/
theorem Coherent.idle_of_findProcess (hc : Coherent c) {entries : List (String × ManagedProcess)}
    (hentries : ∀ name process, (name, process) ∈ entries ↔ c.instances[name]? = some process)
    (hlease : c.Stores lease) (hstate : lease.state ≠ .revoked)
    (h : findProcess entries lease.name lease.fenceToken = none) : c.Idle lease.name := by
  intro name process ref hprocess href hname
  obtain ⟨ns, worker, bound, hb⟩ := hc.bound hprocess
  obtain ⟨token, htoken, hfence⟩ := hb.fence
  obtain rfl : ref = ⟨bound.name, token⟩ := Option.mem_unique href htoken
  obtain rfl : bound = lease := stores_unique hlease hb.stored hname
  have hnone := List.find?_eq_none.1 h (name, process) ((hentries name process).2 hprocess)
  simp [htoken, hfence hstate] at hnone

/-- A lease whose process was stopped completely is ready to be given up. -/
theorem stores_stopped {outcome : Except ProviderError CleanupReport} {report : CleanupReport}
    (hlease : c.Stores lease) (hresult : (process.actor.stop outcome).1 = .ok report)
    (hcomplete : report.complete = true) :
    ∃ l, (stopped c name process lease outcome).Stores l ∧ l.name = lease.name ∧
      l.fenceToken = lease.fenceToken ∧ l.holder = lease.holder ∧
      (l.state = .releasing ∨ l.state = .released) := by
  unfold stopped stopLease Core.Stores
  rw [hresult]
  split
  · next hreleased => exact ⟨lease, hlease, rfl, rfl, rfl, .inr hreleased⟩
  · refine ⟨{ lease with state := .releasing }, ?_, rfl, rfl, rfl, .inl rfl⟩
    rw [Ledger.put_get?, if_pos rfl]
    simp only [stoppedLeaseState, hcomplete, if_true]

section

variable {ns : NamespaceId} (hc : Coherent c) (hb : Bound c name process ns worker lease)

include hc hb

/-- When its process is gone and the journal has it, a lease is cleared: no other process runs on
it. -/
theorem Coherent.cleared {c' : Core} {process' : ManagedProcess}
    (hinstances : c'.instances = c.instances.insert name process')
    (hinherits : Inherits process process') (hhandle : process'.actor.process.handle = none)
    (hrecord : ∃ record ∈ c'.journal, record.event = .instanceTerminated ∧
      record.instanceName = some worker.identity.id ∧ record.leaseName = some lease.name) :
    c'.Cleared lease.name := by
  intro n p w ref hp hw href hname
  rw [hinstances, BTreeMap.getElem?_insert] at hp
  split_ifs at hp with heq
  · obtain rfl := Option.some.inj hp
    obtain ⟨stored, hstored, hidentity, -⟩ := worker_of_binding hinherits.binding_eq hw
    obtain rfl := Option.mem_unique hb.worker_eq hstored
    refine ⟨hhandle, ?_⟩
    unfold Core.Terminated
    rwa [← hidentity]
  · -- another process on the lease would be the same one
    obtain ⟨ns', worker', lease', hb'⟩ := hc.bound hp
    obtain ⟨token, htoken, -⟩ := hb'.fence
    obtain rfl := Option.mem_unique href htoken
    exact absurd (hb.name_unique hb' hc hname.symm) heq

/-- The process of a lease was stopped completely, which the journal has yet to take. -/
structure Unrecorded (Γ : Scope) (c₀ : Core) (lease : ResourceLease) (instanceName : String)
    (c : Core) : Prop where
  faulty : Γ.faulty → Path Γ c₀ c
  recorded : ∀ reasonCode, Path Γ c₀
    (c.log [c.record .instanceTerminated (some instanceName) (some lease) reasonCode none])
  cleared : ∀ reasonCode,
    (c.log [c.record .instanceTerminated (some instanceName) (some lease) reasonCode
      none]).Cleared lease.name

theorem unrecorded_stopped {outcome : Except ProviderError CleanupReport} {report : CleanupReport}
    (hreport : (process.actor.stop outcome).1 = .ok report) (hcomplete : report.complete = true)
    (hpath : ∀ reasonCode records,
      Writes Γ.faulty (terminationRecords c worker lease reasonCode (.ok report)) records →
      Path Γ c₀ ((stopped c name process lease outcome).log records)) :
    Unrecorded Γ c₀ lease worker.identity.id (stopped c name process lease outcome) where
  faulty hfaulty := by
    have h := hpath "" [] (.of_faulty hfaulty (List.nil_sublist _))
    rwa [Core.log_nil] at h
  recorded reasonCode := by
    refine hpath reasonCode _ ?_
    rw [terminationRecords, if_pos hcomplete]
    exact .all _ _
  cleared reasonCode := by
    refine hc.cleared hb rfl (inherits_stoppedProcess process outcome) ?_
      ⟨_, List.mem_append_right _ List.mem_cons_self, rfl, rfl, rfl⟩
    rw [stoppedProcess_actor]
    exact InstanceActor.handle_of_stop_complete hreport hcomplete

end

/-- The record of a termination. -/
theorem Does.recordTermination (hfaulty : env.Faulty → Γ.faulty) {releasing : ResourceLease}
    {instanceName : String} (h : Unrecorded Γ c₀ lease instanceName c)
    (hname : releasing.name = lease.name) (hfence : releasing.fenceToken = lease.fenceToken)
    {reasonCode : String} {f : Unit → Action β}
    (hf : ∀ records, Path Γ c₀ (c.log records) → (c.log records).Cleared lease.name →
      Does (f ()) (c.log records) R (Path Γ c₀)) :
    Does (CyreneKernel.recordRuntime env .instanceTerminated (some instanceName) (some releasing)
      reasonCode >>= f) c R (Path Γ c₀) := by
  refine Does.recordRuntime (fun h' => h.faulty (hfaulty h')) ?_
  have hrecord : c.record .instanceTerminated (some instanceName) (some releasing) reasonCode none =
      c.record .instanceTerminated (some instanceName) (some lease) reasonCode none := by
    simp only [Core.record, Option.map_some, hname, hfence]
  rw [hrecord]
  exact hf _ (h.recorded reasonCode) (h.cleared reasonCode)

/-- The outcome of proving the cleanup of a lease whose release has begun: the process that runs on
it was stopped, or there is none. -/
def HolderGone (Γ : Scope) (c₀ : Core) (lease : ResourceLease) (c : Core) :
    Option (String × String) → Prop
  | none => Path Γ c₀ c ∧ c.Cleared lease.name
  | some (_, instanceName) => Unrecorded Γ c₀ lease instanceName c

theorem does_cleanUpHolder (hc : Coherent c₀) (h : Path Γ c₀ c) (hns : Γ.namespaces object.ns)
    (hleased : c.leases[object]? = some lease.name) (hlease : c.Stores lease)
    (hstate : isReleasable lease.state = true)
    (hstop : ∀ {name : String} {process : ManagedProcess} {worker : Worker},
      c.instances[name]? = some process → process.semanticWorker = some worker →
      process.lease = some ⟨lease.name, lease.fenceToken⟩ → Γ.stops lease worker) :
    Does (cleanUpHolder env lease (begun lease) lease.fenceToken)
      { c with ledger := c.ledger.put (begun lease) }
      (fun stopped c' => HolderGone Γ c₀ lease c' stopped ∧ c'.leases = c.leases ∧
        ∃ l, c'.Stores l ∧
        l.name = lease.name ∧ l.fenceToken = lease.fenceToken ∧ l.holder = lease.holder ∧
        (l.state = .releasing ∨ l.state = .released))
      (Path Γ c₀) := by
  have hc' := hc.path h
  unfold cleanUpHolder
  refine Does.instanceEntries fun entries hentries => ?_
  cases hfind : findProcess entries lease.name lease.fenceToken with
  | some entry =>
    obtain ⟨name, process⟩ := entry
    obtain ⟨hmem, href⟩ := findProcess_eq_some hfind
    have hprocess : c.instances[name]? = some process := (hentries name process).1 hmem
    obtain ⟨_, worker, _, hmanaged⟩ := hc'.bound hprocess
    have hworker := hmanaged.worker_eq
    obtain ⟨hb, -⟩ := hc'.bound_of_lease hprocess hworker hleased hlease href
    refine Does.stopBound h hns (hstop hprocess hworker href) hprocess hworker hleased
      hlease href hstate fun outcome report hreport hpath => ?_
    cases hcomplete : report.complete with
    | true =>
      refine Holds.pure ⟨?_, rfl, stores_stopped hlease hreport hcomplete⟩
      have hunrecorded := unrecorded_stopped hc' hb hreport hcomplete hpath
      rwa [HolderGone, hworker, Option.map_some, Option.getD_some]
    | false =>
      have h' := hpath "" [] (by
        simp only [terminationRecords, hcomplete, Bool.false_eq_true, if_false]
        exact .all _ _)
      rw [Core.log_nil] at h'
      refine Does.ignoreRecord (fun _ => Holds.throw_bind h') (Holds.throw_bind ?_)
      exact h'.record _ _ _ _ rfl
  | none =>
    refine Holds.ite (fun hretry => ?_) (fun hretry => ?_)
    · -- the retry of a failed release finds no process, and the lease stays failed
      have hput : (c.ledger.put (begun lease)).put { begun lease with state := .failed } =
          c.ledger := by
        have hbegun : { begun lease with state := .failed } = lease := by
          rw [begun, if_pos (.inr hretry), ← hretry]
        rw [hbegun, Ledger.put_put _ (begun_name lease).symm, Ledger.put_self hlease]
      rw [← begun_fenceToken lease]
      refine Does.failRelease (stores_put rfl) (fun _ => ?_) (fun hreleased => ?_)
        (begun_state hstate)
      · rw [hput]
        exact Holds.throw_bind h
      · rw [begun, if_pos (.inr hretry)] at hreleased
        exact absurd hreleased (by simp)
    · have hidle : c.Idle lease.name := by
        refine hc'.idle_of_findProcess hentries hlease (fun hrevoked => ?_) hfind
        rw [hrevoked] at hstate
        exact absurd hstate (by decide)
      refine Holds.pure ⟨⟨?_, hidle.cleared⟩, rfl, begun lease, stores_put rfl, begun_name lease,
        begun_fenceToken lease, begun_holder lease, begun_state hstate⟩
      by_cases hactive : lease.state = .active
      · rw [begun, if_pos (.inl hactive)]
        exact h.tail (.begin hlease hactive hidle)
      · rw [begun, if_neg (not_or.2 ⟨hactive, hretry⟩), Ledger.put_self hlease]
        exact h

/-- Giving up a lease, with the endpoint authority of its holder. -/
theorem does_completeRelease (h : Path Γ c₀ c) (hlease : c.Stores lease)
    (hcleared : c.Cleared lease.name) (hstate : lease.state = .releasing ∨ lease.state = .released)
    (hpurge : Γ.purges lease.holder) {instanceName : Option String} {releasing : ResourceLease}
    {f : ResourceLease → List Identity → Action β} {Q : β → Core → Prop}
    (hf : ∀ c', Path Γ c₀ c' → c'.semanticOperations = c.semanticOperations → ∀ l endpoints,
      (∀ object : ObjectRef, c.leases[object]? = some lease.name → c'.Shows l.fenceToken) →
      Does (f l endpoints) c' Q (Path Γ c₀)) :
    Does (do
      recordRuntime env .leaseReleased instanceName (some releasing) "LEASE_RELEASED"
      let released ← ledgerCall (Ledger.completeRelease lease.name lease.fenceToken)
      let endpoints ← purgeEndpointAuthority lease.holder
      f released endpoints) c Q (Path Γ c₀) := by
  refine Does.recordRuntime (fun _ => h) ?_
  have h' := h.record .leaseReleased instanceName (some releasing) "LEASE_RELEASED" rfl
  refine Does.completeRelease hlease (fun hreleasing => ?_) (fun _ => ?_) hstate
  · refine Does.purgeEndpointAuthority
      (hf _ (h'.tail (.release hlease hreleasing hpurge (hcleared.log _))) rfl _ _ ?_)
    intro object hleased
    refine @Core.Shows.lease _ _ object _ ?_ (stores_put rfl) rfl
    exact hleased
  · exact Does.purgeEndpointAuthority (hf _ (h'.tail (.purge hpurge)) rfl _ _
      fun _ hleased => .lease hleased hlease rfl)

variable (hc : Coherent c) {leaseIdentity : Identity} (hns : Γ.namespaces context.ns)
  (hfaulty : env.Faulty → Γ.faulty)
  (hpurge : ∀ {lease : ResourceLease},
    c.leases[context.objectRef leaseIdentity]? = some lease.name → c.Stores lease →
    Γ.purges lease.holder)
  (hstop : ∀ {lease : ResourceLease} {name : String} {process : ManagedProcess} {worker : Worker},
    c.leases[context.objectRef leaseIdentity]? = some lease.name → c.Stores lease →
    lease.fenceToken = fenceToken → c.instances[name]? = some process →
    process.semanticWorker = some worker → process.lease = some ⟨lease.name, fenceToken⟩ →
    Γ.stops lease worker)

include hc hns hfaulty hpurge hstop

theorem does_releaseWithCleanup :
    Issues Γ c (·.fenceToken) (releaseWithCleanup env context leaseIdentity fenceToken) c := by
  have h : Path Γ c c := .refl
  unfold releaseWithCleanup
  refine Does.leaseFor h h.lapse fun now current hleased hcurrent => ?_
  have h₁ := h.lapse now
  refine Holds.rejectIf h₁ fun _ => Does.recordRuntime (fun _ => h₁) ?_
  have h₂ := h₁.record .leaseReleaseStarted none (some current) "LEASE_RELEASE_STARTED" rfl
  refine Does.daemonBeginRelease h₂.lapse fun now' lease hlease hname hfence hstate => ?_
  have hlease₁ : (c.lapse now).Stores lease := stores_of_lapse hlease hstate
  have hlease₀ : c.Stores lease := stores_of_lapse hlease₁ hstate
  obtain rfl : current = lease := stores_unique hlease₁ hcurrent hname.symm
  subst hfence
  refine (does_cleanUpHolder hc (h₂.lapse now') hns hleased hlease hstate
    fun hprocess hworker href => hstop hleased hlease₀ rfl hprocess hworker href).bind ?_
  rintro stopped c' ⟨hgone, hleases, l, hl, hlname, hlfence, hlholder, hlstate⟩
  have hpurged : Γ.purges l.holder := hlholder ▸ hpurge hleased hlease₀
  have hcomplete : ∀ (instanceName : Option String) (c'' : Core), Path Γ c c'' →
      c''.Cleared l.name → c''.Stores l → c''.leases = c.leases → Issues Γ c (·.fenceToken) (do
        recordRuntime env .leaseReleased instanceName (some (begun current)) "LEASE_RELEASED"
        let released ← ledgerCall (Ledger.completeRelease l.name l.fenceToken)
        let _ ← purgeEndpointAuthority l.holder
        pure (semanticLease (context.objectRef leaseIdentity) released)) c'' := by
    intro _ c'' h'' hcleared hstored hleases
    refine does_completeRelease h'' hstored hcleared hlstate hpurged fun _ hend _ _ _ hshows =>
      Holds.pure ⟨hend, hshows (context.objectRef leaseIdentity) ?_⟩
    rw [hleases, hlname]
    exact hleased
  rw [hlname, hlfence, hlholder] at hcomplete
  cases stopped with
  | none => exact hcomplete none c' hgone.1 hgone.2 hl hleases
  | some stopped =>
    refine Does.recordTermination hfaulty hgone (begun_name current) (begun_fenceToken current)
      fun records h' hcleared => ?_
    exact hcomplete _ _ h' hcleared hl hleases

theorem does_releaseLease :
    Issues Γ c (·.fenceToken)
      (releaseLease env context principal leaseIdentity fenceToken) c := by
  unfold releaseLease
  refine Does.asOwner .refl ?_
  exact does_releaseWithCleanup hc hns hfaulty hpurge hstop

end Authority

end CyreneKernel
