import CyreneKernel.Authority.RuntimeNames
import CyreneKernel.Authority.ScanSafety

/-!
# What one scan achieves

A scan during which neither the journal nor the sandbox fails is meant to end every lease that is
due.  It does so for a lease whose match means, in the namespace of the lease, the worker that was
started on it, and while this worker has not stopped: the scan goes by bare lease ids when it looks
for a worker, and it takes a stopped worker for settled although its lease is still releasing.

## Main definitions

* `isDue`: a lease that the scan is to end.
* `scanMisses`: the scan matches a lease with another worker, or finds its worker stopped.

## Main results

* `scanCompleteness`: every other scan ends all due leases, and no worker on an unexpired lease.
* `missedLease_not_complete`: a scan that misses a due lease and loses a worker of an unexpired one.
-/

namespace CyreneKernel

open Lib Relation
open Ledger (ResourceLease)

/-- The state of the worker under a runtime name. -/
def Core.workerState? (c : Core) (name : String) : Option WorkerState :=
  (c.instances[name]?).bind fun process => process.semanticWorker.map (·.state)

namespace Authority

variable {Γ : Scope} {c c' : Core} {env : Environment} {now : Nat} {lease lease' : ResourceLease}
  {E : Core → Prop}

/-- A lease that the scan at the time `now` is to end. -/
def isDue (now : Nat) (lease : ResourceLease) : Bool :=
  lease.expiresAtUnixMs.any (· ≤ now) && isRevocable lease.state

/-- A worker that the scan matches with the lease has, in the namespace of the lease, another
lease or none. -/
def isMisresolved (c : Core) (lease : ResourceLease) : Bool :=
  c.instances.toList.any fun entry => entry.2.semanticWorker.any fun worker =>
    isBoundTo lease.name (scannedObject c lease).identity entry.2 worker &&
      resolvedLease? c (scannedObject c lease).ns worker.identity ≠ some lease.name

/-- The process was started on the lease of this name. -/
def isStartedOn (leaseName : String) (process : ManagedProcess) : Bool :=
  process.lease.any (·.leaseName = leaseName)

/-- The worker that was started on the lease has stopped. -/
def isHalted (c : Core) (lease : ResourceLease) : Bool :=
  c.instances.toList.any fun entry =>
    isStartedOn lease.name entry.2 && entry.2.semanticWorker.any (·.state = .stopped)

/-- The scan at the time `now` matches a lease with another worker, or a due lease with a stopped
one. -/
def scanMisses (c : Core) (now : Nat) : Bool :=
  c.ledger.leases.values.any fun lease =>
    (needsActiveExpiry c now lease && isMisresolved c lease) ||
      (isDue now lease && isHalted c lease)

/-! ### The worker that a lease is matched with -/

variable {leaseName name : String} {process : ManagedProcess} {leases : List ResourceLease}

theorem resolves_of_resolvedLease? {ns : NamespaceId} {worker : Identity}
    (h : resolvedLease? c ns worker = some leaseName) : Resolves c ns worker leaseName := by
  simp only [resolvedLease?, Option.bind_eq_some_iff, Option.filter_eq_some_iff,
    decide_eq_true_eq] at h
  obtain ⟨stored, ⟨⟨process, ⟨name, hname, hprocess⟩, hstored⟩, hidentity⟩, hleased⟩ := h
  exact ⟨name, process, stored, hname, hprocess, hstored, hidentity, hleased⟩

/-- Every worker the lease is matched with means, in the namespace of the lease, a worker on the
lease. -/
def Found (c : Core) (lease : ResourceLease) : Prop :=
  ∀ ⦃worker⦄, Matches c lease worker → Resolves c (scannedObject c lease).ns worker lease.name

theorem found_of_isMisresolved (h : isMisresolved c lease = false) : Found c lease := by
  rintro worker ⟨name, process, stored, hprocess, hstored, rfl, hbound⟩
  rw [isMisresolved, BTreeMap.any_toList_eq_false] at h
  have hentry := h name process hprocess
  simp only [hstored, Option.any_some, hbound, Bool.true_and, decide_eq_true_eq, ne_eq,
    not_not] at hentry
  exact resolves_of_resolvedLease? hentry

theorem Found.of_sameBindings (h : SameBindings c c') (hfound : Found c lease) :
    Found c' lease := by
  intro worker hmatch
  rw [scannedObject_congr h]
  exact (hfound (hmatch.of_sameBindings h)).of_sameBindings h.symm

/-- The expiry of a lease that is matched well touches no other lease. -/
theorem Found.name_eq (hfound : Found c lease) (h : (leaseScope env c lease).frees leaseName) :
    leaseName = lease.name := by
  rcases h with ⟨rfl, -⟩ | ⟨worker, hmatch, hresolves⟩
  · rfl
  · have hsame := resolvedLease?_eq_some (hfound hmatch)
    rw [resolvedLease?_eq_some hresolves] at hsame
    exact Option.some.inj hsame

/-! ### What losses do to workers and leases -/

theorem LossEffect.workerState (h : LossEffect Γ c c') (hc : Coherent c)
    (hprocess : c.instances[name]? = some process) :
    c'.workerState? name = c.workerState? name ∨ (c'.workerState? name = some .lost ∧
      ∃ leaseName, isStartedOn leaseName process = true ∧ Γ.frees leaseName) := by
  cases h with
  | lapse | record | reclaim | expire => exact .inl rfl
  | @lose ns name' process' worker lease _ _ _ outcome hns hpurge hname hprocess' hworker hstate
      hleased hlease hfree =>
    by_cases heq : name' = name
    · subst heq
      obtain rfl : process' = process := Option.mem_unique hprocess' hprocess
      obtain ⟨lease', hb⟩ := hc.bound_of_name hname hprocess hworker
      obtain rfl := hb.lease_eq hleased hlease
      obtain ⟨token, hfence, -⟩ := hb.fence
      refine .inr ⟨?_, lease'.name, by simp [isStartedOn, hfence], hfree⟩
      change ((c.instances.insert name'
        (lostProcess process' (process'.actor.stop outcome).2))[name']?).bind _ = _
      simp [lostProcess, ManagedProcess.withState, hworker]
    · refine .inl ?_
      change ((c.instances.insert name'
        (lostProcess process' (process'.actor.stop outcome).2))[name]?).bind _ = _
      rw [BTreeMap.getElem?_insert, if_neg heq]
      rfl

theorem isStartedOn_congr {process' : ManagedProcess} (h : process'.binding = process.binding)
    (leaseName : String) : isStartedOn leaseName process' = isStartedOn leaseName process := by
  unfold isStartedOn
  rw [(Prod.mk.inj h).1]

/-- Losses leave the worker of a process alone, or lose it with the lease it was started on. -/
theorem LossPath.workerState (h : LossPath Γ c c') (hc : Coherent c)
    (hprocess : c.instances[name]? = some process) :
    c'.workerState? name = c.workerState? name ∨ (c'.workerState? name = some .lost ∧
      ∃ leaseName, isStartedOn leaseName process = true ∧ Γ.frees leaseName) := by
  induction h with
  | refl => exact .inl rfl
  | @tail b d hpath heffect ih =>
    obtain ⟨process', hprocess', hbinding⟩ := (LossPath.sameBindings hpath).binding hprocess
    rcases heffect.workerState (LossPath.coherent hpath hc) hprocess' with hsame |
      ⟨hlost, leaseName, hstarted, hfree⟩
    · rw [hsame]
      exact ih
    · rw [isStartedOn_congr hbinding] at hstarted
      exact .inr ⟨hlost, leaseName, hstarted, hfree⟩

/-- A lease outside of the scope keeps its authority. -/
theorem LossPath.revocable (h : LossPath Γ c c') (hfree : ¬ Γ.frees name)
    (hrevoke : ¬ Γ.revokes name) (hlease : c.ledger.leases.get? name = some lease)
    (hstate : isRevocable lease.state = true) :
    ∃ lease', c'.ledger.leases.get? name = some lease' ∧ isRevocable lease'.state = true := by
  induction h with
  | refl => exact ⟨lease, hlease, hstate⟩
  | @tail b d hpath heffect ih =>
    obtain ⟨lease', hlease', hstate'⟩ := ih
    cases heffect with
    | lapse now =>
      refine ⟨lease'.expireIfDue now, ?_, (isRevocable_expireIfDue now lease').trans hstate'⟩
      change (Ledger.expireDueLeases now b.ledger).leases.get? name = _
      rw [Ledger.expireDueLeases_get?, hlease', Option.map_some]
    | record => exact ⟨lease', hlease', hstate'⟩
    | @lose ns name' process worker lost _ _ _ _ _ _ _ _ _ _ _ _ hfree' =>
      refine ⟨lease', ?_, hstate'⟩
      change (revokeIfRevocable b.ledger lost).leases.get? name = _
      unfold revokeIfRevocable
      split
      · have hne : lost.name ≠ name := fun heq => hfree (heq ▸ hfree')
        exact (Ledger.revokeLease_get? _ _ _).trans ((if_neg hne).trans hlease')
      · exact hlease'
    | reclaim => exact ⟨lease', hlease', hstate'⟩
    | @expire lost _ _ _ _ _ hrevoke' =>
      have hne : lost.name ≠ name := fun heq => hrevoke (heq ▸ hrevoke')
      exact ⟨lease', (Ledger.revokeLease_get? _ _ _).trans ((if_neg hne).trans hlease'), hstate'⟩

/-- A lease that has ended stays so. -/
theorem LossPath.ended (h : LossPath Γ c c') (hended : Ended lease c) : Ended lease c' := by
  obtain ⟨⟨revoked, hrevoked, hstate⟩, hfreed⟩ := hended
  refine ⟨?_, fun id hid hmem => hfreed id hid (h.ledgerFades.allocated id hmem)⟩
  obtain ⟨faded, hfaded, hfades⟩ := h.ledgerFades.after hrevoked
  refine ⟨faded, hfaded, ?_⟩
  rw [hfades.revoked_eq hstate]
  exact hstate

theorem Fades.ended (h : Fades lease lease') (hended : Ended lease' c) : Ended lease c := by
  obtain ⟨hrevoked, hfreed⟩ := hended
  rw [h.name_eq] at hrevoked
  unfold ResourceLease.resourceIds at hfreed
  rw [h.allocations_eq] at hfreed
  exact ⟨hrevoked, hfreed⟩

/-! ### Expiring a due lease -/

theorem isRevoking_of_isRevocable {state : Ledger.LeaseState} (h : isRevocable state = true) :
    isRevoking state = true := by
  rw [isRevoking, h, Bool.true_or]

section

variable (hfades : Fades lease lease') (hlease : c.Stores lease')
  (hstate : isRevocable lease.state = true) (hstate' : isRevocable lease'.state = true)

include hfades hlease hstate hstate'

/-- The revocation of a lease that was read earlier. -/
theorem does_revokeOnce_succeeds :
    Does (revokeOnce env lease) c (fun result c' => ∃ revoked, result = .ok revoked ∧
      c'.Stores revoked ∧ revoked.state = .revoked ∧ Fades lease revoked) E := by
  have hne : lease.state ≠ .revoked := fun h => absurd hstate (by rw [h]; decide)
  have hne' : lease'.state ≠ .revoked := fun h => absurd hstate' (by rw [h]; decide)
  unfold revokeOnce
  rw [if_neg hne, ← hfades.name_eq, ← hfades.fence_eq hne', ← bind_pure (daemonRevoke env _ _)]
  refine Does.tryAction (Does.daemonRevoke (E := fun _ => False) hlease hstate' fun now =>
    Holds.pure ⟨_, rfl, ?_, rfl, ?_⟩) (fun _ _ h => h.elim)
  · exact (Ledger.revokeLease_get? _ _ _).trans (if_pos rfl)
  · refine hfades.trans ((fades_expireIfDue now lease').trans (fades_revoked _ ?_))
    exact (isRevocable_expireIfDue now lease').trans hstate'

theorem does_expireStandalone_succeeds {object : ObjectRef} :
    Does (expireStandalone env lease object) c (fun _ => Ended lease) E := by
  refine (does_revokeOnce_succeeds hfades hlease hstate hstate').bind ?_
  rintro _ c' ⟨revoked, rfl, hrevoked, hrevokedState, hfaded⟩
  refine Does.ignoreRevocationRecords fun records _ => ?_
  have hstored : (c'.log records).Stores revoked := hrevoked
  rw [← bind_pure (ledgerCall _)]
  refine (Does.ignoreFailure (Q := fun _ => Ended lease)
    (Does.completeRevocation hstored hrevokedState (Holds.pure ?_))).bind ?_
  · exact ended_of_free hrevoked hrevokedState hfaded.name_eq hfaded.allocations_eq
  · intro _ c'' h
    exact (mute_publishSemanticEventIn _ _ _ _).holds_bind fun _ => Holds.pure h

end

theorem expiryContext_valid (ns : NamespaceId) (worker : Identity) :
    (expiryContext ns worker).validateFor .current = .ok () := by
  have hnegotiate : ContractRevision.current.negotiate .current = some .current := by decide
  have hns : NamespaceId.new (expiryContext ns worker).ns.asStr = .ok ns := by
    rw [NamespaceId.new, expiryContext, dif_pos ns.valid]
  unfold AuthorityCallContext.validateFor
  rw [hns]
  simp only [expiryContext, hnegotiate]
  rfl

/-- The worker that was started on the lease has not stopped. -/
def Unhalted (c : Core) (lease : ResourceLease) : Prop :=
  ∀ ⦃name process⦄, c.instances[name]? = some process → isStartedOn lease.name process = true →
    c.workerState? name ≠ some .stopped

theorem unhalted_of_isHalted (h : isHalted c lease = false) : Unhalted c lease := by
  intro name process hprocess hstarted hstopped
  rw [isHalted, BTreeMap.any_toList_eq_false] at h
  have hentry := h name process hprocess
  rw [Core.workerState?, hprocess, Option.bind_some, Option.map_eq_some_iff] at hstopped
  obtain ⟨worker, hworker, hstate⟩ := hstopped
  simp [hstarted, hworker, hstate] at hentry

theorem Unhalted.path (h : LossPath Γ c c') (hc : Coherent c) (hunhalted : Unhalted c lease) :
    Unhalted c' lease := by
  intro name process hprocess hstarted hstopped
  obtain ⟨process₀, hprocess₀, hbinding⟩ := h.sameBindings.symm.binding hprocess
  rw [← isStartedOn_congr hbinding] at hstarted
  rcases h.workerState hc hprocess₀ with hsame | ⟨hlost, -⟩
  · exact hunhalted hprocess₀ hstarted (hsame.symm.trans hstopped)
  · exact absurd (hlost.symm.trans hstopped) (by decide)

/-- A worker whose lease is due can be lost unless it has stopped. -/
theorem canTransitionTo_lost {state : WorkerState} {leaseState : Ledger.LeaseState}
    (h : compatible state leaseState = true) (hstate : state ≠ .stopped)
    (hlease : isRevocable leaseState = true) : state.canTransitionTo .lost = true := by
  revert h hstate hlease
  cases state <;> cases leaseState <;> decide

/-- The expiry of a due lease that is matched well ends it. -/
theorem does_expireLease_succeeds (henv : env.Succeeds) (hc : Coherent c)
    (hfound : Found c lease) (hunhalted : Unhalted c lease) (hfades : Fades lease lease')
    (hlease : c.Stores lease') (hstate : isRevocable lease.state = true)
    (hstate' : isRevocable lease'.state = true) :
    Does (expireLease env lease) c (fun _ => Ended lease) E := by
  refine Holds.get fun s hs => Does.instanceEntries fun entries hentries => ?_
  rw [hs]
  cases hbound : boundWorker entries lease.name (scannedObject c lease).identity with
  | some worker =>
    obtain ⟨name, process, stored, hname, hprocess, hstored, rfl, hleased⟩ :=
      hfound (boundWorker_eq_some hentries hbound)
    obtain ⟨bound, hb⟩ := hc.bound_of_name hname hprocess hstored
    obtain rfl : bound = lease' := hb.lease_eq (hfades.name_eq ▸ hleased) hlease
    have hunstopped : stored.state ≠ .stopped := by
      obtain ⟨token, hfence, -⟩ := hb.fence
      refine fun hstopped => hunhalted hprocess ?_ ?_
      · simp [isStartedOn, hfence, hfades.name_eq]
      · rw [Core.workerState?, hprocess, Option.bind_some, hstored, Option.map_some, hstopped]
    refine (Does.tryAction (Q := fun _ => Ended bound) (does_markWorkerLost_succeeds henv
      (expiryContext_valid _ _) hb (canTransitionTo_lost hb.fits hunstopped hstate')
      (isRevoking_of_isRevocable hstate')) fun _ _ h => h).bind ?_
    rintro (_ | _) _ h <;> exact Holds.pure (hfades.ended h)
  | none =>
    have hidle : c.Idle lease.name :=
      hc.idle_of_not_matches (boundWorker_eq_none hentries hbound)
    refine Does.instanceEntries fun entries' hentries' => ?_
    rw [find?_of_idle hidle hentries']
    exact does_expireStandalone_succeeds hfades hlease hstate hstate'

/-! ### The loop -/

/-- What the loop needs of the leases it was given, which it read earlier. -/
structure Scannable (c : Core) (now : Nat) (leases : List ResourceLease) : Prop where
  distinct : leases.Pairwise fun lease lease' => lease.name ≠ lease'.name
  found : ∀ lease ∈ leases, needsActiveExpiry c now lease = true → Found c lease
  unhalted : ∀ lease ∈ leases, isDue now lease = true → Unhalted c lease
  stored : ∀ lease ∈ leases, ∃ lease', c.ledger.leases.get? lease.name = some lease' ∧
    Fades lease lease' ∧ (isDue now lease = true → isRevocable lease'.state = true)

theorem Scannable.tail (h : Scannable c now (lease :: leases)) : Scannable c now leases  where
  distinct := (List.pairwise_cons.1 h.distinct).2
  found l hl := h.found l (List.mem_cons_of_mem _ hl)
  unhalted l hl := h.unhalted l (List.mem_cons_of_mem _ hl)
  stored l hl := h.stored l (List.mem_cons_of_mem _ hl)

/-- Losses that touch none of the leases leave the rest of the loop to do. -/
theorem Scannable.path (h : Scannable c now leases) (hc : Coherent c) (hpath : LossPath Γ c c')
    (hΓ : ∀ lease ∈ leases, ¬ Γ.frees lease.name ∧ ¬ Γ.revokes lease.name) :
    Scannable c' now leases where
  distinct := h.distinct
  found l hl hneeds := (h.found l hl (hpath.needsActiveExpiry hneeds)).of_sameBindings
    hpath.sameBindings
  unhalted l hl hdue := (h.unhalted l hl hdue).path hpath hc
  stored l hl := by
    obtain ⟨stored, hstored, hfades, hdue⟩ := h.stored l hl
    obtain ⟨faded, hfaded, hfade⟩ := hpath.ledgerFades.after hstored
    refine ⟨faded, hfaded, hfades.trans hfade, fun hl' => ?_⟩
    obtain ⟨kept, hkept, hstate⟩ := hpath.revocable (hΓ l hl).1 (hΓ l hl).2 hstored (hdue hl')
    obtain rfl : kept = faded := Option.mem_unique hkept hfaded
    exact hstate

/-- The losses of a lease that is matched well leave the others to be scanned. -/
theorem Scannable.rest (h : Scannable c now (lease :: leases)) (hc : Coherent c)
    (hneeds : needsActiveExpiry c now lease = true)
    (hpath : LossPath (leaseScope env c lease) c c') : Scannable c' now leases := by
  refine h.tail.path hc hpath fun l hl => ?_
  have hne := (List.pairwise_cons.1 h.distinct).1 l hl
  exact ⟨fun hfree => hne ((h.found lease List.mem_cons_self hneeds).name_eq hfree).symm,
    fun hrevoke => hne hrevoke.1.symm⟩

theorem isDue_needsActiveExpiry (h : isDue now lease = true) :
    needsActiveExpiry c now lease = true := by
  unfold isDue at h
  rw [needsActiveExpiry, h, Bool.true_or]

theorem does_expireLease_isDue (henv : env.Succeeds) (hc : Coherent c)
    (h : Scannable c now (lease :: leases)) :
    Does (expireLease env lease) c (fun _ c' => LossPath (leaseScope env c lease) c c' ∧
      (isDue now lease = true → Ended lease c')) E := by
  by_cases hdue : isDue now lease = true
  · obtain ⟨stored, hstored, hfades, hstate'⟩ := h.stored lease List.mem_cons_self
    have hstate : isRevocable lease.state = true := (Bool.and_eq_true_iff.1 hdue).2
    have hended : Does (expireLease env lease) c (fun _ => Ended lease) E :=
      does_expireLease_succeeds henv hc
        (h.found lease List.mem_cons_self (isDue_needsActiveExpiry hdue))
        (h.unhalted lease List.mem_cons_self hdue) hfades (by rwa [← hfades.name_eq] at hstored)
        hstate (hstate' hdue)
    exact ((does_expireLease hc lease).and hended).mono
      (fun _ _ hboth => ⟨hboth.1, fun _ => hboth.2⟩) fun _ hE => hE.1
  · exact (does_expireLease hc lease).mono (fun _ _ hpath => ⟨hpath, fun h => absurd h hdue⟩)
      fun _ hE => hE

/-- The loop ends every due lease, and none of those that have ended begins again. -/
theorem does_expireLeases_succeeds (henv : env.Succeeds) (hc : Coherent c)
    (h : Scannable c now leases) :
    Does (expireLeases env now leases) c (fun _ c' =>
      (∀ lease ∈ leases, isDue now lease = true → Ended lease c') ∧
        ∀ {lease}, Ended lease c → Ended lease c') E := by
  induction leases generalizing c with
  | nil => exact Holds.pure ⟨fun _ hmem => absurd hmem List.not_mem_nil, id⟩
  | cons lease rest ih =>
    refine Holds.get fun s hs => Holds.ite (fun hneeds => ?_) fun hneeds => ?_
    · rw [hs] at hneeds
      refine (does_expireLease_isDue henv hc h).bind fun _ c' hstep => ?_
      obtain ⟨hpath, hended⟩ := hstep
      refine (ih (hpath.coherent hc) (h.rest hc hneeds hpath)).bind fun _ c'' hrest => ?_
      refine Holds.pure ⟨fun l hl hdue => ?_, fun hl => hrest.2 (hpath.ended hl)⟩
      rcases List.mem_cons.1 hl with rfl | hl
      · exact hrest.2 (hended hdue)
      · exact hrest.1 l hl hdue
    · refine (ih hc h.tail).bind fun _ c'' hrest => ?_
      refine Holds.pure ⟨fun l hl hdue => ?_, hrest.2⟩
      rcases List.mem_cons.1 hl with rfl | hl
      · exact absurd (isDue_needsActiveExpiry hdue) hneeds
      · exact hrest.1 l hl hdue

/-! ### The scan -/

theorem isDue_expireIfDue (now now' : Nat) (lease : ResourceLease) :
    isDue now (lease.expireIfDue now') = isDue now lease := by
  unfold isDue
  rw [isRevocable_expireIfDue, (fades_expireIfDue now' lease).expiry_eq]

theorem found_expireIfDue (now' : Nat) (h : Found c lease) : Found c (lease.expireIfDue now') := by
  rcases Ledger.expireIfDue_cases now' lease with heq | ⟨-, -, heq⟩ <;> rw [heq] <;> exact h

/-- The leases that the scan reads are fit for the loop. -/
theorem scannable_lapse (h : scanMisses c now = false) (now' : Nat) :
    Scannable (c.lapse now') now (c.lapse now').ledger.leases.values := by
  simp only [scanMisses, List.any_eq_false, Bool.or_eq_true, Bool.and_eq_true, not_or,
    not_and, Bool.not_eq_true, Index.mem_values] at h
  refine ⟨Index.pairwise_values _, fun lease hlease hneeds => ?_, fun lease hlease hdue => ?_,
    fun lease hlease => ⟨lease, Index.mem_values.1 hlease, .refl lease, fun hdue => ?_⟩⟩
  · obtain ⟨stored, hstored, rfl⟩ := exists_of_stores_lapse (Index.mem_values.1 hlease)
    have hneeds :=
      needsActiveExpiry_expireIfDue ((needsActiveExpiry_lapse c now now' _).symm.trans hneeds)
    have hfound := found_of_isMisresolved ((h stored hstored).1 hneeds)
    exact (found_expireIfDue now' hfound).of_sameBindings (sameBindings_lapse c now')
  · obtain ⟨stored, hstored, rfl⟩ := exists_of_stores_lapse (Index.mem_values.1 hlease)
    rw [isDue_expireIfDue] at hdue
    have hunhalted := unhalted_of_isHalted ((h stored hstored).2 hdue)
    unfold Unhalted at hunhalted ⊢
    rw [ResourceLease.name_expireIfDue]
    exact hunhalted
  · exact (Bool.and_eq_true_iff.1 hdue).2

theorem does_scanAt_succeeds (henv : env.Succeeds) (hc : Coherent c)
    (h : scanMisses c now = false) :
    Does (scanAt env now) c (fun _ c' => ∀ lease, c.Stores lease → isDue now lease = true →
      Ended lease c') E := by
  refine Does.ask fun t => Does.leases ?_
  refine (does_expireLeases_succeeds henv (hc.lapse _)
    (scannable_lapse h (env.now t))).mono ?_ fun _ hE => hE
  intro _ c' hended lease hlease hdue
  have hread : (c.lapse (env.now t)).Stores (lease.expireIfDue (env.now t)) :=
    Core.Stores.lapse hlease _
  refine (fades_expireIfDue (env.now t) lease).ended ?_
  exact hended.1 _ (Index.mem_values.2 hread) ((isDue_expireIfDue _ _ lease).trans hdue)

/-- The worker that was started on a revoked lease is lost. -/
theorem Coherent.workerState?_of_revoked (hc : Coherent c)
    (hprocess : c.instances[name]? = some process)
    (hstarted : isStartedOn leaseName process = true)
    (hlease : c.ledger.leases.get? leaseName = some lease) (hstate : lease.state = .revoked) :
    c.workerState? name = some .lost := by
  obtain ⟨ns, worker, bound, hb⟩ := hc.bound hprocess
  obtain ⟨token, hfence, -⟩ := hb.fence
  simp only [isStartedOn, hfence, Option.any_some, decide_eq_true_eq] at hstarted
  subst hstarted
  have hbound : bound.state = .revoked := by
    rw [Option.mem_unique hb.stored hlease]
    exact hstate
  have hfits := hb.fits
  rw [hbound] at hfits
  have hlost : worker.state = .lost := by
    revert hfits
    cases worker.state <;> decide
  rw [Core.workerState?, hprocess, Option.bind_some, hb.worker_eq, Option.map_some, hlost]

/-- A scan without misses ends every due lease and loses its worker, and no worker of a lease that
has not lapsed changes its state. -/
theorem scanCompleteness (env : Environment) (s : AuthorityRuntime) (hs : Reachable env s)
    (scanEnv : Environment) (hscan : scanEnv.Succeeds)
    (h : scanMisses s.toCore (scanEnv.now s.tick) = false) :
    let now := scanEnv.now s.tick
    let s' := step scanEnv s .enforceLeaseExpiry
    ∀ lease, s.toCore.Stores lease →
      (isDue now lease = true → Ended lease s'.toCore ∧
        ∀ name process, s.instances[name]? = some process →
          isStartedOn lease.name process = true → s'.workerState? name = some .lost) ∧
      (lease.expiresAtUnixMs.any (· ≤ now) = false →
        ∀ name process, s.instances[name]? = some process →
          isStartedOn lease.name process = true → s'.workerState? name = s.workerState? name) := by
  intro now s' lease hlease
  have hc := coherent_of_reachable hs
  have hfinal : s' = finalState (scanAt scanEnv now { s with tick := s.tick + 1 }) :=
    finalState_effectOf _ _
  have hpath : LossPath (scanScope scanEnv s.toCore now) s.toCore s'.toCore := by
    rw [hfinal]
    exact Holds.finalState (does_scanAt hc now)
  refine ⟨fun hdue => ?_, fun hunexpired name process hprocess hstarted => ?_⟩
  · have hended : Ended lease s'.toCore := by
      rw [hfinal]
      exact Holds.finalState
        ((does_scanAt_succeeds (E := Ended lease) hscan hc h).mono
          (fun _ _ hended => hended lease hlease hdue) fun _ hE => hE)
    refine ⟨hended, fun name process hprocess hstarted => ?_⟩
    obtain ⟨process', hprocess', hbinding⟩ := hpath.sameBindings.binding hprocess
    obtain ⟨revoked, hrevoked, hstate⟩ := hended.revoked
    rw [← isStartedOn_congr hbinding] at hstarted
    exact (hpath.coherent hc).workerState?_of_revoked hprocess' hstarted hrevoked hstate
  · rcases hpath.workerState hc hprocess with hsame | ⟨hlost, leaseName, hstarted', hfree⟩
    · exact hsame
    · obtain ⟨lease', hlease', hneeds, hfree⟩ := hfree
      simp only [scanMisses, List.any_eq_false, Bool.or_eq_true, Bool.and_eq_true, not_or,
        not_and, Bool.not_eq_true, Index.mem_values] at h
      obtain rfl := (found_of_isMisresolved ((h lease' hlease').1 hneeds)).name_eq hfree
      have hname : lease'.name = lease.name := by
        rw [isStartedOn, Option.any_eq_true] at hstarted hstarted'
        obtain ⟨ref, href, hname⟩ := hstarted
        obtain ⟨ref', href', hname'⟩ := hstarted'
        obtain rfl : ref = ref' := Option.mem_unique href href'
        rw [← of_decide_eq_true hname, ← of_decide_eq_true hname']
      obtain rfl : lease' = lease := stores_unique hlease hlease' hname
      have hrevoked : lease'.state = .revoked := by
        rw [needsActiveExpiry, hunexpired, Bool.false_and, Bool.false_or, Bool.and_eq_true,
          decide_eq_true_eq] at hneeds
        exact hneeds.1
      rw [hlost, hc.workerState?_of_revoked hprocess hstarted hlease hrevoked]

/-- The world in which the clock stands still and nothing fails. -/
def standingEnvironment (now : Nat) : Environment :=
  sampleEnvironment (fun _ => now) (fun _ => .ok ()) fun _ => .ok ⟨true, "cleanup"⟩

theorem standingEnvironment_succeeds (now : Nat) : (standingEnvironment now).Succeeds :=
  ⟨fun _ => rfl, fun _ => ⟨_, rfl, rfl⟩⟩

/-- Two namespaces use one lease id.  In the second one the lease of that id lapses early; the
worker of the first one also names a worker there, which runs on a lease of its own. -/
def missedLease : List Call :=
  [sampleAcquire default "k" ⟨"a", 1⟩ 1000,
    .startWorker (sampleContext default "start") samplePrincipal
      (sampleWorker "a" 1 ⟨"lease-k", 1⟩),
    sampleAcquire tenantNamespace "k" ⟨"b", 1⟩ 10,
    .startWorker (sampleContext tenantNamespace "start-b") samplePrincipal
      (sampleWorker "b" 1 ⟨"lease-k", 1⟩),
    sampleAcquire tenantNamespace "m" ⟨"a", 1⟩ 1000,
    .startWorker (sampleContext tenantNamespace "start-a") samplePrincipal
      (sampleWorker "a" 1 ⟨"lease-m", 1⟩)]

/-- The scan matches the lapsed lease with the worker of the first namespace, and loses the worker
of that identity in the second one. -/
theorem missedLease_not_complete :
    let s := run (step (standingEnvironment 0)) (sampleAuthority ["gpu-0", "gpu-1", "gpu-2"])
      missedLease
    let s' := step (standingEnvironment 20) s .enforceLeaseExpiry
    (s.ledger.leases.get? "lease-n6-tenant-i7-lease-k-g1").map (isDue 20) = some true ∧
      (s'.ledger.leases.get? "lease-n6-tenant-i7-lease-k-g1").map
        (fun lease => (lease.state, lease.resourceIds)) = some (.expired, ["gpu-1"]) ∧
      "gpu-1" ∈ s'.ledger.allocated ∧
      s'.workerState? "worker-n6-tenant-i1-b-g1" = some .starting ∧
      (s.instances["worker-n6-tenant-i1-a-g1"]?).map (·.lease) =
        some (some ⟨"lease-n6-tenant-i7-lease-m-g1", 3⟩) ∧
      (s.ledger.leases.get? "lease-n6-tenant-i7-lease-m-g1").map (·.expiresAtUnixMs) =
        some (some 1000) ∧
      s.workerState? "worker-n6-tenant-i1-a-g1" = some .starting ∧
      s'.workerState? "worker-n6-tenant-i1-a-g1" = some .lost := by
  decide +kernel

/-- Two workers, of which the lease of the first one lapses. -/
def lapsingWorker : List Call :=
  [sampleAcquire default "k" ⟨"a", 1⟩ 10,
    .startWorker (sampleContext default "start-a") samplePrincipal
      (sampleWorker "a" 1 ⟨"lease-k", 1⟩),
    sampleAcquire default "m" ⟨"b", 1⟩ 1000,
    .startWorker (sampleContext default "start-b") samplePrincipal
      (sampleWorker "b" 1 ⟨"lease-m", 1⟩)]

/-- A scan without misses loses the first worker and leaves the second one. -/
theorem scanCompleteness_lapsingWorker :
    let s := run (step (standingEnvironment 0)) (sampleAuthority ["gpu-0", "gpu-1"]) lapsingWorker
    let s' := step (standingEnvironment 20) s .enforceLeaseExpiry
    s'.workerState? "a" = some .lost ∧ s'.workerState? "b" = s.workerState? "b" := by
  intro s s'
  -- the run is evaluated once, for all that is read off it
  have hsample : scanMisses s.toCore 20 = false ∧ (s.ledger.leases.get? "lease-k").any (isDue 20) ∧
      (s.ledger.leases.get? "lease-m").any (¬ ·.expiresAtUnixMs.any (· ≤ 20)) ∧
      s.instances["a"]?.any (isStartedOn "lease-k") ∧
      s.instances["b"]?.any (isStartedOn "lease-m") := by decide +kernel
  obtain ⟨hmisses, hdue, hunexpired, ha, hb⟩ := hsample
  obtain ⟨lapsed, hlapsed, hdue⟩ := (Option.any_eq_true _ _).1 hdue
  obtain ⟨current, hcurrent, hunexpired⟩ := (Option.any_eq_true _ _).1 hunexpired
  obtain ⟨a, ha, hstarted⟩ := (Option.any_eq_true _ _).1 ha
  obtain ⟨b, hb, hstarted'⟩ := (Option.any_eq_true _ _).1 hb
  have hname : lapsed.name = "lease-k" := Index.key_of_get? hlapsed
  have hname' : current.name = "lease-m" := Index.key_of_get? hcurrent
  have h := scanCompleteness (standingEnvironment 0) s (reachable_sampleAuthority _ _)
    (standingEnvironment 20) (standingEnvironment_succeeds 20) hmisses
  have hstored : s.toCore.Stores lapsed := by rwa [Core.Stores, hname]
  have hstored' : s.toCore.Stores current := by rwa [Core.Stores, hname']
  rw [decide_eq_true_eq, Bool.not_eq_true] at hunexpired
  exact ⟨((h lapsed hstored).1 hdue).2 "a" a ha (hname ▸ hstarted),
    (h current hstored').2 hunexpired "b" b hb (hname' ▸ hstarted')⟩

end Authority

end CyreneKernel
