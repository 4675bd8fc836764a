import CyreneKernel.Authority.LossEffects

/-!
# The effects of the expiry scan

The scan matches every lease that needs expiry with a worker and loses the worker that the match
means in the namespace of the lease; a lease without a match is revoked and freed directly.  What
the treatment of a lease may touch is its `leaseScope`, and the scope of the scan is the union of
these.  Both are read off the state before the scan, because losses keep the bindings between
workers, processes and leases.

## Main definitions

* `SameBindings`, `Fades`: what losses keep.
* `Matches`, `leaseScope`, `scanScope`.

## Main results

* `scan_lossPath`: the scan is a path of losses within its scope.
-/

namespace CyreneKernel

open Lib Relation
open Ledger (ResourceLease)

namespace Authority

variable {Γ Γ' : Scope} {c c' c₀ : Core} {env : Environment} {context : AuthorityCallContext}
  {β : Type} {R : β → Core → Prop} {E P : Core → Prop}

/-! ### What losses keep -/

/-- The indices and the bindings of the processes are the same. -/
structure SameBindings (c c' : Core) : Prop where
  leases : c'.leases = c.leases
  workers : c'.workers = c.workers
  instances : ∀ name : String, (c'.instances[name]?).map ManagedProcess.binding =
    (c.instances[name]?).map ManagedProcess.binding

theorem SameBindings.refl (c : Core) : SameBindings c c := ⟨rfl, rfl, fun _ => rfl⟩

theorem SameBindings.symm (h : SameBindings c c') : SameBindings c' c :=
  ⟨h.leases.symm, h.workers.symm, fun name => (h.instances name).symm⟩

theorem SameBindings.trans {c'' : Core} (h : SameBindings c c') (h' : SameBindings c' c'') :
    SameBindings c c'' :=
  ⟨h'.leases.trans h.leases, h'.workers.trans h.workers,
    fun name => (h'.instances name).trans (h.instances name)⟩

theorem SameBindings.binding (h : SameBindings c c') {name : String} {process : ManagedProcess}
    (hprocess : c.instances[name]? = some process) :
    ∃ process', c'.instances[name]? = some process' ∧ process'.binding = process.binding := by
  simpa [hprocess, Option.map_eq_some_iff] using h.instances name

theorem LossEffect.sameBindings (h : LossEffect Γ c c') : SameBindings c c' := by
  have hleases : c'.leases = c.leases := by
    cases h <;> rfl
  refine ⟨hleases, h.sustains.workers, fun name => ?_⟩
  have hrel := h.sustains.instances name
  generalize c.instances[name]? = before, c'.instances[name]? = after at hrel ⊢
  cases hrel with
  | none => rfl
  | some hinherits => exact congrArg some hinherits.binding_eq

theorem sameBindings_lapse (c : Core) (now : Nat) : SameBindings c (c.lapse now) :=
  ⟨rfl, rfl, fun _ => rfl⟩

/-- How a lease changes through losses. -/
structure Fades (lease lease' : ResourceLease) : Prop where
  name_eq : lease'.name = lease.name
  holder_eq : lease'.holder = lease.holder
  allocations_eq : lease'.allocations = lease.allocations
  expiry_eq : lease'.expiresAtUnixMs = lease.expiresAtUnixMs
  revoking : isRevoking lease.state = true → isRevoking lease'.state = true
  revocable : isRevocable lease'.state = true → isRevocable lease.state = true
  fence_eq : lease'.state ≠ .revoked → lease'.fenceToken = lease.fenceToken
  revoked_eq : lease.state = .revoked → lease' = lease

theorem Fades.refl (lease : ResourceLease) : Fades lease lease :=
  ⟨rfl, rfl, rfl, rfl, id, id, fun _ => rfl, fun _ => rfl⟩

variable {lease : ResourceLease} {s s' : Ledger.State} {entries : List (String × ManagedProcess)}
  {now : Nat}

theorem Fades.trans {lease' lease'' : ResourceLease} (h : Fades lease lease')
    (h' : Fades lease' lease'') : Fades lease lease'' where
  name_eq := h'.name_eq.trans h.name_eq
  holder_eq := h'.holder_eq.trans h.holder_eq
  allocations_eq := h'.allocations_eq.trans h.allocations_eq
  expiry_eq := h'.expiry_eq.trans h.expiry_eq
  revoking hstate := h'.revoking (h.revoking hstate)
  revocable hstate := h.revocable (h'.revocable hstate)
  fence_eq hstate := by
    by_cases hrevoked : lease'.state = .revoked
    · rw [h'.revoked_eq hrevoked] at hstate
      exact absurd hrevoked hstate
    · exact (h'.fence_eq hstate).trans (h.fence_eq hrevoked)
  revoked_eq hstate := by
    have heq := h.revoked_eq hstate
    rw [h'.revoked_eq (heq ▸ hstate), heq]

theorem fades_expireIfDue (now : Nat) (lease : ResourceLease) :
    Fades lease (lease.expireIfDue now) := by
  rcases Ledger.expireIfDue_cases now lease with h | ⟨hactive, -, h⟩ <;> rw [h]
  · exact .refl lease
  · exact ⟨rfl, rfl, rfl, rfl, fun _ => rfl, fun _ => by rw [hactive]; rfl, fun _ => rfl,
      fun h => absurd (hactive.symm.trans h) (by decide)⟩

theorem fades_revoked (s : Ledger.State) (hstate : isRevocable lease.state = true) :
    Fades lease (s.revoked lease) := by
  refine ⟨rfl, rfl, rfl, rfl, fun _ => rfl, fun _ => hstate, fun h => absurd rfl h, fun h => ?_⟩
  rw [h] at hstate
  exact absurd hstate (by decide)

/-- The ledgers of two states: the leases have faded, and no resource was allocated. -/
structure LedgerFades (s s' : Ledger.State) : Prop where
  leases : ∀ name, (s.leases.get? name = none ∧ s'.leases.get? name = none) ∨
    ∃ lease lease', s.leases.get? name = some lease ∧ s'.leases.get? name = some lease' ∧
      Fades lease lease'
  allocated : ∀ id, id ∈ s'.allocated → id ∈ s.allocated

theorem LedgerFades.of_get? {f : ResourceLease → ResourceLease}
    (hleases : ∀ name, s'.leases.get? name = (s.leases.get? name).map f)
    (hfades : ∀ {name lease}, s.leases.get? name = some lease → Fades lease (f lease))
    (hallocated : ∀ id, id ∈ s'.allocated → id ∈ s.allocated) : LedgerFades s s' := by
  refine ⟨fun name => ?_, hallocated⟩
  rw [hleases]
  cases hlease : s.leases.get? name with
  | none => exact .inl ⟨rfl, rfl⟩
  | some lease => exact .inr ⟨lease, f lease, rfl, rfl, hfades hlease⟩

theorem LedgerFades.refl (s : Ledger.State) : LedgerFades s s :=
  .of_get? (f := id) (fun name => by rw [Option.map_id, id]) (fun _ => .refl _) fun _ h => h

theorem LedgerFades.after (h : LedgerFades s s') {name : String}
    (hlease : s.leases.get? name = some lease) :
    ∃ lease', s'.leases.get? name = some lease' ∧ Fades lease lease' := by
  rcases h.leases name with ⟨hnone, -⟩ | ⟨stored, lease', hstored, hlease', hfades⟩
  · exact absurd (hnone.symm.trans hlease) (by simp)
  · obtain rfl := Option.mem_unique hlease hstored
    exact ⟨lease', hlease', hfades⟩

theorem LedgerFades.before (h : LedgerFades s s') {name : String} {lease' : ResourceLease}
    (hlease' : s'.leases.get? name = some lease') :
    ∃ lease, s.leases.get? name = some lease ∧ Fades lease lease' := by
  rcases h.leases name with ⟨-, hnone⟩ | ⟨lease, stored, hlease, hstored, hfades⟩
  · exact absurd (hnone.symm.trans hlease') (by simp)
  · obtain rfl := Option.mem_unique hlease' hstored
    exact ⟨lease, hlease, hfades⟩

theorem LedgerFades.trans {s'' : Ledger.State} (h : LedgerFades s s') (h' : LedgerFades s' s'') :
    LedgerFades s s'' := by
  refine ⟨fun name => ?_, fun id hid => h.allocated id (h'.allocated id hid)⟩
  rcases h'.leases name with ⟨hnone, hnone'⟩ | ⟨lease', lease'', hlease', hlease'', hfades'⟩
  · refine (h.leases name).imp (fun hnone'' => ⟨hnone''.1, hnone'⟩) ?_
    rintro ⟨_, _, -, hlease', -⟩
    exact absurd (hnone.symm.trans hlease') (by simp)
  · obtain ⟨lease, hlease, hfades⟩ := h.before hlease'
    exact .inr ⟨lease, lease'', hlease, hlease'', hfades.trans hfades'⟩

theorem LedgerFades.put {lease' : ResourceLease} (hlease : s.leases.get? lease.name = some lease)
    (hfades : Fades lease lease') (hleases : ∀ name, s'.leases.get? name =
      if lease.name = name then some lease' else s.leases.get? name)
    (hallocated : s'.allocated = s.allocated) : LedgerFades s s' := by
  refine ⟨fun name => ?_, fun id hid => hallocated ▸ hid⟩
  rw [hleases]
  split
  · next heq => exact .inr ⟨lease, lease', heq ▸ hlease, rfl, hfades⟩
  · exact (LedgerFades.refl s).leases name

theorem LossEffect.ledgerFades (h : LossEffect Γ c c') : LedgerFades c.ledger c'.ledger := by
  cases h with
  | lapse now =>
    exact .of_get? (fun name => Ledger.expireDueLeases_get? now c.ledger name)
      (fun _ => fades_expireIfDue now _) fun _ hid => hid
  | record => exact .refl _
  | @lose ns name process worker lease _ _ _ _ hns hpurge hname hprocess hworker hstate hleased
      hlease =>
    change LedgerFades c.ledger (revokeIfRevocable c.ledger lease)
    unfold revokeIfRevocable
    split
    · next hrevocable =>
      exact .put hlease (fades_revoked c.ledger hrevocable) (Ledger.revokeLease_get? _ _) rfl
    · exact .refl _
  | @reclaim lease hlease hstate hfree =>
    refine ⟨(LedgerFades.refl c.ledger).leases, fun id hid => ?_⟩
    simp only [Ledger.State.free, BTreeSet.mem_eraseList] at hid
    exact hid.2
  | @expire lease _ _ hlease hstate =>
    exact .put hlease (fades_revoked c.ledger hstate) (Ledger.revokeLease_get? _ _) rfl

theorem LossPath.sameBindings (h : LossPath Γ c c') : SameBindings c c' := by
  induction h with
  | refl => exact .refl c
  | tail _ h ih => exact ih.trans h.sameBindings

theorem LossPath.ledgerFades (h : LossPath Γ c c') : LedgerFades c.ledger c'.ledger := by
  induction h with
  | refl => exact .refl _
  | tail _ h ih => exact ih.trans h.ledgerFades

theorem LedgerFades.isAllocated (h : LedgerFades s s') {name : String}
    (hallocated : s'.isAllocated name = true) : s.isAllocated name = true := by
  simp only [Ledger.State.isAllocated, Option.any_eq_true, List.any_eq_true,
    Std.ExtTreeSet.contains_iff_mem] at hallocated ⊢
  obtain ⟨lease', hlease', id, hid, hmem⟩ := hallocated
  obtain ⟨lease, hlease, hfades⟩ := h.before hlease'
  rw [ResourceLease.resourceIds, hfades.allocations_eq] at hid
  exact ⟨lease, hlease, id, hid, h.allocated id hmem⟩

/-! ### Scopes -/

/-- A scope that allows at least the losses of another one. -/
structure Scope.Covers (Γ Γ' : Scope) : Prop where
  namespaces : ∀ ns, Γ'.namespaces ns → Γ.namespaces ns
  purges : ∀ worker, Γ'.purges worker → Γ.purges worker
  revokes : ∀ name, Γ'.revokes name → Γ.revokes name
  frees : ∀ name, Γ'.frees name → Γ.frees name
  faulty : Γ'.faulty → Γ.faulty

theorem LossEffect.mono (hΓ : Γ.Covers Γ') (h : LossEffect Γ' c c') : LossEffect Γ c c' := by
  cases h with
  | lapse now => exact .lapse now
  | record event instanceName lease reasonCode hneutral =>
    exact .record event instanceName lease reasonCode hneutral
  | lose outcome hns hpurge hname hprocess hworker hstate hleased hlease hfree hrecords =>
    exact .lose outcome (hΓ.namespaces _ hns) (hΓ.purges _ hpurge) hname hprocess hworker hstate
      hleased hlease (hΓ.frees _ hfree) (hrecords.mono hΓ.faulty)
  | reclaim hlease hstate hfree hcleared =>
    exact .reclaim hlease hstate (hΓ.frees _ hfree) hcleared
  | expire hlease hstate hidle hrevoke hrecords =>
    exact .expire hlease hstate hidle (hΓ.revokes _ hrevoke) (hrecords.mono hΓ.faulty)

theorem LossPath.mono (hΓ : Γ.Covers Γ') (h : LossPath Γ' c c') : LossPath Γ c c' :=
  ReflTransGen.mono (fun _ _ => LossEffect.mono hΓ) _ _ h

/-- The scan matches a stored worker with a lease. -/
def Matches (c : Core) (lease : ResourceLease) (worker : Identity) : Prop :=
  ∃ (name : String) (process : ManagedProcess) (stored : Worker),
    c.instances[name]? = some process ∧ process.semanticWorker = some stored ∧
    stored.identity = worker ∧
    isBoundTo lease.name (scannedObject c lease).identity process stored = true

/-- The scan finds a worker for the lease. -/
def isMatched (c : Core) (lease : ResourceLease) : Bool :=
  c.instances.toList.any fun entry => entry.2.semanticWorker.any fun worker =>
    isBoundTo lease.name (scannedObject c lease).identity entry.2 worker

theorem isMatched_eq_false (h : ∀ worker, ¬ Matches c lease worker) :
    isMatched c lease = false := by
  simp only [isMatched, BTreeMap.any_toList_eq_false, Bool.not_eq_true, Option.any_eq_false]
  intro name process hprocess worker hworker
  rw [← Bool.not_eq_true]
  exact fun hbound => h worker.identity ⟨name, process, worker, hprocess, hworker, rfl, hbound⟩

/-- What the expiry of a lease may touch: the workers it is matched with, taken in the namespace of
the lease; without a match the lease itself. -/
def leaseScope (env : Environment) (c : Core) (lease : ResourceLease) : Scope where
  namespaces ns := ns = (scannedObject c lease).ns
  purges worker := Matches c lease worker
  sessions _ := False
  stops _ _ := False
  starts _ := False
  publishes _ := False
  remembers _ _ _ := False
  advances _ _ _ := False
  revokes name := name = lease.name ∧ ∀ worker, ¬ Matches c lease worker
  frees name := (name = lease.name ∧ ∀ worker, ¬ Matches c lease worker) ∨
    ∃ worker, Matches c lease worker ∧ Resolves c (scannedObject c lease).ns worker name
  providers _ _ _ := False
  faulty := env.Faulty

section

variable (h : SameBindings c c')

include h

/-- A process of one state is bound as in the other. -/
theorem SameBindings.process {name : String} {process : ManagedProcess} {worker : Worker}
    (hprocess : c'.instances[name]? = some process)
    (hworker : process.semanticWorker = some worker) :
    ∃ process₀ worker₀, c.instances[name]? = some process₀ ∧
      process₀.semanticWorker = some worker₀ ∧ worker₀.identity = worker.identity ∧
      worker₀.lease = worker.lease ∧ process₀.lease = process.lease := by
  obtain ⟨process₀, hprocess₀, hbinding⟩ := h.symm.binding hprocess
  obtain ⟨worker₀, hworker₀, hidentity, hlease⟩ := worker_of_binding hbinding.symm hworker
  exact ⟨process₀, worker₀, hprocess₀, hworker₀, hidentity, hlease, congrArg Prod.fst hbinding⟩

theorem scannedObject_congr (lease : ResourceLease) :
    scannedObject c' lease = scannedObject c lease := by
  unfold scannedObject leaseObject?
  rw [h.leases]

theorem Matches.of_sameBindings {worker : Identity} (hmatch : Matches c' lease worker) :
    Matches c lease worker := by
  obtain ⟨name, process, stored, hprocess, hstored, rfl, hbound⟩ := hmatch
  obtain ⟨process₀, stored₀, hprocess₀, hstored₀, hidentity, hlease, hprocessLease⟩ :=
    h.process hprocess hstored
  refine ⟨name, process₀, stored₀, hprocess₀, hstored₀, hidentity, ?_⟩
  unfold isBoundTo at hbound ⊢
  rwa [hlease, hprocessLease, ← scannedObject_congr h]

theorem Resolves.of_sameBindings {ns : NamespaceId} {worker : Identity} {leaseName : String}
    (hresolves : Resolves c' ns worker leaseName) : Resolves c ns worker leaseName := by
  obtain ⟨name, process, stored, hname, hprocess, hstored, rfl, hleased⟩ := hresolves
  obtain ⟨process₀, stored₀, hprocess₀, hstored₀, hidentity, hlease, -⟩ :=
    h.process hprocess hstored
  refine ⟨name, process₀, stored₀, ?_, hprocess₀, hstored₀, hidentity, ?_⟩
  · rw [← hname, Core.workerInstanceName?, Core.workerInstanceName?, h.workers]
  · rw [hlease, ← h.leases]
    exact hleased

theorem leaseScope_congr (lease : ResourceLease) :
    leaseScope env c' lease = leaseScope env c lease := by
  have hmatches : Matches c' lease = Matches c lease := by
    funext worker
    exact propext ⟨.of_sameBindings h, .of_sameBindings h.symm⟩
  have hresolves : Resolves c' = Resolves c := by
    funext ns worker leaseName
    exact propext ⟨.of_sameBindings h, .of_sameBindings h.symm⟩
  unfold leaseScope
  rw [hmatches, hresolves, scannedObject_congr h]

end

/-! ### Expiring one lease -/

section

variable (hentries : ∀ name process, (name, process) ∈ entries ↔ c.instances[name]? = some process)

include hentries

theorem boundWorker_eq_some {worker : Identity}
    (h : boundWorker entries lease.name (scannedObject c lease).identity = some worker) :
    Matches c lease worker := by
  obtain ⟨⟨name, process⟩, hmem, hfound⟩ := List.exists_of_findSome?_eq_some h
  obtain ⟨stored, hstored, hbound⟩ := Option.bind_eq_some_iff.1 hfound
  split_ifs at hbound with hmatch
  exact ⟨name, process, stored, (hentries name process).1 hmem, hstored,
    Option.some.inj hbound, hmatch⟩

theorem boundWorker_eq_none
    (h : boundWorker entries lease.name (scannedObject c lease).identity = none)
    (worker : Identity) :
    ¬ Matches c lease worker := by
  rintro ⟨name, process, stored, hprocess, hstored, -, hbound⟩
  have hnone := List.findSome?_eq_none_iff.1 h (name, process) ((hentries name process).2 hprocess)
  simp only [hstored, Option.bind_some, hbound, if_true] at hnone
  exact absurd hnone (by simp)

end

/-- A lease without a match has no process. -/
theorem Coherent.idle_of_not_matches (hc : Coherent c) (h : ∀ worker, ¬ Matches c lease worker) :
    c.Idle lease.name := by
  rintro name process ref hprocess href hname
  obtain ⟨ns, worker, bound, hb⟩ := hc.bound hprocess
  refine h worker.identity ⟨name, process, worker, hprocess, hb.worker_eq, rfl, ?_⟩
  simp [isBoundTo, href, hname]

/-- Every process has a worker, so the branch of the scan for legacy processes is not taken. -/
theorem find?_of_idle {leaseName : String} (hidle : c.Idle leaseName)
    (hentries : ∀ name process, (name, process) ∈ entries ↔ c.instances[name]? = some process) :
    entries.find? (fun entry => entry.2.lease.any (·.leaseName = leaseName)) = none := by
  refine List.find?_eq_none.2 fun entry hmem => ?_
  obtain ⟨name, process⟩ := entry
  rw [Option.any_eq_true]
  rintro ⟨ref, href, hname⟩
  exact hidle ((hentries name process).1 hmem) href (of_decide_eq_true hname)

theorem RecordStable.log (hstable : RecordStable P) (hP : P c) {records : List RuntimeJournalRecord}
    (hrecords : ∀ record ∈ records, ∃ event instanceName lease reasonCode,
      RuntimeJournalEvent.isNeutral event = true ∧
      record = c.record event instanceName lease reasonCode none) : P (c.log records) := by
  induction records generalizing c with
  | nil => rwa [Core.log_nil]
  | cons record rest ih =>
    obtain ⟨event, instanceName, lease, reasonCode, hneutral, rfl⟩ :=
      hrecords _ List.mem_cons_self
    have hrest := ih (hstable hP event instanceName lease reasonCode hneutral) fun r hr =>
      hrecords r (List.mem_cons_of_mem _ hr)
    rwa [Core.log_log] at hrest

theorem LossPath.revocationRecords (h : LossPath Γ c₀ c) {instanceName : Option String}
    {revoked : ResourceLease} {reasonCode : String} {records : List RuntimeJournalRecord}
    (hrecords : records.Sublist
      (Authority.revocationRecords c instanceName revoked reasonCode)) :
    LossPath Γ c₀ (c.log records) := by
  refine recordStable_lossPath.log h fun record hrecord => ?_
  have hmem := hrecords.subset hrecord
  simp only [Authority.revocationRecords, List.mem_cons, List.not_mem_nil, or_false] at hmem
  rcases hmem with rfl | rfl
  · exact ⟨.leaseRevoked, _, _, _, rfl, rfl⟩
  · exact ⟨.fenceAdvanced, _, _, _, rfl, rfl⟩

/-- The records of a revocation whose failures are ignored. -/
theorem Does.ignoreRevocationRecords {instanceName : Option String} {revoked : ResourceLease}
    {reasonCode : String} {f : Action β}
    (hf : ∀ records,
      Writes env.Faulty (revocationRecords c instanceName revoked reasonCode) records →
      Does f (c.log records) R E) :
    Does (do
      CyreneKernel.ignoreFailure
        (CyreneKernel.recordRuntime env .leaseRevoked instanceName (some revoked) reasonCode)
      CyreneKernel.ignoreFailure
        (CyreneKernel.recordRuntime env .fenceAdvanced instanceName (some revoked) reasonCode)
      f) c R E := by
  refine Does.ignoreRecord (fun hfaulty => Does.ignoreRecord (fun _ => ?_) ?_)
    (Does.ignoreRecord (fun hfaulty => ?_) ?_)
  · have hnone := hf [] (.of_faulty hfaulty (List.nil_sublist _))
    rwa [Core.log_nil] at hnone
  · exact hf _ (.of_faulty hfaulty (List.sublist_cons_self _ _))
  · exact hf _ (.of_faulty hfaulty (List.singleton_sublist.2 List.mem_cons_self))
  · rw [Core.log_log]
    exact hf _ (.all _ _)

/-- A revocation that the journal has yet to take. -/
structure Revoked (env : Environment) (Γ : Scope) (c₀ : Core) (lease revoked : ResourceLease)
    (c : Core) : Prop where
  path : ∀ records,
    Writes env.Faulty (revocationRecords c none revoked "LEASE_EXPIRED") records →
    LossPath Γ c₀ (c.log records)
  idle : c.Idle lease.name
  name_eq : revoked.name = lease.name

section

variable (hfaulty : env.Faulty → Γ.faulty) (hidle : c.Idle lease.name)
  (hrevoke : Γ.revokes lease.name)

include hfaulty hidle hrevoke

theorem does_expireRevoke :
    Does (daemonRevoke env lease.name lease.fenceToken) c
      (fun revoked => Revoked env Γ c lease revoked) (LossPath Γ c) := by
  refine Does.ask fun t => does_ledgerCall ?_
  have hlapse : LossPath Γ c (c.lapse (env.now t)) := .single (.lapse _)
  refine Ledger.revoke_ensures.mono ?_ ?_
  · intro revoked ledger hdone
    generalize hname : lease.name = name, lease.fenceToken = token at hdone
    cases hdone with
    | @revoke _ stored hstored hstate =>
      have hrevocable : isRevocable stored.state = true := by
        simpa only [isRevocable, Bool.or_eq_true, decide_eq_true_eq, or_assoc] using hstate
      refine ⟨fun records hrecords => ?_, hidle, hname.symm⟩
      exact hlapse.tail (.expire hstored hrevocable (hname ▸ hidle) (hname ▸ hrevoke)
        (hrecords.mono hfaulty))
  · rintro _ ledger rfl
    exact hlapse

theorem does_revokeOnce :
    Does (revokeOnce env lease) c (fun result c' =>
      (∀ rejection, result = .error rejection → LossPath Γ c c') ∧
      ∀ revoked, result = .ok revoked → Revoked env Γ c lease revoked c') E := by
  refine Holds.ite (fun _ => Holds.pure ⟨(fun _ h => nomatch h), ?_⟩) fun _ => ?_
  · rintro revoked ⟨⟩
    have h : LossPath Γ c c := .refl
    exact ⟨fun records hrecords => h.revocationRecords hrecords.sublist, hidle, rfl⟩
  · refine Does.tryAction ((does_expireRevoke hfaulty hidle hrevoke).mono ?_ fun _ h => h) ?_
    · rintro revoked c' h
      refine ⟨(fun _ h => nomatch h), ?_⟩
      rintro _ ⟨⟩
      exact h
    · exact fun _ _ h => ⟨fun _ _ => h, fun _ hok => nomatch hok⟩

theorem does_expireStandalone {object : ObjectRef} (hfree : Γ.frees lease.name) :
    Does (expireStandalone env lease object) c (fun _ => LossPath Γ c) E := by
  refine (does_revokeOnce hfaulty hidle hrevoke).bind ?_
  rintro result c' ⟨herror, hok⟩
  cases result with
  | error rejection => exact Holds.pure (herror rejection rfl)
  | ok revoked =>
    obtain ⟨hpath, hidle', hname⟩ := hok revoked rfl
    refine Does.ignoreRevocationRecords fun records hrecords => ?_
    have h := hpath records hrecords
    refine (Does.ignoreFailure (does_ledgerCall ?_)).bind fun _ c'' h'' =>
      (mute_publishSemanticEventIn _ _ _ _).holds_bind fun _ => Holds.pure h''
    refine Ledger.completeRevocation_ensures.mono ?_ ?_
    · intro freed ledger hdone
      generalize revoked.name = name, revoked.fenceToken = token at hname hdone
      cases hdone with
      | completeRevocation hstored hstate =>
        have hcleared := (hname ▸ hidle'.cleared).log records
        exact h.tail (.reclaim hstored hstate (hname ▸ hfree) hcleared)
    · rintro _ ledger rfl
      exact h

end

/-- The expiry of a lease stays within its scope. -/
theorem does_expireLease (hc : Coherent c) (lease : ResourceLease) :
    Does (expireLease env lease) c (fun _ => LossPath (leaseScope env c lease) c) E := by
  refine Holds.get fun s hs => Does.instanceEntries fun entries hentries => ?_
  rw [hs]
  cases hbound : boundWorker entries lease.name (scannedObject c lease).identity with
  | some worker =>
    have hmatch := boundWorker_eq_some hentries hbound
    refine (Does.tryAction (Q := fun _ => LossPath (leaseScope env c lease) c)
      (does_markWorkerLost hc ?_ id hmatch fun hresolves => ?_) fun _ _ h => h).bind ?_
    · rfl
    · exact .inr ⟨worker, hmatch, hresolves⟩
    · rintro (_ | _) _ h <;> exact Holds.pure h
  | none =>
    have hnone := boundWorker_eq_none hentries hbound
    have hidle : c.Idle lease.name := hc.idle_of_not_matches hnone
    refine Does.instanceEntries fun entries' hentries' => ?_
    rw [find?_of_idle hidle hentries']
    exact does_expireStandalone (Γ := leaseScope env c lease) id hidle ⟨rfl, hnone⟩
      (.inl ⟨rfl, hnone⟩)

/-! ### The scan -/

/-- Fewer leases need expiry after losses. -/
theorem LossPath.needsActiveExpiry (h : LossPath Γ c c')
    (hneeds : needsActiveExpiry c' now lease = true) : needsActiveExpiry c now lease = true := by
  unfold Authority.needsActiveExpiry at hneeds ⊢
  rw [Bool.or_eq_true, Bool.and_eq_true] at hneeds ⊢
  rcases hneeds with hdue | hrevoked
  · exact .inl hdue
  · rw [Bool.and_eq_true] at hrevoked ⊢
    exact .inr ⟨hrevoked.1, h.ledgerFades.isAllocated hrevoked.2⟩

/-- The loop of the scan, in any scope that covers the leases that need expiry. -/
theorem does_expireLeases (hc : Coherent c₀) {leases : List ResourceLease}
    (hΓ : ∀ lease ∈ leases, needsActiveExpiry c₀ now lease = true →
      Γ.Covers (leaseScope env c₀ lease)) (h : LossPath Γ c₀ c) :
    Does (expireLeases env now leases) c (fun _ => LossPath Γ c₀) E := by
  induction leases generalizing c with
  | nil => exact Holds.pure h
  | cons lease rest ih =>
    have hrest : ∀ c', LossPath Γ c₀ c' → Does (expireLeases env now rest) c'
        (fun _ => LossPath Γ c₀) E :=
      fun c' h' => ih (fun l hl => hΓ l (List.mem_cons_of_mem _ hl)) h'
    refine Holds.get fun s hs => Holds.ite (fun hneeds => ?_) fun _ => ?_
    · rw [hs] at hneeds
      refine (does_expireLease (h.coherent hc) lease).bind fun _ c' h' => ?_
      rw [leaseScope_congr h.sameBindings] at h'
      have hcovers := hΓ lease List.mem_cons_self (h.needsActiveExpiry hneeds)
      exact (hrest c' (h.trans (h'.mono hcovers))).bind fun _ _ h'' => Holds.pure h''
    · exact (hrest c h).bind fun _ _ h'' => Holds.pure h''

/-- What the scan at the time `now` may touch. -/
def scanScope (env : Environment) (c : Core) (now : Nat) : Scope where
  namespaces _ := True
  purges _ := True
  sessions _ := False
  stops _ _ := False
  starts _ := False
  publishes _ := False
  remembers _ _ _ := False
  advances _ _ _ := False
  revokes name := ∃ lease, c.Stores lease ∧ needsActiveExpiry c now lease = true ∧
    (leaseScope env c lease).revokes name
  frees name := ∃ lease, c.Stores lease ∧ needsActiveExpiry c now lease = true ∧
    (leaseScope env c lease).frees name
  providers _ _ _ := False
  faulty := env.Faulty

/-- The leases that the scan reads: those of the swept ledger. -/
theorem Does.leases {f : List ResourceLease → Action β}
    (hf : Does (f (c.lapse now).ledger.leases.values) (c.lapse now) R E) :
    Does (ledgerCall (Ledger.leases now) >>= f) c R E :=
  does_ledgerCall_bind hf

theorem needsActiveExpiry_lapse (c : Core) (now now' : Nat) (lease : ResourceLease) :
    needsActiveExpiry (c.lapse now') now lease = needsActiveExpiry c now lease := by
  unfold Authority.needsActiveExpiry
  rw [isAllocated_lapse]

theorem needsActiveExpiry_expireIfDue {now' : Nat}
    (h : needsActiveExpiry c now (lease.expireIfDue now') = true) :
    needsActiveExpiry c now lease = true := by
  rcases Ledger.expireIfDue_cases now' lease with heq | ⟨hactive, -, heq⟩ <;> rw [heq] at h
  · exact h
  · simp only [needsActiveExpiry, isRevocable, reduceCtorEq, decide_false, decide_true,
      Bool.or_true, Bool.and_true, Bool.false_and, Bool.or_false] at h
    simp [needsActiveExpiry, isRevocable, hactive, h]

theorem leaseScope_expireIfDue (env : Environment) (c : Core) (now : Nat) (lease : ResourceLease) :
    leaseScope env c (lease.expireIfDue now) = leaseScope env c lease := by
  rcases Ledger.expireIfDue_cases now lease with h | ⟨-, -, h⟩ <;> rw [h]
  rfl

theorem exists_of_stores_lapse (h : (c.lapse now).Stores lease) :
    ∃ stored, c.Stores stored ∧ lease = stored.expireIfDue now := by
  rw [Core.Stores, Core.lapse, Ledger.expireDueLeases_get?, Option.map_eq_some_iff] at h
  obtain ⟨stored, hstored, rfl⟩ := h
  rw [ResourceLease.name_expireIfDue] at hstored
  exact ⟨stored, hstored, rfl⟩

/-- Every lease the scan reads is covered by the scope of the scan. -/
theorem scanScope_covers {now' : Nat} (hlease : lease ∈ (c.lapse now').ledger.leases.values)
    (hneeds : needsActiveExpiry (c.lapse now') now lease = true) :
    (scanScope env c now).Covers (leaseScope env (c.lapse now') lease) := by
  rw [needsActiveExpiry_lapse] at hneeds
  obtain ⟨stored, hstored, rfl⟩ := exists_of_stores_lapse (Index.mem_values.1 hlease)
  rw [leaseScope_expireIfDue]
  have hneeds := needsActiveExpiry_expireIfDue hneeds
  exact ⟨fun _ _ => trivial, fun _ _ => trivial, fun _ h => ⟨stored, hstored, hneeds, h⟩,
    fun _ h => ⟨stored, hstored, hneeds, h⟩, id⟩

theorem does_scanAt (hc : Coherent c) (now : Nat) :
    Does (scanAt env now) c (fun _ => LossPath (scanScope env c now) c) E := by
  refine Does.ask fun t => Does.leases ?_
  have hlapse : LossPath (scanScope env c now) c (c.lapse (env.now t)) := .single (.lapse _)
  refine (does_expireLeases (E := E) (hc.lapse _)
    (fun lease hlease hneeds => scanScope_covers hlease hneeds) .refl).mono ?_ fun _ h => h
  exact fun _ _ h => hlapse.trans h

/-- The scan is a path of losses within its scope. -/
theorem scan_lossPath (env : Environment) (s : AuthorityRuntime) (hc : Coherent s.toCore) :
    LossPath (scanScope env s.toCore (env.now s.tick)) s.toCore
      (finalState (enforceLeaseExpiry env s)).toCore := by
  change LossPath _ _ (finalState (scanAt env (env.now s.tick)
    { s with tick := s.tick + 1 })).toCore
  exact Holds.finalState (does_scanAt hc (env.now s.tick))

end Authority

end CyreneKernel
