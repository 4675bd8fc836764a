import CyreneKernel.Authority.Effects
import CyreneKernel.Authority.Names

/-!
# The invariant of the authority

The authority spreads one fact over several maps: that a worker runs, under a runtime name, on a
lease it holds.  `Bound` collects what these maps say about one process, and `Coherent` says that
every process is bound.  In particular a process has exactly one worker and one lease, no two
processes share a lease, and the states of worker and lease fit together (`compatible`).

## Main definitions

* `compatible`: which states of a worker go with which states of its lease.
* `Bound`, `Coherent`.

## Main results

* `Bound.name_unique`: the process of a lease is unique.
* `Coherent.effect`, `Coherent.path`: every effect keeps the invariant.
-/

namespace CyreneKernel

open Lib Relation
open Ledger (ResourceLease)

namespace Authority

/-! ### The invariant -/

/-- Which states of a worker go with which states of the lease it runs on. -/
def compatible : WorkerState → Ledger.LeaseState → Bool
  | .starting, .active | .starting, .expired | .starting, .failed => true
  | .running, .active | .running, .expired | .running, .failed => true
  | .draining, .failed => true
  | .stopped, .releasing | .stopped, .released => true
  | .failed, .failed => true
  | .lost, .revoked | .lost, .failed => true
  | _, _ => false

/-- What the maps of the authority say about a process. -/
structure Bound (c : Core) (name : String) (process : ManagedProcess) (ns : NamespaceId)
    (worker : Worker) (lease : ResourceLease) : Prop where
  managed : c.instances[name]? = some process
  worker_eq : process.semanticWorker = some worker
  indexed : c.workers[(⟨ns, worker.identity⟩ : ObjectRef)]? = some name
  leased : c.leases[(⟨ns, worker.lease⟩ : ObjectRef)]? = some lease.name
  stored : c.Stores lease
  held : lease.holder = worker.identity
  /-- The process keeps the fence token of its lease until the lease is revoked. -/
  fence : ∃ token, process.lease = some ⟨lease.name, token⟩ ∧
    (lease.state ≠ .revoked → token = lease.fenceToken)
  fits : compatible worker.state lease.state = true
  halted : worker.state = .stopped → process.actor.process.handle = none

/-- Every process is bound, and the names of leases and workers are those of their objects. -/
structure Coherent (c : Core) : Prop where
  lease_name : ∀ {object : ObjectRef} {name}, c.leases[object]? = some name →
    name = scopedRuntimeName "lease" object
  lease_stored : ∀ {object : ObjectRef} {name}, c.leases[object]? = some name →
    ∃ lease, c.ledger.leases.get? name = some lease
  lease_inj : ∀ {object object' : ObjectRef} {name}, c.leases[object]? = some name →
    c.leases[object']? = some name → object = object'
  worker_name : ∀ {object : ObjectRef} {name}, c.workers[object]? = some name →
    name = scopedRuntimeName "worker" object
  bound : ∀ {name process}, c.instances[name]? = some process →
    ∃ ns worker lease, Bound c name process ns worker lease

section Unique

variable {c : Core} {name name' : String} {process process' : ManagedProcess}
  {ns ns' : NamespaceId} {worker worker' : Worker} {lease lease' : ResourceLease}

/-- One lease is stored under a name. -/
theorem stores_unique (h : c.Stores lease) (h' : c.Stores lease')
    (hname : lease'.name = lease.name) : lease' = lease := by
  unfold Core.Stores at h h'
  rw [hname, h] at h'
  exact (Option.some.inj h').symm

/-- Storing a lease again changes nothing. -/
theorem get?_of_stores (h : c.Stores lease) (n : String) : c.ledger.leases.get? n =
    if lease.name = n then some lease else c.ledger.leases.get? n := by
  split
  · next hname => rw [← hname, h]
  · rfl

/-- At most one process runs on a lease. -/
theorem Bound.name_unique (hb : Bound c name process ns worker lease)
    (hb' : Bound c name' process' ns' worker' lease') (hc : Coherent c)
    (hlease : lease.name = lease'.name) : name = name' := by
  have hobject : (⟨ns, worker.lease⟩ : ObjectRef) = ⟨ns', worker'.lease⟩ :=
    hc.lease_inj hb.leased (hlease ▸ hb'.leased)
  obtain ⟨rfl, -⟩ := ObjectRef.mk.inj hobject
  obtain rfl := stores_unique hb'.stored hb.stored hlease
  have hidentity : worker.identity = worker'.identity := by rw [← hb.held, ← hb'.held]
  have hindexed := hb'.indexed
  rw [← hidentity, hb.indexed] at hindexed
  exact Option.some.inj hindexed

/-- A process is bound in one way only. -/
theorem Bound.unique (hb : Bound c name process ns worker lease)
    (hb' : Bound c name process ns' worker' lease') (hc : Coherent c) :
    ns' = ns ∧ worker' = worker ∧ lease' = lease := by
  obtain rfl : worker' = worker := Option.mem_unique hb'.worker_eq hb.worker_eq
  obtain rfl : ns' = ns :=
    scopedRuntimeName_inj ((hc.worker_name hb'.indexed).symm.trans (hc.worker_name hb.indexed))
  have hname : lease'.name = lease.name := Option.mem_unique hb'.leased hb.leased
  exact ⟨rfl, rfl, stores_unique hb.stored hb'.stored hname⟩

/-- The runtime name found for a worker is the one given to it. -/
theorem Coherent.name_eq (hc : Coherent c) {identity : Identity}
    (hname : c.workerInstanceName? ns identity = some name) :
    name = scopedRuntimeName "worker" ⟨ns, identity⟩ := by
  unfold Core.workerInstanceName? at hname
  cases hworker : c.workers[(⟨ns, identity⟩ : ObjectRef)]? with
  | some stored =>
    rw [hworker, Option.some_or] at hname
    obtain rfl := Option.some.inj hname
    exact hc.worker_name hworker
  | none =>
    rw [hworker, Option.none_or] at hname
    split_ifs at hname with hns
    obtain rfl := Option.some.inj hname
    unfold scopedRuntimeName
    rw [if_pos hns]

/-- A process found by namespace and identity belongs to that namespace. -/
theorem Coherent.bound_of_name (hc : Coherent c)
    (hname : c.workerInstanceName? ns worker.identity = some name)
    (hprocess : c.instances[name]? = some process)
    (hworker : process.semanticWorker = some worker) :
    ∃ lease, Bound c name process ns worker lease := by
  obtain ⟨ns', worker', lease, hb⟩ := hc.bound hprocess
  obtain rfl : worker = worker' := Option.mem_unique hworker hb.worker_eq
  have hns : ns = ns' :=
    scopedRuntimeName_inj ((hc.name_eq hname).symm.trans (hc.worker_name hb.indexed))
  exact ⟨lease, hns ▸ hb⟩

/-- A process found by its lease is bound to that lease. -/
theorem Coherent.bound_of_lease (hc : Coherent c) {object : ObjectRef} {token : Nat}
    (hprocess : c.instances[name]? = some process)
    (hworker : process.semanticWorker = some worker)
    (hleased : c.leases[object]? = some lease.name) (hlease : c.Stores lease)
    (hfence : process.lease = some ⟨lease.name, token⟩) :
    Bound c name process object.ns worker lease ∧ object.identity = worker.lease := by
  obtain ⟨ns', worker', lease', hb⟩ := hc.bound hprocess
  obtain rfl : worker = worker' := Option.mem_unique hworker hb.worker_eq
  obtain ⟨token', hfence', -⟩ := hb.fence
  have hname : lease.name = lease'.name := by
    rw [hfence, Option.some.injEq, ResourceLeaseRef.mk.injEq] at hfence'
    exact hfence'.1
  obtain rfl := hc.lease_inj hleased (hname ▸ hb.leased)
  obtain rfl := stores_unique hb.stored hlease hname
  exact ⟨hb, rfl⟩

/-- The lease a bound process runs on is the one its worker names. -/
theorem Bound.lease_eq (hb : Bound c name process ns worker lease)
    (hleased : c.leases[(⟨ns, worker.lease⟩ : ObjectRef)]? = some lease'.name)
    (hlease : c.Stores lease') : lease = lease' :=
  stores_unique hlease hb.stored (Option.mem_unique hb.leased hleased)

end Unique

/-! ### Preservation -/

section Preservation

variable {c c' : Core} {name : String} {process process' : ManagedProcess}
  {ns : NamespaceId} {worker : Worker} {lease lease' : ResourceLease}

/-- A lease that takes the place of `lease` under a worker in state `state`. -/
structure Replaces (state : WorkerState) (lease lease' : ResourceLease) : Prop where
  name_eq : lease'.name = lease.name
  holder_eq : lease'.holder = lease.holder
  fence_eq : lease'.state ≠ .revoked → lease.state ≠ .revoked ∧
    lease'.fenceToken = lease.fenceToken
  fits : compatible state lease'.state = true

theorem Bound.replaces_self (hb : Bound c name process ns worker lease) :
    Replaces worker.state lease lease :=
  ⟨rfl, rfl, fun h => ⟨h, rfl⟩, hb.fits⟩

/-- A process that takes the place of `process`, with its worker in state `state`. -/
structure Moves (process : ManagedProcess) (worker : Worker) (state : WorkerState)
    (process' : ManagedProcess) : Prop where
  worker_eq : process'.semanticWorker = some { worker with state := state }
  lease_eq : process'.lease = process.lease
  halted : state = .stopped → process'.actor.process.handle = none

theorem Bound.moves_self (hb : Bound c name process ns worker lease) :
    Moves process worker worker.state process :=
  ⟨hb.worker_eq, rfl, hb.halted⟩

/-- A process stays bound when its worker changes its state and its lease is replaced. -/
theorem Bound.replace (hb : Bound c name process ns worker lease)
    (hmanaged : c'.instances[name]? = some process') (hworkers : c'.workers = c.workers)
    (hleases : c'.leases = c.leases) (hstored : c'.ledger.leases.get? lease.name = some lease')
    {state : WorkerState} (hlease : Replaces state lease lease')
    (hmoves : Moves process worker state process') :
    Bound c' name process' ns { worker with state := state } lease' where
  managed := hmanaged
  worker_eq := hmoves.worker_eq
  indexed := by rw [hworkers]; exact hb.indexed
  leased := by rw [hleases, hlease.name_eq]; exact hb.leased
  stored := by rw [Core.Stores, hlease.name_eq, hstored]
  held := hlease.holder_eq.trans hb.held
  fence := by
    obtain ⟨token, htoken, hfence⟩ := hb.fence
    refine ⟨token, by rw [hmoves.lease_eq, htoken, hlease.name_eq], fun hstate => ?_⟩
    rw [(hlease.fence_eq hstate).2]
    exact hfence (hlease.fence_eq hstate).1
  fits := hlease.fits
  halted := hmoves.halted

variable (hc : Coherent c)

include hc

/-- The invariant carries over when the indices stay and every process is bound again. -/
theorem Coherent.of_bound (hworkers : c'.workers = c.workers) (hleases : c'.leases = c.leases)
    (hstored : ∀ {name lease}, c.ledger.leases.get? name = some lease →
      ∃ lease', c'.ledger.leases.get? name = some lease')
    (hbound : ∀ {name process}, c'.instances[name]? = some process →
      ∃ ns worker lease, Bound c' name process ns worker lease) : Coherent c' where
  lease_name h := hc.lease_name (by rwa [hleases] at h)
  lease_stored h := by
    rw [hleases] at h
    obtain ⟨lease, hlease⟩ := hc.lease_stored h
    exact hstored hlease
  lease_inj h h' := by
    rw [hleases] at h h'
    exact hc.lease_inj h h'
  worker_name h := hc.worker_name (by rwa [hworkers] at h)
  bound := hbound

/-- The invariant says nothing about operations, endpoints and grants. -/
theorem Coherent.congr (hledger : c'.ledger.leases = c.ledger.leases)
    (hinstances : c'.instances = c.instances) (hworkers : c'.workers = c.workers)
    (hleases : c'.leases = c.leases) : Coherent c' := by
  refine hc.of_bound hworkers hleases (fun h => ⟨_, by rwa [hledger]⟩) fun hprocess => ?_
  obtain ⟨ns, worker, lease, hb⟩ := hc.bound (hinstances ▸ hprocess)
  refine ⟨ns, _, lease, hb.replace hprocess hworkers hleases ?_ hb.replaces_self
    hb.moves_self⟩
  rw [hledger, hb.stored]

/-- A change of the ledger keeps the invariant when every lease with a process is replaced by a
fitting one. -/
theorem Coherent.of_ledger {ledger : Ledger.State}
    (hstored : ∀ {name lease}, c.ledger.leases.get? name = some lease →
      ∃ lease', ledger.leases.get? name = some lease')
    (hreplace : ∀ {name process ns worker lease}, Bound c name process ns worker lease →
      ∃ lease', ledger.leases.get? lease.name = some lease' ∧
        Replaces worker.state lease lease') : Coherent { c with ledger := ledger } := by
  refine hc.of_bound rfl rfl hstored fun hprocess => ?_
  obtain ⟨ns, worker, lease, hb⟩ := hc.bound hprocess
  obtain ⟨lease', hlease', hreplaces⟩ := hreplace hb
  exact ⟨ns, { worker with state := worker.state }, lease',
    hb.replace hprocess rfl rfl hlease' hreplaces hb.moves_self⟩

/-- A process that is stopped or lost together with its lease keeps the invariant. -/
theorem Coherent.move (hb : Bound c name process ns worker lease) (ledger : Ledger.State)
    (process' : ManagedProcess) {state : WorkerState}
    (hget : ∀ n, ledger.leases.get? n =
      if lease'.name = n then some lease' else c.ledger.leases.get? n)
    (hreplaces : Replaces state lease lease') (hmoves : Moves process worker state process') :
    Coherent { c with
      ledger := ledger
      instances := c.instances.insert name process' } := by
  refine hc.of_bound rfl rfl (fun {n l} hn => ?_) fun {n p} hp => ?_
  · rw [hget]
    split
    · exact ⟨lease', rfl⟩
    · exact ⟨l, hn⟩
  · have hp' := hp
    rw [BTreeMap.getElem?_insert] at hp'
    split_ifs at hp' with hname
    · subst hname
      obtain rfl := Option.some.inj hp'
      exact ⟨ns, { worker with state := state }, lease',
        hb.replace hp rfl rfl ((hget _).trans (if_pos hreplaces.name_eq)) hreplaces hmoves⟩
    · obtain ⟨ns', worker', lease'', hb'⟩ := hc.bound hp'
      refine ⟨ns', { worker' with state := worker'.state }, lease'', ?_⟩
      refine hb'.replace hp rfl rfl ?_ hb'.replaces_self hb'.moves_self
      have hne : lease'.name ≠ lease''.name := fun h =>
        hname (hb.name_unique hb' hc (hreplaces.name_eq.symm.trans h))
      exact (hget _).trans ((if_neg hne).trans hb'.stored)

/-- A process whose worker and lease stay as they are keeps the invariant. -/
theorem Coherent.putInstance (hb : Bound c name process ns worker lease) (state : WorkerState)
    (hfits : compatible state lease.state = true)
    (hmoves : Moves process worker state process') :
    Coherent { c with instances := c.instances.insert name process' } :=
  hc.move hb c.ledger _ (get?_of_stores hb.stored) ⟨rfl, rfl, fun h => ⟨h, rfl⟩, hfits⟩ hmoves

end Preservation

/-! ### The effects -/

section Effects

variable {c c' : Core} {name : String} {process : ManagedProcess} {ns : NamespaceId}
  {worker : Worker} {lease lease' : ResourceLease}

variable {state : WorkerState} {Γ : Scope}

theorem compatible_expired (h : compatible state .active = true) :
    compatible state .expired = true := by
  revert h
  cases state <;> decide

theorem compatible_failed (h : compatible state .active = true) :
    compatible state .failed = true := by
  revert h
  cases state <;> decide

theorem compatible_releasing : compatible state .releasing = true ↔ state = .stopped := by
  cases state <;> decide

theorem compatible_released : compatible state .released = true ↔ state = .stopped := by
  cases state <;> decide

/-- A lease whose state changes, but not to or from a revocation. -/
theorem replaces_state {next : Ledger.LeaseState} (hlease : lease.state ≠ .revoked)
    (hfits : compatible state next = true) : Replaces state lease { lease with state := next } :=
  ⟨rfl, rfl, fun _ => ⟨hlease, rfl⟩, hfits⟩

theorem Bound.replaces_expireIfDue (hb : Bound c name process ns worker lease) (now : Nat) :
    Replaces worker.state lease (lease.expireIfDue now) := by
  rcases Ledger.expireIfDue_cases now lease with h | ⟨hactive, -, h⟩ <;> rw [h]
  · exact hb.replaces_self
  · refine replaces_state (by rw [hactive]; decide) (compatible_expired ?_)
    rw [← hactive]
    exact hb.fits

theorem Coherent.lapse (hc : Coherent c) (now : Nat) : Coherent (c.lapse now) := by
  refine hc.of_ledger (fun {n l} h => ⟨l.expireIfDue now, ?_⟩) fun {_ _ _ _ l} hb =>
    ⟨l.expireIfDue now, ?_, hb.replaces_expireIfDue now⟩
  · rw [Ledger.expireDueLeases_get?, h, Option.map_some]
  · rw [Ledger.expireDueLeases_get?, hb.stored, Option.map_some]

section

variable (hc : Coherent c) (ledger : Ledger.State)
  (hledger : ∀ n, ledger.leases.get? n =
    if lease'.name = n then some lease' else c.ledger.leases.get? n)
  (hlease : c.Stores lease)

include hc ledger hledger hlease

/-- Storing a lease over one of the same name. -/
theorem Coherent.put (hreplaces : ∀ {name process ns worker}, Bound c name process ns worker lease →
      Replaces worker.state lease lease') (hname : lease'.name = lease.name) :
    Coherent { c with ledger := ledger } := by
  refine hc.of_ledger (fun {n l} h => ?_) fun {_ _ _ _ l} hb => ?_
  · rw [hledger]
    split
    · exact ⟨_, rfl⟩
    · exact ⟨l, h⟩
  · by_cases heq : lease'.name = l.name
    · obtain rfl := stores_unique hb.stored hlease (hname.symm.trans heq)
      exact ⟨lease', by rw [hledger, if_pos heq], hreplaces hb⟩
    · exact ⟨l, by rw [hledger, if_neg heq]; exact hb.stored, hb.replaces_self⟩

/-- A lease on which no process runs may change in any way. -/
theorem Coherent.put_idle (hidle : c.Idle lease.name) (hname : lease'.name = lease.name) :
    Coherent { c with ledger := ledger } := by
  refine hc.put _ hledger hlease (fun {name process ns worker} hb => ?_) hname
  obtain ⟨token, htoken, -⟩ := hb.fence
  exact absurd rfl (hidle hb.managed htoken)

end

/-- The lease of a lost worker: revoked unless it had failed. -/
theorem Bound.revoked_of_lost (hb : Bound c name process ns worker lease)
    (hstate : worker.state.canTransitionTo .lost = true) :
    ∃ lease', (∀ n, (revokeIfRevocable c.ledger lease).leases.get? n =
        if lease'.name = n then some lease' else c.ledger.leases.get? n) ∧
      Replaces .lost lease lease' := by
  unfold revokeIfRevocable
  split
  · exact ⟨c.ledger.revoked lease, Ledger.revokeLease_get? c.ledger lease, rfl, rfl,
      fun h => absurd rfl h, rfl⟩
  · next hrevocable =>
    refine ⟨lease, get?_of_stores hb.stored, rfl, rfl, fun h => ⟨h, rfl⟩, ?_⟩
    have hfits := hb.fits
    revert hfits hrevocable hstate
    cases worker.state <;> cases lease.state <;> decide

theorem Coherent.lossEffect (hc : Coherent c) (h : LossEffect Γ c c') : Coherent c' := by
  cases h with
  | lapse now => exact hc.lapse now
  | record => exact hc.congr rfl rfl rfl rfl
  | @lose ns name process worker lease _ _ _ outcome hns hpurge hname hprocess hworker hstate
      hleased hlease =>
    obtain ⟨lease', hb⟩ := hc.bound_of_name hname hprocess hworker
    obtain rfl := hb.lease_eq hleased hlease
    obtain ⟨revoked, hget, hreplaces⟩ := hb.revoked_of_lost hstate
    refine (hc.move hb (revokeIfRevocable c.ledger lease')
      (lostProcess process (process.actor.stop outcome).2) hget hreplaces
      ⟨?_, rfl, ?_⟩).congr rfl rfl rfl rfl
    · simp only [lostProcess, ManagedProcess.withState, hworker, Option.map_some]
    · exact fun h => absurd h (by decide)
  | reclaim => exact hc.congr rfl rfl rfl rfl
  | expire hlease hstate hidle =>
    exact (hc.put_idle _ (Ledger.revokeLease_get? _ _) hlease hidle rfl).congr rfl rfl rfl rfl

theorem Coherent.index (hc : Coherent c) {object : ObjectRef}
    (hname : lease.name = scopedRuntimeName "lease" object) (hlease : c.Stores lease)
    (hnew : c.Unindexed lease.name) :
    Coherent { c with leases := c.leases.insert object lease.name } := by
  have hkeep : ∀ {o : ObjectRef} {n}, c.leases[o]? = some n → object ≠ o := by
    rintro o n ho rfl
    exact hnew _ (by rw [ho, hname, hc.lease_name ho])
  have hget : ∀ {o : ObjectRef} {n}, (c.leases.insert object lease.name)[o]? = some n →
      (object = o ∧ lease.name = n) ∨ c.leases[o]? = some n := by
    intro o n ho
    rw [BTreeMap.getElem?_insert] at ho
    split_ifs at ho with heq
    · exact .inl ⟨heq, Option.some.inj ho⟩
    · exact .inr ho
  refine ⟨fun ho => ?_, fun ho => ?_, fun {o o' n} ho ho' => ?_, hc.worker_name, fun hp => ?_⟩
  · rcases hget ho with ⟨rfl, rfl⟩ | ho
    · exact hname
    · exact hc.lease_name ho
  · rcases hget ho with ⟨rfl, rfl⟩ | ho
    · exact ⟨lease, hlease⟩
    · exact hc.lease_stored ho
  · rcases hget ho with ⟨rfl, hn⟩ | ho <;> rcases hget ho' with ⟨rfl, hn'⟩ | ho'
    · rfl
    · exact absurd (hn ▸ ho') (hnew o')
    · exact absurd (hn' ▸ ho) (hnew o)
    · exact hc.lease_inj ho ho'
  · obtain ⟨ns, worker, bound, hb⟩ := hc.bound hp
    refine ⟨ns, worker, bound, { hb with leased := ?_ }⟩
    rw [BTreeMap.getElem?_insert, if_neg (hkeep hb.leased)]
    exact hb.leased

theorem Coherent.launch (hc : Coherent c)
    (hnew : c.workers[(⟨ns, worker.identity⟩ : ObjectRef)]? = none)
    (hworker : process.semanticWorker = some worker) (hstarting : worker.state = .starting)
    (hleased : c.leases[(⟨ns, worker.lease⟩ : ObjectRef)]? = some lease.name)
    (hlease : c.Stores lease) (hstate : lease.state = .active)
    (hholder : lease.holder = worker.identity)
    (hfence : process.lease = some ⟨lease.name, lease.fenceToken⟩) :
    Coherent { c with
      instances := c.instances.insert (scopedRuntimeName "worker" ⟨ns, worker.identity⟩) process
      workers := c.workers.insert ⟨ns, worker.identity⟩
        (scopedRuntimeName "worker" ⟨ns, worker.identity⟩) } := by
  refine ⟨hc.lease_name, hc.lease_stored, hc.lease_inj, fun {o n} ho => ?_, fun {n p} hp => ?_⟩
  · rw [BTreeMap.getElem?_insert] at ho
    split_ifs at ho with heq
    · rw [← heq]
      exact (Option.some.inj ho).symm
    · exact hc.worker_name ho
  · have hp' := hp
    rw [BTreeMap.getElem?_insert] at hp'
    split_ifs at hp' with hname
    · subst hname
      obtain rfl := Option.some.inj hp'
      refine ⟨ns, worker, lease, hp, hworker, ?_, hleased, hlease, hholder,
        ⟨_, hfence, fun _ => rfl⟩, by rw [hstarting, hstate]; rfl, fun h => ?_⟩
      · rw [BTreeMap.getElem?_insert, if_pos rfl]
      · rw [hstarting] at h
        exact absurd h (by decide)
    · obtain ⟨ns', worker', bound, hb⟩ := hc.bound hp'
      refine ⟨ns', worker', bound, { hb with managed := hp, indexed := ?_ }⟩
      rw [BTreeMap.getElem?_insert, if_neg]
      · exact hb.indexed
      · intro heq
        rw [heq, hb.indexed] at hnew
        exact absurd hnew (by simp)

theorem Coherent.idle_of_unindexed (hc : Coherent c) {leaseName : String}
    (h : c.Unindexed leaseName) : c.Idle leaseName := by
  rintro name process ref hprocess hlease rfl
  obtain ⟨ns, worker, lease, hb⟩ := hc.bound hprocess
  obtain ⟨token, htoken, -⟩ := hb.fence
  obtain rfl : ref = ⟨lease.name, token⟩ := Option.mem_unique hlease htoken
  exact h _ hb.leased

/-- The worker of a lease that is released or about to be was stopped, and has no process. -/
theorem Bound.stopped_complete (hb : Bound c name process ns worker lease)
    (hstate : lease.state = .releasing ∨ lease.state = .released)
    (outcome : Except ProviderError CleanupReport) :
    (process.actor.stop outcome).1 = .ok ⟨true, "NOT_RUNNING"⟩ := by
  have hfits := hb.fits
  refine InstanceActor.stop_of_handle_none (hb.halted ?_) outcome
  rcases hstate with hstate | hstate <;> rw [hstate] at hfits
  · exact compatible_releasing.1 hfits
  · exact compatible_released.1 hfits

theorem compatible_stopped (result : Except ProviderError CleanupReport) :
    compatible (stoppedState result) (stoppedLeaseState result) = true := by
  cases result with
  | error e => rfl
  | ok report => cases hreport : report.complete <;> simp [stoppedState, stoppedLeaseState, hreport,
      compatible]

/-- Stopping a process moves its lease along with it. -/
theorem Bound.replaces_stopped (hb : Bound c name process ns worker lease)
    (hstate : isReleasable lease.state = true) (outcome : Except ProviderError CleanupReport) :
    ∃ lease', (∀ n, (stopLease c.ledger lease (process.actor.stop outcome).1).leases.get? n =
        if lease'.name = n then some lease' else c.ledger.leases.get? n) ∧
      Replaces (stoppedState (process.actor.stop outcome).1) lease lease' := by
  unfold stopLease
  split
  · next hreleased =>
    refine ⟨lease, get?_of_stores hb.stored, rfl, rfl, fun h => ⟨h, rfl⟩, ?_⟩
    rw [hb.stopped_complete (.inr hreleased), hreleased]
    rfl
  · refine ⟨_, fun n => Ledger.put_get? _ _ n, replaces_state ?_ (compatible_stopped _)⟩
    intro hrevoked
    rw [hrevoked] at hstate
    exact absurd hstate (by decide)

theorem Coherent.stop (hc : Coherent c) (hb : Bound c name process ns worker lease)
    (hstate : isReleasable lease.state = true) (outcome : Except ProviderError CleanupReport) :
    Coherent { c with
      ledger := stopLease c.ledger lease (process.actor.stop outcome).1
      instances := c.instances.insert name (stoppedProcess process outcome) } := by
  obtain ⟨lease', hget, hreplaces⟩ := hb.replaces_stopped hstate outcome
  refine hc.move hb _ _ hget hreplaces ⟨stoppedProcess_semanticWorker hb.worker_eq outcome,
    congrArg Prod.fst (inherits_stoppedProcess process outcome).binding_eq, ?_⟩
  intro hstopped
  rw [stoppedProcess_actor]
  cases hresult : (process.actor.stop outcome).1 with
  | error e =>
    rw [hresult] at hstopped
    exact absurd hstopped (by simp [stoppedState])
  | ok report =>
    rw [hresult] at hstopped
    refine InstanceActor.handle_of_stop_complete hresult ?_
    by_contra hcomplete
    simp [stoppedState, hcomplete] at hstopped

/-- Every effect keeps the invariant. -/
theorem Coherent.effect (hc : Coherent c) (h : Effect Γ c c') : Coherent c' := by
  cases h with
  | loss h => exact hc.lossEffect h
  | @grant request resources hnew =>
    refine hc.of_ledger (fun {n l} h => ?_) fun {_ _ _ _ l} hb => ⟨l, ?_, hb.replaces_self⟩
    · rw [Ledger.grant_get?]
      split
      · exact ⟨_, rfl⟩
      · exact ⟨l, h⟩
    · rw [Ledger.grant_get?, if_neg]
      · exact hb.stored
      · intro hname
        rw [hname, hb.stored] at hnew
        exact absurd hnew (by simp)
  | index hns hname hlease hnew hrecord => exact hc.index hname hlease hnew
  | renew expiresAtUnixMs hlease hstate =>
    refine hc.put _ (Ledger.put_get? _ _) hlease
      (fun hb => ⟨rfl, rfl, fun h => ⟨h, rfl⟩, hb.fits⟩) rfl
  | begin hlease hstate hidle => exact hc.put_idle _ (Ledger.put_get? _ _) hlease hidle rfl
  | fail hlease hstate =>
    refine hc.put _ (Ledger.put_get? _ _) hlease (fun hb => replaces_state ?_ ?_) rfl
    · rw [hstate]
      decide
    · refine compatible_failed ?_
      rw [← hstate]
      exact hb.fits
  | discard hlease hstate hunindexed =>
    exact hc.put_idle _ (Ledger.put_get? _ _) hlease (hc.idle_of_unindexed hunindexed) rfl
  | @release lease hlease hstate hpurge hcleared =>
    refine (hc.put ((c.ledger.free lease).put { lease with state := .released })
      (Ledger.put_get? _ _) hlease (fun hb => replaces_state ?_ ?_) rfl).congr rfl rfl rfl rfl
    · rw [hstate]
      decide
    · have hfits := hb.fits
      rw [hstate] at hfits
      exact compatible_released.2 (compatible_releasing.1 hfits)
  | stop outcome hns hstop hprocess hworker hleased hlease hfence hstate hrecords =>
    exact (hc.stop (hc.bound_of_lease hprocess hworker hleased hlease hfence).1 hstate
      outcome).congr rfl rfl rfl rfl
  | launch hns hnew hworker hstarting hhistory hleased hlease hstate hholder hfence =>
    exact (hc.launch hnew hworker hstarting hleased hlease hstate hholder hfence).congr
      rfl rfl rfl rfl
  | @run ns name process worker actor heartbeatAt hns hname hprocess hworker hstate =>
    obtain ⟨lease, hb⟩ := hc.bound_of_name hname hprocess hworker
    refine hc.putInstance hb .running ?_ ⟨?_, rfl, fun h => absurd h (by decide)⟩
    · have hfits := hb.fits
      revert hfits hstate
      cases worker.state <;> cases lease.state <;> decide
    · simp only [ManagedProcess.withState, hworker, Option.map_some]
  | session hsession hprocess hworker hlease hactor hhistory =>
    obtain ⟨ns, worker, lease, hb⟩ := hc.bound hprocess
    exact hc.putInstance hb _ hb.fits ⟨hworker.trans hb.worker_eq, hlease,
      fun h => (congrArg SandboxedProcess.handle hactor).trans (hb.halted h)⟩
  | _ => exact hc.congr rfl rfl rfl rfl

theorem Coherent.path (hc : Coherent c) (h : Path Γ c c') : Coherent c' := by
  induction h with
  | refl => exact hc
  | tail _ h ih => exact ih.effect h

end Effects

end Authority

end CyreneKernel
