import CyreneKernel.Authority.EndpointAuthority
import CyreneKernel.Ledger.Exclusive

/-!
# The expiry scan and the holders of resources

The scan visits every lease that was ever granted, and takes a revoked lease for unfinished while
one of its resources is allocated, whoever holds it.  It then gives up the resources of that lease
once more.  A lease that is matched with the wrong worker ends with the lease of that worker.

## Main definitions

* `freesLease`: the expiry of a lease gives up the resources of another one.
* `scanFreesHeld`: a scan gives up a resource of a lease that is active and has not lapsed.

## Main results

* `scanSafety`: every other scan leaves the resources of such leases allocated.
* `regrantedResource_not_safe`: a scan takes a resource that was granted again.
-/

namespace CyreneKernel

open Lib Relation
open Ledger (ResourceLease)

namespace Authority

variable {Γ : Scope} {c c' : Core} {env : Environment} {s : AuthorityRuntime} {now : Nat}
  {lease : ResourceLease}

/-- The lease of the worker that an identity means in a namespace. -/
def resolvedLease? (c : Core) (ns : NamespaceId) (worker : Identity) : Option String :=
  ((((c.workerInstanceName? ns worker).bind fun name => c.instances[name]?).bind
    (·.semanticWorker)).filter (·.identity = worker)).bind fun stored =>
      c.leases[(⟨ns, stored.lease⟩ : ObjectRef)]?

/-- The expiry of a lease ends the lease of this name: the one of a worker it is matched with, taken
in the namespace of the lease, or without a match the lease itself. -/
def freesLease (c : Core) (lease : ResourceLease) (leaseName : String) : Bool :=
  if isMatched c lease then
    c.instances.toList.any fun entry => entry.2.semanticWorker.any fun worker =>
      isBoundTo lease.name (scannedObject c lease).identity entry.2 worker &&
        resolvedLease? c (scannedObject c lease).ns worker.identity = some leaseName
  else lease.name = leaseName

/-- A lease that is active and has not lapsed. -/
def isHeldAt (now : Nat) (lease : ResourceLease) : Bool :=
  lease.state = .active && !lease.expiresAtUnixMs.any (· ≤ now)

/-- The scan at the time `now` gives up a resource of a lease that is active and has not lapsed. -/
def scanFreesHeld (c : Core) (now : Nat) : Bool :=
  c.ledger.leases.values.any fun lease => needsActiveExpiry c now lease &&
    c.ledger.leases.values.any fun freed => freesLease c lease freed.name &&
      c.ledger.leases.values.any fun held => isHeldAt now held &&
        held.resourceIds.any (freed.resourceIds.contains ·)

theorem resolvedLease?_eq_some {ns : NamespaceId} {worker : Identity} {leaseName : String}
    (h : Resolves c ns worker leaseName) : resolvedLease? c ns worker = some leaseName := by
  obtain ⟨name, process, stored, hname, hprocess, hstored, rfl, hleased⟩ := h
  simp [resolvedLease?, hname, hprocess, hstored, hleased, Option.filter]

theorem freesLease_of_frees {leaseName : String} (h : (leaseScope env c lease).frees leaseName) :
    freesLease c lease leaseName = true := by
  unfold freesLease
  rcases h with ⟨rfl, hunmatched⟩ |
    ⟨worker, ⟨name, process, stored, hprocess, hstored, rfl, hbound⟩, hresolves⟩
  · simp [isMatched_eq_false hunmatched]
  · have hmem : (name, process) ∈ c.instances.toList :=
      Std.ExtTreeMap.mem_toList_iff_getElem?_eq_some.2 hprocess
    have hmatched : isMatched c lease = true :=
      List.any_eq_true.2 ⟨(name, process), hmem, by simp [hstored, hbound]⟩
    rw [if_pos hmatched, List.any_eq_true]
    exact ⟨(name, process), hmem,
      by simp [hstored, hbound, resolvedLease?_eq_some hresolves]⟩

/-- What the scan frees is not held by a lease that is active and has not lapsed. -/
theorem notMem_of_frees {held freed : ResourceLease} (h : scanFreesHeld c now = false)
    (hheld : c.Stores held) (hactive : isHeldAt now held = true) (hfreed : c.Stores freed)
    (hfrees : (scanScope env c now).frees freed.name) {id : String} (hid : id ∈ held.resourceIds) :
    id ∉ freed.resourceIds := by
  obtain ⟨lease, hlease, hneeds, hfrees⟩ := hfrees
  simp only [scanFreesHeld, List.any_eq_false, Index.mem_values] at h
  intro hmem
  refine h lease hlease ?_
  rw [hneeds, Bool.true_and, List.any_eq_true]
  refine ⟨freed, Index.mem_values.2 hfreed, ?_⟩
  rw [freesLease_of_frees hfrees, Bool.true_and, List.any_eq_true]
  refine ⟨held, Index.mem_values.2 hheld, ?_⟩
  rw [hactive, Bool.true_and, List.any_eq_true]
  exact ⟨id, hid, List.contains_iff_mem.2 hmem⟩

/-- A resource that no freed lease has stays as it is. -/
theorem LossPath.mem_allocated (h : LossPath Γ c c') {id : String}
    (hfrees : ∀ {freed : ResourceLease}, c.Stores freed → Γ.frees freed.name →
      id ∉ freed.resourceIds) :
    id ∈ c'.ledger.allocated ↔ id ∈ c.ledger.allocated := by
  induction h with
  | refl => rfl
  | @tail b d hpath heffect ih =>
    rw [← ih]
    cases heffect with
    | lapse => rfl
    | record => rfl
    | @lose ns name process worker lease =>
      change id ∈ (revokeIfRevocable b.ledger lease).allocated ↔ _
      unfold revokeIfRevocable
      split <;> rfl
    | @reclaim lease hlease hstate hfree =>
      have hids : id ∉ lease.resourceIds := by
        obtain ⟨first, hfirst, hfades⟩ := (LossPath.ledgerFades hpath).before hlease
        rw [hfades.name_eq] at hfirst hfree
        have hfirstIds := hfrees hfirst hfree
        unfold ResourceLease.resourceIds at hfirstIds ⊢
        rwa [hfades.allocations_eq]
      simp only [Ledger.State.free, BTreeSet.mem_eraseList, hids, not_false_eq_true, true_and]
    | expire => rfl

/-- A grant after the scan leaves out the resources that are allocated. -/
theorem notMem_of_acquireLease {ledger ledger' : Ledger.State} {nowAgain : Nat}
    {request : Ledger.ResourceRequest} {granted : ResourceLease}
    (h : Ledger.acquireLease now nowAgain request ledger = .ok granted ledger') {id : String}
    (hid : id ∈ ledger.allocated) : id ∉ granted.resourceIds := by
  have hensures : Ensures (Ledger.acquireLease now nowAgain request) ledger _ _ :=
    Ledger.acquireLease_ensures nowAgain request
  unfold Ensures at hensures
  rw [h] at hensures
  cases hensures with
  | acquireLease hnew hexpiry hcount =>
    rw [Ledger.resourceIds_granted, List.mem_map]
    rintro ⟨resource, hresource, rfl⟩
    exact Ledger.notMem_allocated_of_mem_candidates hresource hid

/-- A scan that gives up no resource of a lease which is active and has not lapsed leaves the
resources of all such leases as they are; what is allocated is not granted again. -/
theorem scanSafety (env : Environment) (s : AuthorityRuntime) (hs : Reachable env s)
    (h : scanFreesHeld s.toCore (env.now s.tick) = false) (held : ResourceLease)
    (hheld : s.toCore.Stores held) (hactive : isHeldAt (env.now s.tick) held = true) (id : String)
    (hid : id ∈ held.resourceIds) :
    let s' := step env s .enforceLeaseExpiry
    (id ∈ s'.ledger.allocated ↔ id ∈ s.ledger.allocated) ∧
      (id ∈ s.ledger.allocated → ∀ now nowAgain request granted ledger,
        Ledger.acquireLease now nowAgain request s'.ledger = .ok granted ledger →
        id ∉ granted.resourceIds) := by
  intro s'
  have hpath : LossPath (scanScope env s.toCore (env.now s.tick)) s.toCore s'.toCore := by
    change LossPath _ _ (finalState (effectOf (Authority.enforceLeaseExpiry env) s)).toCore
    rw [finalState_effectOf]
    exact scan_lossPath env s (coherent_of_reachable hs)
  have hsame := LossPath.mem_allocated hpath fun hfreed hfrees =>
    notMem_of_frees h hheld hactive hfreed hfrees hid
  exact ⟨hsame, fun hmem _ _ _ _ _ hacquire => notMem_of_acquireLease hacquire (hsame.2 hmem)⟩

/-- The world of the runs below: the clock goes from 0 to 20 after a number of questions. -/
def lapsingEnvironment (questions : Nat) : Environment :=
  sampleEnvironment (fun n => if n < questions then 0 else 20) (fun _ => .ok ())
    fun _ => .ok ⟨true, "cleanup"⟩

/-- A resource is granted, its lease lapses, and it is granted again. -/
def regrantedResource : List Call :=
  [sampleAcquire default "a" ⟨"client", 1⟩ 10, .enforceLeaseExpiry,
    sampleAcquire default "b" ⟨"client", 1⟩ 1000]

/-- The next scan takes the resource from the active lease, and it is granted a third time. -/
theorem regrantedResource_not_safe :
    let env := lapsingEnvironment 4
    let s := run (step env) (sampleAuthority ["gpu"]) regrantedResource
    let s' := step env s .enforceLeaseExpiry
    let s'' := step env s' (sampleAcquire default "c" ⟨"other", 1⟩ 1000)
    (s.ledger.leases.get? "lease-b").map
        (fun lease => (lease.resourceIds, isHeldAt (env.now s.tick) lease)) =
        some (["gpu"], true) ∧
      "gpu" ∈ s.ledger.allocated ∧ "gpu" ∉ s'.ledger.allocated ∧
      s'.ledger.leases.get? "lease-b" = s.ledger.leases.get? "lease-b" ∧
      (s''.ledger.leases.get? "lease-c").map (fun lease => (lease.resourceIds, lease.state)) =
        some (["gpu"], .active) := by
  decide +kernel

/-- Two leases of different resources, of which the first lapses. -/
def lapsingLease : List Call :=
  [sampleAcquire default "a" ⟨"client", 1⟩ 10, sampleAcquire default "b" ⟨"client", 1⟩ 1000]

/-- A scan that only ends the lapsed lease leaves the resource of the other one. -/
theorem scanSafety_lapsingLease :
    let env := lapsingEnvironment 8
    let s := run (step env) (sampleAuthority ["gpu-0", "gpu-1"]) lapsingLease
    "gpu-0" ∉ (step env s .enforceLeaseExpiry).ledger.allocated ∧
      "gpu-1" ∈ (step env s .enforceLeaseExpiry).ledger.allocated := by
  intro env s
  refine ⟨by decide +kernel, ?_⟩
  exact (scanSafety env s (reachable_sampleAuthority _ _) (by decide +kernel)
    ((s.ledger.leases.get? "lease-b").get (by decide +kernel))
    (by unfold Core.Stores; decide +kernel)
    (by decide +kernel) "gpu-1" (by decide +kernel)).1.2 (by decide +kernel)

end Authority

end CyreneKernel
