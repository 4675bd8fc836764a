import CyreneKernel.Ledger.Calls

/-!
# Exclusive allocation

A lease holds its resources while it is active, releasing, expired or failed.  The ledger is
*exclusive* when every held resource is in `allocated` and no two leases hold the same resource.

A released lease gives its resources up once, but a revoked lease may be completed any number of
times, and every completion removes its resource ids from `allocated`, also when another lease
was granted them in the meantime.  The exclusive runs are exactly those in which no revocation is
completed for a lease whose resources another lease holds.

## Main definitions

* `LeaseState.holds`, `Exclusive`.
* `SparesHolders`: the call completes no revocation of resources that another lease holds.

## Main results

* `exclusive_step_iff`: in an exclusive state, a call keeps the ledger exclusive if and only if
  it spares the holders.
* `exclusive_run_iff`: the same for runs from a fresh ledger.
-/

namespace CyreneKernel.Ledger

open Lib

/-- The states in which a lease holds its resources. -/
def LeaseState.holds : LeaseState → Bool
  | .active | .releasing | .expired | .failed => true
  | .released | .revoked | .quarantined => false

/-- Every held resource is allocated, and no two leases hold the same resource. -/
structure Exclusive (s : State) : Prop where
  /-- The resources of a holding lease are allocated. -/
  allocated : ∀ {n l}, s.leases.get? n = some l → l.state.holds → ∀ r ∈ l.resourceIds,
    r ∈ s.allocated
  /-- Distinct holding leases share no resource. -/
  disjoint : ∀ {n n' l l'}, n ≠ n' → s.leases.get? n = some l → s.leases.get? n' = some l' →
    l.state.holds → l'.state.holds → ∀ r ∈ l.resourceIds, r ∉ l'.resourceIds

/-- The call does not complete the revocation of a lease one of whose resources is held. -/
def SparesHolders (s : State) : Call → Prop
  | .completeRevocation leaseName fenceToken =>
    ∀ lease, s.leases.get? leaseName = some lease → lease.fenceToken = fenceToken →
      lease.state = .revoked → ∀ n holder, s.leases.get? n = some holder → holder.state.holds →
        ∀ r ∈ lease.resourceIds, r ∉ holder.resourceIds
  | _ => True

/-! ### Sweeps and grants -/

theorem holds_expireIfDue (now : Nat) (lease : ResourceLease) :
    (lease.expireIfDue now).state.holds = lease.state.holds := by
  rcases expireIfDue_cases now lease with h | ⟨hactive, -, h⟩ <;> rw [h]
  rw [hactive]
  rfl

variable {s s' : State} {lease : ResourceLease}

/-- The candidates of a query are not allocated. -/
theorem notMem_allocated_of_mem_candidates {query : ResourceQuery} {r : Resource}
    (h : r ∈ s.candidates query) : r.identity.id ∉ s.allocated := by
  have hfilter := List.mem_of_mem_take h
  exact fun hmem => by simp [Std.ExtTreeSet.contains_iff_mem.2 hmem] at hfilter

theorem resourceIds_granted (s : State) (request : ResourceRequest) (resources : List Resource) :
    (s.granted request resources).resourceIds = resources.map fun r => r.identity.id := by
  simp [ResourceLease.resourceIds, State.granted, allocate]

/-! ### Exclusive states -/

theorem exclusive_withNextFenceToken (resources : List Resource) (fence : Nat) :
    Exclusive (withNextFenceToken resources fence) where
  allocated h := by simp [withNextFenceToken] at h
  disjoint _ h := by simp [withNextFenceToken] at h

section

variable (hs : Exclusive s)

include hs

/-- An update keeps the ledger exclusive when every holding lease held the same resources before
it and keeps them allocated. -/
theorem Exclusive.of_holders (hold : ∀ n l', s'.leases.get? n = some l' → l'.state.holds →
      ∃ l, s.leases.get? n = some l ∧ l.state.holds ∧ l.resourceIds = l'.resourceIds)
    (halloc : ∀ n l', s'.leases.get? n = some l' → l'.state.holds → ∀ r ∈ l'.resourceIds,
      r ∈ s.allocated → r ∈ s'.allocated) : Exclusive s' where
  allocated {n l'} hn hl' r hr := by
    obtain ⟨l, hl, hholds, hids⟩ := hold n l' hn hl'
    exact halloc n l' hn hl' r hr (hs.allocated hl hholds r (hids ▸ hr))
  disjoint {n m l' k'} hne hn hm hl' hk' r hr hr' := by
    obtain ⟨l, hl, hlholds, hlids⟩ := hold n l' hn hl'
    obtain ⟨k, hk, hkholds, hkids⟩ := hold m k' hm hk'
    exact hs.disjoint hne hl hk hlholds hkholds r (hlids ▸ hr) (hkids ▸ hr')

theorem Exclusive.expireDueLeases (now : Nat) : Exclusive (expireDueLeases now s) := by
  refine hs.of_holders (fun n l' hn hl' => ?_) (fun _ _ _ _ _ _ h => h)
  rw [expireDueLeases_get?, Option.map_eq_some_iff] at hn
  obtain ⟨l, hl, rfl⟩ := hn
  exact ⟨l, hl, by rwa [← holds_expireIfDue now], (resourceIds_expireIfDue now l).symm⟩

/-- Replacing a holding lease by one with the same resources keeps the ledger exclusive. -/
theorem Exclusive.put {lease' : ResourceLease} (hlease : s.leases.get? lease.name = some lease)
    (hholds : lease.state.holds) (hname : lease'.name = lease.name)
    (hids : lease'.resourceIds = lease.resourceIds) : Exclusive (s.put lease') := by
  refine hs.of_holders (fun n l' hn hl' => ?_) (fun _ _ _ _ _ _ h => h)
  rw [put_get?, hname] at hn
  split_ifs at hn with hcase
  · obtain rfl := Option.some.inj hn
    exact ⟨lease, hcase ▸ hlease, hholds, hids.symm⟩
  · exact ⟨l', hn, hl', rfl⟩

/-- A revoked lease holds nothing. -/
theorem Exclusive.revokeLease (lease : ResourceLease) : Exclusive (s.revokeLease lease) := by
  refine hs.of_holders (fun n l' hn hl' => ?_) (fun _ _ _ _ _ _ h => h)
  rw [revokeLease_get?] at hn
  split_ifs at hn
  · obtain rfl := Option.some.inj hn
    simp [State.revoked, LeaseState.holds] at hl'
  · exact ⟨l', hn, hl', rfl⟩

/-- A holding lease that completes its release gives up resources no other lease holds. -/
theorem Exclusive.release (hlease : s.leases.get? lease.name = some lease)
    (hholds : lease.state.holds) :
    Exclusive ((s.free lease).put { lease with state := .released }) := by
  have hcases : ∀ n l', ((s.free lease).put { lease with state := .released }).leases.get? n =
      some l' → l'.state.holds → lease.name ≠ n ∧ s.leases.get? n = some l' := by
    intro n l' hn hl'
    rw [put_get?] at hn
    split_ifs at hn with hname
    · obtain rfl := Option.some.inj hn
      simp [LeaseState.holds] at hl'
    · exact ⟨hname, hn⟩
  refine hs.of_holders (fun n l' hn hl' => ?_) (fun n l' hn hl' r hr halloc => ?_)
  · exact ⟨l', (hcases n l' hn hl').2, hl', rfl⟩
  · obtain ⟨hne, hget⟩ := hcases n l' hn hl'
    have hother : r ∉ lease.resourceIds := fun h =>
      hs.disjoint hne hlease hget hholds hl' r h hr
    simpa [State.put, State.free] using ⟨hother, halloc⟩

/-- Freeing the resources of a lease keeps the ledger exclusive exactly when none is held. -/
theorem Exclusive.free_iff (lease : ResourceLease) :
    Exclusive (s.free lease) ↔ ∀ n holder, s.leases.get? n = some holder → holder.state.holds →
      ∀ r ∈ lease.resourceIds, r ∉ holder.resourceIds := by
  constructor
  · intro hfree n holder hn hholds r hr hr'
    have hmem : r ∈ (s.free lease).allocated := hfree.allocated (n := n) hn hholds r hr'
    simp only [State.free, BTreeSet.mem_eraseList] at hmem
    exact hmem.1 hr
  · intro hspare
    refine hs.of_holders (fun n l' hn hl' => ⟨l', hn, hl', rfl⟩) (fun n l' hn hl' r hr halloc => ?_)
    simp only [State.free, BTreeSet.mem_eraseList]
    exact ⟨fun h => hspare n l' hn hl' r h hr, halloc⟩

end

/-- Granting free resources to a new lease keeps the ledger exclusive. -/
theorem Exclusive.grant (hs : Exclusive s) {request : ResourceRequest} {resources : List Resource}
    (hfree : ∀ r ∈ resources, r.identity.id ∉ s.allocated) :
    Exclusive (s.grant request resources) := by
  have hnotin : ∀ r ∈ (s.granted request resources).resourceIds, r ∉ s.allocated := by
    intro r hr
    rw [resourceIds_granted, List.mem_map] at hr
    obtain ⟨resource, hmem, rfl⟩ := hr
    exact hfree resource hmem
  constructor
  · intro n l hn hl r hr
    rw [grant_get?] at hn
    simp only [State.grant, BTreeSet.mem_insertList]
    split_ifs at hn
    · obtain rfl := Option.some.inj hn
      exact .inl hr
    · exact .inr (hs.allocated hn hl r hr)
  · intro n n' l l' hne hn hn' hl hl' r hr hr'
    rw [grant_get?] at hn hn'
    split_ifs at hn hn' with h h'
    · exact hne (h.symm.trans h')
    · obtain rfl := Option.some.inj hn
      exact hnotin r hr (hs.allocated hn' hl' r hr')
    · obtain rfl := Option.some.inj hn'
      exact hnotin r hr' (hs.allocated hn hl r hr)
    · exact hs.disjoint hne hn hn' hl hl' r hr hr'

/-- Inventory facts do not matter. -/
theorem Exclusive.congr (hs : Exclusive s) (hleases : s'.leases = s.leases)
    (halloc : s'.allocated = s.allocated) : Exclusive s' := by
  refine hs.of_holders (fun n l' hn hl' => ⟨l', hleases ▸ hn, hl', rfl⟩) ?_
  rw [halloc]
  exact fun _ _ _ _ _ _ h => h

/-! ### Calls and runs -/

theorem Exclusive.sweep (hs : Exclusive s) (c : Call) : Exclusive (c.sweep s) := by
  cases c <;> first | exact hs.expireDueLeases _ | exact hs

/-- A successful call that completes no revocation keeps the ledger exclusive. -/
theorem Exclusive.done {c : Call} {r : Reply} (hs : Exclusive s) (hdone : Done s c r s')
    (hc : ∀ n t, c ≠ .completeRevocation n t) : Exclusive s' := by
  cases hdone with
  | acquireLease _ _ _ => exact hs.grant fun _ => notMem_allocated_of_mem_candidates
  | getLease _ => exact hs
  | renewLease h hstate _ => exact hs.put h (by simp [hstate, LeaseState.holds]) rfl rfl
  | beginRelease h hstate =>
    refine hs.put h ?_ rfl rfl
    rcases hstate with hstate | hstate <;> simp [hstate, LeaseState.holds]
  | beginReleaseAgain _ _ => exact hs
  | completeRelease h hstate => exact hs.release h (by simp [hstate, LeaseState.holds])
  | completeReleaseAgain _ _ => exact hs
  | failRelease h hstate =>
    refine hs.put h ?_ rfl rfl
    rcases hstate with hstate | hstate <;> simp [hstate, LeaseState.holds]
  | revoke _ _ => exact hs.revokeLease _
  | completeRevocation _ _ => exact absurd rfl (hc _ _)
  | leases => exact hs
  | refreshInventory | quarantine => exact hs.congr rfl rfl

theorem step_completeRevocation (h : s.leases.get? lease.name = some lease)
    (hstate : lease.state = .revoked) :
    step s (.completeRevocation lease.name lease.fenceToken) = s.free lease := by
  have hexec : (Call.completeRevocation lease.name lease.fenceToken).exec s =
      .ok (.lease lease) (s.free lease) := by
    rw [eq_ok_iff_ensures]
    simp [Call.exec, completeRevocation, fenced, lookup, h, hstate]
  rw [step, hexec, finalState_ok]

/-- In an exclusive state, the calls that keep the ledger exclusive are those that spare the
holders. -/
theorem exclusive_step_iff (hs : Exclusive s) (c : Call) :
    SparesHolders s c ↔ Exclusive (step s c) := by
  by_cases hc : ∃ lease, s.leases.get? lease.name = some lease ∧ lease.state = .revoked ∧
      c = .completeRevocation lease.name lease.fenceToken
  · obtain ⟨lease, hlease, hstate, rfl⟩ := hc
    rw [step_completeRevocation hlease hstate, hs.free_iff]
    refine ⟨fun h => h lease hlease rfl hstate, fun h lease' hlease' _ _ => ?_⟩
    obtain rfl := Option.mem_unique hlease hlease'
    exact h
  · refine iff_of_true ?_ ?_
    · -- Only a completion by the current token of a revoked lease is constrained.
      cases c with
      | completeRevocation n t =>
        intro lease hlease hfence hstate
        have hname : lease.name = n := Index.key_of_get? hlease
        exact absurd ⟨lease, hname ▸ hlease, hstate, by rw [hname, hfence]⟩ hc
      | _ => trivial
    · rcases step_cases s c with hrejected | ⟨r, hdone⟩
      · rw [hrejected]
        exact hs.sweep c
      · refine (hs.sweep c).done hdone fun n t hct => ?_
        subst hct
        generalize step s (.completeRevocation n t) = s' at hdone
        cases hdone with
        | completeRevocation hlease hstate => exact hc ⟨_, hlease, hstate, rfl⟩

/-- **Exclusive allocation.**  From a fresh ledger, every state of a run is exclusive if and only
if no call of the run completes the revocation of a lease whose resources another lease holds. -/
theorem exclusive_run_iff (resources : List Resource) (fence : Nat) (calls : List Call) :
    (∀ pre, pre <+: calls → Exclusive (run step (withNextFenceToken resources fence) pre)) ↔
      Along step SparesHolders (withNextFenceToken resources fence) calls :=
  (along_iff_forall_reached (exclusive_withNextFenceToken resources fence)
    fun _ c hs => exclusive_step_iff hs c).symm

/-! ### A revocation completed twice -/

/-- Lease `a` is revoked and cleaned up, `b` is granted its resource, the cleanup of `a` is
reported again, and `c` is granted the resource `b` still holds. -/
def repeatedRevocation : List Call :=
  [.acquireLease 5 5 (sampleRequest "a"), .revoke 6 "a" 1, .completeRevocation "a" 2,
    .acquireLease 7 7 (sampleRequest "b"), .completeRevocation "a" 2,
    .acquireLease 8 8 (sampleRequest "c")]

/-- The lease is stored, holds and was granted the resource `gpu`. -/
def HoldsGpu (s : State) (n : String) : Prop :=
  (s.leases.get? n).any (fun l => l.state.holds && l.resourceIds == ["gpu"]) = true

theorem HoldsGpu.exists {n : String} (h : HoldsGpu s n) :
    ∃ l, s.leases.get? n = some l ∧ l.state.holds ∧ l.resourceIds = ["gpu"] := by
  obtain ⟨l, hl, hb⟩ := (Option.any_eq_true _ _).1 h
  obtain ⟨hholds, hids⟩ := Bool.and_eq_true_iff.1 hb
  exact ⟨l, hl, hholds, beq_iff_eq.1 hids⟩

/-- After the repeated report the resource of the active lease `b` is not allocated, and then the
active leases `b` and `c` share it. -/
theorem repeatedRevocation_not_exclusive :
    Clocked repeatedRevocation ∧
      ¬ Exclusive (run step (withNextFenceToken [sampleResource "gpu"] 1)
        (repeatedRevocation.take 5)) ∧
      ¬ Exclusive (run step (withNextFenceToken [sampleResource "gpu"] 1) repeatedRevocation) := by
  refine ⟨by decide, fun h => ?_, fun h => ?_⟩
  · have hb : HoldsGpu (run step (withNextFenceToken [sampleResource "gpu"] 1)
        (repeatedRevocation.take 5)) "b" := by
      unfold HoldsGpu
      decide +kernel
    obtain ⟨l, hl, hholds, hids⟩ := hb.exists
    have hmem := h.allocated hl hholds "gpu" (by simp [hids])
    exact absurd hmem (by decide +kernel)
  · have hb : HoldsGpu (run step (withNextFenceToken [sampleResource "gpu"] 1)
        repeatedRevocation) "b" := by
      unfold HoldsGpu
      decide +kernel
    have hc : HoldsGpu (run step (withNextFenceToken [sampleResource "gpu"] 1)
        repeatedRevocation) "c" := by
      unfold HoldsGpu
      decide +kernel
    obtain ⟨l, hl, hholds, hids⟩ := hb.exists
    obtain ⟨l', hl', hholds', hids'⟩ := hc.exists
    exact h.disjoint (by decide) hl hl' hholds hholds' "gpu" (by simp [hids]) (by simp [hids'])

end CyreneKernel.Ledger
