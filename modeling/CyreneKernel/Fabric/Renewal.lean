import CyreneKernel.Fabric.Admission
import CyreneKernel.Authority.Model
import CyreneKernel.Ledger.Calls

/-!
# Three renewals of one lease

The ledger of the kernel, the semantic contract and the runtime agent each decide a renewal.  All
three ask for an active, current lease, its fence token and a later expiry.  The ledger asks for
nothing else.  The contract also validates the lease and the range of the new expiry.  The agent
decides by the contract, on the lease that it decoded.

## Main definitions

* `managerRenewal`, `contractRenewal`, `agentRenewal`: the expiry after a renewal that is accepted.

## Main results

* `renewals_eq`: the agent decides as the contract, and the contract decides as the ledger on valid
  leases and expiries in range.
* `renewals_differ`: the ledger takes an expiry beyond that range.
-/

namespace CyreneKernel.Fabric

open Lib
open Ledger (ResourceLease)

/-- The expiry after the ledger renewed the lease of a name. -/
def managerRenewal (s : Ledger.State) (leaseName : String) (now fenceToken expiresAtUnixMs : Nat) :
    Option (Option Nat) :=
  (value? (Ledger.renewLease now leaseName fenceToken expiresAtUnixMs s)).map (·.expiresAtUnixMs)

/-- The expiry after the contract renewed a lease. -/
def contractRenewal (lease : Lease) (now fenceToken expiresAtUnixMs : Nat) : Option (Option Nat) :=
  (lease.renewLease fenceToken expiresAtUnixMs now).toOption.map (·.expiresAtUnixMs)

/-- The message that carries a renewal of a lease. -/
def renewalToProto (lease : Lease) (fenceToken expiresAtUnixMs : Nat) : WireLease :=
  semanticLeaseToProto { lease with
    fenceToken := fenceToken
    expiresAtUnixMs := some expiresAtUnixMs }

/-- The expiry after the agent accepted the message that renews its copy of a lease. -/
def agentRenewal (lease : Lease) (now fenceToken expiresAtUnixMs : Nat) : Option (Option Nat) :=
  (validateRenewal lease (renewalToProto lease fenceToken expiresAtUnixMs) now).toOption.map
    (·.expiresAtUnixMs)

variable {lease renewed : Lease} {now fenceToken expiresAtUnixMs : Nat}

/-! ### The agent and the contract -/

theorem validateRenewal_eq_ok :
    validateRenewal lease (renewalToProto lease fenceToken expiresAtUnixMs) now = .ok renewed ↔
      1000 ≤ expiresAtUnixMs ∧ lease.renewLease fenceToken expiresAtUnixMs now = .ok renewed := by
  have hdecoded : ∀ result,
      leaseFromProto (some (renewalToProto lease fenceToken expiresAtUnixMs)) = .ok result ↔ _ :=
    fun _ => leaseFromProto_semanticLeaseToProto rfl
  simp only [validateRenewal, except_bind_eq_ok, failIf_eq_ok, exists_const, mapError_eq_ok,
    except_pure_eq_ok, hdecoded]
  constructor
  · rintro ⟨_, ⟨⟨-, -, -, hrange⟩, rfl⟩, -, expected, hexpected, hsame, rfl⟩
    rw [not_not.1 hsame]
    exact ⟨hrange.1, hexpected⟩
  · rintro ⟨hrange, hrenewed⟩
    obtain ⟨hvalid, -, rfl, -, hmax, rfl⟩ := Lease.renewLease_eq_ok.1 hrenewed
    obtain ⟨hidentity, hholder, hresources⟩ := Lease.identities_of_validate hvalid
    have hmax : expiresAtUnixMs ≤ u64Max := by
      unfold maxTimestampUnixMs at hmax
      unfold u64Max
      omega
    exact ⟨_, ⟨⟨hidentity, hholder, hresources, hrange, hmax⟩, rfl⟩, by simp, _, hrenewed,
      fun h => h rfl, rfl⟩

theorem agentRenewal_eq (h : 1000 ≤ expiresAtUnixMs) :
    agentRenewal lease now fenceToken expiresAtUnixMs =
      contractRenewal lease now fenceToken expiresAtUnixMs := by
  unfold agentRenewal contractRenewal
  rw [toOption_congr fun _ => validateRenewal_eq_ok.trans (and_iff_right h)]

/-! ### The contract and the ledger -/

section Ledger

variable {s : Ledger.State} {lease : ResourceLease}

/-- The renewals of a stored lease that the ledger accepts. -/
def Renewable (lease : ResourceLease) (now fenceToken expiresAtUnixMs : Nat) : Prop :=
  lease.state = .active ∧ fenceToken = lease.fenceToken ∧ now < expiresAtUnixMs ∧
    ∀ current, lease.expiresAtUnixMs = some current → now < current ∧ current < expiresAtUnixMs

instance : Decidable (Renewable lease now fenceToken expiresAtUnixMs) :=
  inferInstanceAs (Decidable (_ ∧ _ ∧ _ ∧ ∀ current, _ = some current → _))

/-- The sweep before a renewal lets only the current lease stay active. -/
theorem state_expireIfDue_eq_active :
    (lease.expireIfDue now).state = .active ↔
      lease.state = .active ∧ ∀ current, lease.expiresAtUnixMs = some current → now < current := by
  unfold ResourceLease.expireIfDue
  split
  · next hdue =>
    rw [ResourceLease.isDue, Bool.and_eq_true, beq_iff_eq] at hdue
    obtain ⟨current, hcurrent, hle⟩ := (Option.any_eq_true _ _).1 hdue.2
    refine iff_of_false (by simp) fun h => ?_
    exact absurd (h.2 current hcurrent) (Nat.not_lt.2 (of_decide_eq_true hle))
  · next hcurrent =>
    rw [ResourceLease.isDue, Bool.and_eq_true, beq_iff_eq, not_and] at hcurrent
    refine ⟨fun hactive => ⟨hactive, fun current hexpiry => ?_⟩, fun h => h.1⟩
    have hlater := hcurrent hactive
    rw [hexpiry, Option.any_some, decide_eq_true_eq] at hlater
    exact Nat.not_le.1 hlater

theorem expiresAtUnixMs_expireIfDue :
    (lease.expireIfDue now).expiresAtUnixMs = lease.expiresAtUnixMs := by
  unfold ResourceLease.expireIfDue
  split <;> rfl

/-- The ledger accepts the renewable requests, and stores the new expiry. -/
theorem ensures_renewLease (hstored : s.leases.get? lease.name = some lease) :
    Ensures (Ledger.renewLease now lease.name fenceToken expiresAtUnixMs) s
      (fun renewed _ => Renewable lease now fenceToken expiresAtUnixMs ∧
        renewed.expiresAtUnixMs = some expiresAtUnixMs)
      (fun _ _ => ¬ Renewable lease now fenceToken expiresAtUnixMs) := by
  simp only [Ledger.renewLease, Ledger.fenced, Ledger.lookup, Ledger.putLease, ensures_bind,
    ensures_modify, ensures_rejectIf, ensures_get, ensures_okOr, ensures_pure,
    Ledger.expireDueLeases_get?, hstored, Option.map_some, Option.some.injEq, forall_eq',
    reduceCtorEq, false_implies, true_and, expiresAtUnixMs_expireIfDue,
    Ledger.fenceToken_expireIfDue, and_true]
  -- one case for each check of the ledger
  refine ⟨fun hpast h => absurd h.2.2.1 (Nat.not_lt.2 hpast), fun hfuture => ?_⟩
  refine ⟨fun hstale h => hstale h.2.1.symm, fun hfence => ?_⟩
  refine ⟨fun hinactive h => hinactive ?_, fun hactive => ?_⟩
  · exact state_expireIfDue_eq_active.2 ⟨h.1, fun current hexpiry => (h.2.2.2 current hexpiry).1⟩
  refine ⟨fun hregression h => ?_, fun hextends => ?_⟩
  · obtain ⟨current, hcurrent, hle⟩ := (Option.any_eq_true _ _).1 hregression
    exact absurd (h.2.2.2 current hcurrent).2 (Nat.not_lt.2 (of_decide_eq_true hle))
  · obtain ⟨hstate, hcurrent⟩ := state_expireIfDue_eq_active.1 (not_not.1 hactive)
    refine ⟨hstate, (not_not.1 hfence).symm, Nat.not_le.1 hfuture, fun current hexpiry => ?_⟩
    rw [hexpiry, Option.any_some, decide_eq_true_eq] at hextends
    exact ⟨hcurrent current hexpiry, Nat.not_le.1 hextends⟩

theorem managerRenewal_eq (hstored : s.leases.get? lease.name = some lease) :
    managerRenewal s lease.name now fenceToken expiresAtUnixMs =
      if Renewable lease now fenceToken expiresAtUnixMs then some (some expiresAtUnixMs)
      else none := by
  have houtcome : Ensures (Ledger.renewLease now lease.name fenceToken expiresAtUnixMs) s _ _ :=
    ensures_renewLease hstored
  unfold managerRenewal
  unfold Ensures at houtcome
  cases hresult : Ledger.renewLease now lease.name fenceToken expiresAtUnixMs s with
  | ok renewed s' =>
    rw [hresult] at houtcome
    rw [if_pos houtcome.1, value?_ok, Option.map_some, houtcome.2]
  | error e s' =>
    rw [hresult] at houtcome
    rw [if_neg houtcome]
    rfl

theorem state_semanticLease_eq_active (object : ObjectRef) (lease : ResourceLease) :
    (semanticLease object lease).state = .active ↔ lease.state = .active := by
  unfold semanticLease Ledger.LeaseState.toSemantic
  cases lease.state <;> simp

theorem contractRenewal_eq (object : ObjectRef)
    (hstored : s.leases.get? lease.name = some lease) :
    contractRenewal (semanticLease object lease) now fenceToken expiresAtUnixMs =
      if (semanticLease object lease).validate = .ok () ∧ expiresAtUnixMs ≤ maxTimestampUnixMs then
        managerRenewal s lease.name now fenceToken expiresAtUnixMs
      else none := by
  unfold contractRenewal
  rw [managerRenewal_eq hstored]
  by_cases hchecks : (semanticLease object lease).validate = .ok () ∧
      expiresAtUnixMs ≤ maxTimestampUnixMs
  · obtain ⟨hvalid, hmax⟩ := id hchecks
    obtain ⟨current, hcurrent, -⟩ := Lease.expiry_of_validate hvalid
    rw [if_pos hchecks]
    by_cases hrenewable : Renewable lease now fenceToken expiresAtUnixMs
    · obtain ⟨hstate, hfence, -, hlater⟩ := id hrenewable
      have hrenewed := Lease.renewLease_eq_ok.2 ⟨hvalid,
        (state_semanticLease_eq_active object lease).2 hstate, hfence,
        ⟨current, hcurrent, hlater current hcurrent⟩, hmax, rfl⟩
      rw [if_pos hrenewable, hrenewed]
      rfl
    · rw [if_neg hrenewable, toOption_eq_none fun _ hok => hrenewable ?_]
      · rfl
      obtain ⟨-, hstate, hfence, ⟨expiry, hexpiry, hnow, hlater⟩, -⟩ := Lease.renewLease_eq_ok.1 hok
      refine ⟨(state_semanticLease_eq_active object lease).1 hstate, hfence, by omega, ?_⟩
      intro other hother
      obtain rfl : expiry = other := Option.mem_unique hexpiry hother
      exact ⟨hnow, hlater⟩
  · rw [if_neg hchecks, toOption_eq_none fun _ hok => hchecks ?_]
    · rfl
    obtain ⟨hvalid, -, -, -, hmax, -⟩ := Lease.renewLease_eq_ok.1 hok
    exact ⟨hvalid, hmax⟩

/-- For a stored lease and the lease of the contract that it is seen as, the agent decides as the
contract on every expiry that it can decode, and the contract decides as the ledger on valid leases
and expiries in range.  It rejects what is outside of these. -/
theorem renewals_eq (s : Ledger.State) (lease : ResourceLease)
    (hstored : s.leases.get? lease.name = some lease) (object : ObjectRef)
    (now fenceToken expiresAtUnixMs : Nat) :
    (1000 ≤ expiresAtUnixMs →
      agentRenewal (semanticLease object lease) now fenceToken expiresAtUnixMs =
        contractRenewal (semanticLease object lease) now fenceToken expiresAtUnixMs) ∧
    (contractRenewal (semanticLease object lease) now fenceToken expiresAtUnixMs =
      if (semanticLease object lease).validate = .ok () ∧ expiresAtUnixMs ≤ maxTimestampUnixMs then
        managerRenewal s lease.name now fenceToken expiresAtUnixMs
      else none) :=
  ⟨fun h => agentRenewal_eq h, contractRenewal_eq object hstored⟩

end Ledger

/-! ### A sample lease -/

/-- A request for one accelerator until half a second after the epoch. -/
def sampleGrant : Ledger.ResourceRequest :=
  { Ledger.sampleRequest "lease" with expiresAtUnixMs := some 500 }

/-- The lease that the request is granted. -/
def grantedLease : ResourceLease :=
  (Ledger.withNextFenceToken [Ledger.sampleResource "gpu"] 1).granted sampleGrant
    [Ledger.sampleResource "gpu"]

/-- The ledger that granted it. -/
def grantedLedger : Ledger.State :=
  (Ledger.withNextFenceToken [Ledger.sampleResource "gpu"] 1).grant sampleGrant
    [Ledger.sampleResource "gpu"]

/-- The lease as the contract sees it. -/
def grantedView : Lease := semanticLease ⟨default, ⟨"lease", 1⟩⟩ grantedLease

theorem get?_grantedLedger : grantedLedger.leases.get? grantedLease.name = some grantedLease :=
  (Ledger.grant_get? _ _ _ _).trans (if_pos rfl)

/-- The ledger accepts an expiry that is out of range for the contract and the agent. -/
theorem renewals_differ :
    managerRenewal grantedLedger grantedLease.name 100 1 (maxTimestampUnixMs + 1) =
        some (some (maxTimestampUnixMs + 1)) ∧
      contractRenewal grantedView 100 1 (maxTimestampUnixMs + 1) = none ∧
      agentRenewal grantedView 100 1 (maxTimestampUnixMs + 1) = none := by
  decide +kernel

theorem renewals_eq_grantedLease :
    grantedView.validate = .ok () ∧
      agentRenewal grantedView 100 1 5000 = some (some 5000) ∧
      contractRenewal grantedView 100 1 5000 = some (some 5000) ∧
      managerRenewal grantedLedger grantedLease.name 100 1 5000 = some (some 5000) := by
  have hvalid : grantedView.validate = .ok () := by decide +kernel
  have hmanager : managerRenewal grantedLedger grantedLease.name 100 1 5000 = some (some 5000) := by
    decide +kernel
  obtain ⟨hagent, hcontract⟩ :=
    renewals_eq grantedLedger grantedLease get?_grantedLedger ⟨default, ⟨"lease", 1⟩⟩ 100 1 5000
  exact ⟨hvalid, (hagent (by decide)).trans hcontract, hcontract, hmanager⟩

end CyreneKernel.Fabric
