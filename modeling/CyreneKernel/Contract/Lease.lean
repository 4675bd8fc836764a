import CyreneKernel.Contract.Lifecycle
import CyreneKernel.Lib.Checks

/-!
# Renewing a lease of the semantic contract

A lease of the contract has a finite expiry, a non-zero fence token and a bounded set of resources.
A holder of its current fence token may extend it while it is active and has not expired.

## Main definitions

* `Lease.validate`, `Lease.renewLease`.

## Main results

* `Lease.renewLease_eq_ok`: the renewals that are accepted, and what they return.
* `Lease.identities_of_validate`: the identities of a valid lease are valid.
-/

namespace CyreneKernel

open Lib

namespace Lease

/-- The loop of `validate` over the resources; `seen` are those before. -/
def validateResources (seen : List Identity) : List Identity → Except ContractError Unit
  | [] => .ok ()
  | resource :: rest => do
    resource.validate
    failIf (resource ∈ seen)
      ⟨"LEASE_RESOURCE_DUPLICATE", "lease contains a duplicate resource identity"⟩
    validateResources (resource :: seen) rest

def validate (lease : Lease) : Except ContractError Unit := do
  lease.identity.validate
  lease.holder.validate
  failIf (lease.resources.isEmpty ∨ lease.resources.length > maxResourcesPerLease)
    ⟨"LEASE_RESOURCE_LIMIT_INVALID", "lease must contain a bounded, non-empty resource set"⟩
  validateResources [] lease.resources
  failIf (lease.fenceToken = 0) ⟨"FENCE_TOKEN_INVALID", "lease fence token must be non-zero"⟩
  let expiresAt ← foundOr lease.expiresAtUnixMs
    ⟨"LEASE_EXPIRY_REQUIRED", "v1 leases must have a finite expiry"⟩
  validateTimestamp "lease expiry" expiresAt

def renewLease (lease : Lease) (fenceToken expiresAtUnixMs nowUnixMs : Nat) :
    Except ContractError Lease := do
  lease.validate
  failIf (lease.state ≠ .active) ⟨"LEASE_NOT_ACTIVE", "only an active lease can be renewed"⟩
  let currentExpiry ← foundOr lease.expiresAtUnixMs
    ⟨"LEASE_EXPIRY_REQUIRED", "v1 leases must have a finite expiry"⟩
  failIf (nowUnixMs ≥ currentExpiry) ⟨"LEASE_EXPIRED", "an expired lease cannot be renewed"⟩
  failIf (fenceToken ≠ lease.fenceToken)
    ⟨"FENCE_MISMATCH", "lease renewal fence does not match current authority"⟩
  validateTimestamp "lease renewal expiry" expiresAtUnixMs
  failIf (expiresAtUnixMs ≤ currentExpiry)
    ⟨"LEASE_RENEWAL_INVALID", "lease renewal must strictly extend the finite expiry"⟩
  return { lease with expiresAtUnixMs := some expiresAtUnixMs }

end Lease

theorem validateTimestamp_eq_ok {field : String} {unixMs : Nat} {u : Unit} :
    validateTimestamp field unixMs = .ok u ↔ 0 < unixMs ∧ unixMs ≤ maxTimestampUnixMs := by
  unfold validateTimestamp
  split
  · next h =>
    simp only [Bool.or_eq_true, beq_iff_eq, decide_eq_true_eq] at h
    simp only [reduceCtorEq, false_iff, not_and]
    omega
  · next h =>
    simp only [Bool.or_eq_true, beq_iff_eq, decide_eq_true_eq] at h
    simp only [true_iff]
    omega

theorem Lease.renewLease_eq_ok {lease renewed : Lease} {fenceToken expiresAtUnixMs now : Nat} :
    lease.renewLease fenceToken expiresAtUnixMs now = .ok renewed ↔
      lease.validate = .ok () ∧ lease.state = .active ∧ fenceToken = lease.fenceToken ∧
        (∃ current, lease.expiresAtUnixMs = some current ∧ now < current ∧
          current < expiresAtUnixMs) ∧
        expiresAtUnixMs ≤ maxTimestampUnixMs ∧
        renewed = { lease with expiresAtUnixMs := some expiresAtUnixMs } := by
  simp only [Lease.renewLease, except_bind_eq_ok, failIf_eq_ok, foundOr_eq_ok,
    validateTimestamp_eq_ok, except_pure_eq_ok, exists_const, ne_eq, not_not, ge_iff_le,
    Nat.not_le]
  constructor
  · rintro ⟨_, hvalid, hactive, current, hcurrent, hnow, hfence, ⟨-, hmax⟩, hextends, rfl⟩
    exact ⟨hvalid, hactive, hfence, ⟨current, hcurrent, hnow, hextends⟩, hmax, rfl⟩
  · rintro ⟨hvalid, hactive, hfence, ⟨current, hcurrent, hnow, hextends⟩, hmax, rfl⟩
    exact ⟨(), hvalid, hactive, current, hcurrent, hnow, hfence, ⟨by omega, hmax⟩, hextends, rfl⟩

theorem Lease.validateResources_eq_ok {seen resources : List Identity}
    (h : validateResources seen resources = .ok ()) {resource : Identity}
    (hmem : resource ∈ resources) : resource.validate = .ok () := by
  induction resources generalizing seen with
  | nil => exact absurd hmem List.not_mem_nil
  | cons first rest ih =>
    simp only [validateResources, except_bind_eq_ok] at h
    obtain ⟨_, hfirst, _, -, hrest⟩ := h
    rcases List.mem_cons.1 hmem with rfl | hmem
    · exact hfirst
    · exact ih hrest hmem

/-- A valid lease has an expiry in range. -/
theorem Lease.expiry_of_validate {lease : Lease} (h : lease.validate = .ok ()) :
    ∃ current, lease.expiresAtUnixMs = some current ∧ current ≤ maxTimestampUnixMs := by
  simp only [validate, except_bind_eq_ok, foundOr_eq_ok, validateTimestamp_eq_ok] at h
  obtain ⟨_, -, _, -, _, -, _, -, _, -, current, hcurrent, -, hmax⟩ := h
  exact ⟨current, hcurrent, hmax⟩

/-- The identities of a valid lease are valid. -/
theorem Lease.identities_of_validate {lease : Lease} (h : lease.validate = .ok ()) :
    lease.identity.validate = .ok () ∧ lease.holder.validate = .ok () ∧
      ∀ resource ∈ lease.resources, resource.validate = .ok () := by
  simp only [validate, except_bind_eq_ok] at h
  obtain ⟨_, hidentity, _, hholder, _, -, _, hresources, -⟩ := h
  exact ⟨hidentity, hholder, fun _ => validateResources_eq_ok hresources⟩

end CyreneKernel
