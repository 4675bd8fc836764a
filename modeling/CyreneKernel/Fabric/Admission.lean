import CyreneKernel.Contract.Lease

/-!
# Renewals on the wire

The runtime agent keeps a copy of the lease of its assignment and receives renewals as messages.  A
message is decoded, compared with the copy, and accepted when the contract's renewal of the copy is
the lease that it carries.

## Main definitions

* `Fabric.Timestamp`, `Fabric.WireLease`: the messages.
* `Fabric.semanticLeaseToProto`, `Fabric.leaseFromProto`: the two directions of the conversion.
* `Fabric.validateRenewal`.

## Main results

* `Fabric.timestampMs_timestampFromUnixMs`: only instants from the first whole second on survive.
* `Fabric.leaseFromProto_semanticLeaseToProto`.
* `Fabric.roundTrip_iff_expiry`: the valid leases that come back from the wire.
-/

namespace CyreneKernel.Fabric

open Lib

structure FabricContractError where
  reasonCode : String
  message : String
deriving DecidableEq

def contractError (error : ContractError) : FabricContractError where
  reasonCode :=
    if error.reasonCode ∈ ["GENERATION_INVALID", "FENCE_TOKEN_INVALID", "LEASE_EXPIRED",
      "LEASE_NOT_ACTIVE", "LEASE_RENEWAL_INVALID", "FENCE_MISMATCH"] then error.reasonCode
    else "SEMANTIC_CONTRACT_REJECTED"
  message := error.message

/-! ### Messages -/

/-- A Protobuf timestamp: 64-bit seconds and 32-bit nanoseconds, both signed. -/
structure Timestamp where
  seconds : Int
  nanos : Int
deriving DecidableEq

/-- A lease as a message; the number of a state is not checked on the wire. -/
structure WireLease where
  identity : Option Identity
  holder : Option Identity
  resources : List Identity
  state : Int
  fenceToken : Nat
  expiresAt : Option Timestamp
deriving DecidableEq

def i64Max : Nat := 2 ^ 63 - 1

def i32Max : Nat := 2 ^ 31 - 1

def timestampFromUnixMs (unixMs : Nat) : Timestamp where
  seconds := if unixMs / 1000 ≤ i64Max then (unixMs / 1000 : Nat) else (i64Max : Int)
  nanos := if unixMs % 1000 * 1000000 ≤ i32Max then (unixMs % 1000 * 1000000 : Nat) else 0

def timestampMs : Option Timestamp → Except FabricContractError (Option Nat)
  | none => .ok none
  | some timestamp => do
    failIf (timestamp.seconds ≤ 0 ∨ timestamp.nanos < 0 ∨ timestamp.nanos.tmod 1000000 ≠ 0)
      ⟨"TIMESTAMP_INVALID", "timestamp must be a positive exact Unix millisecond"⟩
    let millis := timestamp.seconds.toNat * 1000 + (timestamp.nanos.tdiv 1000000).toNat
    failIf (millis > u64Max) ⟨"TIMESTAMP_INVALID", "timestamp is out of range"⟩
    return some millis

/-- The numbers of the states on the wire. -/
def leaseStateNumber : LeaseState → Int
  | .active => 1
  | .releasing => 2
  | .released => 3
  | .expired => 4
  | .revoked => 5
  | .failed => 6

def leaseStateFromNumber (number : Int) : Option LeaseState :=
  [LeaseState.active, .releasing, .released, .expired, .revoked, .failed].find?
    (leaseStateNumber · = number)

def semanticLeaseToProto (lease : Lease) : WireLease where
  identity := some lease.identity
  holder := some lease.holder
  resources := lease.resources
  state := leaseStateNumber lease.state
  fenceToken := lease.fenceToken
  expiresAt := lease.expiresAtUnixMs.map timestampFromUnixMs

def validateIdentity (identity : Option Identity) (name : String) :
    Except FabricContractError Identity := do
  let identity ← foundOr identity ⟨"REQUIRED_FIELD_MISSING", s!"{name} identity is required"⟩
  identity.validate.mapError contractError
  return identity

def leaseFromProto (lease : Option WireLease) : Except FabricContractError Lease := do
  let lease ← foundOr lease ⟨"REQUIRED_FIELD_MISSING", "Lease is required"⟩
  let state ← foundOr (leaseStateFromNumber lease.state)
    ⟨"UNKNOWN_ENUM_VALUE", "Lease state is invalid"⟩
  let identity ← validateIdentity lease.identity "Lease"
  let holder ← validateIdentity lease.holder "Lease holder"
  let resources ← lease.resources.mapM fun resource =>
    validateIdentity (some resource) "Lease resource"
  let expiresAtUnixMs ← timestampMs lease.expiresAt
  return ⟨identity, holder, resources, state, lease.fenceToken, expiresAtUnixMs⟩

def semanticLeaseFromProto (lease : WireLease) : Except FabricContractError Lease := do
  let lease ← leaseFromProto (some lease)
  lease.validate.mapError contractError
  return lease

def validateRenewal (previous : Lease) (renewed : WireLease) (nowUnixMs : Nat) :
    Except FabricContractError Lease := do
  let renewed ← leaseFromProto (some renewed)
  failIf (renewed.identity ≠ previous.identity ∨ renewed.holder ≠ previous.holder ∨
      renewed.resources ≠ previous.resources ∨ renewed.fenceToken ≠ previous.fenceToken)
    ⟨"LEASE_RENEWAL_INVALID", "renewal changed immutable Lease authority"⟩
  let expected ← (previous.renewLease renewed.fenceToken (renewed.expiresAtUnixMs.getD 0)
    nowUnixMs).mapError contractError
  failIf (renewed ≠ expected)
    ⟨"LEASE_RENEWAL_INVALID", "renewed Lease does not match the canonical transition"⟩
  return renewed

/-! ### What survives the wire -/

/-- A timestamp comes back when it lies in the range of its type, from the first whole second on. -/
theorem timestampMs_timestampFromUnixMs {unixMs : Nat} {result : Option Nat} :
    timestampMs (some (timestampFromUnixMs unixMs)) = .ok result ↔
      (1000 ≤ unixMs ∧ unixMs ≤ u64Max) ∧ result = some unixMs := by
  have hnanos : (timestampFromUnixMs unixMs).nanos = (unixMs % 1000 : Nat) * 1000000 := by
    have hsmall : unixMs % 1000 * 1000000 ≤ i32Max := by
      unfold i32Max
      omega
    exact (if_pos hsmall).trans (Int.natCast_mul _ _)
  have hseconds : (timestampFromUnixMs unixMs).seconds = (min (unixMs / 1000) i64Max : Nat) := by
    rw [timestampFromUnixMs]
    split
    · next h => rw [Nat.min_eq_left h]
    · next h => rw [Nat.min_eq_right (Nat.le_of_not_le h)]
  simp only [timestampMs, except_bind_eq_ok, failIf_eq_ok, exists_const, except_pure_eq_ok, hnanos,
    hseconds, Int.mul_tmod_left, Int.mul_tdiv_cancel _ (by decide : (1000000 : Int) ≠ 0), ne_eq,
    not_true_eq_false, or_false, Int.toNat_natCast, Nat.not_lt, gt_iff_lt, not_or]
  unfold i64Max u64Max
  constructor
  · rintro ⟨⟨hpositive, -⟩, hrange, rfl⟩
    exact ⟨by omega, congrArg some (by omega)⟩
  · rintro ⟨⟨hpositive, hrange⟩, rfl⟩
    exact ⟨by omega, by omega, congrArg some (by omega)⟩

theorem leaseStateFromNumber_leaseStateNumber (state : LeaseState) :
    leaseStateFromNumber (leaseStateNumber state) = some state := by
  cases state <;> rfl

theorem validateIdentity_eq_ok {identity result : Identity} {name : String} :
    validateIdentity (some identity) name = .ok result ↔
      identity.validate = .ok () ∧ result = identity := by
  simp only [validateIdentity, except_bind_eq_ok, foundOr_eq_ok, except_pure_eq_ok, mapError_eq_ok,
    Option.some.injEq, exists_eq_left', exists_unit, eq_comm (a := result)]

/-- A lease with an expiry comes back unchanged, when its identities are valid and its expiry
survives. -/
theorem leaseFromProto_semanticLeaseToProto {lease result : Lease} {expiresAtUnixMs : Nat}
    (hexpiry : lease.expiresAtUnixMs = some expiresAtUnixMs) :
    leaseFromProto (some (semanticLeaseToProto lease)) = .ok result ↔
      (lease.identity.validate = .ok () ∧ lease.holder.validate = .ok () ∧
        (∀ resource ∈ lease.resources, resource.validate = .ok ()) ∧
        1000 ≤ expiresAtUnixMs ∧ expiresAtUnixMs ≤ u64Max) ∧ result = lease := by
  have hresources : ∀ resources, lease.resources.mapM
      (fun resource => validateIdentity (some resource) "Lease resource") = .ok resources ↔
      (∀ resource ∈ lease.resources, resource.validate = .ok ()) ∧ resources = lease.resources :=
    fun _ => mapM_eq_ok_iff fun _ _ => validateIdentity_eq_ok
  simp only [leaseFromProto, semanticLeaseToProto, except_bind_eq_ok, foundOr_eq_ok,
    Option.some.injEq, exists_eq_left', leaseStateFromNumber_leaseStateNumber,
    validateIdentity_eq_ok, hresources, hexpiry, Option.map_some, timestampMs_timestampFromUnixMs,
    except_pure_eq_ok]
  constructor
  · rintro ⟨_, ⟨hidentity, rfl⟩, _, ⟨hholder, rfl⟩, _, ⟨hresources, rfl⟩, _, ⟨hrange, rfl⟩, rfl⟩
    refine ⟨⟨hidentity, hholder, hresources, hrange⟩, ?_⟩
    rw [← hexpiry]
  · rintro ⟨⟨hidentity, hholder, hresources, hrange⟩, rfl⟩
    refine ⟨_, ⟨hidentity, rfl⟩, _, ⟨hholder, rfl⟩, _, ⟨hresources, rfl⟩, _, ⟨hrange, rfl⟩, ?_⟩
    rw [← hexpiry]

/-- A valid lease comes back from the wire exactly if it does not expire in the first second, since
a timestamp with zero seconds is not decoded. -/
theorem roundTrip_iff_expiry {lease : Lease} (hvalid : lease.validate = .ok ()) :
    leaseFromProto (some (semanticLeaseToProto lease)) = .ok lease ↔
      ∀ expiry, lease.expiresAtUnixMs = some expiry → 1000 ≤ expiry := by
  obtain ⟨current, hcurrent, hmax⟩ := Lease.expiry_of_validate hvalid
  obtain ⟨hidentity, hholder, hresources⟩ := Lease.identities_of_validate hvalid
  rw [leaseFromProto_semanticLeaseToProto hcurrent, hcurrent]
  constructor
  · rintro ⟨⟨-, -, -, hsecond, -⟩, -⟩ _ ⟨⟩
    exact hsecond
  · intro h
    have hrange : current ≤ u64Max := Nat.le_trans hmax (by decide)
    exact ⟨⟨hidentity, hholder, hresources, h current rfl, hrange⟩, rfl⟩

/-- A lease of one resource. -/
def leaseUntil (expiry : Nat) : Lease :=
  ⟨⟨"lease", 1⟩, ⟨"worker", 1⟩, [⟨"gpu", 1⟩], .active, 1, some expiry⟩

theorem roundTrip_leaseUntil :
    leaseFromProto (some (semanticLeaseToProto (leaseUntil 1000))) = .ok (leaseUntil 1000) :=
  (roundTrip_iff_expiry (by decide +kernel)).2 (by rintro _ ⟨⟩; decide)

theorem not_roundTrip_leaseUntil :
    (leaseUntil 999).validate = .ok () ∧
      leaseFromProto (some (semanticLeaseToProto (leaseUntil 999))) =
        .error ⟨"TIMESTAMP_INVALID", "timestamp must be a positive exact Unix millisecond"⟩ := by
  decide +kernel

end CyreneKernel.Fabric
