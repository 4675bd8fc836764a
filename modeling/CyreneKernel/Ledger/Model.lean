import CyreneKernel.Contract.Lifecycle
import CyreneKernel.Lib.Outcome

/-!
# The in-memory resource lease manager

The ledger that grants resources to leases.  Ownership is recorded twice: in the set `allocated`
of resource ids, and in the allocation list of each lease, which stays in the ledger for ever.
Every lease carries a fence token; a token is drawn from the counter `nextFenceToken` when a lease
is granted and again when it is revoked.

An operation runs in `EStateM ProviderError State`, so that a rejected call keeps what was written
before the rejection.  The operations that read the clock take its reading as an argument;
`acquireLease` reads it twice.
-/

namespace CyreneKernel

open Lib

namespace Ledger

/-- The state of a lease in the ledger. -/
inductive LeaseState
  | active
  | releasing
  | released
  | expired
  | revoked
  | failed
  | quarantined
deriving DecidableEq

/-- The state of the contract that a ledger state is reported as. -/
def LeaseState.toSemantic : LeaseState → CyreneKernel.LeaseState
  | .active => .active
  | .releasing => .releasing
  | .released => .released
  | .expired => .expired
  | .revoked => .revoked
  | .failed | .quarantined => .failed

structure CgroupLimits where
  cpuMaxMillicores : Option Nat
  memoryMaxBytes : Option Nat
  cpusetCpus : Option String
deriving DecidableEq

structure ResourceRequest where
  leaseName : String
  expectedInventoryGeneration : Nat
  holder : Identity
  query : ResourceQuery
  expiresAtUnixMs : Option Nat
  limits : CgroupLimits

structure ResourceAllocation where
  allocationId : String
  resource : Identity
  grantedCapacity : BTreeMap String Quantity
  enforcement : EnforcementMode
deriving DecidableEq

structure ResourceLease where
  name : String
  generation : Nat
  state : LeaseState
  holder : Identity
  allocations : List ResourceAllocation
  inventoryGeneration : Nat
  fenceToken : Nat
  expiresAtUnixMs : Option Nat
  limits : CgroupLimits
deriving DecidableEq

variable (now : Nat) (s : State) (request : ResourceRequest) (resources : List Resource)
  (lease : ResourceLease) (leaseName : String) (fenceToken : Nat)

/-- The ids of the resources a lease was granted. -/
def ResourceLease.resourceIds : List String :=
  lease.allocations.map fun a => a.resource.id

/-- The state of the ledger.  Resources are stored under their id and leases under their name. -/
structure State where
  generation : Nat
  resources : Index fun r : Resource => r.identity.id
  allocated : BTreeSet String
  quarantined : BTreeSet String
  leases : Index ResourceLease.name
  nextFenceToken : Nat

/-- A fresh ledger with a lower bound for its fence sequence. -/
def withNextFenceToken (nextFenceToken : Nat) : State where
  generation := 1
  resources := .ofList resources
  allocated := ∅
  quarantined := ∅
  leases := .empty
  nextFenceToken := max nextFenceToken 1

/-- An error of the ledger. -/
def error (reasonCode message : String) : ProviderError := ⟨"resource-manager", reasonCode, message⟩

/-! ### The expiry sweep -/

/-- An active lease whose expiry is not in the future. -/
def ResourceLease.isDue : Bool :=
  lease.state == .active && lease.expiresAtUnixMs.any (· ≤ now)

/-- Expire a lease that is due. -/
def ResourceLease.expireIfDue : ResourceLease :=
  if lease.isDue now then { lease with state := .expired } else lease

theorem ResourceLease.name_expireIfDue : (lease.expireIfDue now).name = lease.name := by
  unfold expireIfDue
  split <;> rfl

/-- Every due lease becomes expired. -/
def expireDueLeases : State :=
  { s with leases := s.leases.map (·.expireIfDue now) (ResourceLease.name_expireIfDue now) }

/-! ### Granting and renewing -/

/-- The free, ready resources that match a query, in the order of their ids and at most as many
as the query asks for. -/
def State.candidates (query : ResourceQuery) : List Resource :=
  (s.resources.values.filter fun resource =>
    !s.allocated.contains resource.identity.id &&
      !s.quarantined.contains resource.identity.id &&
      resource.state == .ready && query.matchesResource resource).take query.count

/-- The allocation of a resource to the lease `leaseName`. -/
def allocate (resource : Resource) : ResourceAllocation where
  allocationId := s!"{leaseName}:{resource.identity.id}"
  resource := resource.identity
  grantedCapacity := resource.capacity
  enforcement := .observeOnly

/-- The lease a request is granted in state `s` on the given resources. -/
def State.granted : ResourceLease where
  name := request.leaseName
  generation := 1
  state := .active
  holder := request.holder
  allocations := resources.map (allocate request.leaseName)
  inventoryGeneration := s.generation
  fenceToken := s.nextFenceToken
  expiresAtUnixMs := request.expiresAtUnixMs
  limits := request.limits

/-- The ledger after a request was granted the given resources. -/
def State.grant : State :=
  let lease := s.granted request resources
  { s with
    allocated := BTreeSet.insertList s.allocated lease.resourceIds
    leases := s.leases.insert lease
    nextFenceToken := saturatingAdd s.nextFenceToken 1 }

/-- Reserve the resources of a request, drawing a new fence token. -/
def acquireLease (nowAgain : Nat) (request : ResourceRequest) :
    EStateM ProviderError State ResourceLease := do
  modify (expireDueLeases now)
  let s ← get
  rejectIf (request.expectedInventoryGeneration ≠ s.generation)
    (error "STALE_INVENTORY_GENERATION"
      s!"request={request.expectedInventoryGeneration}, current={s.generation}")
  rejectIf (s.leases.contains request.leaseName) (error "LEASE_ALREADY_EXISTS" request.leaseName)
  liftExcept (fun e => error e.reasonCode e.message) request.query.validate
  rejectIf (request.expiresAtUnixMs.any (· ≤ nowAgain))
    (error "LEASE_EXPIRY_INVALID" "lease expiry must be in the future")
  let candidates := s.candidates request.query
  rejectIf (candidates.length ≠ request.query.count)
    (error "INSUFFICIENT_RESOURCES" "no atomic allocation satisfies the request")
  set (s.grant request candidates)
  return s.granted request candidates

/-- The lease stored under a name. -/
def lookup : EStateM ProviderError State ResourceLease := do
  let s ← get
  okOr (s.leases.get? leaseName) (error "LEASE_NOT_FOUND" leaseName)

/-- The lease stored under a name, when the caller presents its current fence token. -/
def fenced : EStateM ProviderError State ResourceLease := do
  let lease ← lookup leaseName
  rejectIf (lease.fenceToken ≠ fenceToken) (error "STALE_FENCE_TOKEN" leaseName)
  return lease

/-- The ledger after the stored lease of the same name was replaced. -/
def State.put : State :=
  { s with leases := s.leases.insert lease }

/-- Replace the stored lease of the same name. -/
def putLease : EStateM ProviderError State ResourceLease := do
  modify (·.put lease)
  return lease

def getLease : EStateM ProviderError State ResourceLease := do
  modify (expireDueLeases now)
  lookup leaseName

/-- Extend an active lease without changing what it was granted. -/
def renewLease (expiresAtUnixMs : Nat) : EStateM ProviderError State ResourceLease := do
  modify (expireDueLeases now)
  rejectIf (expiresAtUnixMs ≤ now)
    (error "LEASE_EXPIRY_INVALID" "lease renewal expiry must be in the future")
  let lease ← fenced leaseName fenceToken
  rejectIf (lease.state ≠ .active) (error "LEASE_NOT_ACTIVE" leaseName)
  rejectIf (lease.expiresAtUnixMs.any (expiresAtUnixMs ≤ ·))
    (error "LEASE_EXPIRY_REGRESSION" "lease renewal expiry must extend the current expiry")
  putLease { lease with expiresAtUnixMs := some expiresAtUnixMs }

/-! ### Releasing -/

/-- Start a release; a failed cleanup may be retried. -/
def beginRelease : EStateM ProviderError State ResourceLease := do
  modify (expireDueLeases now)
  let lease ← fenced leaseName fenceToken
  match lease.state with
  | .active => putLease { lease with state := .releasing }
  | .failed => putLease { lease with state := .releasing }
  | .releasing | .released => return lease
  | _ => throw (error "LEASE_NOT_ACTIVE" leaseName)

/-- The ledger after the resources of a lease were given up. -/
def State.free : State :=
  { s with allocated := BTreeSet.eraseList s.allocated lease.resourceIds }

/-- Finish a release after the runtime confirmed the cleanup. -/
def completeRelease : EStateM ProviderError State ResourceLease := do
  let lease ← fenced leaseName fenceToken
  if lease.state = .released then
    return lease
  else
    rejectIf (lease.state ≠ .releasing) (error "LEASE_NOT_RELEASING" leaseName)
    modify (·.free lease)
    putLease { lease with state := .released }

/-- Record that the cleanup of a release could not be confirmed. -/
def failRelease : EStateM ProviderError State ResourceLease := do
  let lease ← fenced leaseName fenceToken
  rejectIf (lease.state ≠ .releasing ∧ lease.state ≠ .failed)
    (error "LEASE_NOT_RELEASING" leaseName)
  putLease { lease with state := .failed }

/-! ### Revoking -/

/-- The fence token a revocation of `lease` draws. -/
def State.revokedFence : Nat :=
  max s.nextFenceToken (saturatingAdd lease.fenceToken 1)

/-- The lease as its revocation leaves it. -/
def State.revoked (s : State) (lease : ResourceLease) : ResourceLease :=
  { lease with fenceToken := s.revokedFence lease, state := .revoked }

/-- The ledger after a lease was revoked. -/
def State.revokeLease : State :=
  { s with
    leases := s.leases.insert (s.revoked lease)
    nextFenceToken := saturatingAdd (s.revokedFence lease) 1 }

/-- Remove the authority of a lease; its resources stay allocated. -/
def revoke : EStateM ProviderError State ResourceLease := do
  modify (expireDueLeases now)
  let lease ← fenced leaseName fenceToken
  rejectIf (lease.state ≠ .active ∧ lease.state ≠ .releasing ∧ lease.state ≠ .expired)
    (error "LEASE_NOT_ACTIVE" leaseName)
  let s ← get
  set (s.revokeLease lease)
  return s.revoked lease

/-- Give up the resources of a revoked lease after the runtime confirmed the cleanup. -/
def completeRevocation : EStateM ProviderError State ResourceLease := do
  let lease ← fenced leaseName fenceToken
  rejectIf (lease.state ≠ .revoked) (error "LEASE_NOT_REVOKED" leaseName)
  modify (·.free lease)
  return lease

/-! ### Reading -/

def leases (now : Nat) : EStateM ProviderError State (List ResourceLease) := do
  modify (expireDueLeases now)
  let s ← get
  return s.leases.values

/-- Whether some resource of the lease is allocated, by whichever lease. -/
def State.isAllocated : Bool :=
  (s.leases.get? leaseName).any fun lease => lease.resourceIds.any s.allocated.contains

/-- Whether the inventory has no quarantined resource. -/
def State.ready : Bool := s.quarantined.isEmpty

/-! ### Inventory facts -/

/-- The fact kept for an allocated resource that its provider no longer reports. -/
def retained (previous : Resource) : Resource :=
  { previous with
    state := .unavailable
    reasonCode := "resource-missing-from-provider"
    summary := "retained only until the active lease is released" }

/-- The allocation loop of `refreshInventory`: quarantine an allocated resource that is not ready,
and retain one that is missing from the snapshot. -/
def retainAllocated :
    (Index fun r : Resource => r.identity.id) × BTreeSet String → String →
      (Index fun r : Resource => r.identity.id) × BTreeSet String
  | (resources, quarantined), resourceId =>
    match resources.get? resourceId with
    | some resource =>
      (resources, if resource.state = .ready then quarantined else quarantined.insert resourceId)
    | none =>
      match s.resources.get? resourceId with
      | some previous =>
        (resources.insert (retained previous), quarantined.insert resourceId)
      | none => (resources, quarantined)

/-- Replace the inventory by the facts of an adapter. -/
def refreshInventory (snapshot : InventorySnapshot) : EStateM ProviderError State Unit := do
  let s ← get
  rejectIf (snapshot.generation = 0)
    (error "INVENTORY_GENERATION_INVALID" "adapter inventory generation must be non-zero")
  rejectIf (snapshot.generation < s.generation)
    (error "INVENTORY_GENERATION_REGRESSION"
      s!"incoming={snapshot.generation}, current={s.generation}")
  let incoming := Index.ofList snapshot.resources
  rejectIf (snapshot.generation = s.generation ∧ !s.resources.isEmpty ∧ s.resources ≠ incoming)
    (error "INVENTORY_GENERATION_CONFLICT"
      "adapter changed inventory without advancing generation")
  let (resources, quarantined) :=
    s.allocated.toList.foldl (retainAllocated s) (incoming, s.quarantined)
  let quarantined := resources.values.foldl
    (fun q resource => if resource.state = .ready then q else q.insert resource.identity.id)
    quarantined
  set { s with
    quarantined := quarantined.filter resources.contains
    generation := snapshot.generation
    resources := resources }

/-- The reason code a quarantine records: lower case, with dashes for underscores. -/
def quarantineReason (reasonCode : String) : String :=
  reasonCode.map fun c => if c = '_' then '-' else c.toLower

/-- Exclude a resource from further grants. -/
def quarantine (resourceId reasonCode : String) : EStateM ProviderError State Unit := do
  let s ← get
  let resource ← okOr (s.resources.get? resourceId) (error "RESOURCE_NOT_FOUND" resourceId)
  set { s with
    resources := s.resources.insert { resource with
      state := .unavailable
      reasonCode := quarantineReason reasonCode
      summary := "resource was quarantined by the Kernel authority" }
    quarantined := s.quarantined.insert resourceId }

end Ledger

end CyreneKernel
