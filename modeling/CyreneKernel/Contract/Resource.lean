import CyreneKernel.Contract.Validation

/-!
# Resources, capabilities and queries

The facts a provider publishes about a resource, the bounded, vendor-neutral query a lease request
is compiled into, and what a hardware adapter makes available to a worker: the device nodes of a
resource with the environment that names them.
-/

namespace CyreneKernel

open Lib

structure Capability where
  id : String
  revision : Nat
  properties : BTreeMap String String
deriving DecidableEq

def Capability.validate (capability : Capability) : Except ContractError Unit := do
  validateNamespacedId "capability id" capability.id
  if capability.revision = 0 then
    throw ⟨"CAPABILITY_REVISION_INVALID", "capability revision must be non-zero"⟩
  validateProperties capability.properties

structure CapabilityRequirement where
  id : String
  minimumRevision : Nat
  requiredProperties : BTreeMap String String
deriving DecidableEq

namespace CapabilityRequirement

def matchesCapability (requirement : CapabilityRequirement) (capability : Capability) : Bool :=
  requirement.id == capability.id &&
    requirement.minimumRevision ≤ capability.revision &&
    requirement.requiredProperties.toList.all fun (key, value) =>
      capability.properties[key]? == some value

def validate (requirement : CapabilityRequirement) : Except ContractError Unit := do
  validateNamespacedId "capability requirement id" requirement.id
  if requirement.minimumRevision = 0 then
    throw ⟨"CAPABILITY_REVISION_INVALID", "minimum capability revision must be non-zero"⟩
  validateProperties requirement.requiredProperties

end CapabilityRequirement

structure Quantity where
  value : Nat
  unit : String
deriving DecidableEq

namespace Quantity

def satisfies (quantity minimum : Quantity) : Bool :=
  quantity.unit == minimum.unit && minimum.value ≤ quantity.value

def validate (quantity : Quantity) : Except ContractError Unit :=
  validateNamespacedId "quantity unit" quantity.unit

end Quantity

/-- The loop shared by the validators of capability lists: every element is validated, and an
element whose id occurred before is refused. -/
def validateDistinct {α : Type} (idOf : α → String) (validate : α → Except ContractError Unit)
    (duplicate : ContractError) : List α → BTreeSet String → Except ContractError Unit
  | [], _ => .ok ()
  | a :: rest, ids => do
    validate a
    if idOf a ∈ ids then throw duplicate
    validateDistinct idOf validate duplicate rest (ids.insert (idOf a))

def validateCapabilities (capabilities : List Capability) : Except ContractError Unit := do
  if capabilities.length > maxCapabilities then
    throw ⟨"CAPABILITY_LIMIT_EXCEEDED", "object has too many capabilities"⟩
  validateDistinct Capability.id Capability.validate
    ⟨"CAPABILITY_DUPLICATE", "object contains a duplicate capability id"⟩ capabilities ∅

/-- Validate a bounded map of named quantities. -/
def validateQuantities (field : String) (tooMany : ContractError)
    (quantities : BTreeMap String Quantity) : Except ContractError Unit := do
  if quantities.size > maxProperties then throw tooMany
  quantities.toList.forM fun (key, quantity) => do
    validateNamespacedId field key
    quantity.validate

inductive ProviderState
  | ready
  | degraded
  | unavailable
deriving DecidableEq

structure Provider where
  identity : Identity
  state : ProviderState
  capabilities : List Capability
deriving DecidableEq

def Provider.validate (provider : Provider) : Except ContractError Unit := do
  provider.identity.validate
  validateCapabilities provider.capabilities

inductive ResourceState
  | ready
  | degraded
  | unavailable
deriving DecidableEq

structure TopologyLink where
  peer : Identity
  kind : String
  properties : BTreeMap String String
deriving DecidableEq

def TopologyLink.validate (link : TopologyLink) : Except ContractError Unit := do
  link.peer.validate
  validateNamespacedId "topology kind" link.kind
  validateProperties link.properties

structure Resource where
  identity : Identity
  provider : Identity
  resourceClass : String
  capabilities : List Capability
  capacity : BTreeMap String Quantity
  attributes : BTreeMap String String
  state : ResourceState
  reasonCode : String
  summary : String
  links : List TopologyLink
deriving DecidableEq

namespace Resource

/-- The link loop of `Resource.validate`; `seen` holds the peers and kinds met so far. -/
def validateLinks (self : Identity) :
    List TopologyLink → List (Identity × String) → Except ContractError Unit
  | [], _ => .ok ()
  | link :: rest, seen => do
    link.validate
    if link.peer = self then
      throw ⟨"TOPOLOGY_SELF_LINK", "resource topology cannot link to itself"⟩
    if (link.peer, link.kind) ∈ seen then
      throw ⟨"TOPOLOGY_LINK_DUPLICATE", "resource contains a duplicate topology link"⟩
    validateLinks self rest ((link.peer, link.kind) :: seen)

def validate (resource : Resource) : Except ContractError Unit := do
  resource.identity.validate
  resource.provider.validate
  validateNamespacedId "resource class" resource.resourceClass
  validateCapabilities resource.capabilities
  validateQuantities "capacity key"
    ⟨"CAPACITY_LIMIT_EXCEEDED", "resource capacity has too many entries"⟩ resource.capacity
  validateProperties resource.attributes
  validateNamespacedId "resource reason code" resource.reasonCode
  validateText "resource summary" resource.summary maxIdBytes
  if resource.links.length > maxProperties then
    throw ⟨"TOPOLOGY_LIMIT_EXCEEDED", "resource has too many topology links"⟩
  validateLinks resource.identity resource.links []

end Resource

structure ResourceQuery where
  resourceClass : String
  count : Nat
  requiredCapabilities : List CapabilityRequirement
  minimumCapacity : BTreeMap String Quantity
deriving DecidableEq

namespace ResourceQuery

def matchesResource (query : ResourceQuery) (resource : Resource) : Bool :=
  query.resourceClass == resource.resourceClass &&
    (query.requiredCapabilities.all fun requirement =>
      resource.capabilities.any fun capability => requirement.matchesCapability capability) &&
    query.minimumCapacity.toList.all fun (key, minimum) =>
      (resource.capacity[key]?).any fun actual => actual.satisfies minimum

def validate (query : ResourceQuery) : Except ContractError Unit := do
  validateNamespacedId "resource class" query.resourceClass
  if query.count = 0 then
    throw ⟨"RESOURCE_COUNT_INVALID", "resource query count must be non-zero"⟩
  if query.count > maxResourcesPerLease then
    throw ⟨"RESOURCE_COUNT_LIMIT_EXCEEDED", "resource query count exceeds the per-lease limit"⟩
  if query.requiredCapabilities.length > maxCapabilities then
    throw ⟨"CAPABILITY_LIMIT_EXCEEDED", "resource query has too many capability requirements"⟩
  validateDistinct CapabilityRequirement.id CapabilityRequirement.validate
    ⟨"CAPABILITY_REQUIREMENT_DUPLICATE",
      "resource query contains a duplicate capability requirement"⟩
    query.requiredCapabilities ∅
  validateQuantities "capacity key"
    ⟨"CAPACITY_LIMIT_EXCEEDED", "resource query has too many capacity requirements"⟩
    query.minimumCapacity

end ResourceQuery

/-! ### Adapter facts -/

/-- A failure reported by an adapter or by the ledger. -/
structure ProviderError where
  adapterId : String
  reasonCode : String
  message : String
deriving DecidableEq

inductive EnforcementMode
  | hard
  | soft
  | visibilityOnly
  | observeOnly
  | unenforced
deriving DecidableEq

/-- The inventory facts of an adapter that the ledger reads. -/
structure InventorySnapshot where
  generation : Nat
  resources : List Resource

/-! ### Device bindings -/

structure DeviceNode where
  path : String
  major : Option (BitVec 32)
  minor : Option (BitVec 32)
  required : Bool
deriving DecidableEq

structure DeviceBinding where
  resourceId : String
  nodes : List DeviceNode
  environment : BTreeMap String String
  joinableEnvironmentKeys : BTreeSet String
  requiredGids : List Nat
  enforcement : EnforcementMode
  adapterId : String
  reasonCode : String

/-- The environment of a worker: the variables of the adapter are added, and cannot be asked for. -/
def DeviceBinding.mergeEnvironment (binding : DeviceBinding) (requested : BTreeMap String String) :
    Except ProviderError (BTreeMap String String) :=
  if requested.keys.any fun key => binding.environment.contains key then
    .error ⟨binding.adapterId, "RESERVED_ENVIRONMENT",
      "plugin attempted to override an Adapter-owned device variable"⟩
  else
    .ok (binding.environment.foldl (fun merged key value => merged.insert key value) requested)

end CyreneKernel
