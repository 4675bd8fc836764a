import CyreneKernel.Authority.Workers

/-!
# Endpoint actions

A worker publishes endpoints while it holds an active lease, and its principal grants them to
other lease holders.  Publishing a newer generation of an endpoint replaces the older ones and
drops the grants on them.
-/

namespace CyreneKernel

open Lib

namespace Authority

variable (env : Environment)

variable (context : AuthorityCallContext) (principal : Principal)

/-- The worker that owns an endpoint, as the kernel manages it. -/
def endpointOwner (owner : Identity) (unknown : String) : Action Worker := do
  let name ← workerInstanceName context owner
  let s ← get
  let worker := (s.instances[name]?).bind (·.semanticWorker)
  okOr (worker.filter (·.identity = owner)) ⟨"ENDPOINT_OWNER_UNKNOWN", unknown⟩

def activeOwnerUnknown : String :=
  "endpoint owner is not an active managed Worker incarnation"

/-- Whether a newer generation of the endpoint is stored in the namespace. -/
def isStaleEndpoint (s : Core) (ns : NamespaceId) (endpoint : Endpoint) : Bool :=
  s.endpoints.toList.any fun entry =>
    entry.1.ns = ns && entry.2.identity.id = endpoint.identity.id &&
      endpoint.identity.generation < entry.2.identity.generation

/-- The objects after a publication: older generations of the endpoint are gone from its
namespace, and so are the grants on them. -/
def publish (ns : NamespaceId) (endpoint : Endpoint) (s : Core) : Core :=
  { s with
    endpoints := (s.endpoints.filter fun object current =>
      object.ns ≠ ns ∨ current.identity.id ≠ endpoint.identity.id ∨
        endpoint.identity.generation ≤ current.identity.generation).insert
          ⟨ns, endpoint.identity⟩ endpoint
    endpointGrants := s.endpointGrants.filter fun object grant =>
      object.ns ≠ ns ∨ grant.endpoint.id ≠ endpoint.identity.id ∨
        grant.endpoint = endpoint.identity }

/-- Publish an endpoint of a worker that holds an active lease. -/
def publishEndpoint (endpoint : Endpoint) : Action Endpoint := do
  validateContext context
  requireNamespaceOwner context principal
  let owner ← endpointOwner context endpoint.owner activeOwnerUnknown
  rejectIf (owner.principal ≠ principal.identity)
    ⟨"AUTHORITY_DENIED", "only the Worker owner Principal may publish an Endpoint"⟩
  let ownerLease ← leaseFor env context owner.lease
  let lapsed ← isLapsed env ownerLease
  rejectIf (ownerLease.generation ≠ owner.lease.generation ∨ ownerLease.holder ≠ owner.identity ∨
      ownerLease.state ≠ .active ∨ lapsed)
    ⟨"LEASE_NOT_ACTIVE", "endpoint owner no longer has an active Lease incarnation"⟩
  let s ← get
  rejectIf (isStaleEndpoint s.toCore context.ns endpoint)
    ⟨"STALE_GENERATION", "endpoint identity generation is stale"⟩
  set { s with toCore := publish context.ns endpoint s.toCore }
  return endpoint

/-- Grant an endpoint to the holder of an active lease, until the lease expires at the latest. -/
def authorizeEndpoint (grant : EndpointGrant) : Action EndpointGrant := do
  validateContext context
  requireNamespaceOwner context principal
  let s ← get
  let stored := s.endpoints[context.objectRef grant.endpoint]?
  let endpoint ← okOr (stored.filter (·.identity = grant.endpoint))
    ⟨"ENDPOINT_NOT_FOUND", "endpoint grant targets an unpublished endpoint"⟩
  let owner ← endpointOwner context endpoint.owner activeOwnerUnknown
  rejectIf (owner.principal ≠ principal.identity)
    ⟨"AUTHORITY_DENIED", "only the Worker owner Principal may authorize an Endpoint grant"⟩
  let lease ← leaseFor env context grant.lease
  rejectIf (lease.generation ≠ grant.lease.generation)
    ⟨"LEASE_GENERATION_STALE", "endpoint grant lease generation is stale"⟩
  rejectIf (lease.fenceToken ≠ grant.fenceToken)
    ⟨"STALE_FENCE_TOKEN", "endpoint grant lease fence token is stale"⟩
  let lapsed ← isLapsed env lease
  rejectIf (lease.state ≠ .active ∨ lease.holder ≠ grant.grantee ∨ lapsed)
    ⟨"LEASE_NOT_ACTIVE", "endpoint grant grantee does not hold an active lease"⟩
  let now ← ask env.now
  rejectIf (grant.expiresAtUnixMs ≤ now ∨ lease.expiresAtUnixMs.any (· < grant.expiresAtUnixMs))
    ⟨"ENDPOINT_GRANT_EXPIRY_INVALID",
      "endpoint grant expiry must be active and bounded by its lease"⟩
  modify fun s => { s with
    endpointGrants := s.endpointGrants.insert (context.objectRef grant.identity) grant }
  return grant

/-- Revoke a grant; one that is gone already is no error. -/
def revokeEndpoint (grant : Identity) : Action Unit := do
  validateContext context
  requireNamespaceOwner context principal
  let s ← get
  if let some stored := s.endpointGrants[context.objectRef grant]? then
    let published := s.endpoints[context.objectRef stored.endpoint]?
    let endpoint ← okOr (published.filter (·.identity = stored.endpoint))
      ⟨"ENDPOINT_OWNER_UNKNOWN", "endpoint grant no longer has an active endpoint owner"⟩
    let owner ← endpointOwner context endpoint.owner
      "endpoint grant owner is not an active managed Worker incarnation"
    rejectIf (owner.principal ≠ principal.identity)
      ⟨"AUTHORITY_DENIED", "only the Worker owner Principal may revoke an Endpoint grant"⟩
  modify fun s => { s with endpointGrants := s.endpointGrants.erase (context.objectRef grant) }

end Authority

end CyreneKernel
