import CyreneKernel.Fabric.Projection

/-!
# The payload of an assignment

The check of an assignment that the control plane makes before it asks for a lease, and the runtime
agent again when it receives the assignment.

## Main definitions

* `WireAssignment`: the message.
* `validateAssignmentPayload`: the check of everything but the lease.
* `validateAssignment`: the check with the lease.

## Main results

* `transferAccepted_of_mem`: what is known of a transfer of an accepted assignment.
-/

namespace CyreneKernel.Fabric

open Lib

/-! ### Messages -/

structure RuntimeRef where
  identity : Option Identity
deriving DecidableEq

structure WireWorkloadIdentity where
  identity : Option Identity
  runtime : Option RuntimeRef
  expiresAt : Option Timestamp
deriving DecidableEq

structure RuntimeProfile where
  imageDigest : String
  resolvedDigest : String
deriving DecidableEq

structure WireAssignment where
  assignmentId : String
  runtime : Option RuntimeRef
  operation : Option Identity
  attemptId : String
  lease : Option WireLease
  workloadIdentity : Option WireWorkloadIdentity
  profile : Option RuntimeProfile
  desiredState : Int
  artifacts : List ArtifactTransferSpec
  localArtifacts : List ArtifactLocalInput
deriving DecidableEq

/-- The number of a running state. -/
def desiredRunning : Int := 1

/-- The paths of the wire. -/
inductive WireTransferPath
  | unspecified
  | lanDirect
  | userProvidedObjectStore
deriving DecidableEq

def WireTransferPath.fromNumber (number : Int) : Option WireTransferPath :=
  if number = 0 then some .unspecified
  else if number = 1 then some .lanDirect
  else if number = 2 then some .userProvidedObjectStore
  else none

/-! ### The check -/

def runtimeIdentity (runtime : Option RuntimeRef) : Except FabricContractError Identity := do
  let runtime ← foundOr runtime ⟨"REQUIRED_FIELD_MISSING", "Runtime identity is required"⟩
  validateIdentity runtime.identity "Runtime"

def validateSha256 (value name : String) : Except FabricContractError Unit :=
  failIf (isDigest value = false)
    ⟨"DIGEST_INVALID", name ++ " must be a lowercase SHA-256 digest"⟩

/-- The digest of an input, which no input before has. -/
def claimDigest (digest name : String) (digests : BTreeSet String) :
    Except FabricContractError (BTreeSet String) := do
  validateSha256 digest name
  failIf (digest ∈ digests) ⟨"ARTIFACT_ASSIGNMENT_DUPLICATE",
    "assignment contains a duplicate Artifact digest: " ++ digest⟩
  return digests.insert digest

/-- The URI of an artifact is the one of its digest. -/
def IsCanonicalUri (uri digest : String) : Prop :=
  bytesOf uri = bytesOf "artifact://sha256/" ++ (bytesOf digest).drop 7

instance (uri digest : String) : Decidable (IsCanonicalUri uri digest) :=
  inferInstanceAs (Decidable (_ = _))

def checkManifestDigest (manifestDigest name : String) : Except FabricContractError Unit :=
  if manifestDigest = "" then .ok () else validateSha256 manifestDigest name

variable (expectedRuntime : Identity) (nowUnixMs : Nat) (digests : BTreeSet String)

def checkSourcePath (source : ArtifactTransferSource) : Except FabricContractError Unit := do
  let path ← foundOr (WireTransferPath.fromNumber source.path) ⟨"ARTIFACT_TRANSFER_PATH_INVALID",
    "Artifact source path is unknown; control Relay is not a bulk Artifact route"⟩
  failIf (path = .unspecified) ⟨"ARTIFACT_TRANSFER_PATH_UNSPECIFIED",
    "Artifact source must name LAN_DIRECT or USER_PROVIDED_OBJECT_STORE; " ++
    "control Relay is not a bulk Artifact route"⟩
  failIf (path = .userProvidedObjectStore ∧ source.locatorExpiresAtUnixMs ≤ nowUnixMs)
    ⟨"OBJECT_STORE_LOCATOR_EXPIRED", "user-provided object-store URL must have a future expiry"⟩

/-- A source of which everything is there. -/
def ArtifactTransferSource.IsComplete (source : ArtifactTransferSource) : Prop :=
  source.peerId ≠ "" ∧ source.replicaId ≠ "" ∧
    "https://".toList.isPrefixOf source.locator.toList = true ∧ source.transferTicket ≠ ""

instance (source : ArtifactTransferSource) : Decidable source.IsComplete :=
  inferInstanceAs (Decidable (_ ∧ _))

/-- The indices of the routes, in their order. -/
def routedParts (routes : List ArtifactPartSource) : List Nat :=
  (BTreeSet.insertList ∅ (routes.map (·.partIndex))).toList

def checkTransferRoutes (artifact : ArtifactTransferSpec) : Except FabricContractError Unit := do
  failIf (artifact.destinationPeerId = "" ∨
      artifact.partSources.length ≠ artifact.partDigests.length ∨
      ∃ source ∈ artifact.sources, ¬ source.IsComplete) ⟨"ARTIFACT_TRANSFER_PLAN_INVALID",
    "source Peers, destination Peer, tickets, and per-part routes are required"⟩
  failIf (routedParts artifact.partSources ≠ List.range artifact.partDigests.length)
    ⟨"ARTIFACT_PART_ROUTING_INVALID", "every Artifact part must have exactly one source route"⟩

/-- The check of a transfer; it returns the digests up to this one. -/
def checkTransfer (artifact : ArtifactTransferSpec) :
    Except FabricContractError (BTreeSet String) := do
  let digests ← claimDigest artifact.digest "Artifact digest" digests
  failIf (¬ IsCanonicalUri artifact.artifactUri artifact.digest ∨ artifact.sizeBytes = 0 ∨
      artifact.partSizeBytes = 0) ⟨"ARTIFACT_TRANSFER_INVALID",
    "Artifact transfer identity, size, and part size are required"⟩
  failIf (artifact.sources = []) ⟨"LAN_DIRECT_UNAVAILABLE_USER_OBJECT_STORE_REQUIRED",
    "no reachable direct source or user-provided object-store candidate is available; " ++
    "supply an active, short-lived pre-signed HTTPS URL from user-owned object storage; " ++
    "Artifact bytes are never sent through the control Relay"⟩
  checkManifestDigest artifact.manifestDigest "Artifact manifest digest"
  let _ ← artifactKindFromProto artifact.artifactKind
  artifact.sources.forM (checkSourcePath nowUnixMs)
  checkTransferRoutes artifact
  return digests

def checkLocalInput (artifact : ArtifactLocalInput) :
    Except FabricContractError (BTreeSet String) := do
  let digests ← claimDigest artifact.digest "local Artifact digest" digests
  failIf (¬ IsCanonicalUri artifact.artifactUri artifact.digest)
    ⟨"ARTIFACT_LOCAL_IDENTITY_INVALID", "local Artifact URI must match its canonical digest"⟩
  let _ ← artifactKindFromProto artifact.artifactKind
  checkManifestDigest artifact.manifestDigest "local Artifact manifest digest"
  return digests

/-- The runtime of an assignment is the one that is expected. -/
def checkRuntime (runtime : Identity) : Except FabricContractError Unit := do
  failIf (runtime.id ≠ expectedRuntime.id ∨ runtime.generation < expectedRuntime.generation)
    ⟨"STALE_GENERATION", "assignment Runtime generation is stale or belongs to another Runtime"⟩
  failIf (runtime ≠ expectedRuntime)
    ⟨"GENERATION_MISMATCH", "assignment Runtime generation does not match this Agent"⟩

def checkWorkloadIdentity (runtime : Identity) (nowUnixMs : Nat)
    (identity : WireWorkloadIdentity) : Except FabricContractError Unit := do
  let _ ← validateIdentity identity.identity "workload identity"
  let identityRuntime ← runtimeIdentity identity.runtime
  failIf (identityRuntime ≠ runtime) ⟨"WORKLOAD_IDENTITY_SCOPE_MISMATCH",
    "workload identity is scoped to another Runtime generation"⟩
  let expiry ← timestampMs identity.expiresAt
  failIf (expiry.all (· ≤ nowUnixMs))
    ⟨"WORKLOAD_IDENTITY_EXPIRED", "workload identity is expired"⟩

def validateAssignmentPayload (assignment : WireAssignment) (nowUnixMs : Nat) :
    Except FabricContractError Identity := do
  failIf (assignment.assignmentId = "" ∨ assignment.attemptId = "")
    ⟨"REQUIRED_FIELD_MISSING", "assignment and Attempt identities are required"⟩
  let runtime ← runtimeIdentity assignment.runtime
  checkRuntime expectedRuntime runtime
  let _ ← validateIdentity assignment.operation "operation"
  failIf (assignment.desiredState ≠ desiredRunning)
    ⟨"DESIRED_STATE_INVALID", "a new Assignment must desire RUNNING"⟩
  let identity ← foundOr assignment.workloadIdentity
    ⟨"REQUIRED_FIELD_MISSING", "workload identity is required"⟩
  checkWorkloadIdentity runtime nowUnixMs identity
  let profile ← foundOr assignment.profile
    ⟨"REQUIRED_FIELD_MISSING", "Runtime profile is required"⟩
  validateSha256 profile.imageDigest "image digest"
  validateSha256 profile.resolvedDigest "resolved runtime digest"
  let digests ← assignment.artifacts.foldlM (checkTransfer nowUnixMs) ∅
  let _ ← assignment.localArtifacts.foldlM checkLocalInput digests
  return runtime

def validateAssignment (assignment : WireAssignment) (nowUnixMs : Nat) :
    Except FabricContractError Lease := do
  let runtime ← validateAssignmentPayload expectedRuntime assignment nowUnixMs
  let lease ← leaseFromProto assignment.lease
  lease.validate.mapError contractError
  failIf (lease.state ≠ .active) ⟨"LEASE_NOT_ACTIVE", "assignment Lease is not active"⟩
  failIf (lease.holder ≠ runtime)
    ⟨"LEASE_HOLDER_MISMATCH", "assignment Lease holder is not the Runtime generation"⟩
  failIf (lease.expiresAtUnixMs.all (· ≤ nowUnixMs))
    ⟨"LEASE_EXPIRED", "assignment Lease has expired"⟩
  return lease

/-! ### What is known of an accepted transfer -/

/-- What the check of a transfer says about it. -/
structure TransferAccepted (nowUnixMs : Nat) (spec : ArtifactTransferSpec) : Prop where
  digest : isDigest spec.digest = true
  sizes : spec.sizeBytes ≠ 0 ∧ spec.partSizeBytes ≠ 0
  kind : ArtifactKind.new spec.artifactKind = .ok ⟨spec.artifactKind⟩
  sources : spec.sources ≠ []
  paths : ∀ source ∈ spec.sources, checkSourcePath nowUnixMs source = .ok ()
  complete : ∀ source ∈ spec.sources, source.IsComplete
  destination : spec.destinationPeerId ≠ ""
  routes : spec.partSources.length = spec.partDigests.length

theorem transferAccepted_of_checkTransfer {nowUnixMs : Nat} {digests digests' : BTreeSet String}
    {spec : ArtifactTransferSpec} (h : checkTransfer nowUnixMs digests spec = .ok digests') :
    TransferAccepted nowUnixMs spec := by
  simp only [checkTransfer, claimDigest, validateSha256, checkTransferRoutes, artifactKindFromProto,
    except_bind_eq_ok, failIf_eq_ok, mapError_eq_ok, not_or, not_not, not_exists, not_and] at h
  obtain ⟨_, ⟨_, hdigest, -⟩, _, ⟨-, hsize, hpartSize⟩, _, hsources, _, -, kind, hkind, _, hpaths,
    _, ⟨_, ⟨hdestination, hroutes, hcomplete⟩, -⟩, -⟩ := h
  rw [Bool.not_eq_false] at hdigest
  have hname := ArtifactKind.new_eq_ok hkind
  exact ⟨hdigest, ⟨hsize, hpartSize⟩, hname ▸ hkind, hsources, forM_eq_ok.1 hpaths,
    hcomplete, hdestination, hroutes⟩

/-- Every transfer of an accepted assignment was checked. -/
theorem transferAccepted_of_mem {expectedRuntime runtime : Identity} {assignment : WireAssignment}
    {nowUnixMs : Nat} {spec : ArtifactTransferSpec}
    (h : validateAssignmentPayload expectedRuntime assignment nowUnixMs = .ok runtime)
    (hspec : spec ∈ assignment.artifacts) : TransferAccepted nowUnixMs spec := by
  simp only [validateAssignmentPayload, except_bind_eq_ok] at h
  obtain ⟨_, -, _, -, _, -, _, -, _, -, _, -, _, -, _, -, _, -, _, -, _, hartifacts, -⟩ := h
  obtain ⟨digests, digests', hchecked⟩ := exists_of_mem_foldlM hartifacts hspec
  exact transferAccepted_of_checkTransfer hchecked

end CyreneKernel.Fabric
