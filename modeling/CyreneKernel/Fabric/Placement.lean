import CyreneKernel.Contract.Artifact
import CyreneKernel.Contract.Snapshot
import CyreneKernel.Control.Intent
import CyreneKernel.Fabric.Admission
import CyreneKernel.Lib.Collect
import CyreneKernel.Lib.Sorting

/-!
# Placement

A placement request names the capabilities, resources, policies and artifacts of an execution.  Each
candidate node is evaluated against it: every condition that the candidate fails leaves a reason,
and a candidate without reasons gets a score.  The evaluations are sorted by their scores.

The artifacts that a request names are quoted by every candidate: they are on the node, or can be
transferred to it for a time and at a cost.  A loop over the artifacts sums up the quotes.
-/

namespace CyreneKernel.Fabric

open Lib
open Control (NodeRef)
open Std (TransOrd TransCmp)

/-! ### Requests and candidates -/

inductive ExecutionAttachmentType
  | unspecified
  | hostAgent
  | containerAgent
  | providerManaged
deriving DecidableEq

namespace ExecutionAttachmentType

def number : ExecutionAttachmentType → Nat
  | unspecified => 0
  | hostAgent => 1
  | containerAgent => 2
  | providerManaged => 3

instance : Ord ExecutionAttachmentType := ⟨compareOn number⟩

instance : TransOrd ExecutionAttachmentType := inferInstanceAs (TransCmp (compareOn number))

def asStrName : ExecutionAttachmentType → String
  | unspecified => "EXECUTION_ATTACHMENT_TYPE_UNSPECIFIED"
  | hostAgent => "EXECUTION_ATTACHMENT_TYPE_HOST_AGENT"
  | containerAgent => "EXECUTION_ATTACHMENT_TYPE_CONTAINER_AGENT"
  | providerManaged => "EXECUTION_ATTACHMENT_TYPE_PROVIDER_MANAGED"

end ExecutionAttachmentType

inductive RestartCapability
  | unspecified
  | none
  | hostSupervised
  | providerSupervised
deriving DecidableEq

def RestartCapability.asStrName : RestartCapability → String
  | .unspecified => "RESTART_CAPABILITY_UNSPECIFIED"
  | .none => "RESTART_CAPABILITY_NONE"
  | .hostSupervised => "RESTART_CAPABILITY_HOST_SUPERVISED"
  | .providerSupervised => "RESTART_CAPABILITY_PROVIDER_SUPERVISED"

inductive NodeLifecycleState
  | unspecified
  | online
  | offline
  | lost
  | terminated
deriving DecidableEq

structure PlacementPolicy where
  allowedResidencies : BTreeSet String
  requiredTrustDomain : Option String
  requiredClassifications : BTreeSet String
  requiredPolicyTags : BTreeSet String
  maximumTotalCostMicrounits : Option Nat

structure NetworkRequirements where
  outboundHttps : Bool
  inboundAvailable : Bool
  peerTransfer : Bool
deriving DecidableEq

structure ExecutionPlacementRequest where
  capabilityRequirements : List CapabilityRequirement
  resourceQuery : ResourceQuery
  allowedAttachments : BTreeSet ExecutionAttachmentType
  persistent : Option Bool
  restartCapability : Option RestartCapability
  checkpointResume : Bool
  network : NetworkRequirements
  artifacts : List ArtifactRef
  artifactPolicyScope : String
  policy : PlacementPolicy
  latestStartUnixMs : Option Nat
  nowUnixMs : Nat

structure ArtifactTransferQuote where
  bytesToTransfer : Nat
  estimatedTransferMillis : Nat
  costMicrounits : Nat
  sourceCount : Nat
  authorizationValidUntilUnixMs : Nat
deriving DecidableEq

inductive ArtifactAvailability
  | verifiedLocal (inventoryGeneration : Nat)
  | authorizedTransfer (transfer : ArtifactTransferQuote)
deriving DecidableEq

/-- What a candidate needs for an artifact.  The end of its validity is a 64-bit value. -/
structure ArtifactPlacementQuote where
  quoteId : String
  artifact : ArtifactRef
  destinationPeerId : String
  policyScope : String
  observedAtUnixMs : Nat
  validUntilUnixMs : Nat
  availability : ArtifactAvailability
  validUntil_le : validUntilUnixMs ≤ u64Max
deriving DecidableEq

structure ExecutionTargetCandidate where
  node : NodeRef
  lifecycleState : NodeLifecycleState
  attachment : ExecutionAttachmentType
  persistent : Bool
  restartCapability : RestartCapability
  capabilities : List Capability
  provider : Provider
  providerSnapshot : ProviderSnapshot
  residency : String
  trustDomain : String
  classifications : BTreeSet String
  policyTags : BTreeSet String
  artifactDestinationPeerId : String
  artifactQuotes : List ArtifactPlacementQuote
  executionCostMicrounits : Nat
  availableAtUnixMs : Nat
  reliabilityScore : Nat

structure PlacementReason where
  reasonCode : String
  message : String
deriving DecidableEq

structure ResourceMatchEvidence where
  provider : Identity
  snapshotGeneration : Nat
  matchedResources : List Identity
  requiredCount : Nat
deriving DecidableEq

structure PlacementScore where
  localArtifactBytes : Nat
  transferBytes : Nat
  estimatedTransferMillis : Nat
  totalCostMicrounits : Nat
  estimatedReadyAtUnixMs : Nat
  reliabilityScore : Nat
deriving DecidableEq

structure CandidateEvaluation where
  node : NodeRef
  eligible : Bool
  reasons : List PlacementReason
  resourceMatch : Option ResourceMatchEvidence
  score : Option PlacementScore
deriving DecidableEq

structure PlacementDecision where
  selectedNode : Option NodeRef
  evaluations : List CandidateEvaluation
deriving DecidableEq

/-! ### Validity of a request -/

/-- The loop over the capability requirements, with the ids of those before. -/
def validateRequirements : List CapabilityRequirement → BTreeSet String →
    Except FabricContractError Unit
  | [], _ => .ok ()
  | requirement :: rest, ids => do
    failIf (requirement.validate.isOk = false ∨ requirement.id ∈ ids)
      ⟨"CAPABILITY_REQUIREMENT_INVALID",
        "capability requirements need unique identities and non-zero revisions"⟩
    validateRequirements rest (ids.insert requirement.id)

/-- The loop over the artifacts, with the digests of those before. -/
def validateArtifacts : List ArtifactRef → BTreeSet String → Except FabricContractError Unit
  | [], _ => .ok ()
  | artifact :: rest, digests => do
    artifact.validate.mapError (⟨"ARTIFACT_REQUIREMENT_INVALID", ·⟩)
    failIf (artifact.digest ∈ digests)
      ⟨"ARTIFACT_REQUIREMENT_DUPLICATE", "placement request contains a duplicate Artifact identity"⟩
    validateArtifacts rest (digests.insert artifact.digest)

variable (request : ExecutionPlacementRequest) (candidate : ExecutionTargetCandidate)
  (tally : ArtifactTally)

/-- The checks of a request, before any candidate is looked at. -/
def validateRequest : Except FabricContractError Unit := do
  failIf (request.nowUnixMs = 0)
    ⟨"PLACEMENT_TIME_REQUIRED", "placement requires an explicit current timestamp"⟩
  failIf (request.latestStartUnixMs.any (· < request.nowUnixMs))
    ⟨"PLACEMENT_DEADLINE_EXPIRED", "latest start time is earlier than the placement timestamp"⟩
  validateRequirements request.capabilityRequirements ∅
  request.resourceQuery.validate.mapError fun error =>
    ⟨"RESOURCE_QUERY_INVALID", error.reasonCode ++ ": " ++ error.message⟩
  failIf (.unspecified ∈ request.allowedAttachments ∨
      request.restartCapability = some .unspecified)
    ⟨"LIFECYCLE_REQUIREMENT_INVALID",
      "unspecified lifecycle values cannot be placement requirements"⟩
  failIf (request.policy.requiredTrustDomain = some "" ∨ "" ∈ request.policy.allowedResidencies ∨
      "" ∈ request.policy.requiredClassifications ∨ "" ∈ request.policy.requiredPolicyTags)
    ⟨"PLACEMENT_POLICY_INVALID", "placement policy values must be non-empty"⟩
  validateArtifacts request.artifacts ∅
  failIf (request.artifacts ≠ [] ∧ request.artifactPolicyScope = "")
    ⟨"ARTIFACT_POLICY_SCOPE_REQUIRED",
      "Artifact placement requires an explicit Artifact Plane policy scope"⟩

/-! ### Conditions of a candidate -/

/-- A reason, when `p` holds. -/
def reasonIf (p : Prop) [Decidable p] (reasonCode message : String) : List PlacementReason :=
  if p then [⟨reasonCode, message⟩] else []

def validateCandidateIdentity : List PlacementReason :=
  reasonIf (candidate.node.nodeId = "" ∨ candidate.node.nodeEpoch = 0)
    "NODE_IDENTITY_INVALID" "candidate requires a NodeId and positive Node epoch" ++
  reasonIf (candidate.residency = "" ∨ candidate.trustDomain = "")
    "EXECUTION_POLICY_FACTS_INVALID"
    "candidate execution residency and trust domain are required" ++
  reasonIf (candidate.availableAtUnixMs = 0)
    "AVAILABILITY_INVALID" "candidate availability timestamp is required" ++
  reasonIf (candidate.lifecycleState ≠ .online) "NODE_NOT_ONLINE" "candidate Node is not online" ++
  reasonIf (candidate.attachment = .unspecified ∨ candidate.restartCapability = .unspecified)
    "NODE_LIFECYCLE_INVALID" "candidate lifecycle facts must be explicit" ++
  reasonIf (request.allowedAttachments.isEmpty = false ∧
      candidate.attachment ∉ request.allowedAttachments)
    "ATTACHMENT_NOT_ALLOWED" "candidate attachment type is not allowed" ++
  reasonIf (request.persistent.any (· ≠ candidate.persistent))
    "PERSISTENCE_REQUIREMENT_UNSATISFIED" "candidate persistence does not satisfy the request" ++
  reasonIf (request.restartCapability.any (· ≠ candidate.restartCapability))
    "RESTART_REQUIREMENT_UNSATISFIED"
    "candidate restart capability does not satisfy the request" ++
  reasonIf (candidate.provider.validate.isOk = false ∨
      candidate.providerSnapshot.validate.isOk = false ∨
      candidate.provider.identity ≠ candidate.providerSnapshot.provider)
    "PROVIDER_OBSERVATION_INVALID"
    "candidate Provider or ProviderSnapshot is invalid or mismatched" ++
  reasonIf (candidate.provider.state ≠ .ready) "PROVIDER_NOT_READY"
    "candidate Provider is not ready" ++
  reasonIf (candidate.providerSnapshot.sampledAtUnixMs > request.nowUnixMs ∨
      candidate.providerSnapshot.expiresAtUnixMs ≤ request.nowUnixMs)
    "PROVIDER_SNAPSHOT_STALE" "candidate ProviderSnapshot is not current at placement time"

def executionCapabilityId : String := "cyrene.execution.fabric.v1"

def artifactTransferCapabilityId : String := "cyrene.artifact.transfer.v1"

def validateExecutionCapability (capabilities : List Capability)
    (attachment : ExecutionAttachmentType) (persistent : Bool) (restart : RestartCapability) :
    Except FabricContractError Unit := do
  let capability ← foundOr
    (capabilities.find? fun value => value.id = executionCapabilityId ∧ value.revision ≥ 1)
    ⟨"EXECUTION_CAPABILITY_REQUIRED", "canonical execution Capability is required"⟩
  failIf (∃ expected ∈ [("attachment_type", attachment.asStrName),
      ("persistent", toString persistent), ("restart_capability", restart.asStrName)],
      capability.properties[expected.1]? ≠ some expected.2)
    ⟨"EXECUTION_CAPABILITY_MISMATCH",
      "typed execution lifecycle fields disagree with canonical Capability properties"⟩

/-- A capability is invalid, or repeats the id of one before. -/
def anyInvalidCapability : List Capability → BTreeSet String → Bool
  | [], _ => false
  | capability :: rest, ids =>
    !capability.validate.isOk || ids.contains capability.id ||
      anyInvalidCapability rest (ids.insert capability.id)

def ArtifactAvailability.isTransfer : ArtifactAvailability → Bool
  | .verifiedLocal _ => false
  | .authorizedTransfer _ => true

/-- The behaviour of its execution capability that a candidate has to have. -/
def requiredBehavior (artifactTransferRequired : Bool) : List (Bool × String) :=
  [ (request.checkpointResume, "checkpoint_resume")
  , (request.network.outboundHttps || artifactTransferRequired, "outbound_https")
  , (request.network.inboundAvailable, "inbound_available")
  , (request.network.peerTransfer || artifactTransferRequired, "peer_transfer") ]

def artifactTransferRequired : Bool :=
  candidate.artifactQuotes.any fun quote => quote.availability.isTransfer

/-- A capability to transfer artifacts. -/
def transfersArtifacts (capability : Capability) : Bool :=
  capability.id == artifactTransferCapabilityId && capability.revision ≥ 1 &&
    ["https_range", "multipart", "resume", "peer_transfer"].all fun property =>
      capability.properties[property]? == some "true"

def validateCapabilities : List PlacementReason :=
  let execution := candidate.capabilities.find? (·.id = executionCapabilityId)
  reasonIf (anyInvalidCapability candidate.capabilities ∅) "CAPABILITY_OBSERVATION_INVALID"
    ("candidate capabilities need unique identities, non-zero revisions, and non-empty " ++
      "properties") ++
  reasonIf ((validateExecutionCapability candidate.capabilities candidate.attachment
      candidate.persistent candidate.restartCapability).isOk = false)
    "EXECUTION_CAPABILITY_INVALID"
    "typed lifecycle facts disagree with the canonical execution Capability" ++
  reasonIf (¬ request.capabilityRequirements.all fun requirement =>
      candidate.capabilities.any requirement.matchesCapability)
    "CAPABILITY_REQUIREMENTS_UNSATISFIED"
    "candidate does not satisfy every canonical Capability requirement" ++
  (requiredBehavior request (artifactTransferRequired candidate)).flatMap
    (fun (required, property) =>
    reasonIf (required ∧ (execution.bind (·.properties[property]?)) ≠ some "true")
      "EXECUTION_BEHAVIOR_UNSATISFIED"
      ("candidate execution Capability lacks required " ++ property)) ++
  reasonIf (artifactTransferRequired candidate ∧ ¬ candidate.capabilities.any transfersArtifacts)
    "ARTIFACT_TRANSFER_CAPABILITY_UNSATISFIED"
    "remote Artifact placement requires the canonical HTTPS range transfer Capability"

def isSubset (s t : BTreeSet String) : Bool := s.toList.all fun value => t.contains value

def policyFactsMatch (policy : PlacementPolicy) (residency trustDomain : String)
    (classifications policyTags : BTreeSet String) : Bool :=
  (policy.allowedResidencies.isEmpty || policy.allowedResidencies.contains residency) &&
    policy.requiredTrustDomain.all (· == trustDomain) &&
    isSubset policy.requiredClassifications classifications &&
    isSubset policy.requiredPolicyTags policyTags

def validatePolicy : List PlacementReason :=
  reasonIf (¬ policyFactsMatch request.policy candidate.residency candidate.trustDomain
      candidate.classifications candidate.policyTags)
    "EXECUTION_POLICY_DENIED" "candidate execution policy facts do not satisfy the request" ++
  reasonIf (request.artifacts ≠ [] ∧ (candidate.artifactDestinationPeerId = "" ∨
      candidate.artifactDestinationPeerId = candidate.node.nodeId))
    "ARTIFACT_DESTINATION_INVALID"
    "Artifact destination Peer must be explicit and distinct from Node identity"

/-! ### Artifacts of a candidate -/

def u32Max : Nat := 2 ^ 32 - 1

/-- Addition that fails when the result does not fit its type. -/
def checkedAdd (limit a b : Nat) : Option Nat := if a + b ≤ limit then some (a + b) else none

/-- The loop over the quotes: the quotes by their digests, the ids before, and the reasons. -/
def indexQuotes : List ArtifactPlacementQuote → BTreeMap String ArtifactPlacementQuote →
    BTreeSet String → BTreeMap String ArtifactPlacementQuote × List PlacementReason
  | [], quotes, _ => (quotes, [])
  | quote :: rest, quotes, ids =>
    let identity := reasonIf (quote.quoteId = "" ∨ quote.quoteId ∈ ids)
      "ARTIFACT_QUOTE_IDENTITY_INVALID"
      "Artifact placement quotes require unique non-empty identities"
    let duplicate := reasonIf (quotes.contains quote.artifact.digest) "ARTIFACT_QUOTE_DUPLICATE"
      "candidate contains duplicate quotes for one Artifact"
    let ids := if quote.quoteId = "" then ids else ids.insert quote.quoteId
    let (indexed, reasons) := indexQuotes rest (quotes.insert quote.artifact.digest quote) ids
    (indexed, identity ++ duplicate ++ reasons)

structure ArtifactScore where
  localBytes : Nat
  transferBytes : Nat
  estimatedTransferMillis : Nat
  costMicrounits : Nat
  sourceCount : Nat
deriving DecidableEq

/-- What the loop over the artifacts keeps. -/
structure ArtifactTally where
  score : ArtifactScore
  hasLocalArtifacts : Bool
  localValidUntilUnixMs : Nat
  transferValidUntilUnixMs : Nat
deriving DecidableEq

def ArtifactTally.empty : ArtifactTally := ⟨⟨0, 0, 0, 0, 0⟩, false, u64Max, u64Max⟩

/-- Add the quote of an artifact that is on the node. -/
def tallyLocal (artifact : ArtifactRef) (quote : ArtifactPlacementQuote)
    (inventoryGeneration : Nat) :
    Except PlacementReason ArtifactTally := do
  failIf (inventoryGeneration = 0) ⟨"ARTIFACT_LOCALITY_EVIDENCE_INVALID",
    "local Artifact evidence requires an inventory generation"⟩
  let localBytes ← foundOr (checkedAdd u64Max tally.score.localBytes artifact.sizeBytes)
    ⟨"ARTIFACT_ESTIMATE_OVERFLOW", "local Artifact byte count overflowed"⟩
  return { tally with
    score := { tally.score with localBytes }
    hasLocalArtifacts := true
    localValidUntilUnixMs := min tally.localValidUntilUnixMs quote.validUntilUnixMs }

/-- Add the quote of an artifact that has to be transferred. -/
def tallyTransfer (artifact : ArtifactRef) (quote : ArtifactPlacementQuote)
    (transfer : ArtifactTransferQuote) : Except PlacementReason ArtifactTally := do
  failIf (transfer.bytesToTransfer ≠ artifact.sizeBytes ∨ transfer.sourceCount = 0)
    ⟨"ARTIFACT_TRANSFER_QUOTE_INVALID",
      "Artifact transfer quote must cover the Artifact and use at least one source"⟩
  let millis ← foundOr
    (checkedAdd u64Max tally.score.estimatedTransferMillis transfer.estimatedTransferMillis)
    ⟨"ARTIFACT_ESTIMATE_OVERFLOW", "aggregate Artifact transfer time overflowed"⟩
  failIf (quote.validUntilUnixMs > transfer.authorizationValidUntilUnixMs)
    ⟨"ARTIFACT_TRANSFER_AUTHORITY_EXPIRES",
      "Artifact quote validity exceeds its underlying transfer authorization"⟩
  let combined := do
    let bytes ← checkedAdd u64Max tally.score.transferBytes transfer.bytesToTransfer
    let cost ← checkedAdd u64Max tally.score.costMicrounits transfer.costMicrounits
    let sources ← checkedAdd u32Max tally.score.sourceCount transfer.sourceCount
    return (bytes, cost, sources)
  let (bytes, cost, sources) ← foundOr combined
    ⟨"ARTIFACT_ESTIMATE_OVERFLOW", "aggregate Artifact transfer quote overflowed"⟩
  return { tally with
    score := ⟨tally.score.localBytes, bytes, millis, cost, sources⟩
    transferValidUntilUnixMs := min (min tally.transferValidUntilUnixMs quote.validUntilUnixMs)
      transfer.authorizationValidUntilUnixMs }

/-- Add the quote of an artifact, or say why it cannot be used. -/
def tallyArtifact (quotes : BTreeMap String ArtifactPlacementQuote) (tally : ArtifactTally)
    (artifact : ArtifactRef) : Except PlacementReason ArtifactTally := do
  let quote ← foundOr (quotes[artifact.digest]?) ⟨"ARTIFACT_QUOTE_MISSING",
    "candidate lacks an Artifact Plane quote for " ++ artifact.digest⟩
  failIf (quote.artifact ≠ artifact) ⟨"ARTIFACT_IDENTITY_MISMATCH",
    "Artifact Plane quote disagrees with the requested identity"⟩
  failIf (quote.destinationPeerId ≠ candidate.artifactDestinationPeerId ∨
      quote.policyScope ≠ request.artifactPolicyScope)
    ⟨"ARTIFACT_QUOTE_SCOPE_MISMATCH",
      "Artifact quote destination or policy scope does not match placement"⟩
  failIf (quote.observedAtUnixMs = 0 ∨ quote.observedAtUnixMs > request.nowUnixMs ∨
      quote.validUntilUnixMs ≤ request.nowUnixMs)
    ⟨"ARTIFACT_QUOTE_STALE", "Artifact quote is not current at placement time"⟩
  match quote.availability with
  | .verifiedLocal inventoryGeneration => tallyLocal tally artifact quote inventoryGeneration
  | .authorizedTransfer transfer => tallyTransfer tally artifact quote transfer

/-- The loop over the artifacts; one whose quote cannot be used leaves a reason. -/
def tallyArtifacts (request : ExecutionPlacementRequest) (candidate : ExecutionTargetCandidate)
    (quotes : BTreeMap String ArtifactPlacementQuote) :
    ArtifactTally → List ArtifactRef → ArtifactTally × List PlacementReason
  | tally, [] => (tally, [])
  | tally, artifact :: rest =>
    match tallyArtifact request candidate quotes tally artifact with
    | .ok tally => tallyArtifacts request candidate quotes tally rest
    | .error reason =>
      let (tally, reasons) := tallyArtifacts request candidate quotes tally rest
      (tally, reason :: reasons)

/-- The quotes have to be valid when the candidate is ready. -/
def readinessReasons : List PlacementReason :=
  match checkedAdd u64Max (max request.nowUnixMs candidate.availableAtUnixMs)
      tally.score.estimatedTransferMillis with
  | none =>
    reasonIf (tally.hasLocalArtifacts ∨ tally.score.sourceCount > 0)
      "ARTIFACT_ESTIMATE_OVERFLOW" "Artifact readiness time overflowed"
  | some ready =>
    reasonIf (tally.hasLocalArtifacts ∧ ready ≥ tally.localValidUntilUnixMs)
      "ARTIFACT_LOCALITY_EVIDENCE_EXPIRES"
      "local Artifact inventory evidence expires before the candidate is ready" ++
    reasonIf (tally.score.sourceCount > 0 ∧ ready ≥ tally.transferValidUntilUnixMs)
      "ARTIFACT_TRANSFER_AUTHORITY_EXPIRES"
      "Artifact authorization or quote expires before all transfers can complete"

/-- The sums of the quotes of a candidate, and what is wrong with them. -/
def evaluateArtifacts : ArtifactScore × List PlacementReason :=
  let indexed := indexQuotes candidate.artifactQuotes ∅ ∅
  let setReasons := reasonIf (indexed.1.size ≠ request.artifacts.length)
    "ARTIFACT_QUOTE_SET_MISMATCH" "candidate Artifact quote set does not exactly match the request"
  let tally := tallyArtifacts request candidate indexed.1 .empty request.artifacts
  (tally.1.score,
    indexed.2 ++ setReasons ++ tally.2 ++ readinessReasons request candidate tally.1)

/-! ### Evaluation -/

def matchResources (query : ResourceQuery) (snapshot : ProviderSnapshot) :
    Option ResourceMatchEvidence :=
  let matched := (snapshot.resources.filter fun resource =>
    resource.state = .ready ∧ query.matchesResource resource).map (·.identity)
  if matched.length < query.count then none
  else some ⟨snapshot.provider, snapshot.snapshotGeneration, sortBy compare matched, query.count⟩

/-- The costs have to fit their type and the policy. -/
def costReasons : Option Nat → List PlacementReason
  | none =>
    [⟨"PLACEMENT_COST_OVERFLOW", "execution and Artifact transfer cost overflowed"⟩]
  | some cost =>
    match request.policy.maximumTotalCostMicrounits with
    | none => []
    | some maximum =>
      reasonIf (cost > maximum) "PLACEMENT_COST_EXCEEDED"
        ("estimated cost " ++ toString cost ++ " exceeds policy maximum " ++ toString maximum)

/-- The start has to fit its type and the deadline. -/
def startReasons : Option Nat → List PlacementReason
  | none =>
    [⟨"PLACEMENT_TIME_OVERFLOW", "candidate availability and Artifact transfer time overflowed"⟩]
  | some ready =>
    match request.latestStartUnixMs with
    | none => []
    | some latest =>
      reasonIf (ready > latest) "START_DEADLINE_UNSATISFIED"
        ("estimated ready time " ++ toString ready ++ " exceeds latest start time " ++
          toString latest)

/-- The cost of the execution and of the transfers. -/
def totalCostMicrounits : Option Nat :=
  checkedAdd u64Max candidate.executionCostMicrounits
    (evaluateArtifacts request candidate).1.costMicrounits

def estimatedReadyAtUnixMs : Option Nat :=
  checkedAdd u64Max (max request.nowUnixMs candidate.availableAtUnixMs)
    (evaluateArtifacts request candidate).1.estimatedTransferMillis

def evaluationReasons : List PlacementReason :=
  validateCandidateIdentity request candidate ++ validateCapabilities request candidate ++
    validatePolicy request candidate ++
    reasonIf (matchResources request.resourceQuery candidate.providerSnapshot = none)
      "RESOURCE_REQUIREMENTS_UNSATISFIED"
      "ProviderSnapshot lacks enough distinct ready Resources for the canonical ResourceQuery" ++
    (evaluateArtifacts request candidate).2 ++
    costReasons request (totalCostMicrounits request candidate) ++
    startReasons request (estimatedReadyAtUnixMs request candidate)

def evaluationScore : Option PlacementScore :=
  if evaluationReasons request candidate = [] then do
    let artifactScore := (evaluateArtifacts request candidate).1
    let cost ← totalCostMicrounits request candidate
    let ready ← estimatedReadyAtUnixMs request candidate
    return ⟨artifactScore.localBytes, artifactScore.transferBytes,
      artifactScore.estimatedTransferMillis, cost, ready, candidate.reliabilityScore⟩
  else none

/-- The evaluation of one candidate. -/
def evaluateCandidate : CandidateEvaluation where
  node := candidate.node
  eligible := (evaluationScore request candidate).isSome
  reasons := evaluationReasons request candidate
  resourceMatch := matchResources request.resourceQuery candidate.providerSnapshot
  score := evaluationScore request candidate

def compareNodes (left right : NodeRef) : Ordering :=
  (compare left.nodeId right.nodeId).then (compare left.nodeEpoch right.nodeEpoch)

def compareEvaluations (left right : CandidateEvaluation) : Ordering :=
  match left.score, right.score with
  | some leftScore, some rightScore =>
    (compare rightScore.localArtifactBytes leftScore.localArtifactBytes).then <|
    (compare leftScore.estimatedTransferMillis rightScore.estimatedTransferMillis).then <|
    (compare leftScore.transferBytes rightScore.transferBytes).then <|
    (compare leftScore.totalCostMicrounits rightScore.totalCostMicrounits).then <|
    (compare leftScore.estimatedReadyAtUnixMs rightScore.estimatedReadyAtUnixMs).then <|
    (compare rightScore.reliabilityScore leftScore.reliabilityScore).then <|
    compareNodes left.node right.node
  | some _, none => .lt
  | none, some _ => .gt
  | none, none => compareNodes left.node right.node

/-! ### Decision -/

/-- The loop that looks for a node that was there before. -/
def validateNodes : List ExecutionTargetCandidate → List NodeRef → Except FabricContractError Unit
  | [], _ => .ok ()
  | candidate :: rest, nodes => do
    failIf (candidate.node ∈ nodes)
      ⟨"EXECUTION_TARGET_DUPLICATE", "candidate set contains a duplicate NodeRef"⟩
    validateNodes rest (candidate.node :: nodes)

/-- Evaluate the candidates, and select the first eligible one in the order of the scores. -/
def planExecutionPlacement (candidates : List ExecutionTargetCandidate) :
    Except FabricContractError PlacementDecision := do
  validateRequest request
  validateNodes candidates []
  let evaluations := sortBy compareEvaluations (candidates.map (evaluateCandidate request))
  return ⟨(evaluations.find? (·.eligible)).map (·.node), evaluations⟩

/-- The selected candidate. -/
def placeExecutionTarget (candidates : List ExecutionTargetCandidate) :
    Except FabricContractError ExecutionTargetCandidate := do
  let decision ← planExecutionPlacement request candidates
  let selected ← foundOr decision.selectedNode ⟨"WAITING_FOR_EXECUTION_TARGET",
    "no target satisfies the canonical resource, policy, lifecycle, and Artifact constraints"⟩
  foundOr (candidates.find? (·.node = selected)) ⟨"PLACEMENT_DECISION_INVALID",
    "selected Node is absent from the evaluated candidate set"⟩

end CyreneKernel.Fabric
