import CyreneKernel.Fabric.Eligibility

/-!
# The projection of the artifacts

When a candidate is selected, the artifacts of the request become inputs of the assignment: those
that are on the node are local inputs, the others are transfers.  The controller checks that these
inputs are the ones that the quotes of the candidate prescribe.

Placement and projection check the same quotes.  They differ for an artifact without content, which
can be quoted as a transfer but not be projected as one.

## Main definitions

* `ArtifactTransferSpec`, `ArtifactLocalInput`: the inputs.
* `validateArtifactProjection`: the check.
* `Projects`: the inputs are those of the quotes.

## Main results

* `validateArtifactProjection_eq_ok`: what is checked.
* `Projects.reorder`: the order of the lists does not matter.
* `projects_prescribedArtifacts`: an eligible candidate has inputs that pass.
-/

namespace CyreneKernel.Fabric

open Lib

/-! ### Messages -/

structure ArtifactTransferSource where
  peerId : String
  replicaId : String
  locator : String
  transferTicket : String
  path : Int
  locatorExpiresAtUnixMs : Nat
deriving DecidableEq

structure ArtifactPartSource where
  partIndex : Nat
  peerId : String
  replicaId : String
deriving DecidableEq

structure ArtifactTransferSpec where
  artifactUri : String
  digest : String
  sizeBytes : Nat
  manifestDigest : String
  replicaUri : String
  partSizeBytes : Nat
  partDigests : List String
  sources : List ArtifactTransferSource
  partSources : List ArtifactPartSource
  destinationPeerId : String
  artifactKind : String
deriving DecidableEq

structure ArtifactLocalInput where
  artifactUri : String
  digest : String
  sizeBytes : Nat
  artifactKind : String
  manifestDigest : String
deriving DecidableEq

def artifactKindFromProto (value : String) : Except FabricContractError ArtifactKind :=
  (ArtifactKind.new value).mapError fun message =>
    ⟨"ARTIFACT_KIND_INVALID", "Artifact kind is invalid: " ++ message⟩

/-- A message has an empty text where there is no digest of a manifest. -/
def manifestDigestFromProto (manifestDigest : String) : Option String :=
  if manifestDigest = "" then none else some manifestDigest

def artifactRefFromLocalInput (input : ArtifactLocalInput) :
    Except FabricContractError ArtifactRef := do
  let kind ← artifactKindFromProto input.artifactKind
  let artifact : ArtifactRef := ⟨input.artifactUri, input.digest, input.sizeBytes, kind,
    manifestDigestFromProto input.manifestDigest⟩
  artifact.validate.mapError fun message =>
    ⟨"ARTIFACT_LOCAL_IDENTITY_INVALID", "assignment local Artifact is invalid: " ++ message⟩
  return artifact

def artifactRefFromTransferSpec (spec : ArtifactTransferSpec) :
    Except FabricContractError ArtifactRef := do
  let kind ← artifactKindFromProto spec.artifactKind
  let artifact : ArtifactRef := ⟨spec.artifactUri, spec.digest, spec.sizeBytes, kind,
    manifestDigestFromProto spec.manifestDigest⟩
  artifact.validate.mapError fun message =>
    ⟨"ARTIFACT_ASSIGNMENT_IDENTITY_INVALID",
      "assignment Artifact transfer is invalid: " ++ message⟩
  return artifact

/-! ### The four indices -/

/-- Index items by the digests of the artifacts that they are for, no two of them the same. -/
def indexByDigest {α : Type} (identity : α → Except FabricContractError ArtifactRef)
    (repeated : String → FabricContractError) :
    List α → BTreeMap String α → Except FabricContractError (BTreeMap String α)
  | [], indexed => .ok indexed
  | item :: rest, indexed => do
    let artifact ← identity item
    failIf (artifact.digest ∈ indexed) (repeated artifact.digest)
    indexByDigest identity repeated rest (indexed.insert artifact.digest item)

/-- The artifact itself, when it is valid. -/
def requestedIdentity (artifact : ArtifactRef) : Except FabricContractError ArtifactRef := do
  artifact.validate.mapError fun message =>
    ⟨"ARTIFACT_IDENTITY_INVALID", "placement Artifact is invalid: " ++ message⟩
  return artifact

def indexRequestedArtifacts (artifacts : List ArtifactRef) :
    Except FabricContractError (BTreeMap String ArtifactRef) :=
  indexByDigest requestedIdentity (fun digest => ⟨"ARTIFACT_PLACEMENT_DUPLICATE",
    "placement contains a duplicate Artifact digest: " ++ digest⟩) artifacts ∅

def indexAssignmentArtifacts (artifacts : List ArtifactTransferSpec) :
    Except FabricContractError (BTreeMap String ArtifactTransferSpec) :=
  indexByDigest artifactRefFromTransferSpec (fun digest => ⟨"ARTIFACT_ASSIGNMENT_DUPLICATE",
    "assignment contains a duplicate Artifact digest: " ++ digest⟩) artifacts ∅

def indexLocalArtifacts (artifacts : List ArtifactLocalInput) :
    Except FabricContractError (BTreeMap String ArtifactLocalInput) :=
  indexByDigest artifactRefFromLocalInput (fun digest => ⟨"ARTIFACT_ASSIGNMENT_DUPLICATE",
    "assignment contains a duplicate local Artifact digest: " ++ digest⟩) artifacts ∅

/-- The loop over the quotes, which also looks at their ids. -/
def indexQuotesByDigest : List ArtifactPlacementQuote → BTreeMap String ArtifactPlacementQuote →
    BTreeSet String → Except FabricContractError (BTreeMap String ArtifactPlacementQuote)
  | [], indexed, _ => .ok indexed
  | quote :: rest, indexed, ids => do
    quote.artifact.validate.mapError fun message =>
      ⟨"ARTIFACT_QUOTE_INVALID", "candidate Artifact quote is invalid: " ++ message⟩
    failIf (quote.quoteId = "" ∨ quote.quoteId ∈ ids) ⟨"ARTIFACT_QUOTE_DUPLICATE",
      "candidate Artifact quotes require unique non-empty identities"⟩
    failIf (quote.artifact.digest ∈ indexed) ⟨"ARTIFACT_QUOTE_DUPLICATE",
      "candidate contains duplicate Artifact quotes for " ++ quote.artifact.digest⟩
    indexQuotesByDigest rest (indexed.insert quote.artifact.digest quote)
      (ids.insert quote.quoteId)

def indexArtifactQuotes (quotes : List ArtifactPlacementQuote) :
    Except FabricContractError (BTreeMap String ArtifactPlacementQuote) :=
  indexQuotesByDigest quotes ∅ ∅

/-! ### The check -/

/-- The local input of an artifact. -/
def validateLocalProjection (localArtifacts : BTreeMap String ArtifactLocalInput) (digest : String)
    (artifact : ArtifactRef) : Except FabricContractError Unit := do
  let input ← foundOr (localArtifacts[digest]?) ⟨"ARTIFACT_LOCAL_INPUT_MISSING",
    "assignment lacks the local projection for Artifact " ++ digest⟩
  let projected ← artifactRefFromLocalInput input
  failIf (projected ≠ artifact) ⟨"ARTIFACT_LOCAL_INPUT_IDENTITY_MISMATCH",
    "assignment local input disagrees with placement identity for " ++ digest⟩

/-- The transfer of an artifact. -/
def validateTransferProjection (assignments : BTreeMap String ArtifactTransferSpec)
    (destination digest : String) (artifact : ArtifactRef) : Except FabricContractError Unit := do
  failIf (artifact.sizeBytes = 0) ⟨"ARTIFACT_ZERO_BYTE_TRANSFER_UNSUPPORTED",
    "zero-byte remote Artifact cannot be projected for transfer: " ++ digest⟩
  let spec ← foundOr (assignments[digest]?) ⟨"ARTIFACT_ASSIGNMENT_MISSING",
    "assignment lacks the transfer projection for Artifact " ++ digest⟩
  let projected ← artifactRefFromTransferSpec spec
  failIf (projected ≠ artifact) ⟨"ARTIFACT_ASSIGNMENT_IDENTITY_MISMATCH",
    "assignment transfer disagrees with placement identity for " ++ digest⟩
  failIf (spec.destinationPeerId ≠ destination) ⟨"ARTIFACT_DESTINATION_MISMATCH",
    "assignment transfer destination disagrees with selected Peer for " ++ digest⟩

/-- One requested artifact, its quote and its input. -/
def validateProjected (placement : ExecutionPlacementRequest) (selected : ExecutionTargetCandidate)
    (assignments : BTreeMap String ArtifactTransferSpec)
    (localArtifacts : BTreeMap String ArtifactLocalInput)
    (quotes : BTreeMap String ArtifactPlacementQuote) (digest : String) (artifact : ArtifactRef) :
    Except FabricContractError Unit := do
  let quote ← foundOr (quotes[digest]?) ⟨"ARTIFACT_QUOTE_MISSING",
    "selected candidate lacks an Artifact quote for " ++ digest⟩
  failIf (quote.artifact ≠ artifact) ⟨"ARTIFACT_QUOTE_IDENTITY_MISMATCH",
    "Artifact quote disagrees with placement identity for " ++ digest⟩
  failIf (quote.destinationPeerId ≠ selected.artifactDestinationPeerId ∨
      quote.policyScope ≠ placement.artifactPolicyScope)
    ⟨"ARTIFACT_QUOTE_SCOPE_MISMATCH",
      "Artifact quote scope disagrees with selected destination for " ++ digest⟩
  match quote.availability with
  | .verifiedLocal _ => validateLocalProjection localArtifacts digest artifact
  | .authorizedTransfer _ =>
    validateTransferProjection assignments selected.artifactDestinationPeerId digest artifact

/-- Why a requested artifact is not among the inputs. -/
def missingReason (quotes : BTreeMap String ArtifactPlacementQuote) (digest : String) : String :=
  match quotes[digest]?.map ArtifactPlacementQuote.availability with
  | some (.verifiedLocal _) => "ARTIFACT_LOCAL_INPUT_MISSING"
  | _ => "ARTIFACT_ASSIGNMENT_MISSING"

/-- A check that nothing is found. -/
def noneOr {α : Type} (found : Option α) (error : α → FabricContractError) :
    Except FabricContractError Unit :=
  match found with
  | none => .ok ()
  | some a => .error (error a)

/-- The artifacts of an assignment, its transfers and its local inputs. -/
structure AssignmentArtifacts where
  artifacts : List ArtifactTransferSpec
  localArtifacts : List ArtifactLocalInput
deriving DecidableEq

def validateArtifactProjection (builder : AssignmentArtifacts)
    (placement : ExecutionPlacementRequest) (selected : ExecutionTargetCandidate) :
    Except FabricContractError Unit := do
  let requested ← indexRequestedArtifacts placement.artifacts
  let assignments ← indexAssignmentArtifacts builder.artifacts
  let localArtifacts ← indexLocalArtifacts builder.localArtifacts
  let quotes ← indexArtifactQuotes selected.artifactQuotes
  noneOr (assignments.keys.find? (· ∈ localArtifacts)) fun digest =>
    ⟨"ARTIFACT_ASSIGNMENT_DUPLICATE",
      "assignment projects Artifact " ++ digest ++ " as both local and transfer"⟩
  let projected := BTreeSet.insertList (BTreeSet.insertList ∅ assignments.keys) localArtifacts.keys
  noneOr (projected.toList.find? (· ∉ requested)) fun digest =>
    ⟨"ARTIFACT_ASSIGNMENT_UNEXPECTED",
      "assignment contains an Artifact absent from placement: " ++ digest⟩
  failIf (quotes.size ≠ requested.size) ⟨"ARTIFACT_QUOTE_SET_MISMATCH",
    "selected candidate Artifact quote set does not exactly match placement"⟩
  failIf (requested.isEmpty = false ∧ (selected.artifactDestinationPeerId = "" ∨
      selected.artifactDestinationPeerId = selected.node.nodeId))
    ⟨"ARTIFACT_DESTINATION_INVALID",
      "selected candidate requires an explicit Artifact Peer distinct from Node identity"⟩
  noneOr (requested.keys.find? (· ∉ projected)) fun digest =>
    ⟨missingReason quotes digest, "assignment lacks the Artifact projection for " ++ digest⟩
  requested.toList.forM fun (digest, artifact) =>
    validateProjected placement selected assignments localArtifacts quotes digest artifact

/-! ### What the indices hold -/

section Indices

variable {α : Type} {digestOf : α → String} {items : List α}

variable {identity : α → Except FabricContractError ArtifactRef}
  {repeated : String → FabricContractError}

variable
  (hdigest : ∀ {item artifact}, identity item = .ok artifact → artifact.digest = digestOf item)

include hdigest

theorem indexByDigest_eq_ok {m m' : BTreeMap String α} :
    indexByDigest identity repeated items m = .ok m' ↔
      (∀ item ∈ items, ∃ artifact, identity item = .ok artifact) ∧ Fresh digestOf (· ∈ m) items ∧
        BTreeMap.insertAll digestOf m items = m' := by
  induction items generalizing m with
  | nil => simp [indexByDigest, BTreeMap.insertAll, Fresh]
  | cons item rest ih =>
    simp only [indexByDigest, except_bind_eq_ok, failIf_eq_ok, ih, exists_const,
      List.forall_mem_cons, fresh_cons, Std.ExtTreeMap.mem_insert, Std.compare_eq_iff_eq,
      BTreeMap.insertAll_cons]
    constructor
    · rintro ⟨artifact, hitem, hnew, hrest, hfresh, rfl⟩
      rw [hdigest hitem] at hnew hfresh ⊢
      exact ⟨⟨⟨artifact, hitem⟩, hrest⟩, ⟨hnew, hfresh⟩, rfl⟩
    · rintro ⟨⟨⟨artifact, hitem⟩, hrest⟩, ⟨hnew, hfresh⟩, rfl⟩
      refine ⟨artifact, hitem, ?_⟩
      rw [hdigest hitem]
      exact ⟨hnew, hrest, hfresh, rfl⟩

/-- An index of all items. -/
theorem indexByDigest_empty_eq_ok {m : BTreeMap String α} :
    indexByDigest identity repeated items ∅ = .ok m ↔
      (∀ item ∈ items, ∃ artifact, identity item = .ok artifact) ∧ (items.map digestOf).Nodup ∧
        byDigest digestOf items = m := by
  rw [indexByDigest_eq_ok hdigest, byDigest]
  simp only [Std.ExtTreeMap.not_mem_empty, fresh_false]

end Indices

theorem indexQuotesByDigest_eq_ok {quotes : List ArtifactPlacementQuote}
    {m m' : BTreeMap String ArtifactPlacementQuote} {ids : BTreeSet String} :
    indexQuotesByDigest quotes m ids = .ok m' ↔
      (∀ quote ∈ quotes, quote.artifact.validate = .ok () ∧ quote.quoteId ≠ "") ∧
      Fresh (·.quoteId) (· ∈ ids) quotes ∧ Fresh (·.artifact.digest) (· ∈ m) quotes ∧
      BTreeMap.insertAll (·.artifact.digest) m quotes = m' := by
  induction quotes generalizing m ids with
  | nil => simp [indexQuotesByDigest, BTreeMap.insertAll, Fresh]
  | cons quote rest ih =>
    simp only [indexQuotesByDigest, except_bind_eq_ok, mapError_eq_ok, failIf_eq_ok, ih,
      exists_const, List.forall_mem_cons, not_or, fresh_cons, Std.ExtTreeMap.mem_insert,
      Std.compare_eq_iff_eq, BTreeSet.mem_insert, BTreeMap.insertAll_cons]
    tauto

theorem indexArtifactQuotes_eq_ok {quotes : List ArtifactPlacementQuote}
    {m : BTreeMap String ArtifactPlacementQuote} :
    indexArtifactQuotes quotes = .ok m ↔
      (∀ quote ∈ quotes, quote.artifact.validate = .ok () ∧ quote.quoteId ≠ "") ∧
      (quotes.map (·.quoteId)).Nodup ∧ (quotes.map (·.artifact.digest)).Nodup ∧
      byDigest (·.artifact.digest) quotes = m := by
  rw [indexArtifactQuotes, indexQuotesByDigest_eq_ok, byDigest]
  simp only [Std.ExtTreeMap.not_mem_empty, Std.ExtTreeSet.not_mem_empty, fresh_false]

/-! ### The identities of the inputs -/

variable {artifact : ArtifactRef}

theorem requestedIdentity_eq_ok {item : ArtifactRef} :
    requestedIdentity item = .ok artifact ↔ item.validate = .ok () ∧ item = artifact := by
  simp only [requestedIdentity, except_bind_eq_ok, mapError_eq_ok, except_pure_eq_ok, exists_unit]

theorem artifactRefFromLocalInput_digest {input : ArtifactLocalInput}
    (h : artifactRefFromLocalInput input = .ok artifact) : artifact.digest = input.digest := by
  simp only [artifactRefFromLocalInput, except_bind_eq_ok, except_pure_eq_ok] at h
  obtain ⟨_, -, _, -, rfl⟩ := h
  rfl

theorem artifactRefFromTransferSpec_digest {spec : ArtifactTransferSpec}
    (h : artifactRefFromTransferSpec spec = .ok artifact) : artifact.digest = spec.digest := by
  simp only [artifactRefFromTransferSpec, except_bind_eq_ok, except_pure_eq_ok] at h
  obtain ⟨_, -, _, -, rfl⟩ := h
  rfl

theorem indexRequestedArtifacts_eq_ok {artifacts : List ArtifactRef}
    {m : BTreeMap String ArtifactRef} :
    indexRequestedArtifacts artifacts = .ok m ↔
      (∀ artifact ∈ artifacts, artifact.validate = .ok ()) ∧ (artifacts.map (·.digest)).Nodup ∧
        byDigest (·.digest) artifacts = m := by
  have hdigest {item artifact : ArtifactRef} (h : requestedIdentity item = .ok artifact) :
      artifact.digest = item.digest := by rw [(requestedIdentity_eq_ok.1 h).2]
  rw [indexRequestedArtifacts, indexByDigest_empty_eq_ok hdigest]
  simp [requestedIdentity_eq_ok]

/-! ### The checks on the lists -/

/-- An artifact has a quote, and the input that the quote prescribes. -/
@[mk_iff] structure ProjectedArtifact (builder : AssignmentArtifacts)
    (request : ExecutionPlacementRequest)
    (candidate : ExecutionTargetCandidate) (artifact : ArtifactRef)
    (quote : ArtifactPlacementQuote) : Prop where
  identity : quote.artifact = artifact
  scope : quote.destinationPeerId = candidate.artifactDestinationPeerId ∧
    quote.policyScope = request.artifactPolicyScope
  onNode : quote.availability.isTransfer = false →
    ∃ input ∈ builder.localArtifacts, artifactRefFromLocalInput input = .ok artifact
  transferred : quote.availability.isTransfer = true → artifact.sizeBytes ≠ 0 ∧
    ∃ spec ∈ builder.artifacts, artifactRefFromTransferSpec spec = .ok artifact ∧
      spec.destinationPeerId = candidate.artifactDestinationPeerId

/-- The checks, as they are made on the lists. -/
structure ProjectionChecks (builder : AssignmentArtifacts) (request : ExecutionPlacementRequest)
    (candidate : ExecutionTargetCandidate) : Prop where
  valid : ∀ artifact ∈ request.artifacts, artifact.validate = .ok ()
  distinct : (request.artifacts.map (·.digest)).Nodup
  specs : ∀ spec ∈ builder.artifacts, ∃ artifact, artifactRefFromTransferSpec spec = .ok artifact
  distinctSpecs : (builder.artifacts.map (·.digest)).Nodup
  inputs : ∀ input ∈ builder.localArtifacts, ∃ artifact,
    artifactRefFromLocalInput input = .ok artifact
  distinctInputs : (builder.localArtifacts.map (·.digest)).Nodup
  quotes : ∀ quote ∈ candidate.artifactQuotes, quote.artifact.validate = .ok () ∧ quote.quoteId ≠ ""
  distinctIds : (candidate.artifactQuotes.map (·.quoteId)).Nodup
  distinctQuotes : (candidate.artifactQuotes.map (·.artifact.digest)).Nodup
  disjoint : ∀ digest ∈ builder.artifacts.map (·.digest),
    digest ∉ builder.localArtifacts.map (·.digest)
  expected : ∀ digest, digest ∈ builder.artifacts.map (·.digest) ∨
    digest ∈ builder.localArtifacts.map (·.digest) → digest ∈ request.artifacts.map (·.digest)
  size : candidate.artifactQuotes.length = request.artifacts.length
  destination : request.artifacts ≠ [] → candidate.artifactDestinationPeerId ≠ "" ∧
    candidate.artifactDestinationPeerId ≠ candidate.node.nodeId
  projected : ∀ artifact ∈ request.artifacts, ∃ quote ∈ candidate.artifactQuotes,
    ProjectedArtifact builder request candidate artifact quote

@[simp] theorem noneOr_eq_ok {α : Type} {found : Option α} {error : α → FabricContractError}
    {u : Unit} : noneOr found error = .ok u ↔ found = none := by
  cases found with
  | none => simp [noneOr]
  | some a => simp [noneOr]

section Checks

variable {builder : AssignmentArtifacts} {request : ExecutionPlacementRequest}
  {candidate : ExecutionTargetCandidate}

variable {artifact : ArtifactRef} {u : Unit}

theorem validateLocalProjection_eq_ok (hnodup : (builder.localArtifacts.map (·.digest)).Nodup) :
    validateLocalProjection (byDigest (·.digest) builder.localArtifacts) artifact.digest artifact =
        .ok u ↔
      ∃ input ∈ builder.localArtifacts, artifactRefFromLocalInput input = .ok artifact := by
  simp only [validateLocalProjection, except_bind_eq_ok, foundOr_eq_ok, failIf_eq_ok,
    byDigest_eq_some hnodup, not_not]
  constructor
  · rintro ⟨input, ⟨hinput, -⟩, _, hidentity, rfl⟩
    exact ⟨input, hinput, hidentity⟩
  · rintro ⟨input, hinput, hidentity⟩
    exact ⟨input, ⟨hinput, (artifactRefFromLocalInput_digest hidentity).symm⟩, artifact, hidentity,
      rfl⟩

theorem validateTransferProjection_eq_ok (hnodup : (builder.artifacts.map (·.digest)).Nodup)
    {destination : String} :
    validateTransferProjection (byDigest (·.digest) builder.artifacts) destination artifact.digest
        artifact = .ok u ↔
      artifact.sizeBytes ≠ 0 ∧ ∃ spec ∈ builder.artifacts,
        artifactRefFromTransferSpec spec = .ok artifact ∧ spec.destinationPeerId = destination := by
  simp only [validateTransferProjection, except_bind_eq_ok, foundOr_eq_ok, failIf_eq_ok,
    byDigest_eq_some hnodup, not_not, exists_const]
  constructor
  · rintro ⟨hsize, spec, ⟨hspec, -⟩, _, hidentity, rfl, hpeer⟩
    exact ⟨hsize, spec, hspec, hidentity, hpeer⟩
  · rintro ⟨hsize, spec, hspec, hidentity, hpeer⟩
    exact ⟨hsize, spec, ⟨hspec, (artifactRefFromTransferSpec_digest hidentity).symm⟩, artifact,
      hidentity, rfl, hpeer⟩

theorem validateProjected_eq_ok (hspecs : (builder.artifacts.map (·.digest)).Nodup)
    (hinputs : (builder.localArtifacts.map (·.digest)).Nodup)
    (hquotes : (candidate.artifactQuotes.map (·.artifact.digest)).Nodup) :
    validateProjected request candidate (byDigest (·.digest) builder.artifacts)
        (byDigest (·.digest) builder.localArtifacts)
        (byDigest (·.artifact.digest) candidate.artifactQuotes) artifact.digest artifact = .ok u ↔
      ∃ quote ∈ candidate.artifactQuotes,
        ProjectedArtifact builder request candidate artifact quote := by
  simp only [validateProjected, except_bind_eq_ok, foundOr_eq_ok, failIf_eq_ok,
    byDigest_eq_some hquotes, not_not, not_or, exists_const]
  refine exists_congr fun quote => ?_
  have hdigest : quote.artifact = artifact → quote.artifact.digest = artifact.digest := congrArg _
  rw [projectedArtifact_iff, and_assoc, ← and_assoc (a := _ = artifact.digest),
    and_iff_right_of_imp hdigest]
  refine and_congr_right fun _ => and_congr_right fun _ => and_congr_right fun _ => ?_
  cases quote.availability with
  | verifiedLocal generation =>
    simp [ArtifactAvailability.isTransfer, validateLocalProjection_eq_ok hinputs]
  | authorizedTransfer transfer =>
    simp [ArtifactAvailability.isTransfer, validateTransferProjection_eq_ok hspecs]

theorem isEmpty_byDigest {α : Type} {digestOf : α → String} {items : List α}
    (hnodup : (items.map digestOf).Nodup) :
    (byDigest digestOf items).isEmpty = false ↔ items ≠ [] := by
  rw [Std.ExtTreeMap.isEmpty_eq_size_beq_zero, size_byDigest hnodup, beq_eq_false_iff_ne,
    ne_eq, List.length_eq_zero_iff]

/-- The checks succeed when they do on the lists. -/
theorem validateArtifactProjection_eq_ok_iff :
    validateArtifactProjection builder request candidate = .ok u ↔
      ProjectionChecks builder request candidate := by
  simp only [validateArtifactProjection, except_bind_eq_ok, indexRequestedArtifacts_eq_ok,
    indexAssignmentArtifacts, indexByDigest_empty_eq_ok artifactRefFromTransferSpec_digest,
    indexLocalArtifacts, indexByDigest_empty_eq_ok artifactRefFromLocalInput_digest,
    indexArtifactQuotes_eq_ok, noneOr_eq_ok, failIf_eq_ok, forM_eq_ok, List.find?_eq_none,
      Std.ExtTreeMap.mem_keys,
    Std.ExtTreeSet.mem_toList, BTreeSet.mem_insertList, exists_const, decide_eq_true_eq, not_not]
  constructor
  · rintro ⟨_, ⟨hvalid, hdistinct, rfl⟩, _, ⟨hspecs, hdistinctSpecs, rfl⟩, _,
      ⟨hinputs, hdistinctInputs, rfl⟩, _, ⟨hquotes, hids, hdistinctQuotes, rfl⟩, hboth, hexpected,
      hsize, hdestination, -, hloop⟩
    simp only [mem_byDigest hdistinct, mem_byDigest hdistinctSpecs, mem_byDigest hdistinctInputs,
      size_byDigest hdistinct, size_byDigest hdistinctQuotes, isEmpty_byDigest hdistinct, not_and,
      not_or, Std.ExtTreeSet.not_mem_empty, or_false] at hboth hexpected hsize hdestination
    refine ⟨hvalid, hdistinct, hspecs, hdistinctSpecs, hinputs, hdistinctInputs, hquotes, hids,
      hdistinctQuotes, hboth, fun digest hdigest => hexpected digest hdigest.symm, hsize,
      hdestination, fun artifact hartifact => ?_⟩
    exact (validateProjected_eq_ok hdistinctSpecs hdistinctInputs hdistinctQuotes).1
      (hloop (artifact.digest, artifact) (Std.ExtTreeMap.mem_toList_iff_getElem?_eq_some.2
        ((byDigest_eq_some hdistinct).2 ⟨hartifact, rfl⟩)))
  · intro h
    refine ⟨_, ⟨h.valid, h.distinct, rfl⟩, _, ⟨h.specs, h.distinctSpecs, rfl⟩, _,
      ⟨h.inputs, h.distinctInputs, rfl⟩, _, ⟨h.quotes, h.distinctIds, h.distinctQuotes, rfl⟩, ?_⟩
    simp only [mem_byDigest h.distinct, mem_byDigest h.distinctSpecs, mem_byDigest h.distinctInputs,
      size_byDigest h.distinct, size_byDigest h.distinctQuotes,
        isEmpty_byDigest h.distinct, not_and,
      not_or, Std.ExtTreeSet.not_mem_empty, or_false]
    refine ⟨h.disjoint, fun digest hdigest => h.expected digest hdigest.symm, h.size,
      h.destination, fun digest hdigest => ?_, ?_⟩
    · -- the artifact has an input on the side of its quote
      obtain ⟨artifact, hartifact, rfl⟩ := List.mem_map.1 hdigest
      obtain ⟨quote, -, hprojected⟩ := h.projected artifact hartifact
      cases hside : quote.availability.isTransfer with
      | false =>
        obtain ⟨input, hinput, hidentity⟩ := hprojected.onNode hside
        exact .inl (List.mem_map.2
          ⟨input, hinput, (artifactRefFromLocalInput_digest hidentity).symm⟩)
      | true =>
        obtain ⟨-, spec, hspec, hidentity, -⟩ := hprojected.transferred hside
        exact .inr (List.mem_map.2
          ⟨spec, hspec, (artifactRefFromTransferSpec_digest hidentity).symm⟩)
    · rintro ⟨digest, artifact⟩ hartifact
      obtain ⟨hmem, rfl⟩ := (byDigest_eq_some h.distinct).1
        (Std.ExtTreeMap.mem_toList_iff_getElem?_eq_some.1 hartifact)
      exact (validateProjected_eq_ok h.distinctSpecs h.distinctInputs h.distinctQuotes).2
        (h.projected artifact hmem)

end Checks

/-! ### The inputs of the quotes -/

/-- The artifacts whose quotes are for one side. -/
def artifactsOn (transfer : Bool) (quotes : List ArtifactPlacementQuote) : List ArtifactRef :=
  (quotes.filter (·.availability.isTransfer = transfer)).map (·.artifact)

/-- The inputs cover the requested artifacts, each one once and on the side of its quote. -/
structure CoversArtifacts (builder : AssignmentArtifacts) (request : ExecutionPlacementRequest)
    (candidate : ExecutionTargetCandidate) : Prop where
  distinct : (request.artifacts.map (·.digest)).Nodup
  quotes : (candidate.artifactQuotes.map (·.artifact)).Perm request.artifacts
  onNode : (builder.localArtifacts.map artifactRefFromLocalInput).Perm
    ((artifactsOn false candidate.artifactQuotes).map .ok)
  transferred : (builder.artifacts.map artifactRefFromTransferSpec).Perm
    ((artifactsOn true candidate.artifactQuotes).map .ok)

/-- The inputs of an assignment are those of the quotes of its candidate. -/
structure Projects (builder : AssignmentArtifacts) (request : ExecutionPlacementRequest)
    (candidate : ExecutionTargetCandidate) : Prop where
  covers : CoversArtifacts builder request candidate
  valid : ∀ artifact ∈ request.artifacts, artifact.validate = .ok ()
  named : ∀ quote ∈ candidate.artifactQuotes, quote.quoteId ≠ ""
  distinctIds : (candidate.artifactQuotes.map (·.quoteId)).Nodup
  scope : ∀ quote ∈ candidate.artifactQuotes,
    quote.destinationPeerId = candidate.artifactDestinationPeerId ∧
      quote.policyScope = request.artifactPolicyScope
  destination : request.artifacts ≠ [] → candidate.artifactDestinationPeerId ≠ "" ∧
    candidate.artifactDestinationPeerId ≠ candidate.node.nodeId
  peers : ∀ spec ∈ builder.artifacts,
    spec.destinationPeerId = candidate.artifactDestinationPeerId
  positive : ∀ artifact ∈ artifactsOn true candidate.artifactQuotes, artifact.sizeBytes ≠ 0

section Projects

variable {builder : AssignmentArtifacts} {request : ExecutionPlacementRequest}
  {candidate : ExecutionTargetCandidate}

theorem mem_artifactsOn {transfer : Bool} {quotes : List ArtifactPlacementQuote}
    {artifact : ArtifactRef} :
    artifact ∈ artifactsOn transfer quotes ↔
      ∃ quote ∈ quotes, quote.availability.isTransfer = transfer ∧ quote.artifact = artifact := by
  simp [artifactsOn, and_assoc]

variable {α : Type} {identity : α → Except FabricContractError ArtifactRef} {digestOf : α → String}
  {items : List α} {artifacts : List ArtifactRef}

theorem exists_of_perm_ok (h : (items.map identity).Perm (artifacts.map .ok)) {item : α}
    (hitem : item ∈ items) : ∃ artifact ∈ artifacts, identity item = .ok artifact := by
  obtain ⟨artifact, hartifact, heq⟩ := List.mem_map.1 (h.subset (List.mem_map.2 ⟨item, hitem, rfl⟩))
  exact ⟨artifact, hartifact, heq.symm⟩

/-- A list of identities that are known by their digests. -/
theorem perm_map_ok (hitems : (items.map digestOf).Nodup) (hartifacts : artifacts.Nodup)
    (hdigest : ∀ {item artifact}, identity item = .ok artifact → artifact.digest = digestOf item)
    (hinto : ∀ item ∈ items, ∃ artifact ∈ artifacts, identity item = .ok artifact)
    (honto : ∀ artifact ∈ artifacts, ∃ item ∈ items, identity item = .ok artifact) :
    (items.map identity).Perm (artifacts.map .ok) := by
  have hnodup : (items.map identity).Nodup := by
    refine hitems.of_map.map_on ?_
    intro a ha b hb heq
    obtain ⟨artifact, -, hartifact⟩ := hinto a ha
    exact List.inj_on_of_nodup_map hitems ha hb
      ((hdigest hartifact).symm.trans (hdigest (heq ▸ hartifact)))
  have hnodup' :
      (artifacts.map fun artifact => (.ok artifact : Except FabricContractError _)).Nodup :=
    hartifacts.map fun _ _ => Except.ok.inj
  refine (List.perm_ext_iff_of_nodup hnodup hnodup').2 fun x => ?_
  simp only [List.mem_map]
  constructor
  · rintro ⟨item, hitem, rfl⟩
    obtain ⟨artifact, hartifact, hidentity⟩ := hinto item hitem
    exact ⟨artifact, hartifact, hidentity.symm⟩
  · rintro ⟨artifact, hartifact, rfl⟩
    exact honto artifact hartifact

namespace ProjectionChecks

variable (h : ProjectionChecks builder request candidate)
include h

theorem perm_quotes : (candidate.artifactQuotes.map (·.artifact)).Perm request.artifacts := by
  have hsubset : request.artifacts ⊆ candidate.artifactQuotes.map (·.artifact) :=
    fun artifact hartifact => by
      obtain ⟨quote, hquote, hprojected⟩ := h.projected artifact hartifact
      exact List.mem_map.2 ⟨quote, hquote, hprojected.identity⟩
  refine ((h.distinct.of_map.subperm hsubset).perm_of_length_le ?_).symm
  rw [List.length_map, h.size]

/-- Every quote is the one of an artifact. -/
theorem projected_quote {quote : ArtifactPlacementQuote}
    (hquote : quote ∈ candidate.artifactQuotes) :
    ProjectedArtifact builder request candidate quote.artifact quote := by
  obtain ⟨quote', hquote', hprojected⟩ := h.projected quote.artifact
    (h.perm_quotes.subset (List.mem_map.2 ⟨quote, hquote, rfl⟩))
  have heq : quote' = quote := List.inj_on_of_nodup_map h.distinctQuotes hquote' hquote
    (congrArg ArtifactRef.digest hprojected.identity)
  exact heq ▸ hprojected

theorem nodup_artifactsOn (transfer : Bool) :
    (artifactsOn transfer candidate.artifactQuotes).Nodup := by
  have hnodup := h.perm_quotes.nodup_iff.2 h.distinct.of_map
  exact hnodup.sublist (List.filter_sublist.map _)

/-- The artifact of an input is a requested one. -/
theorem exists_quote {digest : String} (hdigest : digest ∈ builder.artifacts.map (·.digest) ∨
    digest ∈ builder.localArtifacts.map (·.digest)) :
    ∃ quote ∈ candidate.artifactQuotes, quote.artifact.digest = digest := by
  obtain ⟨artifact, hartifact, rfl⟩ := List.mem_map.1 (h.expected digest hdigest)
  obtain ⟨quote, hquote, hprojected⟩ := h.projected artifact hartifact
  exact ⟨quote, hquote, congrArg ArtifactRef.digest hprojected.identity⟩

/-- The inputs of one side are those of the quotes for it. -/
theorem perm_side {transfer : Bool}
    (hdigest : ∀ {item artifact}, identity item = .ok artifact → artifact.digest = digestOf item)
    (hnodup : (items.map digestOf).Nodup)
    (hquoted : ∀ digest ∈ items.map digestOf,
      ∃ quote ∈ candidate.artifactQuotes, quote.artifact.digest = digest)
    (hside : ∀ quote ∈ candidate.artifactQuotes, quote.availability.isTransfer = transfer →
      ∃ item ∈ items, identity item = .ok quote.artifact)
    (hother : ∀ quote ∈ candidate.artifactQuotes, quote.availability.isTransfer ≠ transfer →
      quote.artifact.digest ∉ items.map digestOf) :
    (items.map identity).Perm ((artifactsOn transfer candidate.artifactQuotes).map .ok) := by
  refine perm_map_ok hnodup (h.nodup_artifactsOn transfer) hdigest (fun item hitem => ?_) ?_
  · have hmem : digestOf item ∈ items.map digestOf := List.mem_map.2 ⟨item, hitem, rfl⟩
    obtain ⟨quote, hquote, hsame⟩ := hquoted _ hmem
    have htransfer : quote.availability.isTransfer = transfer :=
      by_contra fun hne => hother quote hquote hne (hsame ▸ hmem)
    obtain ⟨item', hitem', hidentity⟩ := hside quote hquote htransfer
    have heq : item' = item :=
      List.inj_on_of_nodup_map hnodup hitem' hitem ((hdigest hidentity).symm.trans hsame)
    exact ⟨quote.artifact, mem_artifactsOn.2 ⟨quote, hquote, htransfer, rfl⟩, heq ▸ hidentity⟩
  · intro artifact hartifact
    obtain ⟨quote, hquote, htransfer, rfl⟩ := mem_artifactsOn.1 hartifact
    exact hside quote hquote htransfer

theorem perm_specs : (builder.artifacts.map artifactRefFromTransferSpec).Perm
    ((artifactsOn true candidate.artifactQuotes).map .ok) := by
  refine h.perm_side artifactRefFromTransferSpec_digest h.distinctSpecs
    (fun _ hdigest => h.exists_quote (.inl hdigest)) (fun quote hquote hside => ?_)
    fun quote hquote hside hspec => ?_
  · obtain ⟨-, spec, hspec, hidentity, -⟩ := (h.projected_quote hquote).transferred hside
    exact ⟨spec, hspec, hidentity⟩
  · obtain ⟨input, hinput, hidentity⟩ :=
      (h.projected_quote hquote).onNode (Bool.eq_false_iff.2 hside)
    exact h.disjoint _ hspec
      (List.mem_map.2 ⟨input, hinput, (artifactRefFromLocalInput_digest hidentity).symm⟩)

theorem projects : Projects builder request candidate where
  covers.distinct := h.distinct
  covers.quotes := h.perm_quotes
  covers.onNode := by
    refine h.perm_side artifactRefFromLocalInput_digest h.distinctInputs
      (fun _ hdigest => h.exists_quote (.inr hdigest))
      (fun quote hquote => (h.projected_quote hquote).onNode) fun quote hquote hside hinput => ?_
    obtain ⟨-, spec, hspec, hidentity, -⟩ :=
      (h.projected_quote hquote).transferred (Bool.not_eq_false _ ▸ hside)
    exact h.disjoint _
      (List.mem_map.2 ⟨spec, hspec, (artifactRefFromTransferSpec_digest hidentity).symm⟩) hinput
  covers.transferred := h.perm_specs
  valid := h.valid
  named := fun quote hquote => (h.quotes quote hquote).2
  distinctIds := h.distinctIds
  scope := fun quote hquote => (h.projected_quote hquote).scope
  destination := h.destination
  peers := fun spec hspec => by
    obtain ⟨artifact, hartifact, hidentity⟩ := exists_of_perm_ok h.perm_specs hspec
    obtain ⟨quote, hquote, hside, rfl⟩ := mem_artifactsOn.1 hartifact
    obtain ⟨-, spec', hspec', hidentity', hpeer⟩ := (h.projected_quote hquote).transferred hside
    have heq : spec' = spec := List.inj_on_of_nodup_map h.distinctSpecs hspec' hspec
      ((artifactRefFromTransferSpec_digest hidentity').symm.trans
        (artifactRefFromTransferSpec_digest hidentity))
    exact heq ▸ hpeer
  positive := fun artifact hartifact => by
    obtain ⟨quote, hquote, hside, rfl⟩ := mem_artifactsOn.1 hartifact
    exact ((h.projected_quote hquote).transferred hside).1

end ProjectionChecks

/-- The digest of an identity, when there is one. -/
def identityDigest : Except FabricContractError ArtifactRef → String
  | .ok artifact => artifact.digest
  | .error _ => ""

/-- The digests of inputs that are those of a list of artifacts. -/
theorem perm_digests
    (hdigest : ∀ {item artifact}, identity item = .ok artifact → artifact.digest = digestOf item)
    (h : (items.map identity).Perm (artifacts.map .ok)) :
    (items.map digestOf).Perm (artifacts.map (·.digest)) := by
  have hitems : (items.map identity).map identityDigest = items.map digestOf := by
    rw [List.map_map]
    refine List.map_congr_left fun item hitem => ?_
    obtain ⟨artifact, -, hartifact⟩ :=
      List.mem_map.1 (h.subset (List.mem_map.2 ⟨item, hitem, rfl⟩))
    simp only [Function.comp_apply, ← hartifact, identityDigest]
    exact hdigest hartifact.symm
  have hartifacts : (artifacts.map .ok).map identityDigest = artifacts.map (·.digest) := by
    rw [List.map_map]
    rfl
  rw [← hitems, ← hartifacts]
  exact h.map identityDigest

theorem exists_item_of_perm_ok (h : (items.map identity).Perm (artifacts.map .ok))
    {artifact : ArtifactRef} (hartifact : artifact ∈ artifacts) :
    ∃ item ∈ items, identity item = .ok artifact :=
  List.mem_map.1 (h.symm.subset (List.mem_map.2 ⟨artifact, hartifact, rfl⟩))

namespace CoversArtifacts

variable (h : CoversArtifacts builder request candidate)
include h

theorem nodup_quotes : (candidate.artifactQuotes.map (·.artifact.digest)).Nodup := by
  have hperm := h.quotes.map ArtifactRef.digest
  rw [List.map_map] at hperm
  exact hperm.nodup_iff.2 h.distinct

theorem nodup_digestsOn (transfer : Bool) :
    ((artifactsOn transfer candidate.artifactQuotes).map (·.digest)).Nodup := by
  rw [artifactsOn, List.map_map]
  exact h.nodup_quotes.sublist (List.filter_sublist.map _)

theorem mem_of_digestsOn {transfer : Bool} {digest : String}
    (hdigest : digest ∈ (artifactsOn transfer candidate.artifactQuotes).map (·.digest)) :
    digest ∈ request.artifacts.map (·.digest) := by
  obtain ⟨artifact, hartifact, rfl⟩ := List.mem_map.1 hdigest
  obtain ⟨quote, hquote, -, rfl⟩ := mem_artifactsOn.1 hartifact
  exact List.mem_map.2 ⟨_, h.quotes.subset (List.mem_map.2 ⟨quote, hquote, rfl⟩), rfl⟩

/-- No artifact is on both sides. -/
theorem disjoint_digestsOn {digest : String}
    (htransfer : digest ∈ (artifactsOn true candidate.artifactQuotes).map (·.digest)) :
    digest ∉ (artifactsOn false candidate.artifactQuotes).map (·.digest) := by
  intro hlocal
  obtain ⟨artifact, hartifact, rfl⟩ := List.mem_map.1 htransfer
  obtain ⟨quote, hquote, hside, rfl⟩ := mem_artifactsOn.1 hartifact
  obtain ⟨artifact', hartifact', hdigest⟩ := List.mem_map.1 hlocal
  obtain ⟨quote', hquote', hside', rfl⟩ := mem_artifactsOn.1 hartifact'
  have heq : quote' = quote := List.inj_on_of_nodup_map h.nodup_quotes hquote' hquote hdigest
  rw [heq, hside] at hside'
  cases hside'

theorem perm_specs :
    (builder.artifacts.map (·.digest)).Perm
      ((artifactsOn true candidate.artifactQuotes).map (·.digest)) :=
  perm_digests artifactRefFromTransferSpec_digest h.transferred

theorem perm_inputs :
    (builder.localArtifacts.map (·.digest)).Perm
      ((artifactsOn false candidate.artifactQuotes).map (·.digest)) :=
  perm_digests artifactRefFromLocalInput_digest h.onNode

end CoversArtifacts

theorem Projects.checks (h : Projects builder request candidate) :
    ProjectionChecks builder request candidate where
  valid := h.valid
  distinct := h.covers.distinct
  specs := fun spec hspec => by
    obtain ⟨artifact, -, hidentity⟩ := exists_of_perm_ok h.covers.transferred hspec
    exact ⟨artifact, hidentity⟩
  distinctSpecs := h.covers.perm_specs.nodup_iff.2 (h.covers.nodup_digestsOn true)
  inputs := fun input hinput => by
    obtain ⟨artifact, -, hidentity⟩ := exists_of_perm_ok h.covers.onNode hinput
    exact ⟨artifact, hidentity⟩
  distinctInputs := h.covers.perm_inputs.nodup_iff.2 (h.covers.nodup_digestsOn false)
  quotes := fun quote hquote =>
    ⟨h.valid _ (h.covers.quotes.subset (List.mem_map.2 ⟨quote, hquote, rfl⟩)), h.named quote hquote⟩
  distinctIds := h.distinctIds
  distinctQuotes := h.covers.nodup_quotes
  disjoint := fun digest hspec hinput => h.covers.disjoint_digestsOn
    (h.covers.perm_specs.subset hspec) (h.covers.perm_inputs.subset hinput)
  expected := fun digest hdigest => by
    rcases hdigest with hspec | hinput
    · exact h.covers.mem_of_digestsOn (h.covers.perm_specs.subset hspec)
    · exact h.covers.mem_of_digestsOn (h.covers.perm_inputs.subset hinput)
  size := by
    have hlength := h.covers.quotes.length_eq
    rwa [List.length_map] at hlength
  destination := h.destination
  projected := fun artifact hartifact => by
    obtain ⟨quote, hquote, rfl⟩ := List.mem_map.1 (h.covers.quotes.symm.subset hartifact)
    refine ⟨quote, hquote, rfl, h.scope quote hquote, fun hside => ?_, fun hside => ?_⟩
    · exact exists_item_of_perm_ok h.covers.onNode (mem_artifactsOn.2 ⟨quote, hquote, hside, rfl⟩)
    · have hmem := mem_artifactsOn.2 ⟨quote, hquote, hside, rfl⟩
      obtain ⟨spec, hspec, hidentity⟩ := exists_item_of_perm_ok h.covers.transferred hmem
      exact ⟨h.positive _ hmem, spec, hspec, hidentity, h.peers spec hspec⟩

/-- What is checked: the inputs are those of the quotes. -/
theorem validateArtifactProjection_eq_ok {u : Unit} :
    validateArtifactProjection builder request candidate = .ok u ↔
      Projects builder request candidate :=
  validateArtifactProjection_eq_ok_iff.trans ⟨ProjectionChecks.projects, Projects.checks⟩

/-- The order of the lists does not matter. -/
theorem Projects.reorder (h : Projects builder request candidate)
    {specs : List ArtifactTransferSpec} {inputs : List ArtifactLocalInput}
    {artifacts : List ArtifactRef} {quotes : List ArtifactPlacementQuote}
    (hspecs : specs.Perm builder.artifacts) (hinputs : inputs.Perm builder.localArtifacts)
    (hartifacts : artifacts.Perm request.artifacts)
    (hquotes : quotes.Perm candidate.artifactQuotes) :
    Projects ⟨specs, inputs⟩ { request with artifacts := artifacts }
      { candidate with artifactQuotes := quotes } := by
  have hside (transfer : Bool) :
      (artifactsOn transfer quotes).Perm (artifactsOn transfer candidate.artifactQuotes) :=
    (hquotes.filter _).map _
  refine ⟨⟨?_, ?_, ?_, ?_⟩, ?_, ?_, ?_, ?_, ?_, ?_, ?_⟩
  · exact (hartifacts.map _).nodup_iff.2 h.covers.distinct
  · exact ((hquotes.map _).trans h.covers.quotes).trans hartifacts.symm
  · exact ((hinputs.map _).trans h.covers.onNode).trans ((hside false).map _).symm
  · exact ((hspecs.map _).trans h.covers.transferred).trans ((hside true).map _).symm
  · exact fun artifact hartifact => h.valid artifact (hartifacts.subset hartifact)
  · exact fun quote hquote => h.named quote (hquotes.subset hquote)
  · exact (hquotes.map _).nodup_iff.2 h.distinctIds
  · exact fun quote hquote => h.scope quote (hquotes.subset hquote)
  · intro hne
    exact h.destination fun hempty => hne (List.perm_nil.1 (hempty ▸ hartifacts))
  · exact fun spec hspec => h.peers spec (hspecs.subset hspec)
  · exact fun artifact hartifact => h.positive artifact ((hside true).subset hartifact)

end Projects

/-! ### The projection of an eligible candidate -/

/-- The local input for an artifact. -/
def localInputOf (artifact : ArtifactRef) : ArtifactLocalInput where
  artifactUri := artifact.uri
  digest := artifact.digest
  sizeBytes := artifact.sizeBytes
  artifactKind := artifact.kind.value
  manifestDigest := artifact.manifestDigest.getD ""

/-- A transfer of an artifact, whose sources are not looked at here. -/
def transferSpecOf (destination : String) (artifact : ArtifactRef) : ArtifactTransferSpec where
  artifactUri := artifact.uri
  digest := artifact.digest
  sizeBytes := artifact.sizeBytes
  manifestDigest := artifact.manifestDigest.getD ""
  replicaUri := ""
  partSizeBytes := 0
  partDigests := []
  sources := []
  partSources := []
  destinationPeerId := destination
  artifactKind := artifact.kind.value

/-- The inputs that the quotes of a candidate prescribe. -/
def prescribedArtifacts (candidate : ExecutionTargetCandidate) : AssignmentArtifacts where
  artifacts := (artifactsOn true candidate.artifactQuotes).map
    (transferSpecOf candidate.artifactDestinationPeerId)
  localArtifacts := (artifactsOn false candidate.artifactQuotes).map localInputOf

section Agreement

variable {request : ExecutionPlacementRequest} {candidate : ExecutionTargetCandidate}
  {artifact : ArtifactRef}

theorem manifestDigestFromProto_getD {manifestDigest : Option String}
    (h : manifestDigest ≠ some "") :
    manifestDigestFromProto (manifestDigest.getD "") = manifestDigest := by
  cases manifestDigest with
  | none => rfl
  | some digest =>
    rw [Option.getD_some, manifestDigestFromProto, if_neg fun hempty => h (congrArg some hempty)]

theorem artifactKindFromProto_value (h : artifact.validate = .ok ()) :
    artifactKindFromProto artifact.kind.value = .ok artifact.kind := by
  rw [artifactKindFromProto, mapError_eq_ok, ArtifactRef.kind_of_validate h]

theorem artifactRefFromLocalInput_localInputOf (h : artifact.validate = .ok ()) :
    artifactRefFromLocalInput (localInputOf artifact) = .ok artifact := by
  have hmanifest := manifestDigestFromProto_getD (ArtifactRef.manifestDigest_of_validate h)
  simp only [artifactRefFromLocalInput, localInputOf, except_bind_eq_ok, mapError_eq_ok,
    except_pure_eq_ok, hmanifest, artifactKindFromProto_value h]
  exact ⟨artifact.kind, rfl, (), h, rfl⟩

theorem artifactRefFromTransferSpec_transferSpecOf {destination : String}
    (h : artifact.validate = .ok ()) :
    artifactRefFromTransferSpec (transferSpecOf destination artifact) = .ok artifact := by
  have hmanifest := manifestDigestFromProto_getD (ArtifactRef.manifestDigest_of_validate h)
  simp only [artifactRefFromTransferSpec, transferSpecOf, except_bind_eq_ok, mapError_eq_ok,
    except_pure_eq_ok, hmanifest, artifactKindFromProto_value h]
  exact ⟨artifact.kind, rfl, (), h, rfl⟩

theorem projects_prescribedArtifacts (heligible : Eligible request candidate)
    (hvalid : ∀ artifact ∈ request.artifacts, artifact.validate = .ok ())
    (hdistinct : (request.artifacts.map (·.digest)).Nodup)
    (hpositive : ∀ artifact ∈ artifactsOn true candidate.artifactQuotes, artifact.sizeBytes ≠ 0) :
    Projects (prescribedArtifacts candidate) request candidate := by
  have hvalidOn {transfer : Bool} {artifact : ArtifactRef}
      (hartifact : artifact ∈ artifactsOn transfer candidate.artifactQuotes) :
      artifact.validate = .ok () := by
    obtain ⟨quote, hquote, -, rfl⟩ := mem_artifactsOn.1 hartifact
    exact hvalid _ (heligible.quote.covers.subset (List.mem_map.2 ⟨quote, hquote, rfl⟩))
  refine ⟨⟨hdistinct, heligible.quote.covers, ?_, ?_⟩, hvalid, heligible.quote.named,
    heligible.quote.distinct, fun quote hquote => ?_, heligible.policy.destination, ?_, hpositive⟩
  · rw [prescribedArtifacts, List.map_map]
    exact .of_eq (List.map_congr_left fun _ hartifact =>
      artifactRefFromLocalInput_localInputOf (hvalidOn hartifact))
  · rw [prescribedArtifacts, List.map_map]
    exact .of_eq (List.map_congr_left fun _ hartifact =>
      artifactRefFromTransferSpec_transferSpecOf (hvalidOn hartifact))
  · exact ⟨(heligible.quote.usable quote hquote).destination,
      (heligible.quote.usable quote hquote).scope⟩
  · intro spec hspec
    obtain ⟨artifact, -, rfl⟩ := List.mem_map.1 hspec
    rfl

/-- An eligible candidate has inputs that pass the check when the artifacts are valid and none
without content is quoted as a transfer.  Inputs that pass cover the artifacts, in any order. -/
theorem validateArtifactProjection_agrees (request : ExecutionPlacementRequest)
    (candidate : ExecutionTargetCandidate) :
    ((evaluateCandidate request candidate).eligible = true →
      ((∃ builder, CoversArtifacts builder request candidate ∧
          validateArtifactProjection builder request candidate = .ok ()) ↔
        (∀ artifact ∈ request.artifacts, artifact.validate = .ok ()) ∧
        (request.artifacts.map (·.digest)).Nodup ∧
        ∀ artifact ∈ artifactsOn true candidate.artifactQuotes, artifact.sizeBytes ≠ 0)) ∧
    (∀ builder, validateArtifactProjection builder request candidate = .ok () →
      CoversArtifacts builder request candidate ∧
      ∀ specs inputs artifacts quotes, specs.Perm builder.artifacts →
        inputs.Perm builder.localArtifacts → artifacts.Perm request.artifacts →
        quotes.Perm candidate.artifactQuotes →
        validateArtifactProjection ⟨specs, inputs⟩ { request with artifacts := artifacts }
          { candidate with artifactQuotes := quotes } = .ok ()) := by
  refine ⟨fun heligible => ⟨?_, ?_⟩, fun builder hok => ?_⟩
  · rintro ⟨builder, hcovers, hok⟩
    have hprojects := validateArtifactProjection_eq_ok.1 hok
    exact ⟨hprojects.valid, hcovers.distinct, hprojects.positive⟩
  · rintro ⟨hvalid, hdistinct, hpositive⟩
    have hprojects := projects_prescribedArtifacts
      ((eligible_evaluateCandidate hdistinct).1 heligible) hvalid hdistinct hpositive
    exact ⟨_, hprojects.covers, validateArtifactProjection_eq_ok.2 hprojects⟩
  · have hprojects := validateArtifactProjection_eq_ok.1 hok
    refine ⟨hprojects.covers,
      fun specs inputs artifacts quotes hspecs hinputs hartifacts hquotes => ?_⟩
    exact validateArtifactProjection_eq_ok.2 (hprojects.reorder hspecs hinputs hartifacts hquotes)

/-- One input of the sample is taken from the node, and one is transferred. -/
theorem exists_projection_mixedCandidate :
    let request := sampleRequest [sampleArtifact 4, otherArtifact]
    ∃ builder, CoversArtifacts builder request mixedCandidate ∧
      validateArtifactProjection builder request mixedCandidate = .ok () :=
  ((validateArtifactProjection_agrees _ _).1 (by decide +kernel)).2
    ⟨by decide +kernel, by decide, by decide⟩

/-- An artifact without content that is quoted as a transfer has no projection. -/
theorem no_projection_of_empty_transfer :
    let candidate := sampleCandidate sampleNode
      [sampleQuote "quote-1" (sampleArtifact 0) (.authorizedTransfer ⟨0, 1, 5, 7, 2000⟩)]
    validateRequest (sampleRequest [sampleArtifact 0]) = .ok () ∧
      (evaluateCandidate (sampleRequest [sampleArtifact 0]) candidate).eligible = true ∧
      ∀ builder, validateArtifactProjection builder (sampleRequest [sampleArtifact 0]) candidate ≠
        .ok () := by
  refine ⟨by decide +kernel, by decide +kernel, fun builder hok => ?_⟩
  have hprojects := validateArtifactProjection_eq_ok.1 hok
  exact hprojects.positive (sampleArtifact 0) (by decide) rfl

end Agreement

end CyreneKernel.Fabric
