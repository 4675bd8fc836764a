import Mathlib.Algebra.BigOperators.Group.List.Basic
import Mathlib.Data.List.Perm.Subperm
import Mathlib.Tactic.MkIffOfInductiveProp
import CyreneKernel.Fabric.Placement

/-!
# Eligible candidates

A candidate is eligible when its evaluation finds no reason against it.  This is the case exactly
when it satisfies a list of conditions, in which the quotes of its artifacts are summed up without
bounds.

The loop over the artifacts adds one quote after the other.  As long as the sums fit their types
this is an exact addition (`tallyArtifact_eq_ok_iff`), and the sums only grow, so that they fit at
every step when they fit in the end.

## Main definitions

* `Eligible`: the conditions, in groups.
* `exactScore`: the sums of the quotes.

## Main results

* `tallyArtifacts_eq_nil_iff`: the loop over the artifacts.
* `eligible_evaluateCandidate_iff`: the evaluation finds no reason.
-/

namespace CyreneKernel.Fabric

open Lib

/-! ### Conditions -/

section Conditions

variable (request : ExecutionPlacementRequest) (candidate : ExecutionTargetCandidate)

/-- The node, its lifecycle and its provider. -/
@[mk_iff] structure IdentityConditions : Prop where
  node : candidate.node.nodeId ≠ "" ∧ candidate.node.nodeEpoch ≠ 0
  policyFacts : candidate.residency ≠ "" ∧ candidate.trustDomain ≠ ""
  available : candidate.availableAtUnixMs ≠ 0
  online : candidate.lifecycleState = .online
  explicit : candidate.attachment ≠ .unspecified ∧ candidate.restartCapability ≠ .unspecified
  attachment : request.allowedAttachments.isEmpty = true ∨
    candidate.attachment ∈ request.allowedAttachments
  persistent : ∀ value, request.persistent = some value → value = candidate.persistent
  restart : ∀ value, request.restartCapability = some value → value = candidate.restartCapability
  provider : candidate.provider.validate = .ok () ∧ candidate.providerSnapshot.validate = .ok () ∧
    candidate.provider.identity = candidate.providerSnapshot.provider
  ready : candidate.provider.state = .ready
  current : candidate.providerSnapshot.sampledAtUnixMs ≤ request.nowUnixMs ∧
    request.nowUnixMs < candidate.providerSnapshot.expiresAtUnixMs

/-- A capability that describes the execution as the candidate does. -/
structure DescribesExecution (capability : Capability) : Prop where
  id : capability.id = executionCapabilityId
  attachment : capability.properties["attachment_type"]? = some candidate.attachment.asStrName
  persistent : capability.properties["persistent"]? = some (toString candidate.persistent)
  restart : capability.properties["restart_capability"]? =
    some candidate.restartCapability.asStrName
  behavior : ∀ property,
    (true, property) ∈ requiredBehavior request (artifactTransferRequired candidate) →
      capability.properties[property]? = some "true"

@[mk_iff] structure CapabilityConditions : Prop where
  valid : ∀ capability ∈ candidate.capabilities, capability.validate = .ok ()
  distinct : (candidate.capabilities.map (·.id)).Nodup
  execution : ∃ capability ∈ candidate.capabilities,
    DescribesExecution request candidate capability
  requirements : ∀ requirement ∈ request.capabilityRequirements,
    ∃ capability ∈ candidate.capabilities, requirement.matchesCapability capability
  transfers : (∃ quote ∈ candidate.artifactQuotes, quote.availability.isTransfer) →
    ∃ capability ∈ candidate.capabilities, transfersArtifacts capability

@[mk_iff] structure PolicyConditions : Prop where
  residency : request.policy.allowedResidencies.isEmpty = true ∨
    candidate.residency ∈ request.policy.allowedResidencies
  trustDomain : ∀ domain, request.policy.requiredTrustDomain = some domain →
    domain = candidate.trustDomain
  classifications : ∀ value ∈ request.policy.requiredClassifications,
    value ∈ candidate.classifications
  policyTags : ∀ value ∈ request.policy.requiredPolicyTags, value ∈ candidate.policyTags
  destination : request.artifacts ≠ [] → candidate.artifactDestinationPeerId ≠ "" ∧
    candidate.artifactDestinationPeerId ≠ candidate.node.nodeId

/-- Enough resources are ready. -/
def ResourceCondition : Prop :=
  request.resourceQuery.count ≤ (candidate.providerSnapshot.resources.filter fun resource =>
    resource.state = .ready ∧ request.resourceQuery.matchesResource resource).length

/-- What a quote says about how the artifact gets to the node. -/
def ArtifactPlacementQuote.Evidenced (quote : ArtifactPlacementQuote) : Prop :=
  match quote.availability with
  | .verifiedLocal inventoryGeneration => inventoryGeneration ≠ 0
  | .authorizedTransfer transfer =>
    transfer.bytesToTransfer = quote.artifact.sizeBytes ∧ transfer.sourceCount ≠ 0 ∧
      quote.validUntilUnixMs ≤ transfer.authorizationValidUntilUnixMs

/-- A quote for the destination and the scope that is current. -/
@[mk_iff] structure ArtifactPlacementQuote.Usable (quote : ArtifactPlacementQuote) : Prop where
  destination : quote.destinationPeerId = candidate.artifactDestinationPeerId
  scope : quote.policyScope = request.artifactPolicyScope
  observed : quote.observedAtUnixMs ≠ 0 ∧ quote.observedAtUnixMs ≤ request.nowUnixMs
  current : request.nowUnixMs < quote.validUntilUnixMs
  evidenced : quote.Evidenced

end Conditions

/-! ### Sums -/

namespace ArtifactScore

/-- Add a quote, without bounds. -/
def add (score : ArtifactScore) (quote : ArtifactPlacementQuote) : ArtifactScore :=
  match quote.availability with
  | .verifiedLocal _ => { score with localBytes := score.localBytes + quote.artifact.sizeBytes }
  | .authorizedTransfer transfer =>
    { score with
      transferBytes := score.transferBytes + transfer.bytesToTransfer
      estimatedTransferMillis := score.estimatedTransferMillis + transfer.estimatedTransferMillis
      costMicrounits := score.costMicrounits + transfer.costMicrounits
      sourceCount := score.sourceCount + transfer.sourceCount }

/-- The sums fit their types. -/
structure Fits (score : ArtifactScore) : Prop where
  localBytes : score.localBytes ≤ u64Max
  transferBytes : score.transferBytes ≤ u64Max
  estimatedTransferMillis : score.estimatedTransferMillis ≤ u64Max
  costMicrounits : score.costMicrounits ≤ u64Max
  sourceCount : score.sourceCount ≤ u32Max

end ArtifactScore

/-- The bytes of an artifact that is on the node. -/
def ArtifactPlacementQuote.localBytes (quote : ArtifactPlacementQuote) : Nat :=
  match quote.availability with
  | .verifiedLocal _ => quote.artifact.sizeBytes
  | .authorizedTransfer _ => 0

/-- A number of the transfer of an artifact. -/
def ArtifactPlacementQuote.ofTransfer (f : ArtifactTransferQuote → Nat)
    (quote : ArtifactPlacementQuote) : Nat :=
  match quote.availability with
  | .verifiedLocal _ => 0
  | .authorizedTransfer transfer => f transfer

/-- The exact sums of the quotes. -/
def exactScore (quotes : List ArtifactPlacementQuote) : ArtifactScore where
  localBytes := (quotes.map (·.localBytes)).sum
  transferBytes := (quotes.map (·.ofTransfer (·.bytesToTransfer))).sum
  estimatedTransferMillis := (quotes.map (·.ofTransfer (·.estimatedTransferMillis))).sum
  costMicrounits := (quotes.map (·.ofTransfer (·.costMicrounits))).sum
  sourceCount := (quotes.map (·.ofTransfer (·.sourceCount))).sum

/-- The instant at which a candidate is ready. -/
def readyAt (request : ExecutionPlacementRequest) (candidate : ExecutionTargetCandidate) : Nat :=
  max request.nowUnixMs candidate.availableAtUnixMs +
    (exactScore candidate.artifactQuotes).estimatedTransferMillis

def totalCost (candidate : ExecutionTargetCandidate) : Nat :=
  candidate.executionCostMicrounits + (exactScore candidate.artifactQuotes).costMicrounits

/-- The quotes correspond to the artifacts, and last until the candidate is ready. -/
structure QuoteConditions (request : ExecutionPlacementRequest)
    (candidate : ExecutionTargetCandidate) : Prop where
  named : ∀ quote ∈ candidate.artifactQuotes, quote.quoteId ≠ ""
  distinct : (candidate.artifactQuotes.map (·.quoteId)).Nodup
  covers : (candidate.artifactQuotes.map (·.artifact)).Perm request.artifacts
  usable : ∀ quote ∈ candidate.artifactQuotes, quote.Usable request candidate
  outlives : ∀ quote ∈ candidate.artifactQuotes,
    readyAt request candidate < quote.validUntilUnixMs

/-- The sums fit their types, and keep to the limits of the request. -/
structure SumConditions (request : ExecutionPlacementRequest)
    (candidate : ExecutionTargetCandidate) : Prop where
  fits : (exactScore candidate.artifactQuotes).Fits
  costFits : totalCost candidate ≤ u64Max
  readyFits : readyAt request candidate ≤ u64Max
  cost : ∀ maximum, request.policy.maximumTotalCostMicrounits = some maximum →
    totalCost candidate ≤ maximum
  deadline : ∀ latest, request.latestStartUnixMs = some latest → readyAt request candidate ≤ latest

/-- The conditions under which a candidate is eligible. -/
structure Eligible (request : ExecutionPlacementRequest) (candidate : ExecutionTargetCandidate) :
    Prop where
  identity : IdentityConditions request candidate
  capability : CapabilityConditions request candidate
  policy : PolicyConditions request candidate
  resource : ResourceCondition request candidate
  quote : QuoteConditions request candidate
  sum : SumConditions request candidate

/-! ### Reasons against a candidate -/

section Reasons

variable {request : ExecutionPlacementRequest} {candidate : ExecutionTargetCandidate}

@[simp] theorem reasonIf_eq_nil {p : Prop} [Decidable p] {reasonCode message : String} :
    reasonIf p reasonCode message = [] ↔ ¬ p := by
  unfold reasonIf
  split
  · next h => simp [h]
  · next h => simp [h]

theorem isOk_eq_false_iff {ε : Type} {x : Except ε Unit} : x.isOk = false ↔ ¬ x = .ok () := by
  cases x with
  | ok u | error e => simp [Except.isOk, Except.toBool]

theorem any_ne_iff {α : Type} [DecidableEq α] {o : Option α} {a : α} :
    o.any (· ≠ a) = true ↔ ¬ ∀ value, o = some value → value = a := by
  cases o with
  | none => simp
  | some value => simp

theorem validateCandidateIdentity_eq_nil :
    validateCandidateIdentity request candidate = [] ↔ IdentityConditions request candidate := by
  simp only [validateCandidateIdentity, List.append_eq_nil_iff, reasonIf_eq_nil,
    isOk_eq_false_iff, any_ne_iff, not_or, not_not, not_and, not_lt, not_le]
  simp only [identityConditions_iff, or_iff_not_imp_left, Bool.not_eq_true, ne_eq, and_assoc]

theorem anyInvalidCapability_eq_false {capabilities : List Capability} {ids : BTreeSet String} :
    anyInvalidCapability capabilities ids = false ↔
      (∀ capability ∈ capabilities, capability.validate = .ok ()) ∧
        Fresh (·.id) (· ∈ ids) capabilities := by
  induction capabilities generalizing ids with
  | nil => simp [anyInvalidCapability, Fresh]
  | cons capability rest ih =>
    have hok : capability.validate.isOk = true ↔ capability.validate = .ok () := by
      rw [← Bool.not_eq_false, isOk_eq_false_iff, not_not]
    have hid : ids.contains capability.id = false ↔ capability.id ∉ ids := by
      rw [Bool.eq_false_iff, ne_eq, Std.ExtTreeSet.contains_iff_mem]
    simp only [anyInvalidCapability, Bool.or_eq_false_iff, Bool.not_eq_false', hok, hid, ih,
      List.forall_mem_cons, fresh_cons, BTreeSet.mem_insert]
    exact and_and_and_comm

theorem find?_eq_some_of_unique {α : Type} {l : List α} {p : α → Bool} {a : α} (ha : a ∈ l)
    (hp : p a) (hunique : ∀ b ∈ l, p b → b = a) : l.find? p = some a := by
  cases hfind : l.find? p with
  | none => exact absurd hp (List.find?_eq_none.1 hfind a ha)
  | some b =>
    rw [hunique b (List.mem_of_find?_eq_some hfind) (List.find?_some hfind)]

theorem revision_ne_zero_of_validate {capability : Capability} {u : Unit}
    (h : capability.validate = .ok u) : capability.revision ≠ 0 := by
  intro hzero
  simp only [Capability.validate, if_pos hzero, except_bind_eq_ok, except_throw_eq_ok, false_and,
    exists_false, and_false] at h

/-- The first capability with the id of the execution is the only one. -/
theorem find?_execution {capability : Capability} {p : Capability → Bool}
    (hdistinct : (candidate.capabilities.map (·.id)).Nodup)
    (hmem : capability ∈ candidate.capabilities) (hid : capability.id = executionCapabilityId)
    (hp : p capability) (hall : ∀ c, p c → c.id = executionCapabilityId) :
    candidate.capabilities.find? p = some capability := by
  refine find?_eq_some_of_unique hmem hp fun other hother hpother => ?_
  exact List.inj_on_of_nodup_map hdistinct hother hmem ((hall other hpother).trans hid.symm)

/-- What `validateExecutionCapability` and the required behaviour ask for. -/
theorem describesExecution_iff (hvalid : ∀ c ∈ candidate.capabilities, c.validate = .ok ())
    (hdistinct : (candidate.capabilities.map (·.id)).Nodup) :
    (validateExecutionCapability candidate.capabilities candidate.attachment candidate.persistent
        candidate.restartCapability = .ok () ∧
      ∀ behavior ∈ requiredBehavior request (artifactTransferRequired candidate),
        behavior.1 = true → (candidate.capabilities.find? (·.id = executionCapabilityId)).bind
          (·.properties[behavior.2]?) = some "true") ↔
      ∃ capability ∈ candidate.capabilities, DescribesExecution request candidate capability := by
  simp only [validateExecutionCapability, except_bind_eq_ok, foundOr_eq_ok, failIf_eq_ok]
  constructor
  · rintro ⟨⟨capability, hfind, hfields⟩, hbehavior⟩
    have hmem := List.mem_of_find?_eq_some hfind
    have hfound := List.find?_some hfind
    have hid : capability.id = executionCapabilityId := (of_decide_eq_true hfound).1
    have hfirst : candidate.capabilities.find? (·.id = executionCapabilityId) = some capability :=
      find?_execution hdistinct hmem hid (by simp [hid]) (by simp)
    rw [hfirst] at hbehavior
    simp only [List.mem_cons, List.not_mem_nil, or_false, exists_eq_or_imp, exists_eq_left, not_or,
      not_not] at hfields
    obtain ⟨hattachment, hpersistent, hrestart⟩ := hfields
    exact ⟨capability, hmem, hid, hattachment, hpersistent, hrestart, fun property hproperty =>
      hbehavior (true, property) hproperty rfl⟩
  · rintro ⟨capability, hmem, h⟩
    have hrevision : 1 ≤ capability.revision :=
      Nat.one_le_iff_ne_zero.2 (revision_ne_zero_of_validate (hvalid capability hmem))
    have hfirst : candidate.capabilities.find? (·.id = executionCapabilityId) = some capability :=
      find?_execution hdistinct hmem h.id (by simp [h.id]) (by simp)
    refine ⟨⟨capability, ?_, ?_⟩, ?_⟩
    · refine find?_execution hdistinct hmem h.id (by simp [h.id, hrevision]) fun c hc => ?_
      exact (of_decide_eq_true hc).1
    · simp [h.attachment, h.persistent, h.restart]
    · rintro ⟨required, property⟩ hbehavior rfl
      rw [hfirst]
      exact h.behavior property hbehavior

theorem validateCapabilities_eq_nil :
    validateCapabilities request candidate = [] ↔ CapabilityConditions request candidate := by
  have htransfer : artifactTransferRequired candidate = true ↔
      ∃ quote ∈ candidate.artifactQuotes, quote.availability.isTransfer := List.any_eq_true
  simp only [validateCapabilities, List.append_eq_nil_iff, reasonIf_eq_nil, isOk_eq_false_iff,
    List.flatMap_eq_nil_iff, not_not, Bool.not_eq_true, anyInvalidCapability_eq_false,
    Std.ExtTreeSet.not_mem_empty, fresh_false, List.all_eq_true, List.any_eq_true, htransfer]
  simp only [capabilityConditions_iff, not_and_not_right, and_assoc]
  refine and_congr_right fun hvalid => and_congr_right fun hdistinct => ?_
  rw [← describesExecution_iff hvalid hdistinct, and_assoc]
  exact and_congr_right fun _ => and_left_comm

theorem isSubset_eq_true {s t : BTreeSet String} :
    isSubset s t = true ↔ ∀ value ∈ s, value ∈ t := by
  simp [isSubset]

theorem validatePolicy_eq_nil :
    validatePolicy request candidate = [] ↔ PolicyConditions request candidate := by
  rw [validatePolicy, List.append_eq_nil_iff, reasonIf_eq_nil, reasonIf_eq_nil, not_not]
  simp only [policyFactsMatch, Bool.and_eq_true, Bool.or_eq_true, isSubset_eq_true,
    Std.ExtTreeSet.contains_iff_mem, not_and, not_or, policyConditions_iff, Option.all_eq_true,
    beq_iff_eq, and_assoc, ne_eq]

theorem matchResources_eq_none :
    matchResources request.resourceQuery candidate.providerSnapshot = none ↔
      ¬ ResourceCondition request candidate := by
  simp only [matchResources, List.length_map, ResourceCondition, not_le]
  split
  · next h => exact ⟨fun _ => h, fun _ => rfl⟩
  · next h => exact ⟨nofun, fun hlt => absurd hlt h⟩

end Reasons

/-! ### The quotes by their digests -/

section Quotes

variable {quotes : List ArtifactPlacementQuote} {indexed : BTreeMap String ArtifactPlacementQuote}
  {ids : BTreeSet String}

theorem indexQuotes_fst :
    (indexQuotes quotes indexed ids).1 =
      BTreeMap.insertAll (fun quote => quote.artifact.digest) indexed quotes := by
  induction quotes generalizing indexed ids with
  | nil => rfl
  | cons quote rest ih => exact ih

theorem indexQuotes_snd_eq_nil :
    (indexQuotes quotes indexed ids).2 = [] ↔
      (∀ quote ∈ quotes, quote.quoteId ≠ "") ∧ Fresh (·.quoteId) (· ∈ ids) quotes ∧
        Fresh (·.artifact.digest) (· ∈ indexed) quotes := by
  induction quotes generalizing indexed ids with
  | nil => simp [indexQuotes, Fresh]
  | cons quote rest ih =>
    simp only [indexQuotes, List.append_eq_nil_iff, reasonIf_eq_nil, not_or,
      Std.ExtTreeMap.contains_iff_mem, ih, List.forall_mem_cons, fresh_cons,
      Std.ExtTreeMap.mem_insert, Std.compare_eq_iff_eq]
    by_cases hname : quote.quoteId = ""
    · simp [hname]
    · simp only [if_neg hname, BTreeSet.mem_insert]
      tauto

end Quotes

/-! ### The loop over the artifacts -/

namespace ArtifactScore

variable {score : ArtifactScore} {quote : ArtifactPlacementQuote}
  {quotes : List ArtifactPlacementQuote}

theorem Fits.of_add (h : (score.add quote).Fits) : score.Fits := by
  obtain ⟨hlocal, hbytes, hmillis, hcost, hsources⟩ := h
  unfold add at *
  split at hlocal <;> constructor <;> simp_all <;> omega

/-- The sums only grow. -/
theorem Fits.of_foldl_add (h : (quotes.foldl add score).Fits) : score.Fits := by
  induction quotes generalizing score with
  | nil => exact h
  | cons quote quotes ih => exact (ih h).of_add

theorem foldl_add (score : ArtifactScore) (quotes : List ArtifactPlacementQuote) :
    quotes.foldl add score =
      ⟨score.localBytes + (exactScore quotes).localBytes,
        score.transferBytes + (exactScore quotes).transferBytes,
        score.estimatedTransferMillis + (exactScore quotes).estimatedTransferMillis,
        score.costMicrounits + (exactScore quotes).costMicrounits,
        score.sourceCount + (exactScore quotes).sourceCount⟩ := by
  induction quotes generalizing score with
  | nil => rfl
  | cons quote quotes ih =>
    rw [List.foldl_cons, ih]
    simp only [exactScore, List.map_cons, List.sum_cons, add, ArtifactPlacementQuote.localBytes,
      ArtifactPlacementQuote.ofTransfer]
    cases quote.availability <;> simp only [Nat.add_assoc, Nat.zero_add]

end ArtifactScore

theorem exactScore_perm {quotes quotes' : List ArtifactPlacementQuote} (h : quotes.Perm quotes') :
    exactScore quotes = exactScore quotes' := by
  simp only [exactScore, (h.map _).sum_eq]

namespace ArtifactTally

/-- Add a quote, without bounds. -/
def add (tally : ArtifactTally) (quote : ArtifactPlacementQuote) : ArtifactTally :=
  match quote.availability with
  | .verifiedLocal _ =>
    { tally with
      score := tally.score.add quote
      hasLocalArtifacts := true
      localValidUntilUnixMs := min tally.localValidUntilUnixMs quote.validUntilUnixMs }
  | .authorizedTransfer transfer =>
    { tally with
      score := tally.score.add quote
      transferValidUntilUnixMs := min (min tally.transferValidUntilUnixMs quote.validUntilUnixMs)
        transfer.authorizationValidUntilUnixMs }

variable {tally : ArtifactTally} {quotes : List ArtifactPlacementQuote}

theorem score_add (tally : ArtifactTally) (quote : ArtifactPlacementQuote) :
    (tally.add quote).score = tally.score.add quote := by
  unfold add
  split <;> rfl

theorem score_foldl_add : (quotes.foldl add tally).score = quotes.foldl .add tally.score := by
  induction quotes generalizing tally with
  | nil => rfl
  | cons quote quotes ih => rw [List.foldl_cons, ih, score_add, List.foldl_cons]

end ArtifactTally

section Tally

variable {request : ExecutionPlacementRequest} {candidate : ExecutionTargetCandidate}
  {indexed : BTreeMap String ArtifactPlacementQuote} {tally tally' : ArtifactTally}
  {artifact : ArtifactRef} {quote : ArtifactPlacementQuote}

theorem checkedAdd_eq_some {limit a b c : Nat} :
    checkedAdd limit a b = some c ↔ a + b ≤ limit ∧ c = a + b := by
  unfold checkedAdd
  split
  · next h => simp [h, eq_comm]
  · next h => simp [h]

variable (hfits : tally.score.Fits)

include hfits

theorem tallyLocal_eq_ok {inventoryGeneration : Nat}
    (h : quote.availability = .verifiedLocal inventoryGeneration)
    (hartifact : quote.artifact = artifact) :
    tallyLocal tally artifact quote inventoryGeneration = .ok tally' ↔
      quote.Evidenced ∧ (tally.score.add quote).Fits ∧ tally' = tally.add quote := by
  subst hartifact
  simp only [tallyLocal, except_bind_eq_ok, except_pure_eq_ok, failIf_eq_ok, foundOr_eq_ok,
    checkedAdd_eq_some, ArtifactPlacementQuote.Evidenced, ArtifactTally.add, ArtifactScore.add, h]
  constructor
  · rintro ⟨-, hgeneration, -, ⟨hbytes, rfl⟩, rfl⟩
    exact ⟨hgeneration, { hfits with localBytes := hbytes }, rfl⟩
  · rintro ⟨hgeneration, hadd, rfl⟩
    exact ⟨(), hgeneration, _, ⟨hadd.localBytes, rfl⟩, rfl⟩

theorem tallyTransfer_eq_ok {transfer : ArtifactTransferQuote}
    (h : quote.availability = .authorizedTransfer transfer)
    (hartifact : quote.artifact = artifact) :
    tallyTransfer tally artifact quote transfer = .ok tally' ↔
      quote.Evidenced ∧ (tally.score.add quote).Fits ∧ tally' = tally.add quote := by
  subst hartifact
  simp only [tallyTransfer, except_bind_eq_ok, except_pure_eq_ok, failIf_eq_ok, foundOr_eq_ok,
    Option.bind_eq_bind, Option.bind_eq_some_iff, Option.pure_def, Option.some.injEq,
    checkedAdd_eq_some, ArtifactPlacementQuote.Evidenced, ArtifactTally.add, ArtifactScore.add, h,
    not_or, not_not, not_lt]
  constructor
  · rintro ⟨-, ⟨hbytes, hsource⟩, _, ⟨hmillis, rfl⟩, -, hauthorized, -, ⟨_, ⟨hsum, rfl⟩, _,
      ⟨hcost, rfl⟩, _, ⟨hsources, rfl⟩, rfl⟩, rfl⟩
    exact ⟨⟨hbytes, hsource, hauthorized⟩, ⟨hfits.localBytes, hsum, hmillis, hcost, hsources⟩, rfl⟩
  · rintro ⟨⟨hbytes, hsource, hauthorized⟩, hadd, rfl⟩
    exact ⟨(), ⟨hbytes, hsource⟩, _, ⟨hadd.estimatedTransferMillis, rfl⟩, (), hauthorized, _,
      ⟨_, ⟨hadd.transferBytes, rfl⟩, _, ⟨hadd.costMicrounits, rfl⟩, _,
        ⟨hadd.sourceCount, rfl⟩, rfl⟩,
      rfl⟩

/-- One step of the loop: as long as the sums fit, it adds the quote of the artifact. -/
theorem tallyArtifact_eq_ok_iff :
    tallyArtifact request candidate indexed tally artifact = .ok tally' ↔
      ∃ quote, indexed[artifact.digest]? = some quote ∧ quote.artifact = artifact ∧
        quote.Usable request candidate ∧ (tally.score.add quote).Fits ∧
        tally' = tally.add quote := by
  simp only [tallyArtifact, except_bind_eq_ok, failIf_eq_ok, foundOr_eq_ok, not_or, not_not, not_lt,
    not_le]
  have havailability : ∀ quote : ArtifactPlacementQuote, quote.artifact = artifact →
      ((match quote.availability with
        | .verifiedLocal generation => tallyLocal tally artifact quote generation
        | .authorizedTransfer transfer => tallyTransfer tally artifact quote
          transfer) = .ok tally' ↔
      quote.Evidenced ∧ (tally.score.add quote).Fits ∧ tally' = tally.add quote) := by
    intro quote hartifact
    split
    · next h => exact tallyLocal_eq_ok hfits h hartifact
    · next h => exact tallyTransfer_eq_ok hfits h hartifact
  refine exists_congr fun quote => and_congr_right fun _ => ?_
  simp only [exists_const, ArtifactPlacementQuote.usable_iff, and_assoc]
  refine and_congr_right fun hartifact => ?_
  repeat refine and_congr_right fun _ => ?_
  exact havailability quote hartifact

/-- A run of the loop without a reason adds a usable quote for every artifact. -/
theorem tallyArtifacts_eq_nil_iff {artifacts : List ArtifactRef} :
    tallyArtifacts request candidate indexed tally artifacts = (tally', []) ↔
      ∃ quotes, List.Forall₂ (fun artifact quote => indexed[artifact.digest]? = some quote ∧
          quote.artifact = artifact ∧ quote.Usable request candidate) artifacts quotes ∧
        (quotes.foldl .add tally.score).Fits ∧ tally' = quotes.foldl .add tally := by
  induction artifacts generalizing tally with
  | nil =>
    simp only [tallyArtifacts, Prod.mk.injEq, and_true, List.forall₂_nil_left_iff, exists_eq_left,
      List.foldl_nil]
    exact ⟨fun h => ⟨hfits, h.symm⟩, fun h => h.2.symm⟩
  | cons artifact artifacts ih =>
    rw [tallyArtifacts]
    simp only [List.forall₂_cons_left_iff]
    constructor
    · intro h
      split at h
      · next next hstep =>
        obtain ⟨quote, hquote, hartifact, husable, hadd, rfl⟩ :=
          (tallyArtifact_eq_ok_iff hfits).1 hstep
        obtain ⟨quotes, hquotes, hsum, rfl⟩ := (ih (by rwa [ArtifactTally.score_add])).1 h
        rw [ArtifactTally.score_add] at hsum
        exact ⟨quote :: quotes, ⟨quote, quotes, ⟨hquote, hartifact, husable⟩, hquotes, rfl⟩, hsum,
          rfl⟩
      · simp at h
    · rintro ⟨_, ⟨quote, quotes, ⟨hquote, hartifact, husable⟩, hquotes, rfl⟩, hsum, rfl⟩
      have hadd : (tally.score.add quote).Fits := ArtifactScore.Fits.of_foldl_add hsum
      have hstep := (tallyArtifact_eq_ok_iff hfits).2 ⟨quote, hquote, hartifact, husable, hadd, rfl⟩
      rw [hstep]
      refine (ih (by rwa [ArtifactTally.score_add])).2 ⟨quotes, hquotes, ?_, rfl⟩
      rwa [ArtifactTally.score_add]

end Tally

/-! ### Readiness -/

namespace ArtifactTally

variable {tally : ArtifactTally} {quotes : List ArtifactPlacementQuote} {n : Nat}

theorem hasLocalArtifacts_foldl_add :
    (quotes.foldl add tally).hasLocalArtifacts = true ↔
      tally.hasLocalArtifacts = true ∨ ∃ quote ∈ quotes, quote.availability.isTransfer = false := by
  induction quotes generalizing tally with
  | nil => simp
  | cons quote quotes ih =>
    rw [List.foldl_cons, ih]
    simp only [add, List.mem_cons, exists_eq_or_imp]
    cases quote.availability <;> simp [ArtifactAvailability.isTransfer]

theorem lt_localValidUntil_foldl_add :
    n < (quotes.foldl add tally).localValidUntilUnixMs ↔
      n < tally.localValidUntilUnixMs ∧
        ∀ quote ∈ quotes, quote.availability.isTransfer = false → n < quote.validUntilUnixMs := by
  induction quotes generalizing tally with
  | nil => simp
  | cons quote quotes ih =>
    rw [List.foldl_cons, ih]
    simp only [add, List.forall_mem_cons]
    cases quote.availability <;> simp [ArtifactAvailability.isTransfer, and_assoc]

theorem lt_transferValidUntil_foldl_add :
    n < (quotes.foldl add tally).transferValidUntilUnixMs ↔
      n < tally.transferValidUntilUnixMs ∧
        ∀ quote ∈ quotes, ∀ transfer, quote.availability = .authorizedTransfer transfer →
          n < quote.validUntilUnixMs ∧ n < transfer.authorizationValidUntilUnixMs := by
  induction quotes generalizing tally with
  | nil => simp
  | cons quote quotes ih =>
    rw [List.foldl_cons, ih]
    simp only [add, List.forall_mem_cons]
    cases quote.availability <;> simp [and_assoc]

end ArtifactTally

/-- There are sources when there are transfers. -/
theorem sourceCount_exactScore_pos {quotes : List ArtifactPlacementQuote}
    (h : ∀ quote ∈ quotes, quote.Evidenced) :
    0 < (exactScore quotes).sourceCount ↔ ∃ quote ∈ quotes, quote.availability.isTransfer := by
  rw [exactScore, List.sum_pos_iff_exists_pos_nat]
  simp only [List.mem_map, exists_exists_and_eq_and]
  refine exists_congr fun quote => and_congr_right fun hmem => ?_
  have hevidenced := h quote hmem
  simp only [ArtifactPlacementQuote.Evidenced] at hevidenced
  simp only [ArtifactPlacementQuote.ofTransfer]
  cases havailability : quote.availability with
  | verifiedLocal generation => simp [ArtifactAvailability.isTransfer]
  | authorizedTransfer transfer =>
    rw [havailability] at hevidenced
    simpa [ArtifactAvailability.isTransfer, Nat.pos_iff_ne_zero] using hevidenced.2.1

section Readiness

variable {request : ExecutionPlacementRequest} {candidate : ExecutionTargetCandidate}
  {quotes : List ArtifactPlacementQuote}

theorem score_foldl_empty (quotes : List ArtifactPlacementQuote) :
    (quotes.foldl ArtifactTally.add .empty).score = exactScore quotes := by
  rw [ArtifactTally.score_foldl_add, ArtifactScore.foldl_add]
  simp [ArtifactTally.empty]

/-- When the quotes are evidenced and the instant fits its type, they have to last until then. -/
theorem readinessReasons_eq_nil (hevidenced : ∀ quote ∈ quotes, quote.Evidenced)
    (hfits : max request.nowUnixMs candidate.availableAtUnixMs +
      (exactScore quotes).estimatedTransferMillis ≤ u64Max) :
    readinessReasons request candidate (quotes.foldl .add .empty) = [] ↔
      ∀ quote ∈ quotes, max request.nowUnixMs candidate.availableAtUnixMs +
        (exactScore quotes).estimatedTransferMillis < quote.validUntilUnixMs := by
  have hready := checkedAdd_eq_some.2 ⟨hfits, rfl⟩
  simp only [readinessReasons, score_foldl_empty, hready, List.append_eq_nil_iff, reasonIf_eq_nil,
    not_and, not_le, gt_iff_lt, ge_iff_le, sourceCount_exactScore_pos hevidenced,
    ArtifactTally.hasLocalArtifacts_foldl_add, ArtifactTally.lt_localValidUntil_foldl_add,
    ArtifactTally.lt_transferValidUntil_foldl_add]
  generalize max request.nowUnixMs candidate.availableAtUnixMs +
    (exactScore quotes).estimatedTransferMillis = ready
  constructor
  · rintro ⟨hlocal, htransfer⟩ quote hquote
    cases havailability : quote.availability with
    | verifiedLocal generation =>
      have hkind : quote.availability.isTransfer = false := by rw [havailability]; rfl
      exact (hlocal (.inr ⟨quote, hquote, hkind⟩)).2 quote hquote hkind
    | authorizedTransfer transfer =>
      have hkind : quote.availability.isTransfer = true := by rw [havailability]; rfl
      exact ((htransfer ⟨quote, hquote, hkind⟩).2 quote hquote transfer havailability).1
  · intro h
    refine ⟨?_, ?_⟩
    · rintro (hnone | ⟨quote, hquote, -⟩)
      · cases hnone
      · exact ⟨(h quote hquote).trans_le quote.validUntil_le, fun other hother _ => h other hother⟩
    · rintro ⟨quote, hquote, -⟩
      refine ⟨(h quote hquote).trans_le quote.validUntil_le,
        fun other hother transfer htransfer => ?_⟩
      have hauthorized := hevidenced other hother
      simp only [ArtifactPlacementQuote.Evidenced, htransfer] at hauthorized
      exact ⟨h other hother, (h other hother).trans_le hauthorized.2.2⟩

end Readiness

/-! ### Eligibility -/

section Eligibility

variable {request : ExecutionPlacementRequest} {candidate : ExecutionTargetCandidate}

theorem validateArtifacts_eq_ok {artifacts : List ArtifactRef} {digests : BTreeSet String}
    {u : Unit} :
    validateArtifacts artifacts digests = .ok u ↔
      (∀ artifact ∈ artifacts, artifact.validate = .ok ()) ∧
        Fresh (·.digest) (· ∈ digests) artifacts := by
  induction artifacts generalizing digests with
  | nil => simp [validateArtifacts, Fresh]
  | cons artifact rest ih =>
    simp only [validateArtifacts, except_bind_eq_ok, mapError_eq_ok, failIf_eq_ok, ih,
      exists_const, List.forall_mem_cons, fresh_cons, BTreeSet.mem_insert]
    tauto

/-- The artifacts of a valid request are valid, and no two have the same digest. -/
theorem artifacts_of_validateRequest {u : Unit} (h : validateRequest request = .ok u) :
    (∀ artifact ∈ request.artifacts, artifact.validate = .ok ()) ∧
      (request.artifacts.map (·.digest)).Nodup := by
  simp only [validateRequest, except_bind_eq_ok] at h
  obtain ⟨-, -, -, -, -, -, -, -, -, -, -, -, _, hartifacts, -⟩ := h
  obtain ⟨hvalid, hfresh⟩ := validateArtifacts_eq_ok.1 hartifacts
  exact ⟨hvalid, hfresh.2⟩

theorem exists_of_mem_right {α β : Type} {R : α → β → Prop} {l : List α} {l' : List β}
    (h : List.Forall₂ R l l') {b : β} (hb : b ∈ l') : ∃ a ∈ l, R a b := by
  induction h with
  | nil => cases hb
  | cons hab _ ih =>
    rcases List.mem_cons.1 hb with rfl | hb
    · exact ⟨_, List.mem_cons_self, hab⟩
    · obtain ⟨a, ha, hr⟩ := ih hb
      exact ⟨a, List.mem_cons_of_mem _ ha, hr⟩

theorem exists_forall₂ {α β : Type} {R : α → β → Prop} {l : List α} (h : ∀ a ∈ l, ∃ b, R a b) :
    ∃ l', List.Forall₂ R l l' := by
  induction l with
  | nil => exact ⟨[], .nil⟩
  | cons a l ih =>
    obtain ⟨b, hb⟩ := h a List.mem_cons_self
    obtain ⟨l', hl'⟩ := ih fun a ha => h a (List.mem_cons_of_mem _ ha)
    exact ⟨b :: l', .cons hb hl'⟩

/-- The items by the digests that they have. -/
def byDigest {α : Type} (digestOf : α → String) (items : List α) : BTreeMap String α :=
  BTreeMap.insertAll digestOf ∅ items

section ByDigest

variable {α : Type} {digestOf : α → String} {items : List α}
  (hnodup : (items.map digestOf).Nodup)

include hnodup

theorem byDigest_eq_some {digest : String} {item : α} :
    (byDigest digestOf items)[digest]? = some item ↔ item ∈ items ∧ digestOf item = digest := by
  rw [byDigest, BTreeMap.getElem?_insertAll hnodup]
  simp

theorem mem_byDigest {digest : String} :
    digest ∈ byDigest digestOf items ↔ digest ∈ items.map digestOf := by
  rw [Std.ExtTreeMap.mem_iff_isSome_getElem?, Option.isSome_iff_exists, List.mem_map]
  simp only [byDigest_eq_some hnodup]

theorem size_byDigest : (byDigest digestOf items).size = items.length := by
  rw [byDigest, BTreeMap.size_insertAll hnodup fun _ _ => Std.ExtTreeMap.not_mem_empty,
    Std.ExtTreeMap.size_empty, Nat.zero_add]

/-- The order of the items does not matter. -/
theorem byDigest_perm {items' : List α} (h : items.Perm items') :
    byDigest digestOf items' = byDigest digestOf items := by
  refine Std.ExtTreeMap.ext_getElem? fun digest => Option.ext fun item => ?_
  rw [byDigest_eq_some ((h.map _).nodup_iff.1 hnodup), byDigest_eq_some hnodup, h.mem_iff]

end ByDigest

/-- The quotes of a list by the digests of their artifacts. -/
abbrev quotesByDigest (quotes : List ArtifactPlacementQuote) :
    BTreeMap String ArtifactPlacementQuote :=
  byDigest (·.artifact.digest) quotes

variable {quotes : List ArtifactPlacementQuote}

/-- The quotes that the loop finds for the artifacts are those of the candidate. -/
theorem perm_of_forall₂ {found : List ArtifactPlacementQuote} {artifacts : List ArtifactRef}
    (hartifacts : (artifacts.map (·.digest)).Nodup)
    (hquotes : (quotes.map (·.artifact.digest)).Nodup)
    (hlength : quotes.length = artifacts.length)
    (h : List.Forall₂ (fun artifact quote => (quotesByDigest quotes)[artifact.digest]? =
      some quote ∧ quote.artifact = artifact) artifacts found) :
    found.Perm quotes ∧ found.map (·.artifact) = artifacts := by
  have hmap : artifacts = found.map (·.artifact) := by
    rw [← List.forall₂_eq_eq_eq, List.forall₂_map_right_iff]
    exact h.imp fun _ _ hab => hab.2.symm
  have hnodup : found.Nodup := by
    rw [hmap, List.map_map] at hartifacts
    exact hartifacts.of_map
  have hsubset : found ⊆ quotes := fun quote hquote => by
    obtain ⟨artifact, -, hlookup, -⟩ := exists_of_mem_right h hquote
    exact ((byDigest_eq_some hquotes).1 hlookup).1
  refine ⟨(hnodup.subperm hsubset).perm_of_length_le ?_, hmap.symm⟩
  rw [hlength, hmap, List.length_map]

theorem fits_empty : ArtifactTally.empty.score.Fits :=
  ⟨Nat.zero_le _, Nat.zero_le _, Nat.zero_le _, Nat.zero_le _, Nat.zero_le _⟩

/-- The parts of an evaluation of the artifacts that finds no reason. -/
theorem evaluateArtifacts_eq_nil {score : ArtifactScore} :
    evaluateArtifacts request candidate = (score, []) ↔
      ((∀ quote ∈ candidate.artifactQuotes, quote.quoteId ≠ "") ∧
        (candidate.artifactQuotes.map (·.quoteId)).Nodup ∧
        (candidate.artifactQuotes.map (·.artifact.digest)).Nodup) ∧
      candidate.artifactQuotes.length = request.artifacts.length ∧
      ∃ tally, tallyArtifacts request candidate (quotesByDigest candidate.artifactQuotes) .empty
          request.artifacts = (tally, []) ∧
        readinessReasons request candidate tally = [] ∧ score = tally.score := by
  have hindexed : (indexQuotes candidate.artifactQuotes ∅ ∅).1 =
      quotesByDigest candidate.artifactQuotes := indexQuotes_fst
  simp only [evaluateArtifacts, hindexed, Prod.mk.injEq, List.append_eq_nil_iff, reasonIf_eq_nil,
    indexQuotes_snd_eq_nil, Std.ExtTreeSet.not_mem_empty, Std.ExtTreeMap.not_mem_empty, fresh_false,
    not_not]
  constructor
  · rintro ⟨rfl, ⟨⟨hindex, hsize⟩, htally⟩, hready⟩
    rw [size_byDigest hindex.2.2] at hsize
    exact ⟨hindex, hsize, _, Prod.ext rfl htally, hready, rfl⟩
  · rintro ⟨hindex, hsize, tally, htally, hready, rfl⟩
    rw [htally, size_byDigest hindex.2.2]
    exact ⟨rfl, ⟨⟨hindex, hsize⟩, rfl⟩, hready⟩

/-- The evaluation of the artifacts finds no reason when the quotes correspond to the artifacts. -/
theorem evaluateArtifacts_iff (hartifacts : (request.artifacts.map (·.digest)).Nodup)
    {score : ArtifactScore} :
    evaluateArtifacts request candidate = (score, []) ∧
        max request.nowUnixMs candidate.availableAtUnixMs + score.estimatedTransferMillis ≤ u64Max ↔
      QuoteConditions request candidate ∧ (exactScore candidate.artifactQuotes).Fits ∧
        readyAt request candidate ≤ u64Max ∧ score = exactScore candidate.artifactQuotes := by
  rw [evaluateArtifacts_eq_nil]
  constructor
  · rintro ⟨⟨⟨hnamed, hdistinct, hdigests⟩, hlength, tally, htally, hready, rfl⟩, hfits⟩
    obtain ⟨found, hfound, hsum, rfl⟩ := (tallyArtifacts_eq_nil_iff fits_empty).1 htally
    obtain ⟨hperm, hcovers⟩ := perm_of_forall₂ hartifacts hdigests hlength
      (hfound.imp fun _ _ h => ⟨h.1, h.2.1⟩)
    have husable : ∀ quote ∈ found, quote.Usable request candidate := fun quote hquote => by
      obtain ⟨_, -, -, -, husable⟩ := exists_of_mem_right hfound hquote
      exact husable
    rw [← ArtifactTally.score_foldl_add, score_foldl_empty, exactScore_perm hperm] at hsum
    rw [score_foldl_empty] at hfits ⊢
    rw [readinessReasons_eq_nil (fun quote hquote => (husable quote hquote).evidenced)
      hfits] at hready
    rw [exactScore_perm hperm] at hready hfits ⊢
    refine ⟨⟨hnamed, hdistinct, ?_, fun quote hquote => husable quote (hperm.mem_iff.2 hquote),
      fun quote hquote => hready quote (hperm.mem_iff.2 hquote)⟩, hsum, hfits, rfl⟩
    rw [← hcovers]
    exact hperm.symm.map _
  · rintro ⟨h, hsum, hfits, rfl⟩
    have hdigests : (candidate.artifactQuotes.map (·.artifact.digest)).Nodup := by
      have hperm := h.covers.map (·.digest)
      rw [List.map_map] at hperm
      exact hperm.nodup_iff.2 hartifacts
    have hlength : candidate.artifactQuotes.length = request.artifacts.length := by
      rw [← h.covers.length_eq, List.length_map]
    obtain ⟨found, hfound⟩ : ∃ found, List.Forall₂ (fun artifact quote =>
        (quotesByDigest candidate.artifactQuotes)[artifact.digest]? = some quote ∧
          quote.artifact = artifact ∧ quote.Usable request candidate) request.artifacts found := by
      refine exists_forall₂ fun artifact hartifact => ?_
      obtain ⟨quote, hquote, rfl⟩ := List.mem_map.1 (h.covers.mem_iff.2 hartifact)
      exact ⟨quote, (byDigest_eq_some hdigests).2 ⟨hquote, rfl⟩, rfl, h.usable quote hquote⟩
    obtain ⟨hperm, -⟩ := perm_of_forall₂ hartifacts hdigests hlength
      (hfound.imp fun _ _ h => ⟨h.1, h.2.1⟩)
    refine ⟨⟨⟨h.named, h.distinct, hdigests⟩, hlength, found.foldl .add .empty, ?_, ?_, ?_⟩, hfits⟩
    · refine (tallyArtifacts_eq_nil_iff fits_empty).2 ⟨found, hfound, ?_, rfl⟩
      rwa [← ArtifactTally.score_foldl_add, score_foldl_empty, exactScore_perm hperm]
    · have hevidenced : ∀ quote ∈ found, quote.Evidenced := fun quote hquote =>
        (h.usable quote (hperm.mem_iff.1 hquote)).evidenced
      rw [readinessReasons_eq_nil hevidenced (by rwa [exactScore_perm hperm]),
        exactScore_perm hperm]
      exact fun quote hquote => h.outlives quote (hperm.mem_iff.1 hquote)
    · rw [score_foldl_empty, exactScore_perm hperm]

theorem costReasons_eq_nil {total : Option Nat} :
    costReasons request total = [] ↔ ∃ cost, total = some cost ∧
      ∀ maximum, request.policy.maximumTotalCostMicrounits = some maximum → cost ≤ maximum := by
  cases total with
  | none => simp [costReasons]
  | some cost =>
    cases hmaximum : request.policy.maximumTotalCostMicrounits with
    | none | some maximum => simp [costReasons, hmaximum]

theorem startReasons_eq_nil {estimated : Option Nat} :
    startReasons request estimated = [] ↔ ∃ ready, estimated = some ready ∧
      ∀ latest, request.latestStartUnixMs = some latest → ready ≤ latest := by
  cases estimated with
  | none => simp [startReasons]
  | some ready =>
    cases hlatest : request.latestStartUnixMs with
    | none | some latest => simp [startReasons, hlatest]

/-- The score of a candidate, from exact sums. -/
def placementScore (request : ExecutionPlacementRequest) (candidate : ExecutionTargetCandidate) :
    PlacementScore where
  localArtifactBytes := (exactScore candidate.artifactQuotes).localBytes
  transferBytes := (exactScore candidate.artifactQuotes).transferBytes
  estimatedTransferMillis := (exactScore candidate.artifactQuotes).estimatedTransferMillis
  totalCostMicrounits := totalCost candidate
  estimatedReadyAtUnixMs := readyAt request candidate
  reliabilityScore := candidate.reliabilityScore

/-- The reasons of an evaluation, by the part that finds them. -/
theorem evaluationReasons_eq_nil :
    evaluationReasons request candidate = [] ↔
      IdentityConditions request candidate ∧ CapabilityConditions request candidate ∧
      PolicyConditions request candidate ∧ ResourceCondition request candidate ∧
      (evaluateArtifacts request candidate).2 = [] ∧
      (∃ cost, totalCostMicrounits request candidate = some cost ∧
        ∀ maximum, request.policy.maximumTotalCostMicrounits = some maximum → cost ≤ maximum) ∧
      ∃ ready, estimatedReadyAtUnixMs request candidate = some ready ∧
        ∀ latest, request.latestStartUnixMs = some latest → ready ≤ latest := by
  simp only [evaluationReasons, List.append_eq_nil_iff, reasonIf_eq_nil,
    validateCandidateIdentity_eq_nil, validateCapabilities_eq_nil, validatePolicy_eq_nil,
    matchResources_eq_none, not_not, costReasons_eq_nil, startReasons_eq_nil, and_assoc]

section

variable (hartifacts : (request.artifacts.map (·.digest)).Nodup)

include hartifacts

theorem evaluationScore_eq_some {score : PlacementScore} :
    evaluationScore request candidate = some score ↔
      Eligible request candidate ∧ score = placementScore request candidate := by
  rw [evaluationScore, Option.ite_none_right_eq_some, evaluationReasons_eq_nil]
  constructor
  · rintro ⟨⟨hidentity, hcapability, hpolicy, hresource, hartifact, ⟨cost, hcost, hmaximum⟩, ready,
      hready, hlatest⟩, hsome⟩
    rw [hcost, hready] at hsome
    obtain rfl := Option.some.inj hsome
    obtain ⟨hcostFits, rfl⟩ := checkedAdd_eq_some.1 hcost
    obtain ⟨hreadyFits, rfl⟩ := checkedAdd_eq_some.1 hready
    have hsplit : evaluateArtifacts request candidate =
        ((evaluateArtifacts request candidate).1, []) := Prod.ext rfl hartifact
    obtain ⟨hquote, hfits, hreadyFits, hexact⟩ :=
      (evaluateArtifacts_iff hartifacts).1 ⟨hsplit, hreadyFits⟩
    rw [hexact] at hcostFits hmaximum hlatest ⊢
    exact ⟨⟨hidentity, hcapability, hpolicy, hresource, hquote,
      hfits, hcostFits, hreadyFits, hmaximum, hlatest⟩, rfl⟩
  · rintro ⟨h, rfl⟩
    obtain ⟨hartifact, -⟩ :=
      (evaluateArtifacts_iff hartifacts).2 ⟨h.quote, h.sum.fits, h.sum.readyFits, rfl⟩
    have hcost : totalCostMicrounits request candidate = some (totalCost candidate) := by
      rw [totalCostMicrounits, hartifact]
      exact checkedAdd_eq_some.2 ⟨h.sum.costFits, rfl⟩
    have hready : estimatedReadyAtUnixMs request candidate = some (readyAt request candidate) := by
      rw [estimatedReadyAtUnixMs, hartifact]
      exact checkedAdd_eq_some.2 ⟨h.sum.readyFits, rfl⟩
    rw [hcost, hready, hartifact]
    exact ⟨⟨h.identity, h.capability, h.policy, h.resource, rfl, ⟨_, rfl, h.sum.cost⟩, _, rfl,
      h.sum.deadline⟩, rfl⟩

theorem eligible_evaluateCandidate :
    (evaluateCandidate request candidate).eligible = true ↔ Eligible request candidate := by
  simp only [evaluateCandidate, Option.isSome_iff_exists]
  constructor
  · rintro ⟨score, hscore⟩
    exact ((evaluationScore_eq_some hartifacts).1 hscore).1
  · intro h
    exact ⟨_, (evaluationScore_eq_some hartifacts).2 ⟨h, rfl⟩⟩

theorem score_evaluateCandidate (h : Eligible request candidate) :
    (evaluateCandidate request candidate).score = some (placementScore request candidate) := by
  simp only [evaluateCandidate]
  exact (evaluationScore_eq_some hartifacts).2 ⟨h, rfl⟩

end

/-- The evaluation of a candidate for a valid request finds it eligible under the conditions, and
then its score has the exact sums. -/
theorem eligible_evaluateCandidate_iff (h : validateRequest request = .ok ())
    (candidate : ExecutionTargetCandidate) :
    ((evaluateCandidate request candidate).eligible = true ↔ Eligible request candidate) ∧
      (Eligible request candidate →
        (evaluateCandidate request candidate).score = some (placementScore request candidate)) := by
  have hartifacts := (artifacts_of_validateRequest h).2
  exact ⟨eligible_evaluateCandidate hartifacts, score_evaluateCandidate hartifacts⟩

end Eligibility

/-! ### A sample -/

def sampleArtifact (sizeBytes : Nat) : ArtifactRef where
  uri := "artifact://sha256/0123456789abcdef0123456789abcdef0123456789abcdef0123456789abcdef"
  digest := "sha256:0123456789abcdef0123456789abcdef0123456789abcdef0123456789abcdef"
  sizeBytes := sizeBytes
  kind := ⟨"generic"⟩
  manifestDigest := none

def otherArtifact : ArtifactRef where
  uri := "artifact://sha256/fedcba9876543210fedcba9876543210fedcba9876543210fedcba9876543210"
  digest := "sha256:fedcba9876543210fedcba9876543210fedcba9876543210fedcba9876543210"
  sizeBytes := 8
  kind := ⟨"generic"⟩
  manifestDigest := none

def sampleRequest (artifacts : List ArtifactRef) : ExecutionPlacementRequest where
  capabilityRequirements := []
  resourceQuery := ⟨"cyrene.gpu", 1, [], ∅⟩
  allowedAttachments := ∅
  persistent := none
  restartCapability := none
  checkpointResume := false
  network := ⟨false, false, false⟩
  artifacts := artifacts
  artifactPolicyScope := "scope-1"
  policy := ⟨∅, none, ∅, ∅, none⟩
  latestStartUnixMs := none
  nowUnixMs := 1000

/-- A quote for the artifact that is valid for a second. -/
def sampleQuote (quoteId : String) (artifact : ArtifactRef) (availability : ArtifactAvailability) :
    ArtifactPlacementQuote where
  quoteId := quoteId
  artifact := artifact
  destinationPeerId := "peer-1"
  policyScope := "scope-1"
  observedAtUnixMs := 1000
  validUntilUnixMs := 2000
  availability := availability
  validUntil_le := by decide

def sampleResource : Resource where
  identity := ⟨"resource-1", 1⟩
  provider := ⟨"provider-1", 1⟩
  resourceClass := "cyrene.gpu"
  capabilities := []
  capacity := ∅
  attributes := ∅
  state := .ready
  reasonCode := "ready"
  summary := "healthy"
  links := []

def sampleCandidate (node : Control.NodeRef) (quotes : List ArtifactPlacementQuote) :
    ExecutionTargetCandidate where
  node := node
  lifecycleState := .online
  attachment := .hostAgent
  persistent := true
  restartCapability := .hostSupervised
  capabilities :=
    [ ⟨executionCapabilityId, 1, .ofList
        [ ("attachment_type", "EXECUTION_ATTACHMENT_TYPE_HOST_AGENT"), ("persistent", "true")
        , ("restart_capability", "RESTART_CAPABILITY_HOST_SUPERVISED"), ("outbound_https", "true")
        , ("peer_transfer", "true") ] compare⟩
    , ⟨artifactTransferCapabilityId, 1, .ofList
        [ ("https_range", "true"), ("multipart", "true"), ("resume", "true")
        , ("peer_transfer", "true") ] compare⟩ ]
  provider := ⟨⟨"provider-1", 1⟩, .ready, []⟩
  providerSnapshot :=
    { provider := ⟨"provider-1", 1⟩
      snapshotGeneration := 1
      resources := [sampleResource]
      workers := []
      endpoints := []
      sampledAtUnixMs := 1000
      expiresAtUnixMs := 2000 }
  residency := "residency-1"
  trustDomain := "domain-1"
  classifications := ∅
  policyTags := ∅
  artifactDestinationPeerId := "peer-1"
  artifactQuotes := quotes
  executionCostMicrounits := 5
  availableAtUnixMs := 1000
  reliabilityScore := 1

def sampleNode : Control.NodeRef := ⟨"node-1", 1⟩

theorem validateRequest_sampleRequest :
    validateRequest (sampleRequest [sampleArtifact 4]) = .ok () := by
  decide +kernel

/-- A candidate that has one artifact, and to which the other one is transferred. -/
def mixedCandidate : ExecutionTargetCandidate :=
  sampleCandidate sampleNode
    [ sampleQuote "quote-2" otherArtifact (.authorizedTransfer ⟨8, 1, 5, 7, 2000⟩)
    , sampleQuote "quote-1" (sampleArtifact 4) (.verifiedLocal 1) ]

theorem eligible_mixedCandidate :
    Eligible (sampleRequest [sampleArtifact 4, otherArtifact]) mixedCandidate :=
  (eligible_evaluateCandidate_iff (by decide +kernel) _).1.1 (by decide +kernel)

/-- A quote that says that the artifact is on the node needs the generation of an inventory. -/
theorem not_eligible_without_inventory :
    let request := sampleRequest [sampleArtifact 4]
    let candidate := sampleCandidate sampleNode
      [sampleQuote "quote-1" (sampleArtifact 4) (.verifiedLocal 0)]
    validateRequest request = .ok () ∧ IdentityConditions request candidate ∧
      CapabilityConditions request candidate ∧ PolicyConditions request candidate ∧
      ResourceCondition request candidate ∧
      (candidate.artifactQuotes.map (·.artifact)).Perm request.artifacts ∧
      (∀ quote ∈ candidate.artifactQuotes,
        quote.destinationPeerId = candidate.artifactDestinationPeerId ∧
        quote.policyScope = request.artifactPolicyScope ∧
        quote.observedAtUnixMs ≤ request.nowUnixMs ∧ request.nowUnixMs < quote.validUntilUnixMs ∧
        readyAt request candidate < quote.validUntilUnixMs) ∧
      SumConditions request candidate ∧
      (evaluateCandidate request candidate).eligible = false := by
  refine ⟨validateRequest_sampleRequest, validateCandidateIdentity_eq_nil.1 (by decide +kernel),
    validateCapabilities_eq_nil.1 (by decide +kernel), validatePolicy_eq_nil.1 (by decide +kernel),
    ?_, .refl _, by decide, ⟨⟨by decide, by decide, by decide, by decide, by decide⟩, by decide,
    by decide, nofun, nofun⟩, by decide +kernel⟩
  rw [← not_not (a := ResourceCondition _ _), ← matchResources_eq_none]
  decide +kernel

end CyreneKernel.Fabric
