import Mathlib.Data.List.Perm.Basic
import CyreneKernel.Fabric.Eligibility

/-!
# The selected candidate

The evaluations of the candidates are sorted, and the first eligible one is selected.  The
comparison is a lexicographic order of the scores and the nodes, so that the selected candidate is
the least eligible one.

The decision does not depend on the order of the candidates, of their quotes and of the artifacts,
except for the reasons against some candidates: one that quotes an artifact twice is evaluated with
its last quote, and where sums do not fit their types, the reasons depend on which of them fail.

## Main definitions

* `Precedes`: the order of the evaluations.
* `Reordered`, `SameDecision`: inputs in another order, and what stays the same.

## Main results

* `compareEvaluations_eq_lt`: the comparison is this order.
* `planExecutionPlacement_reordered`: the decision about reordered inputs.
-/

namespace CyreneKernel.Fabric

open Lib
open Control (NodeRef)
open Std (TransCmp)

/-! ### The order of the evaluations -/

section Order

/-- The order of eligible evaluations: more local bytes, less transfer time, fewer bytes, less cost,
an earlier start, a higher reliability, then the id and the epoch of the node. -/
def Precedes (left right : PlacementScore × NodeRef) : Prop :=
  right.1.localArtifactBytes < left.1.localArtifactBytes ∨
    right.1.localArtifactBytes = left.1.localArtifactBytes ∧
  (left.1.estimatedTransferMillis < right.1.estimatedTransferMillis ∨
    left.1.estimatedTransferMillis = right.1.estimatedTransferMillis ∧
  (left.1.transferBytes < right.1.transferBytes ∨
    left.1.transferBytes = right.1.transferBytes ∧
  (left.1.totalCostMicrounits < right.1.totalCostMicrounits ∨
    left.1.totalCostMicrounits = right.1.totalCostMicrounits ∧
  (left.1.estimatedReadyAtUnixMs < right.1.estimatedReadyAtUnixMs ∨
    left.1.estimatedReadyAtUnixMs = right.1.estimatedReadyAtUnixMs ∧
  (right.1.reliabilityScore < left.1.reliabilityScore ∨
    right.1.reliabilityScore = left.1.reliabilityScore ∧
  (left.2.nodeId < right.2.nodeId ∨ left.2.nodeId = right.2.nodeId ∧
    left.2.nodeEpoch < right.2.nodeEpoch))))))

theorem compare_string_eq_lt {a b : String} : compare a b = .lt ↔ a < b := by
  have hcompare : compare a b = compareOfLessAndEq a b := rfl
  rw [hcompare, compareOfLessAndEq]
  by_cases hlt : a < b
  · simp [hlt]
  · by_cases heq : a = b <;> simp [hlt, heq]

theorem compareEvaluations_eq_lt {left right : CandidateEvaluation} {score score' : PlacementScore}
    (hleft : left.score = some score) (hright : right.score = some score') :
    compareEvaluations left right = .lt ↔ Precedes (score, left.node) (score', right.node) := by
  simp only [compareEvaluations, hleft, hright, compareNodes, Ordering.then_eq_lt,
    compare_string_eq_lt, Std.compare_eq_lt, Std.compare_eq_iff_eq, Precedes]

/-- What the comparison looks at. -/
def rank (evaluation : CandidateEvaluation) : Option PlacementScore × NodeRef :=
  (evaluation.score, evaluation.node)

/-- A number of a score; ranks without a score are compared by their nodes only. -/
def rankNumber (f : PlacementScore → Nat) (r : Option PlacementScore × NodeRef) : Nat :=
  match r.1 with
  | some score => f score
  | none => 0

/-- Compare the larger numbers first. -/
def descending {α : Type} (f : α → Nat) (left right : α) : Ordering := compareOn f right left

instance {α : Type} (f : α → Nat) : TransCmp (descending f) :=
  inferInstanceAs (TransCmp fun left right => compareOn f right left)

def compareRanks : Option PlacementScore × NodeRef → Option PlacementScore × NodeRef → Ordering :=
  compareLex (compareOn fun r => if r.1.isSome then 0 else 1) <|
  compareLex (descending (rankNumber (·.localArtifactBytes))) <|
  compareLex (compareOn (rankNumber (·.estimatedTransferMillis))) <|
  compareLex (compareOn (rankNumber (·.transferBytes))) <|
  compareLex (compareOn (rankNumber (·.totalCostMicrounits))) <|
  compareLex (compareOn (rankNumber (·.estimatedReadyAtUnixMs))) <|
  compareLex (descending (rankNumber (·.reliabilityScore))) <|
  compareLex (compareOn (·.2.nodeId)) (compareOn (·.2.nodeEpoch))

instance : TransCmp compareRanks := by
  unfold compareRanks
  infer_instance

theorem compareEvaluations_eq :
    compareEvaluations = fun left right => compareRanks (rank left) (rank right) := by
  funext ⟨node, _, _, _, score⟩ ⟨node', _, _, _, score'⟩
  cases score with
  | none | some score =>
    cases score' with
    | none => rfl
    | some score' => rfl

instance : TransCmp compareEvaluations := by
  rw [compareEvaluations_eq]
  exact transCmp_on rank compareRanks

/-- Ranks that compare equal are of the same node. -/
theorem node_eq_of_compareRanks {left right : Option PlacementScore × NodeRef}
    (h : compareRanks left right = .eq) : left.2 = right.2 := by
  simp only [compareRanks, compareLex, compareOn, Ordering.then_eq_eq, Std.compare_eq_iff_eq] at h
  obtain ⟨-, -, -, -, -, -, -, hid, hepoch⟩ := h
  obtain ⟨_, ⟨_, _⟩⟩ := left
  obtain ⟨_, ⟨_, _⟩⟩ := right
  exact congrArg₂ NodeRef.mk hid hepoch

end Order

/-! ### Inputs in another order -/

/-- The same candidate, with its quotes in another order. -/
structure Reordered (candidate candidate' : ExecutionTargetCandidate) : Prop where
  rest : candidate' = { candidate with artifactQuotes := candidate'.artifactQuotes }
  quotes : candidate.artifactQuotes.Perm candidate'.artifactQuotes

/-- The same request, with its artifacts in another order. -/
structure Permuted (request request' : ExecutionPlacementRequest) : Prop where
  rest : request' = { request with artifacts := request'.artifacts }
  artifacts : request.artifacts.Perm request'.artifacts

/-- The candidate does not quote an artifact twice, and its sums fit their types. -/
structure ExecutionTargetCandidate.Tidy (candidate : ExecutionTargetCandidate) : Prop where
  distinct : (candidate.artifactQuotes.map (·.artifact.digest)).Nodup
  fits : (exactScore candidate.artifactQuotes).Fits

section Reordering

variable {request request' : ExecutionPlacementRequest}
  {candidate candidate' : ExecutionTargetCandidate}

theorem Reordered.symm (h : Reordered candidate candidate') : Reordered candidate' candidate := by
  refine ⟨?_, h.quotes.symm⟩
  rw [h.rest]

theorem totalCost_reordered (h : Reordered candidate candidate') :
    totalCost candidate' = totalCost candidate := by
  rw [totalCost, totalCost, exactScore_perm h.quotes, h.rest]

variable (hrequest : Permuted request request')

include hrequest

theorem Permuted.symm : Permuted request' request := by
  refine ⟨?_, hrequest.artifacts.symm⟩
  rw [hrequest.rest]

theorem Permuted.eq_nil_iff : request'.artifacts = [] ↔ request.artifacts = [] := by
  rw [← List.length_eq_zero_iff, ← List.length_eq_zero_iff, hrequest.artifacts.length_eq]

theorem Permuted.nodup (h : (request.artifacts.map (·.digest)).Nodup) :
    (request'.artifacts.map (·.digest)).Nodup :=
  (hrequest.artifacts.map _).nodup_iff.1 h

theorem validateRequest_reordered {u : Unit} :
    validateRequest request' = .ok u ↔ validateRequest request = .ok u := by
  have hartifacts : validateArtifacts request'.artifacts ∅ = .ok () ↔
      validateArtifacts request.artifacts ∅ = .ok () := by
    simp only [validateArtifacts_eq_ok, Std.ExtTreeSet.not_mem_empty, fresh_false,
      hrequest.artifacts.mem_iff, (hrequest.artifacts.map _).nodup_iff]
  rw [hrequest.rest]
  simp only [validateRequest, except_bind_eq_ok, failIf_eq_ok, ne_eq, hrequest.eq_nil_iff]
  have hunit : ∀ u : Unit, u = () := fun _ => rfl
  simp only [hunit, hartifacts]

variable (h : Reordered candidate candidate')

include h

theorem validateCandidateIdentity_reordered :
    validateCandidateIdentity request' candidate' =
      validateCandidateIdentity request candidate := by
  rw [hrequest.rest, h.rest]
  simp only [validateCandidateIdentity]

theorem validateCapabilities_reordered :
    validateCapabilities request' candidate' = validateCapabilities request candidate := by
  have htransfer : artifactTransferRequired candidate' = artifactTransferRequired candidate :=
    (h.quotes.any_eq).symm
  rw [validateCapabilities, validateCapabilities, htransfer, hrequest.rest, h.rest]
  simp only [requiredBehavior]

theorem validatePolicy_reordered :
    validatePolicy request' candidate' = validatePolicy request candidate := by
  rw [hrequest.rest, h.rest]
  simp only [validatePolicy, ne_eq, hrequest.eq_nil_iff]

theorem matchResources_reordered :
    matchResources request'.resourceQuery candidate'.providerSnapshot =
      matchResources request.resourceQuery candidate.providerSnapshot := by
  rw [hrequest.rest, h.rest]

theorem readyAt_reordered : readyAt request' candidate' = readyAt request candidate := by
  rw [readyAt, readyAt, exactScore_perm h.quotes, hrequest.rest, h.rest]

theorem QuoteConditions.reordered (hquote : QuoteConditions request candidate) :
    QuoteConditions request' candidate' := by
  have hmem : ∀ quote, quote ∈ candidate'.artifactQuotes → quote ∈ candidate.artifactQuotes :=
    fun _ => h.quotes.mem_iff.2
  have hdestination : candidate'.artifactDestinationPeerId =
      candidate.artifactDestinationPeerId := by
    rw [h.rest]
  refine ⟨fun quote hin => hquote.named quote (hmem quote hin),
    (h.quotes.map _).nodup_iff.1 hquote.distinct,
    (h.quotes.symm.map _).trans (hquote.covers.trans hrequest.artifacts), fun quote hin => ?_,
    fun quote hin => ?_⟩
  · have husable := hquote.usable quote (hmem quote hin)
    rw [hrequest.rest]
    exact ⟨husable.destination.trans hdestination.symm, husable.scope, husable.observed,
      husable.current, husable.evidenced⟩
  · rw [readyAt_reordered hrequest h]
    exact hquote.outlives quote (hmem quote hin)

theorem SumConditions.reordered (hsum : SumConditions request candidate) :
    SumConditions request' candidate' := by
  have hready := readyAt_reordered hrequest h
  refine ⟨exactScore_perm h.quotes ▸ hsum.fits, totalCost_reordered h ▸ hsum.costFits,
    hready ▸ hsum.readyFits, ?_, ?_⟩
  · rw [totalCost_reordered h, hrequest.rest]
    exact hsum.cost
  · rw [hready, hrequest.rest]
    exact hsum.deadline

theorem Eligible.reordered (heligible : Eligible request candidate) :
    Eligible request' candidate' := by
  refine ⟨?_, ?_, ?_, ?_, heligible.quote.reordered hrequest h, heligible.sum.reordered hrequest h⟩
  · rw [← validateCandidateIdentity_eq_nil, validateCandidateIdentity_reordered hrequest h]
    exact validateCandidateIdentity_eq_nil.2 heligible.identity
  · rw [← validateCapabilities_eq_nil, validateCapabilities_reordered hrequest h]
    exact validateCapabilities_eq_nil.2 heligible.capability
  · rw [← validatePolicy_eq_nil, validatePolicy_reordered hrequest h]
    exact validatePolicy_eq_nil.2 heligible.policy
  · rw [hrequest.rest, h.rest]
    exact heligible.resource

/-- The score does not depend on the order. -/
theorem evaluationScore_reordered (hartifacts : (request.artifacts.map (·.digest)).Nodup) :
    evaluationScore request' candidate' = evaluationScore request candidate := by
  have heligible : Eligible request' candidate' ↔ Eligible request candidate :=
    ⟨Eligible.reordered hrequest.symm h.symm, Eligible.reordered hrequest h⟩
  have hscore : placementScore request' candidate' = placementScore request candidate := by
    rw [placementScore, placementScore, readyAt_reordered hrequest h, totalCost_reordered h,
      exactScore_perm h.quotes, h.rest]
  refine Option.ext fun score => ?_
  rw [evaluationScore_eq_some (hrequest.nodup hartifacts), evaluationScore_eq_some hartifacts,
    heligible, hscore]

end Reordering

/-! ### Reasons against a tidy candidate -/

section Tidy

variable {request : ExecutionPlacementRequest} {candidate : ExecutionTargetCandidate}
  {indexed : BTreeMap String ArtifactPlacementQuote} {tally tally' : ArtifactTally}
  {artifact : ArtifactRef} {quote : ArtifactPlacementQuote}

theorem checkedAdd_eq_none {limit a b : Nat} : checkedAdd limit a b = none ↔ limit < a + b := by
  unfold checkedAdd
  split
  · next h => simp [h]
  · next h => simpa using h

variable {reason : PlacementReason} {quotes : List ArtifactPlacementQuote}

theorem tallyLocal_error_congr {generation : Nat} (hfits : (tally.score.add quote).Fits)
    (havailability : quote.availability = .verifiedLocal generation)
    (h : tallyLocal tally quote.artifact quote generation = .error reason) :
    tallyLocal tally' quote.artifact quote generation = .error reason := by
  have hbytes := hfits.localBytes
  simp only [ArtifactScore.add, havailability] at hbytes
  simp only [tallyLocal, except_bind_eq_error, failIf_eq_error, foundOr_eq_error, failIf_eq_ok,
    checkedAdd_eq_none] at h ⊢
  rcases h with hgeneration | ⟨_, -, hoverflow | ⟨_, -, hnever⟩⟩
  · exact .inl hgeneration
  · omega
  · cases hnever

theorem tallyTransfer_error_congr {transfer : ArtifactTransferQuote}
    (hfits : (tally.score.add quote).Fits) (hfits' : (tally'.score.add quote).Fits)
    (havailability : quote.availability = .authorizedTransfer transfer)
    (h : tallyTransfer tally quote.artifact quote transfer = .error reason) :
    tallyTransfer tally' quote.artifact quote transfer = .error reason := by
  obtain ⟨-, hbytes, hmillis, hcost, hsources⟩ := hfits
  have hmillis' := hfits'.estimatedTransferMillis
  simp only [ArtifactScore.add, havailability] at hbytes hmillis hcost hsources hmillis'
  have hchecked := checkedAdd_eq_some.2 ⟨hmillis', rfl⟩
  simp only [tallyTransfer, except_bind_eq_error, failIf_eq_error, foundOr_eq_error, failIf_eq_ok,
    foundOr_eq_ok, checkedAdd_eq_none, hchecked] at h ⊢
  rcases h with hquote | ⟨_, hcovers, hoverflow | ⟨_, -, hauthority | ⟨_, -, hoverflow | hnever⟩⟩⟩
  · exact .inl hquote
  · omega
  · exact .inr ⟨(), hcovers, .inr ⟨_, rfl, .inl hauthority⟩⟩
  · have hb := checkedAdd_eq_some.2 ⟨hbytes, rfl⟩
    have hc := checkedAdd_eq_some.2 ⟨hcost, rfl⟩
    have hs := checkedAdd_eq_some.2 ⟨hsources, rfl⟩
    rw [hb, hc, hs] at hoverflow
    cases hoverflow.1
  · obtain ⟨_, -, hnever⟩ := hnever
    cases hnever

/-- As long as the sums fit, what is wrong with an artifact does not depend on them. -/
theorem tallyArtifact_error_congr
    (hfits : ∀ quote, indexed[artifact.digest]? = some quote → (tally.score.add quote).Fits ∧
      (tally'.score.add quote).Fits)
    (h : tallyArtifact request candidate indexed tally artifact = .error reason) :
    tallyArtifact request candidate indexed tally' artifact = .error reason := by
  simp only [tallyArtifact, except_bind_eq_error, failIf_eq_error, foundOr_eq_error, failIf_eq_ok,
    foundOr_eq_ok, ne_eq, not_not] at h ⊢
  refine h.imp_right fun ⟨quote, hquote, hrest⟩ => ⟨quote, hquote, hrest.imp_right ?_⟩
  obtain ⟨hadd, hadd'⟩ := hfits quote hquote
  rintro ⟨_, rfl, hrest⟩
  refine ⟨(), rfl, hrest.imp_right fun ⟨_, hscope, hrest⟩ => ⟨(), hscope, hrest.imp_right ?_⟩⟩
  rintro ⟨_, hcurrent, hrest⟩
  refine ⟨(), hcurrent, ?_⟩
  split at hrest
  · next havailability => exact tallyLocal_error_congr hadd havailability hrest
  · next havailability => exact tallyTransfer_error_congr hadd hadd' havailability hrest

/-- The quote that is used for an artifact. -/
def quoteFor (indexed : BTreeMap String ArtifactPlacementQuote) (artifact : ArtifactRef) :
    Option ArtifactPlacementQuote :=
  indexed[artifact.digest]?

/-- What is wrong with an artifact by itself. -/
def reasonAgainst (request : ExecutionPlacementRequest) (candidate : ExecutionTargetCandidate)
    (indexed : BTreeMap String ArtifactPlacementQuote) (artifact : ArtifactRef) :
    Option PlacementReason :=
  match tallyArtifact request candidate indexed .empty artifact with
  | .ok _ => none
  | .error reason => some reason

/-- The quote of an artifact with which nothing is wrong. -/
def acceptedQuote (request : ExecutionPlacementRequest) (candidate : ExecutionTargetCandidate)
    (indexed : BTreeMap String ArtifactPlacementQuote) (artifact : ArtifactRef) :
    Option ArtifactPlacementQuote :=
  match reasonAgainst request candidate indexed artifact with
  | none => quoteFor indexed artifact
  | some _ => none

theorem Fits.of_foldl_skip {score : ArtifactScore}
    (h : (quotes.foldl .add (score.add quote)).Fits) : (quotes.foldl .add score).Fits := by
  rw [ArtifactScore.foldl_add] at h ⊢
  obtain ⟨hlocal, hbytes, hmillis, hcost, hsources⟩ := h
  simp only [ArtifactScore.add] at hlocal hbytes hmillis hcost hsources
  cases havailability : quote.availability <;>
    simp only [havailability] at hlocal hbytes hmillis hcost hsources <;>
    constructor <;> simp only <;> omega

theorem fits_empty_add (h : (tally.score.add quote).Fits) :
    (ArtifactTally.empty.score.add quote).Fits := by
  obtain ⟨hlocal, hbytes, hmillis, hcost, hsources⟩ := h
  simp only [ArtifactScore.add] at hlocal hbytes hmillis hcost hsources ⊢
  cases havailability : quote.availability <;>
    simp only [havailability, ArtifactTally.empty] at hlocal hbytes hmillis hcost hsources ⊢ <;>
    constructor <;> simp only <;> omega

/-- As long as the sums fit, the loop collects the reasons against each artifact, and adds the
quotes of the others. -/
theorem tallyArtifacts_eq {artifacts : List ArtifactRef}
    (hfits : ((artifacts.filterMap (quoteFor indexed)).foldl .add
      tally.score).Fits) :
    tallyArtifacts request candidate indexed tally artifacts =
      ((artifacts.filterMap (acceptedQuote request candidate indexed)).foldl .add tally,
        artifacts.filterMap (reasonAgainst request candidate indexed)) := by
  induction artifacts generalizing tally with
  | nil => rfl
  | cons artifact artifacts ih =>
    have hstep : ∀ quote, quoteFor indexed artifact = some quote →
        (tally.score.add quote).Fits := by
      intro quote hquote
      rw [List.filterMap_cons_some hquote] at hfits
      exact ArtifactScore.Fits.of_foldl_add hfits
    have htally : tally.score.Fits := ArtifactScore.Fits.of_foldl_add hfits
    rw [tallyArtifacts]
    cases hresult : tallyArtifact request candidate indexed tally artifact with
    | ok next =>
      obtain ⟨quote, hquote, hartifact, husable, hadd, rfl⟩ :=
        (tallyArtifact_eq_ok_iff htally).1 hresult
      have hreason : reasonAgainst request candidate indexed artifact = none := by
        rw [reasonAgainst, (tallyArtifact_eq_ok_iff fits_empty).2
          ⟨quote, hquote, hartifact, husable, fits_empty_add hadd, rfl⟩]
      have haccepted : acceptedQuote request candidate indexed artifact = some quote := by
        rw [acceptedQuote, hreason]
        exact hquote
      have hfound : quoteFor indexed artifact = some quote := hquote
      rw [List.filterMap_cons_some hfound, List.foldl_cons] at hfits
      rw [List.filterMap_cons_some haccepted, List.filterMap_cons_none hreason, List.foldl_cons]
      exact ih (by rwa [ArtifactTally.score_add])
    | error reason =>
      have hreason : reasonAgainst request candidate indexed artifact = some reason := by
        rw [reasonAgainst, tallyArtifact_error_congr
          (fun quote hquote => ⟨hstep quote hquote, fits_empty_add (hstep quote hquote)⟩) hresult]
      have haccepted : acceptedQuote request candidate indexed artifact = none := by
        rw [acceptedQuote, hreason]
      have hrest : ((artifacts.filterMap (quoteFor indexed)).foldl .add
          tally.score).Fits := by
        cases hquote : quoteFor indexed artifact with
        | none => rwa [List.filterMap_cons_none hquote] at hfits
        | some quote =>
          rw [List.filterMap_cons_some hquote, List.foldl_cons] at hfits
          exact Fits.of_foldl_skip hfits
      rw [List.filterMap_cons_none haccepted, List.filterMap_cons_some hreason, ih hrest]

theorem ArtifactTally.add_right_comm (tally : ArtifactTally)
    (quote quote' : ArtifactPlacementQuote) :
    (tally.add quote).add quote' = (tally.add quote').add quote := by
  obtain ⟨_, artifact, _, _, _, validUntil, availability, _⟩ := quote
  obtain ⟨_, artifact', _, _, _, validUntil', availability', _⟩ := quote'
  cases availability with
  | verifiedLocal generation =>
    cases availability' with
    | verifiedLocal generation' =>
      simp only [ArtifactTally.add, ArtifactScore.add, ArtifactTally.mk.injEq,
        ArtifactScore.mk.injEq, true_and, and_true]
      omega
    | authorizedTransfer transfer' => rfl
  | authorizedTransfer transfer =>
    cases availability' with
    | verifiedLocal generation' => rfl
    | authorizedTransfer transfer' =>
      simp only [ArtifactTally.add, ArtifactScore.add, ArtifactTally.mk.injEq,
        ArtifactScore.mk.injEq, true_and]
      omega

/-- The reason against a quote without an id of its own. -/
def identityReason : PlacementReason :=
  ⟨"ARTIFACT_QUOTE_IDENTITY_INVALID",
    "Artifact placement quotes require unique non-empty identities"⟩

/-- The ids of quotes that have one. -/
def quoteIds (quotes : List ArtifactPlacementQuote) : List String :=
  (quotes.map (·.quoteId)).filter (· ≠ "")

/-- Each quote has a reason against it, or an id of its own. -/
theorem indexQuotes_snd_eq {ids : BTreeSet String}
    (hfresh : Fresh (·.artifact.digest) (· ∈ indexed) quotes) :
    ∃ n, (indexQuotes quotes indexed ids).2 = List.replicate n identityReason ∧
      n + (BTreeSet.insertList ids (quoteIds quotes)).size = ids.size + quotes.length := by
  induction quotes generalizing indexed ids with
  | nil => exact ⟨0, rfl, Nat.zero_add _⟩
  | cons quote rest ih =>
    rw [fresh_cons, ← Std.ExtTreeMap.contains_iff_mem] at hfresh
    obtain ⟨hnot, hrest⟩ := hfresh
    have hrest : Fresh (·.artifact.digest)
        (· ∈ indexed.insert quote.artifact.digest quote) rest := by
      simpa only [Std.ExtTreeMap.mem_insert, Std.compare_eq_iff_eq] using hrest
    simp only [indexQuotes, reasonIf, if_neg hnot, List.append_nil]
    by_cases hempty : quote.quoteId = ""
    · obtain ⟨n, hreasons, hsize⟩ := @ih _ ids hrest
      refine ⟨n + 1, ?_, ?_⟩
      · rw [if_pos (.inl hempty), if_pos hempty, hreasons]
        rfl
      · have hids : quoteIds (quote :: rest) = quoteIds rest := by simp [quoteIds, hempty]
        rw [hids, List.length_cons]
        omega
    · obtain ⟨n, hreasons, hsize⟩ := @ih _ (ids.insert quote.quoteId) hrest
      have hids : quoteIds (quote :: rest) = quote.quoteId :: quoteIds rest := by
        simp [quoteIds, hempty]
      have hinsert : BTreeSet.insertList ids (quoteIds (quote :: rest)) =
          BTreeSet.insertList (ids.insert quote.quoteId) (quoteIds rest) := by rw [hids]; rfl
      rw [hinsert, List.length_cons]
      rw [Std.ExtTreeSet.size_insert] at hsize
      by_cases hold : quote.quoteId ∈ ids
      · refine ⟨n + 1, ?_, ?_⟩
        · rw [if_pos (.inr hold), if_neg hempty, hreasons]
          rfl
        · rw [if_pos (Std.ExtTreeSet.contains_iff_mem.2 hold)] at hsize
          omega
      · refine ⟨n, ?_, ?_⟩
        · rw [if_neg (not_or.2 ⟨hempty, hold⟩), if_neg hempty, hreasons]
          rfl
        · rw [if_neg fun hin => hold (Std.ExtTreeSet.contains_iff_mem.1 hin)] at hsize
          omega

/-! The quotes by their digests, in any order. -/

section

variable {quotes' : List ArtifactPlacementQuote} (h : quotes.Perm quotes')
  (hdistinct : (quotes.map (·.artifact.digest)).Nodup)

include h hdistinct

theorem indexQuotes_snd_perm :
    (indexQuotes quotes' ∅ ∅).2 = (indexQuotes quotes ∅ ∅).2 := by
  obtain ⟨n, hreasons, hsize⟩ := @indexQuotes_snd_eq ∅ quotes ∅
    ⟨fun _ _ => Std.ExtTreeMap.not_mem_empty, hdistinct⟩
  obtain ⟨n', hreasons', hsize'⟩ := @indexQuotes_snd_eq ∅ quotes' ∅
    ⟨fun _ _ => Std.ExtTreeMap.not_mem_empty, (h.map _).nodup_iff.1 hdistinct⟩
  have hids : BTreeSet.insertList ∅ (quoteIds quotes') =
      BTreeSet.insertList ∅ (quoteIds quotes) := by
    have hperm : (quoteIds quotes).Perm (quoteIds quotes') := (h.map _).filter _
    refine Std.ExtTreeSet.ext_mem fun id => ?_
    rw [BTreeSet.mem_insertList, BTreeSet.mem_insertList, hperm.mem_iff]
  rw [hids, ← h.length_eq] at hsize'
  rw [hreasons, hreasons', show n' = n by omega]

end

theorem map_filterMap_sublist {α β γ : Type} {f : α → Option β} {g : β → γ} {k : α → γ}
    (h : ∀ a b, f a = some b → g b = k a) :
    ∀ l : List α, ((l.filterMap f).map g).Sublist (l.map k)
  | [] => .refl _
  | a :: l => by
    rw [List.map_cons]
    cases ha : f a with
    | none =>
      rw [List.filterMap_cons_none ha]
      exact (map_filterMap_sublist h l).cons _
    | some b =>
      rw [List.filterMap_cons_some ha, List.map_cons, h a b ha]
      exact (map_filterMap_sublist h l).cons_cons _

/-- The sums of the quotes that are used fit, when those of all quotes do. -/
theorem fits_foldl_quoteFor {artifacts : List ArtifactRef}
    (hdistinct : (quotes.map (·.artifact.digest)).Nodup)
    (hartifacts : (artifacts.map (·.digest)).Nodup) (hfits : (exactScore quotes).Fits) :
    ((artifacts.filterMap (quoteFor (quotesByDigest quotes))).foldl .add
      ArtifactTally.empty.score).Fits := by
  have hquoteFor : ∀ artifact quote, quoteFor (quotesByDigest quotes) artifact = some quote ↔
      quote ∈ quotes ∧ quote.artifact.digest = artifact.digest :=
    fun _ _ => byDigest_eq_some hdistinct
  have hnodup : (artifacts.filterMap (quoteFor (quotesByDigest quotes))).Nodup := by
    have hsublist := map_filterMap_sublist (g := (·.artifact.digest)) (k := (·.digest))
      (fun artifact quote hquote => ((hquoteFor artifact quote).1 hquote).2) artifacts
    exact (hartifacts.sublist hsublist).of_map
  have hsubset : artifacts.filterMap (quoteFor (quotesByDigest quotes)) ⊆ quotes := by
    intro quote hquote
    obtain ⟨artifact, -, hfound⟩ := List.mem_filterMap.1 hquote
    exact ((hquoteFor artifact quote).1 hfound).1
  obtain ⟨used, hused, hsublist⟩ := hnodup.subperm hsubset
  obtain ⟨rest, hperm⟩ := hsublist.exists_perm_append
  rw [exactScore_perm hperm] at hfits
  rw [← ArtifactTally.score_foldl_add, score_foldl_empty, ← exactScore_perm hused]
  obtain ⟨hlocal, hbytes, hmillis, hcost, hsources⟩ := hfits
  simp only [exactScore, List.map_append, List.sum_append] at hlocal hbytes hmillis hcost hsources
  constructor <;> simp only [exactScore] <;> omega

variable {request' : ExecutionPlacementRequest} {candidate' : ExecutionTargetCandidate}
  (hrequest : Permuted request request') (h : Reordered candidate candidate')

include hrequest h

theorem reasonAgainst_reordered :
    reasonAgainst request' candidate' indexed = reasonAgainst request candidate indexed := by
  funext artifact
  rw [hrequest.rest, h.rest]
  simp only [reasonAgainst, tallyArtifact]

variable (hartifacts : (request.artifacts.map (·.digest)).Nodup) (htidy : candidate.Tidy)

include hartifacts htidy

/-- The loop over the artifacts of a tidy candidate, in another order. -/
theorem tallyArtifacts_reordered :
    (tallyArtifacts request' candidate' (quotesByDigest candidate.artifactQuotes) .empty
        request'.artifacts).1 =
      (tallyArtifacts request candidate (quotesByDigest candidate.artifactQuotes) .empty
        request.artifacts).1 ∧
    (tallyArtifacts request' candidate' (quotesByDigest candidate.artifactQuotes) .empty
        request'.artifacts).2.Perm
      (tallyArtifacts request candidate (quotesByDigest candidate.artifactQuotes) .empty
        request.artifacts).2 := by
  rw [tallyArtifacts_eq (fits_foldl_quoteFor htidy.distinct (hrequest.nodup hartifacts) htidy.fits),
    tallyArtifacts_eq (fits_foldl_quoteFor htidy.distinct hartifacts htidy.fits)]
  have haccepted : acceptedQuote request' candidate' (quotesByDigest candidate.artifactQuotes) =
      acceptedQuote request candidate (quotesByDigest candidate.artifactQuotes) := by
    funext artifact
    rw [acceptedQuote, acceptedQuote, reasonAgainst_reordered hrequest h]
  rw [haccepted, reasonAgainst_reordered hrequest h]
  have hperm := hrequest.artifacts.symm
  refine ⟨?_, hperm.filterMap _⟩
  exact (hperm.filterMap _).foldl_eq' (fun quote _ quote' _ tally =>
    ArtifactTally.add_right_comm tally quote quote') _

theorem evaluateArtifacts_reordered :
    (evaluateArtifacts request' candidate').1 = (evaluateArtifacts request candidate).1 ∧
    (evaluateArtifacts request' candidate').2.Perm (evaluateArtifacts request candidate).2 := by
  have hindexed : (indexQuotes candidate.artifactQuotes ∅ ∅).1 =
      quotesByDigest candidate.artifactQuotes := indexQuotes_fst
  have hindexed' : (indexQuotes candidate'.artifactQuotes ∅ ∅).1 =
      quotesByDigest candidate.artifactQuotes :=
    indexQuotes_fst.trans (byDigest_perm htidy.distinct h.quotes)
  obtain ⟨htally, hreasons⟩ := tallyArtifacts_reordered hrequest h hartifacts htidy
  have hnow : request'.nowUnixMs = request.nowUnixMs := by rw [hrequest.rest]
  have havailable : candidate'.availableAtUnixMs = candidate.availableAtUnixMs := by rw [h.rest]
  simp only [evaluateArtifacts, hindexed, hindexed', indexQuotes_snd_perm h.quotes htidy.distinct,
    htally, ← hrequest.artifacts.length_eq, readinessReasons, hnow, havailable]
  exact ⟨trivial, (hreasons.append_left _).append_right _⟩

/-- The reasons against a tidy candidate, in another order. -/
theorem evaluationReasons_reordered :
    (evaluationReasons request' candidate').Perm (evaluationReasons request candidate) := by
  obtain ⟨hscore, hreasons⟩ := evaluateArtifacts_reordered hrequest h hartifacts htidy
  have hcost : totalCostMicrounits request' candidate' = totalCostMicrounits request candidate := by
    rw [totalCostMicrounits, totalCostMicrounits, hscore, h.rest]
  have hready : estimatedReadyAtUnixMs request' candidate' =
      estimatedReadyAtUnixMs request candidate := by
    rw [estimatedReadyAtUnixMs, estimatedReadyAtUnixMs, hscore, hrequest.rest, h.rest]
  have hlimits : costReasons request' = costReasons request ∧
      startReasons request' = startReasons request := by
    rw [hrequest.rest]
    exact ⟨rfl, rfl⟩
  rw [evaluationReasons, evaluationReasons, validateCandidateIdentity_reordered hrequest h,
    validateCapabilities_reordered hrequest h, validatePolicy_reordered hrequest h,
    matchResources_reordered hrequest h, hcost, hready, hlimits.1, hlimits.2]
  exact ((hreasons.append_left _).append_right _).append_right _

end Tidy

/-! ### The decision -/

/-- The evaluations of a candidate in two orders; the reasons against a tidy candidate are the same
up to their order. -/
structure SameEvaluation (candidates : List ExecutionTargetCandidate)
    (evaluation evaluation' : CandidateEvaluation) : Prop where
  node : evaluation'.node = evaluation.node
  eligible : evaluation'.eligible = evaluation.eligible
  resourceMatch : evaluation'.resourceMatch = evaluation.resourceMatch
  score : evaluation'.score = evaluation.score
  reasons : ∀ candidate ∈ candidates, candidate.node = evaluation.node → candidate.Tidy →
    evaluation'.reasons.Perm evaluation.reasons

/-- There is a decision about both inputs or none, and the two select and evaluate alike. -/
def SameDecision (candidates : List ExecutionTargetCandidate) :
    Except FabricContractError PlacementDecision →
    Except FabricContractError PlacementDecision → Prop
  | .ok decision, .ok decision' =>
    decision'.selectedNode = decision.selectedNode ∧
      List.Forall₂ (SameEvaluation candidates) decision.evaluations decision'.evaluations
  | .error _, .error _ => True
  | _, _ => False

section Decision

variable {request request' : ExecutionPlacementRequest} {artifacts' : List ArtifactRef}
  {candidates middle candidates' : List ExecutionTargetCandidate}
  {candidate candidate' : ExecutionTargetCandidate}

theorem validateNodes_eq_ok {nodes : List NodeRef} {u : Unit} :
    validateNodes candidates nodes = .ok u ↔ Fresh (·.node) (· ∈ nodes) candidates := by
  induction candidates generalizing nodes with
  | nil => simp [validateNodes, Fresh]
  | cons candidate rest ih =>
    simp only [validateNodes, except_bind_eq_ok, failIf_eq_ok, ih, exists_const, fresh_cons,
      List.mem_cons, eq_comm (b := candidate.node)]

/-- The evaluations in their order. -/
def evaluationsOf (request : ExecutionPlacementRequest)
    (candidates : List ExecutionTargetCandidate) : List CandidateEvaluation :=
  sortBy compareEvaluations (candidates.map (evaluateCandidate request))

theorem planExecutionPlacement_eq_ok {decision : PlacementDecision} :
    planExecutionPlacement request candidates = .ok decision ↔
      validateRequest request = .ok () ∧ (candidates.map (·.node)).Nodup ∧
        decision = ⟨((evaluationsOf request candidates).find? (·.eligible)).map (·.node),
          evaluationsOf request candidates⟩ := by
  simp only [planExecutionPlacement, except_bind_eq_ok, except_pure_eq_ok, validateNodes_eq_ok,
    List.not_mem_nil, fresh_false, exists_unit, eq_comm (a := decision)]
  rfl

theorem node_reordered (h : Reordered candidate candidate') : candidate'.node = candidate.node := by
  rw [h.rest]

section

variable (hrequest : Permuted request request')
  (hartifacts : (request.artifacts.map (·.digest)).Nodup)

include hrequest hartifacts

theorem rank_reordered (h : Reordered candidate candidate') :
    rank (evaluateCandidate request' candidate') =
      rank (evaluateCandidate request candidate) := by
  simp only [rank, evaluateCandidate]
  rw [evaluationScore_reordered hrequest h hartifacts, node_reordered h]

theorem sameEvaluation_reordered (h : Reordered candidate candidate')
    (hnodes : (candidates.map (·.node)).Nodup) (hmem : candidate ∈ candidates) :
    SameEvaluation candidates (evaluateCandidate request candidate)
      (evaluateCandidate request' candidate') := by
  have hscore := evaluationScore_reordered hrequest h hartifacts
  constructor
  · exact node_reordered h
  · simp only [evaluateCandidate, hscore]
  · exact matchResources_reordered hrequest h
  · simp only [evaluateCandidate, hscore]
  · intro other hother hnode htidy
    obtain rfl := List.inj_on_of_nodup_map hnodes hother hmem hnode
    exact evaluationReasons_reordered hrequest h hartifacts htidy

/-- The evaluations of reordered candidates agree, one after the other. -/
theorem forall₂_evaluationsOf (hnodes : (candidates.map (·.node)).Nodup)
    (hperm : candidates.Perm middle) (hquotes : List.Forall₂ Reordered middle candidates') :
    List.Forall₂ (SameEvaluation candidates) (evaluationsOf request candidates)
      (evaluationsOf request' candidates') := by
  have hranks : middle.map (fun c => rank (evaluateCandidate request c)) =
      candidates'.map fun c => rank (evaluateCandidate request' c) := by
    rw [← List.forall₂_eq_eq_eq, List.forall₂_map_left_iff, List.forall₂_map_right_iff]
    exact hquotes.imp fun _ _ h => (rank_reordered hrequest hartifacts h).symm
  rw [evaluationsOf, evaluationsOf, compareEvaluations_eq]
  refine forall₂_sortBy ?_ ?_ ?_
  · rw [List.map_map, List.map_map]
    exact (hperm.map _).trans (.of_eq hranks)
  · simp only [List.map_map, List.mem_map, Function.comp_apply, forall_exists_index, and_imp,
      forall_apply_eq_imp_iff₂]
    intro left hleft right hright heq
    have hnode : left.node = right.node := node_eq_of_compareRanks heq
    rw [List.inj_on_of_nodup_map hnodes hleft hright hnode]
  · simp only [List.mem_map, forall_exists_index, and_imp, forall_apply_eq_imp_iff₂]
    intro left hleft right hright heq
    obtain ⟨other, hother, h⟩ := exists_of_mem_right hquotes hright
    have hnode : left.node = other.node :=
      (congrArg Prod.snd heq : left.node = right.node).trans (node_reordered h)
    obtain rfl := List.inj_on_of_nodup_map hnodes hleft (hperm.mem_iff.2 hother) hnode
    exact sameEvaluation_reordered hrequest hartifacts h hnodes hleft

end

theorem sameDecision_reordered (hrequest : Permuted request request')
    (hnodes : (candidates.map (·.node)).Nodup) (hperm : candidates.Perm middle)
    (hquotes : List.Forall₂ Reordered middle candidates') :
    SameDecision candidates (planExecutionPlacement request candidates)
      (planExecutionPlacement request' candidates') := by
  have hnodes' : (candidates'.map (·.node)).Nodup := by
    have hmap : middle.map (·.node) = candidates'.map (·.node) := by
      rw [← List.forall₂_eq_eq_eq, List.forall₂_map_left_iff, List.forall₂_map_right_iff]
      exact hquotes.imp fun _ _ h => (node_reordered h).symm
    rw [← hmap]
    exact (hperm.map _).nodup_iff.1 hnodes
  by_cases hvalid : validateRequest request = .ok ()
  · have hvalid' := (validateRequest_reordered hrequest).2 hvalid
    rw [planExecutionPlacement_eq_ok.2 ⟨hvalid, hnodes, rfl⟩,
      planExecutionPlacement_eq_ok.2 ⟨hvalid', hnodes', rfl⟩]
    have hsame :=
      forall₂_evaluationsOf hrequest (artifacts_of_validateRequest hvalid).2 hnodes hperm
      hquotes
    refine ⟨(map_find?_eq_of_forall₂ (hsame.imp fun _ _ h => ?_)).symm, hsame⟩
    exact ⟨h.eligible.symm, h.node.symm⟩
  · cases hplan : planExecutionPlacement request candidates with
    | ok decision => exact absurd (planExecutionPlacement_eq_ok.1 hplan).1 hvalid
    | error error =>
      cases hplan' : planExecutionPlacement request' candidates' with
      | ok decision =>
        exact absurd ((validateRequest_reordered hrequest).1
          (planExecutionPlacement_eq_ok.1 hplan').1) hvalid
      | error error' => trivial

theorem mem_evaluationsOf {evaluation : CandidateEvaluation} :
    evaluation ∈ evaluationsOf request candidates ↔
      ∃ candidate ∈ candidates, evaluateCandidate request candidate = evaluation := by
  rw [evaluationsOf, (perm_sortBy _ _).mem_iff, List.mem_map]

/-- The candidate that is selected. -/
theorem placeExecutionTarget_of_selected {decision : PlacementDecision}
    (hplan : planExecutionPlacement request candidates = .ok decision) {node : NodeRef}
    (hselected : decision.selectedNode = some node) :
    ∃ candidate ∈ candidates, candidate.node = node ∧
      (evaluateCandidate request candidate).eligible = true ∧
      placeExecutionTarget request candidates = .ok candidate ∧
      (evaluationsOf request candidates).find? (·.eligible) =
        some (evaluateCandidate request candidate) := by
  obtain ⟨-, hnodes, rfl⟩ := planExecutionPlacement_eq_ok.1 hplan
  obtain ⟨evaluation, hfind, hnode⟩ := Option.map_eq_some_iff.1 hselected
  obtain ⟨candidate, hmem, rfl⟩ := mem_evaluationsOf.1 (List.mem_of_find?_eq_some hfind)
  refine ⟨candidate, hmem, hnode, List.find?_some hfind, ?_, hfind⟩
  have hfound : candidates.find? (·.node = node) = some candidate :=
    find?_eq_some_of_unique hmem (decide_eq_true hnode) fun other hother hsame =>
      List.inj_on_of_nodup_map hnodes hother hmem ((of_decide_eq_true hsame).trans hnode.symm)
  simp only [placeExecutionTarget, except_bind_eq_ok, foundOr_eq_ok]
  exact ⟨_, hplan, node, hselected, hfound⟩

theorem not_precedes_selected {other : ExecutionTargetCandidate} {score score' : PlacementScore}
    (hfind : (evaluationsOf request candidates).find? (·.eligible) =
      some (evaluateCandidate request candidate)) (hother : other ∈ candidates)
    (heligible : (evaluateCandidate request other).eligible = true)
    (hscore : (evaluateCandidate request other).score = some score)
    (hscore' : (evaluateCandidate request candidate).score = some score') :
    ¬ Precedes (score, other.node) (score', candidate.node) := by
  intro hprecedes
  have hlt : compareEvaluations (evaluateCandidate request other)
      (evaluateCandidate request candidate) = .lt :=
    (compareEvaluations_eq_lt hscore hscore').2 hprecedes
  have hle := isLE_of_find?_sortBy hfind (List.mem_map_of_mem hother) heligible
  rw [Std.OrientedCmp.gt_iff_lt.2 hlt] at hle
  cases hle

/-- A valid request is placed unless no candidate is eligible. -/
theorem placeExecutionTarget_eq_error_iff (hvalid : validateRequest request = .ok ())
    (hnodes : (candidates.map (·.node)).Nodup) :
    (∃ error, placeExecutionTarget request candidates = .error error) ↔
      ∀ candidate ∈ candidates, (evaluateCandidate request candidate).eligible = false := by
  have hplan := planExecutionPlacement_eq_ok.2 ⟨hvalid, hnodes, rfl⟩
  cases hfind : (evaluationsOf request candidates).find? (·.eligible) with
  | none =>
    rw [hfind] at hplan
    have hnone : ∀ candidate ∈ candidates, (evaluateCandidate request candidate).eligible = false :=
      fun candidate hmem => Bool.not_eq_true _ ▸
        List.find?_eq_none.1 hfind _ (mem_evaluationsOf.2 ⟨candidate, hmem, rfl⟩)
    refine ⟨fun _ => hnone, fun _ => ?_⟩
    cases hplace : placeExecutionTarget request candidates with
    | error error => exact ⟨error, rfl⟩
    | ok candidate =>
      simp only [placeExecutionTarget, except_bind_eq_ok, foundOr_eq_ok, hplan,
        Except.ok.injEq] at hplace
      obtain ⟨_, rfl, _, hselected, -⟩ := hplace
      cases hselected
  | some evaluation =>
    rw [hfind] at hplan
    obtain ⟨candidate, hmem, -, heligible, hplace, -⟩ := placeExecutionTarget_of_selected hplan rfl
    constructor
    · rintro ⟨error, herror⟩
      rw [hplace] at herror
      cases herror
    · intro hnone
      rw [hnone candidate hmem] at heligible
      cases heligible

/-- The decision about candidates for different nodes does not depend on the order of the inputs, up
to reasons.  It selects an eligible candidate that no other one precedes, which is the target of a
valid request unless no candidate is eligible. -/
theorem planExecutionPlacement_reordered (hnodes : (candidates.map (·.node)).Nodup)
    (hrequest : request.artifacts.Perm artifacts') (hperm : candidates.Perm middle)
    (hquotes : List.Forall₂ Reordered middle candidates') :
    SameDecision candidates (planExecutionPlacement request candidates)
        (planExecutionPlacement { request with artifacts := artifacts' } candidates') ∧
      (∀ decision node, planExecutionPlacement request candidates = .ok decision →
        decision.selectedNode = some node → ∃ candidate ∈ candidates, candidate.node = node ∧
          (evaluateCandidate request candidate).eligible = true ∧
          placeExecutionTarget request candidates = .ok candidate ∧
          ∀ other ∈ candidates, (evaluateCandidate request other).eligible = true →
            ∀ score score', (evaluateCandidate request other).score = some score →
              (evaluateCandidate request candidate).score = some score' →
              ¬ Precedes (score, other.node) (score', candidate.node)) ∧
      (validateRequest request = .ok () →
        ((∃ error, placeExecutionTarget request candidates = .error error) ↔
          ∀ candidate ∈ candidates, (evaluateCandidate request candidate).eligible = false)) := by
  refine ⟨sameDecision_reordered ⟨rfl, hrequest⟩ hnodes hperm hquotes,
    fun decision node hplan hselected => ?_,
    fun hvalid => placeExecutionTarget_eq_error_iff hvalid hnodes⟩
  obtain ⟨candidate, hmem, hnode, heligible, hplace, hfind⟩ :=
    placeExecutionTarget_of_selected hplan hselected
  exact ⟨candidate, hmem, hnode, heligible, hplace,
    fun other hother hother' score score' hscore hscore' =>
    not_precedes_selected hfind hother hother' hscore hscore'⟩

end Decision

/-- Two quotes of a candidate for one artifact, where the first one is not current. -/
def repeatedQuotes : List ArtifactPlacementQuote :=
  [ { sampleQuote "quote-1" (sampleArtifact 4) (.verifiedLocal 1) with observedAtUnixMs := 0 }
  , sampleQuote "quote-2" (sampleArtifact 4) (.verifiedLocal 1) ]

/-- With the quotes in the other order there is one more reason against the candidate. -/
theorem reasons_of_repeated_quotes :
    Reordered (sampleCandidate sampleNode repeatedQuotes)
        (sampleCandidate sampleNode repeatedQuotes.reverse) ∧
      (planExecutionPlacement (sampleRequest [sampleArtifact 4])
        [sampleCandidate sampleNode repeatedQuotes]).map
          (·.evaluations.map (·.reasons.length)) = .ok [1] ∧
      (planExecutionPlacement (sampleRequest [sampleArtifact 4])
        [sampleCandidate sampleNode repeatedQuotes.reverse]).map
          (·.evaluations.map (·.reasons.length)) = .ok [2] :=
  ⟨⟨rfl, (List.reverse_perm _).symm⟩, by decide +kernel, by decide +kernel⟩

/-- Two candidates in either order. -/
theorem sameDecision_swap :
    let near := sampleCandidate sampleNode
      [sampleQuote "quote-1" (sampleArtifact 4) (.verifiedLocal 1)]
    let far := sampleCandidate ⟨"node-2", 1⟩
      [sampleQuote "quote-1" (sampleArtifact 4) (.authorizedTransfer ⟨4, 10, 3, 1, 5000⟩)]
    SameDecision [near, far] (planExecutionPlacement (sampleRequest [sampleArtifact 4]) [near, far])
      (planExecutionPlacement (sampleRequest [sampleArtifact 4]) [far, near]) :=
  (planExecutionPlacement_reordered (by decide) (.refl _) (.swap _ _ _)
    (.cons ⟨rfl, .refl _⟩ (.cons ⟨rfl, .refl _⟩ .nil))).1

end CyreneKernel.Fabric
