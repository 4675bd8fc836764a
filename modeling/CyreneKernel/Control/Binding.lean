import CyreneKernel.Control.Dispatch
import CyreneKernel.Fabric.Payload
import CyreneKernel.Fabric.Selection

/-!
# The fabric behind the controller

The controller leaves four decisions to the fabric: where an execution goes, whether its payload is
well formed, whether its inputs are those of the candidate, and whether the assignment with its
lease would be accepted.  Here they are the functions of the fabric, so that what is known of those
functions holds of every assignment that the controller binds to a lease.

## Main definitions

* `executionFabric`: the ports of the controller, with the functions of the fabric.
* `Bound`: an assignment that may be delivered with a lease.

## Main results

* `bound_of_bindLease`: the controller delivers no other assignments.
-/

namespace CyreneKernel.Control

open Lib Fabric

/-- What an execution asks for, with the candidates for its target. -/
structure PlacementInput where
  request : ExecutionPlacementRequest
  candidates : List ExecutionTargetCandidate

/-- The parts of an assignment that only the fabric reads. -/
structure AssignmentPayload where
  workloadRuntime : Option RuntimeRef
  profile : RuntimeProfile
  inputs : AssignmentArtifacts

/-- The message of an assignment, which asks for a running runtime. -/
def RuntimeAssignmentBuilder.assignment (builder : RuntimeAssignmentBuilder AssignmentPayload)
    (lease : Option WireLease) : WireAssignment where
  assignmentId := builder.assignmentId
  runtime := some ⟨some builder.runtime⟩
  operation := some builder.operation
  attemptId := builder.attemptId
  lease
  workloadIdentity := some ⟨builder.workloadIdentity.identity, builder.payload.workloadRuntime,
    builder.workloadIdentity.expiresAt⟩
  profile := some builder.payload.profile
  desiredState := desiredRunning
  artifacts := builder.payload.inputs.artifacts
  localArtifacts := builder.payload.inputs.localArtifacts

/-- The decisions of the fabric; a placement is decided for the time of the decision. -/
def executionFabric : FabricPorts PlacementInput ExecutionTargetCandidate AssignmentPayload where
  resourceQuery placement := placement.request.resourceQuery
  targetNode target := target.node
  placeExecutionTarget placement nowUnixMs :=
    Fabric.placeExecutionTarget { placement.request with nowUnixMs } placement.candidates
  validatePayload builder nowUnixMs := do
    let _ ← validateAssignmentPayload builder.runtime (builder.assignment none) nowUnixMs
  validateArtifactProjection builder placement target :=
    Fabric.validateArtifactProjection builder.payload.inputs placement.request target
  validateAssignment assignment nowUnixMs := do
    let _ ← Fabric.validateAssignment assignment.builder.runtime
      (assignment.builder.assignment assignment.lease) nowUnixMs

/-- An assignment that may be delivered with a lease at a time: it goes to an eligible candidate on
the node of the lease, its inputs cover the artifacts of the execution there, and the lease is one
of its runtime that is still running. -/
structure Bound (request : ExecutionDispatchRequest PlacementInput AssignmentPayload)
    (targetNode : NodeRef) (lease : Lease) (nowUnixMs : Nat)
    (assignment : RuntimeAssignment AssignmentPayload) : Prop where
  same : assignment = ⟨request.assignment, some (semanticLeaseToProto lease)⟩
  placed : ∃ target ∈ request.placement.candidates, target.node = targetNode ∧
    (evaluateCandidate { request.placement.request with nowUnixMs } target).eligible = true ∧
    CoversArtifacts request.assignment.payload.inputs request.placement.request target
  transfers : ∀ spec ∈ request.assignment.payload.inputs.artifacts, TransferAccepted nowUnixMs spec
  active : lease.state = .active
  holder : lease.holder = request.assignment.runtime
  running : ∃ expiry, lease.expiresAtUnixMs = some expiry ∧ nowUnixMs < expiry

/-- A placed execution goes to an eligible candidate. -/
theorem eligible_of_placeExecutionTarget {request : ExecutionPlacementRequest}
    {candidates : List ExecutionTargetCandidate} {target : ExecutionTargetCandidate}
    (h : Fabric.placeExecutionTarget request candidates = .ok target) :
    target ∈ candidates ∧ (evaluateCandidate request target).eligible = true := by
  have hplace := h
  simp only [Fabric.placeExecutionTarget, except_bind_eq_ok, foundOr_eq_ok] at hplace
  obtain ⟨decision, hplan, node, hselected, -⟩ := hplace
  obtain ⟨candidate, hmem, -, heligible, hcandidate, -⟩ :=
    placeExecutionTarget_of_selected hplan hselected
  obtain rfl : candidate = target := Except.ok.inj (hcandidate.symm.trans h)
  exact ⟨hmem, heligible⟩

/-- What the payload check of a runtime returns is the runtime. -/
theorem runtime_of_validateAssignmentPayload {expected runtime : Identity}
    {assignment : WireAssignment} {nowUnixMs : Nat}
    (h : validateAssignmentPayload expected assignment nowUnixMs = .ok runtime) :
    runtime = expected := by
  simp only [validateAssignmentPayload, checkRuntime, except_bind_eq_ok, failIf_eq_ok,
    except_pure_eq_ok, not_not] at h
  obtain ⟨_, -, _, -, _, ⟨_, -, hsame⟩, _, -, _, -, _, -, _, -, _, -, _, -, _, -, _, -,
    _, -, rfl⟩ := h
  exact hsame

/-- The lease of an accepted assignment is an active one of the runtime that has not expired. -/
theorem running_of_validateAssignment {runtime : Identity} {assignment : WireAssignment}
    {lease accepted : Lease} {nowUnixMs : Nat}
    (hlease : assignment.lease = some (semanticLeaseToProto lease))
    (h : Fabric.validateAssignment runtime assignment nowUnixMs = .ok accepted) :
    lease.state = .active ∧ lease.holder = runtime ∧
      ∃ expiry, lease.expiresAtUnixMs = some expiry ∧ nowUnixMs < expiry := by
  simp only [Fabric.validateAssignment, except_bind_eq_ok, failIf_eq_ok, except_pure_eq_ok,
    not_not, hlease] at h
  obtain ⟨_, hruntime, decoded, hdecoded, _, -, _, hactive, _, hholder, _, hexpiry, -⟩ := h
  obtain rfl := runtime_of_validateAssignmentPayload hruntime
  cases hlease : lease.expiresAtUnixMs with
  | none =>
    -- without an expiry the decoded lease has none, which counts as expired
    simp only [leaseFromProto, semanticLeaseToProto, hlease, Option.map_none, timestampMs,
      except_bind_eq_ok, foundOr_eq_ok, Option.some.injEq, exists_eq_left', except_pure_eq_ok,
      Except.ok.injEq] at hdecoded
    obtain ⟨_, -, _, -, _, -, _, -, rfl⟩ := hdecoded
    exact absurd rfl hexpiry
  | some expiry =>
    obtain ⟨-, rfl⟩ := (leaseFromProto_semanticLeaseToProto hlease).1 hdecoded
    refine ⟨hactive, hholder, expiry, rfl, ?_⟩
    simpa [hlease] using hexpiry

/-- The controller binds a lease only to an assignment that may be delivered with it. -/
theorem bound_of_bindLease {request : ExecutionDispatchRequest PlacementInput AssignmentPayload}
    {targetNode : NodeRef} {lease : Lease} {nowUnixMs : Nat}
    {assignment : RuntimeAssignment AssignmentPayload}
    (h : bindLease executionFabric request targetNode lease nowUnixMs = .ok assignment) :
    Bound request targetNode lease nowUnixMs assignment := by
  simp only [bindLease, RuntimeAssignmentBuilder.build, except_bind_eq_ok, mapError_eq_ok,
    failIf_eq_ok, except_pure_eq_ok, not_not] at h
  obtain ⟨target, hplace, _, hnode, _, hprojection, _, hpayload, _, haccepted, rfl⟩ := h
  obtain ⟨runtime, hpayload, -⟩ := except_bind_eq_ok.1 hpayload
  obtain ⟨accepted, haccepted, -⟩ := except_bind_eq_ok.1 haccepted
  obtain ⟨hmem, heligible⟩ := eligible_of_placeExecutionTarget hplace
  obtain ⟨hactive, hholder, hrunning⟩ := running_of_validateAssignment rfl haccepted
  have hcovers := (validateArtifactProjection_eq_ok.1 hprojection).covers
  exact ⟨rfl, ⟨target, hmem, hnode, heligible, hcovers⟩,
    fun spec hspec => transferAccepted_of_mem hpayload hspec, hactive, hholder, hrunning⟩

end CyreneKernel.Control
