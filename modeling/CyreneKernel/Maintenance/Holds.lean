import CyreneKernel.Maintenance.Operations

/-!
# Maintenance holds

The operations that begin, validate and end a maintenance hold, those that admit actions of the
runtime, and the type of all operations of the gate.
-/

namespace CyreneKernel.Maintenance

open Lib

variable (state : PersistedState) (catalog : TrustedActivitySourceCatalog)
  (existing : MaintenanceRecord) (sourceRef : InitialSourceArtifactRef) (sample : Sample)
  (requestId token parentRequestId sourceId : String) (plan : MaintenancePlan)
  (request : ReadinessRequest) (expectedGateGeneration : Nat) (userConfirmedRestart : Bool)

def validatePlan : Except MaintenanceError Unit := do
  validateIdentifier plan.planId "plan_id"
  validateDigest plan.planDigest "plan_digest"
  failIf plan.componentArtifactDigests.isEmpty
    (.invalidRequest "component_artifact_digests must contain at least one artifact")
  plan.componentArtifactDigests.toList.forM fun (componentId, digest) => do
    validateIdentifier componentId "component_id"
    validateDigest digest "component_artifact_digest"

def validateInitialSourceArtifactRef : Except MaintenanceError Unit := do
  validateIdentifier sourceRef.sourceId "source_id"
  validateIdentifier sourceRef.componentId "component_id"
  validateDigest sourceRef.artifactDigest "initial_source_artifact_digest"

/-! ### Standard maintenance -/

/-- Maintenance that did not begin. -/
def notBegun (status : ReadinessStatus) (gateGeneration : Nat) (blockerCodes : List String) :
    Decision :=
  .answer (.begun ⟨status, none, gateGeneration, blockerCodes⟩)

/-- Maintenance that had begun before. -/
def alreadyBegun : Decision :=
  .answer (.begun ⟨.maintenanceActive, some existing.token, state.gateGeneration,
    ["MAINTENANCE_ALREADY_BEGUN"]⟩)

/-- Append a hold. -/
def hold (record : MaintenanceRecord) : Decision :=
  .append (.maintenanceBegan record) fun after =>
    .begun ⟨.maintenanceActive, some record.token, after.gateGeneration, []⟩

/-- The hold is the one that the request asks for. -/
def sameStandardHold : Bool :=
  existing.origin = .standard ∧ existing.plan = plan ∧ existing.targetKind = request.targetKind ∧
    existing.requiresRestart = request.requiresRestart ∧
    existing.userConfirmedRestart = userConfirmedRestart ∧
    existing.expectedCatalogGeneration = request.expectedCatalogGeneration ∧
    existing.expectedActivitySources = request.sources

/-- The last part of a standard maintenance: the snapshot is current and ready, and a restart is
confirmed. -/
def holdWhenReady (snapshot : ReadinessSnapshot) : Decision :=
  if snapshot.gateGeneration ≠ expectedGateGeneration then
    notBegun .staleReadiness snapshot.gateGeneration ["READINESS_GENERATION_STALE"]
  else if snapshot.status ≠ .ready then
    notBegun snapshot.status snapshot.gateGeneration snapshot.blockerCodes
  else if request.requiresRestart ∧ userConfirmedRestart = false then
    notBegun .userConfirmationRequired snapshot.gateGeneration ["USER_CONFIRMATION_REQUIRED"]
  else hold
    { requestId := requestId
      token := sample.uuid 0
      targetKind := request.targetKind
      requiresRestart := request.requiresRestart
      userConfirmedRestart := userConfirmedRestart
      expectedGateGeneration := snapshot.gateGeneration
      expectedCatalogGeneration := request.expectedCatalogGeneration
      expectedActivitySources := request.sources
      plan := plan
      startedAtUnixMs := sample.later
      initialSourceArtifactRef := none
      parentRequestId := none
      origin := .standard }

/-- A hold of the request that is active already, and a request that was completed. -/
def standardReplay : Except MaintenanceError (Option Decision) := do
  match state.maintenance with
  | some existing =>
    if existing.requestId = requestId then
      failIf (sameStandardHold existing plan request userConfirmedRestart = false)
        (.admissionDenied "REQUEST_ID_PLAN_MISMATCH")
      return some (alreadyBegun state existing)
    else
      failIf (state.completedMaintenances.contains requestId)
        (.admissionDenied "MAINTENANCE_REQUEST_ALREADY_COMPLETED")
      return none
  | none =>
    failIf (state.completedMaintenances.contains requestId)
      (.admissionDenied "MAINTENANCE_REQUEST_ALREADY_COMPLETED")
    return none

/-- Begin a hold for a plan, unless something is active that it would disturb. -/
def beginMaintenance : Except MaintenanceError Decision := do
  match ← standardReplay state requestId plan request userConfirmedRestart with
  | some decision => return decision
  | none =>
    return holdWhenReady sample requestId plan request expectedGateGeneration
      userConfirmedRestart (readinessSnapshot state sample request sample.usage)

/-- The runtime is sampled only when nothing else blocks the request. -/
def beginMaintenanceWith : Except MaintenanceError Decision := do
  match ← standardReplay state requestId plan request userConfirmedRestart with
  | some decision => return decision
  | none =>
    let preliminary := readinessSnapshot state sample request {}
    let needsRuntimeFacts := preliminary.status = .unknown ∧
      preliminary.blockerCodes = ["RUNTIME_ACTIVITY_UNKNOWN"]
    if preliminary.status ≠ .ready ∧ ¬ needsRuntimeFacts then
      return notBegun preliminary.status preliminary.gateGeneration preliminary.blockerCodes
    else
      let usage := if needsRuntimeFacts then sample.usage else {}
      return holdWhenReady sample requestId plan request expectedGateGeneration
        userConfirmedRestart (readinessSnapshot state sample request usage)

/-! ### The first installation -/

/-- The request names every source once. -/
def hasDuplicateSources : Bool :=
  request.sources.length ≠ request.expectedActivitySources.length

def sameBootstrapHold (initialSourceArtifactRef : Option InitialSourceArtifactRef) : Bool :=
  existing.plan = plan ∧ existing.targetKind = request.targetKind ∧
    existing.requiresRestart = request.requiresRestart ∧ existing.userConfirmedRestart ∧
    existing.expectedGateGeneration = expectedGateGeneration ∧
    existing.expectedCatalogGeneration = request.expectedCatalogGeneration ∧
    existing.expectedCatalogGeneration = sample.catalog.generation ∧
    existing.expectedActivitySources = request.sources ∧
    existing.expectedActivitySources = sample.catalog.sourceIds.toList ∧
    existing.initialSourceArtifactRef = initialSourceArtifactRef ∧
    existing.parentRequestId = none

/-- A source without operations on bindings. -/
def isUnboundSource : Bool :=
  (catalog.source sourceId).any (·.bindingScopes = [])

/-- Hold admissions for a bootstrap of the core. -/
def beginCoreBootstrap (initialSourceArtifactRef : Option InitialSourceArtifactRef) :
    Except MaintenanceError Decision := do
  let catalog := sample.catalog
  failIf (hasDuplicateSources request)
    (.invalidRequest "expected_activity_sources must not contain duplicates")
  match state.maintenance with
  | some existing =>
    failIf (¬ (existing.requestId = requestId ∧ existing.origin = .coreBootstrap))
      (.admissionDenied "MAINTENANCE_ALREADY_ACTIVE")
    failIf (sameBootstrapHold existing sample plan request expectedGateGeneration
        initialSourceArtifactRef = false)
      (.admissionDenied "REQUEST_ID_PLAN_MISMATCH")
    return alreadyBegun state existing
  | none =>
    failIf (state.completedMaintenances.contains requestId)
      (.admissionDenied "MAINTENANCE_REQUEST_ALREADY_COMPLETED")
    failIf (state.coreBootstrapEligible = false ∨ state.completedMaintenances.isEmpty = false ∨
        state.tasks.isEmpty = false ∨ state.runtimeAdmissions.isEmpty = false ∨
        state.bindingOperations.isEmpty = false ∨
        state.completedBindingOperations.isEmpty = false)
      (.admissionDenied "CORE_BOOTSTRAP_REQUIRES_FRESH_STORE")
    failIf (state.installCatalogGeneration ≠ catalog.generation ∨
        request.expectedCatalogGeneration ≠ catalog.generation ∨
        request.sources ≠ catalog.sourceIds.toList)
      (.admissionDenied "CORE_BOOTSTRAP_CATALOG_MISMATCH")
    failIf (initialSourceArtifactRef.any fun sourceRef =>
        ¬ (catalog.sources.length = 1 ∧ request.sources = [sourceRef.sourceId] ∧
          isUnboundSource catalog sourceRef.sourceId) ∧
        ¬ (catalog.generation = 0 ∧ catalog.sources = [] ∧ request.sources = []))
      (.admissionDenied "CORE_BOOTSTRAP_SOURCE_REF_UNTRUSTED")
    failIf (state.gateGeneration ≠ expectedGateGeneration)
      (.admissionDenied "CORE_BOOTSTRAP_GATE_GENERATION_MISMATCH")
    return hold
      { requestId := requestId
        token := sample.uuid 0
        targetKind := .coreRuntime
        requiresRestart := true
        userConfirmedRestart := true
        expectedGateGeneration := state.gateGeneration
        expectedCatalogGeneration := catalog.generation
        expectedActivitySources := request.sources
        plan := plan
        startedAtUnixMs := sample.later
        initialSourceArtifactRef := initialSourceArtifactRef
        parentRequestId := none
        origin := .coreBootstrap }

/-- The bootstrap succeeded for the source, and the catalog is the one that it ended with. -/
def isParentBootstrap (parent : CompletedMaintenanceRecord) (sourceRef : InitialSourceArtifactRef)
    (sample : Sample) (parentRequestId sourceId : String) : Bool :=
  let maintenance := parent.maintenance
  let current := sample.catalog.sourceIds.toList
  maintenance.origin = .coreBootstrap ∧ maintenance.requestId = parentRequestId ∧
    maintenance.targetKind = .coreRuntime ∧ maintenance.requiresRestart ∧
    maintenance.userConfirmedRestart ∧ maintenance.parentRequestId = none ∧
    parent.outcome = .success ∧ parent.healthy ∧ parent.unlocked ∧
    (maintenance.expectedCatalogGeneration = sample.catalog.generation ∧
        maintenance.expectedActivitySources = current ∨
      maintenance.expectedCatalogGeneration = 0 ∧ maintenance.expectedActivitySources = [] ∧
        sample.catalog.generation = 1 ∧ current = [sourceRef.sourceId]) ∧
    sourceRef.sourceId = sourceId

def sameActivationHold : Bool :=
  existing.origin = .initialSourceActivation ∧ existing.parentRequestId = some parentRequestId ∧
    existing.initialSourceArtifactRef = some sourceRef ∧ existing.plan = plan ∧
    existing.targetKind = request.targetKind ∧
    existing.requiresRestart = request.requiresRestart ∧ existing.userConfirmedRestart ∧
    existing.expectedGateGeneration = expectedGateGeneration ∧
    existing.expectedCatalogGeneration = request.expectedCatalogGeneration ∧
    existing.expectedActivitySources = request.sources ∧
    request.expectedCatalogGeneration = sample.catalog.generation ∧
    existing.expectedActivitySources = sample.catalog.sourceIds.toList

def beginInitialSourceActivation : Except MaintenanceError Decision := do
  let catalog := sample.catalog
  failIf (hasDuplicateSources request)
    (.invalidRequest "expected_activity_sources must not contain duplicates")
  request.sources.forM fun source => validateIdentifier source "expected_activity_source"
  let parent ← foundOr state.completedMaintenances[parentRequestId]?
    (.admissionDenied "INITIAL_SOURCE_PARENT_BOOTSTRAP_NOT_FOUND")
  let sourceRef ← foundOr parent.maintenance.initialSourceArtifactRef
    (.admissionDenied "INITIAL_SOURCE_PARENT_IDENTITY_MISSING")
  validateInitialSourceArtifactRef sourceRef
  failIf (isParentBootstrap parent sourceRef sample parentRequestId sourceId = false)
    (.admissionDenied "INITIAL_SOURCE_PARENT_BOOTSTRAP_MISMATCH")
  failIf (plan.componentArtifactDigests[sourceRef.componentId]? ≠ some sourceRef.artifactDigest)
    (.admissionDenied "INITIAL_SOURCE_ARTIFACT_MISMATCH")
  match state.maintenance with
  | some existing =>
    failIf (existing.requestId ≠ requestId) (.admissionDenied "MAINTENANCE_ALREADY_ACTIVE")
    failIf (sameActivationHold existing sourceRef sample parentRequestId plan request
        expectedGateGeneration = false)
      (.admissionDenied "REQUEST_ID_PLAN_MISMATCH")
    return alreadyBegun state existing
  | none =>
    failIf (state.completedMaintenances.contains requestId)
      (.admissionDenied "MAINTENANCE_REQUEST_ALREADY_COMPLETED")
    failIf (state.completedMaintenances.size ≠ 1 ∨ state.tasks.isEmpty = false ∨
        state.runtimeAdmissions.isEmpty = false ∨ state.bindingOperations.isEmpty = false ∨
        state.completedBindingOperations.isEmpty = false ∨ state.sources.isEmpty = false)
      (.admissionDenied "INITIAL_SOURCE_REQUIRES_NEVER_ACTIVE_BOOTSTRAP")
    failIf (catalog.sources.length ≠ 1 ∨ isUnboundSource catalog sourceId = false ∨
        request.sources ≠ catalog.sourceIds.toList ∨
        request.expectedCatalogGeneration ≠ catalog.generation ∨
        state.installCatalogGeneration ≠ catalog.generation)
      (.admissionDenied "INITIAL_SOURCE_CATALOG_MISMATCH")
    if state.gateGeneration ≠ expectedGateGeneration then
      return notBegun .staleReadiness state.gateGeneration ["READINESS_GENERATION_STALE"]
    else if sample.usage.known = false then
      return notBegun .unknown state.gateGeneration ["RUNTIME_ACTIVITY_UNKNOWN"]
    else if sample.usage.activeWorkerCount > 0 ∨ sample.usage.activeAllocationCount > 0 then
      return notBegun .idleRuntimeRequiresUnload state.gateGeneration
        ["IDLE_RUNTIME_REQUIRES_UNLOAD"]
    else
      return hold
        { requestId := requestId
          token := sample.uuid 0
          targetKind := .coreRuntime
          requiresRestart := true
          userConfirmedRestart := true
          expectedGateGeneration := state.gateGeneration
          expectedCatalogGeneration := catalog.generation
          expectedActivitySources := request.sources
          plan := plan
          startedAtUnixMs := sample.later
          initialSourceArtifactRef := some sourceRef
          parentRequestId := some parentRequestId
          origin := .initialSourceActivation }

/-! ### The end of a hold -/

/-- The source of an initial activation is active, and nothing else is. -/
def requireInitialSourceActivationEndState (active : MaintenanceRecord) :
    Except MaintenanceError Unit := do
  let catalog := sample.catalog
  let sourceRef ← foundOr active.initialSourceArtifactRef
    (.admissionDenied "INITIAL_SOURCE_IDENTITY_MISSING")
  let parentRequestId ← foundOr active.parentRequestId
    (.admissionDenied "INITIAL_SOURCE_PARENT_BOOTSTRAP_NOT_FOUND")
  let parent ← foundOr state.completedMaintenances[parentRequestId]?
    (.admissionDenied "INITIAL_SOURCE_PARENT_BOOTSTRAP_NOT_FOUND")
  failIf (active.origin ≠ .initialSourceActivation ∨ active.targetKind ≠ .coreRuntime ∨
      parent.maintenance.origin ≠ .coreBootstrap ∨
      parent.maintenance.requestId ≠ parentRequestId ∨
      parent.maintenance.requiresRestart = false ∨
      parent.maintenance.userConfirmedRestart = false ∨
      parent.maintenance.initialSourceArtifactRef ≠ some sourceRef ∨
      parent.outcome ≠ .success ∨ parent.healthy = false ∨ parent.unlocked = false ∨
      catalog.generation ≠ active.expectedCatalogGeneration ∨
      state.installCatalogGeneration ≠ catalog.generation ∨ catalog.sources.length ≠ 1 ∨
      isUnboundSource catalog sourceRef.sourceId = false ∨
      active.expectedActivitySources ≠ [sourceRef.sourceId] ∨
      active.plan.componentArtifactDigests[sourceRef.componentId]? ≠
        some sourceRef.artifactDigest)
    (.admissionDenied "INITIAL_SOURCE_CATALOG_OR_PARENT_MISMATCH")
  failIf (state.tasks.isEmpty = false ∨ state.runtimeAdmissions.isEmpty = false ∨
      state.bindingOperations.isEmpty = false ∨ state.completedBindingOperations.isEmpty = false)
    (.admissionDenied "INITIAL_SOURCE_ACTIVITY_NOT_QUIESCENT")
  failIf (state.sources.size ≠ 1 ∨ state.sources.contains sourceRef.sourceId = false)
    (.admissionDenied "ACTIVITY_SOURCE_NOT_READY")
  requireFreshSource state sample sourceRef.sourceId

/-- The status that is reported with the end of a hold. -/
def endStatus (unlocked : Bool) : ReadinessStatus := if unlocked then .ready else .maintenanceActive

/-- End the active hold of a request with an outcome. -/
def endMaintenance (outcome : MaintenanceOutcome) (healthy : Bool) :
    Except MaintenanceError Decision := do
  match state.completedMaintenances[requestId]?, state.maintenance with
  | some completed, _ =>
    failIf (¬ (completed.maintenance.token = token ∧ completed.outcome = outcome ∧
        completed.healthy = healthy))
      (.admissionDenied "MAINTENANCE_END_REPLAY_MISMATCH")
    return .answer (.ended
      ⟨completed.unlocked, endStatus completed.unlocked, completed.gateGeneration⟩)
  | none, none => denied "MAINTENANCE_NOT_ACTIVE"
  | none, some active =>
    failIf (active.token ≠ token ∨ active.requestId ≠ requestId)
      (.admissionDenied "MAINTENANCE_TOKEN_INVALID")
    if active.origin = .initialSourceActivation ∧ healthy ∧ outcome = .success then
      requireInitialSourceActivationEndState state sample active
    let unlocked := maintenanceEndShouldUnlock active.origin outcome healthy
    return .append (.maintenanceEnded requestId token outcome healthy unlocked sample.later)
      fun after => .ended ⟨unlocked, endStatus unlocked, after.gateGeneration⟩

def validateMaintenanceHold (proof : MaintenanceHoldProof) (targetKind : UpdateTargetKind)
    (componentId artifactDigest : String) (expectedGateGeneration expectedCatalogGeneration : Nat) :
    Except MaintenanceError Decision := do
  failIf (state.gateGeneration ≠ expectedGateGeneration)
    (.admissionDenied "MAINTENANCE_GATE_GENERATION_MISMATCH")
  failIf (state.installCatalogGeneration ≠ expectedCatalogGeneration ∨
      sample.catalog.generation ≠ expectedCatalogGeneration)
    (.admissionDenied "ACTIVITY_CATALOG_GENERATION_MISMATCH")
  let active ← foundOr state.maintenance (.admissionDenied "MAINTENANCE_NOT_ACTIVE")
  failIf (active.requestId ≠ proof.requestId ∨ active.token ≠ proof.maintenanceToken)
    (.admissionDenied "MAINTENANCE_TOKEN_INVALID")
  failIf (active.targetKind ≠ targetKind ∨ active.plan ≠ proof.plan)
    (.admissionDenied "MAINTENANCE_PLAN_MISMATCH")
  failIf (active.plan.componentArtifactDigests[componentId]? ≠ some artifactDigest)
    (.admissionDenied "MAINTENANCE_COMPONENT_DIGEST_MISMATCH")
  failIf (state.tasks.isEmpty = false ∨ state.runtimeAdmissions.isEmpty = false ∨
      state.bindingOperations.isEmpty = false)
    (.admissionDenied "MAINTENANCE_WORK_INFLIGHT")
  return .answer (.hold
    { valid := true
      requestId := active.requestId
      targetKind := active.targetKind
      plan := active.plan
      componentId := componentId
      artifactDigest := artifactDigest
      gateGeneration := state.gateGeneration
      catalogGeneration := state.installCatalogGeneration })

/-! ### Actions of the runtime -/

/-- The reservation of an action of the runtime. -/
def reserveRuntimeAdmission (actionName : String) : Except MaintenanceError Decision := do
  failIf state.maintenance.isSome (.admissionDenied "UPDATE_MAINTENANCE_ACTIVE")
  return .append (.runtimeAdmissionStarted token actionName) fun _ => .done

/-- The end of an action of the runtime. -/
def finishRuntimeAdmission : Decision :=
  if state.runtimeAdmissions.contains token then
    .append (.runtimeAdmissionEnded token) fun _ => .done
  else .answer .done

def clearRecoveredRuntimeAdmissions : Decision :=
  if state.runtimeAdmissions.isEmpty then .answer .done
  else .append .runtimeAdmissionsRecovered fun _ => .done

/-! ### The catalog -/

/-- What is at the path of the catalog: a catalog, nothing, or something that cannot be used. -/
inductive CatalogRead
  | loaded (catalog : TrustedActivitySourceCatalog)
  | missing (error : MaintenanceError)
  | failed (error : MaintenanceError)
deriving DecidableEq

def ensureCatalogAdoptionAllowed : Except MaintenanceError Unit := do
  failIf (state.bindingOperations.isEmpty = false)
    (.admissionDenied "BINDING_OPERATIONS_INFLIGHT")
  failIf state.maintenance.isSome (.admissionDenied "MAINTENANCE_HOLD_PROOF_REQUIRED")

def regressed : MaintenanceError :=
  .catalogUnavailable "trusted activity-source catalog generation regressed"

/-- The event that makes the catalog of the process the one of the gate. -/
def adoptionEvent : Option JournalEvent :=
  if state.installCatalogGeneration ≠ catalog.generation then
    some (.catalogConfigured catalog.generation)
  else none

/-- Adopt the catalog of the process, or the one at its path: the catalog of the process from now
on, and an event to append.  `read` is missing for a process without a path. -/
def refreshCatalog (current : TrustedActivitySourceCatalog) (read : Option CatalogRead) :
    Except MaintenanceError (TrustedActivitySourceCatalog × Option JournalEvent) :=
  match read with
  | none => do
    failIf (state.installCatalogGeneration > current.generation) regressed
    if state.installCatalogGeneration ≠ current.generation then
      ensureCatalogAdoptionAllowed state
    return (current, adoptionEvent state current)
  | some (.failed error) => .error error
  | some (.missing error) =>
    if current.generation = 0 ∧ state.installCatalogGeneration = 0 then .ok (current, none)
    else .error error
  | some (.loaded catalog) => do
    catalog.validate
    failIf (catalog.generation < current.generation ∨
        catalog.generation = current.generation ∧ catalog ≠ current)
      (.catalogUnavailable
        "trusted activity-source catalog changed without a generation advance")
    failIf (state.installCatalogGeneration > catalog.generation) regressed
    if state.installCatalogGeneration ≠ catalog.generation then
      ensureCatalogAdoptionAllowed state
    return (catalog, adoptionEvent state catalog)

/-- A replacement of the catalog under a bootstrap hold brings its one source. -/
def bootstrapCatalogMismatch (active : MaintenanceRecord) (expectedGeneration : Nat)
    (current catalog : TrustedActivitySourceCatalog) : Bool :=
  active.origin = .coreBootstrap ∧ active.expectedCatalogGeneration = 0 ∧
    active.initialSourceArtifactRef.any fun sourceRef =>
      expectedGeneration ≠ 0 ∨ current.generation ≠ 0 ∨ current.sources ≠ [] ∨
        active.expectedActivitySources ≠ [] ∨ catalog.generation ≠ 1 ∨
        catalog.sources.length ≠ 1 ∨ isUnboundSource catalog sourceRef.sourceId = false

/-- A hold, and only a hold, asks for its proof. -/
def requireHoldProof (maintenanceProof : Option MaintenanceHoldProof) :
    Except MaintenanceError Unit :=
  match state.maintenance, maintenanceProof with
  | none, none => .ok ()
  | none, some _ => denied "MAINTENANCE_NOT_ACTIVE"
  | some _, none => denied "MAINTENANCE_HOLD_PROOF_REQUIRED"
  | some active, some proof =>
    failIf (¬ (active.requestId = proof.requestId ∧ active.token = proof.maintenanceToken ∧
        active.plan = proof.plan))
      (.admissionDenied "MAINTENANCE_HOLD_PROOF_MISMATCH")

/-- The replacement of the catalog by its writer; `written` is the outcome of writing the file. -/
def commitActivitySourceCatalog (expectedGeneration : Nat) (catalog : TrustedActivitySourceCatalog)
    (maintenanceProof : Option MaintenanceHoldProof) (written : Except MaintenanceError Unit) :
    Except MaintenanceError Decision := do
  let current := sample.catalog
  failIf (current.generation ≠ expectedGeneration ∨
      state.installCatalogGeneration ≠ expectedGeneration)
    (.catalogUnavailable "activity catalog changed while replacement was being prepared")
  failIf (state.bindingOperations.isEmpty = false)
    (.admissionDenied "BINDING_OPERATIONS_INFLIGHT")
  requireHoldProof state maintenanceProof
  failIf (state.maintenance.any (bootstrapCatalogMismatch · expectedGeneration current catalog))
    (.admissionDenied "INITIAL_SOURCE_BOOTSTRAP_CATALOG_MISMATCH")
  written
  return .append (.catalogConfigured catalog.generation) fun _ => .done

/-! ### All operations -/

/-- The operations of the gate.  An action of the runtime makes two of them, before and after it. -/
inductive Operation
  | refresh
  | commitCatalog (expectedGeneration : Nat) (catalog : TrustedActivitySourceCatalog)
      (proof : Option MaintenanceHoldProof) (written : Except MaintenanceError Unit)
  | currentGateGeneration
  | coreBootstrapEligible
  | heartbeat (sourceId : String)
  | admitTask (sourceId taskId : String) (state : TaskActivityState)
  | updateTask (sourceId taskId : String) (state : TaskActivityState)
  | completeTask (sourceId taskId : String)
  | listActiveTasks (sourceId : String)
  | reconcile (sourceId : String) (activeTasks : List TaskActivityRecord)
  | admitBinding (requestId : String) (caller : BindingOperationCaller)
      (scope : BindingOperationScope)
  | completeBinding (requestId : String) (caller : BindingOperationCaller)
      (scope : BindingOperationScope) (operationToken : String)
  | readiness (request : ReadinessRequest)
  | readinessWith (request : ReadinessRequest)
  | beginMaintenance (requestId : String) (plan : MaintenancePlan) (request : ReadinessRequest)
      (expectedGateGeneration : Nat) (userConfirmedRestart : Bool)
  | beginMaintenanceWith (requestId : String) (plan : MaintenancePlan)
      (request : ReadinessRequest) (expectedGateGeneration : Nat) (userConfirmedRestart : Bool)
  | beginCoreBootstrap (requestId : String) (plan : MaintenancePlan) (request : ReadinessRequest)
      (expectedGateGeneration : Nat) (userConfirmedRestart : Bool)
      (initialSourceArtifactRef : Option InitialSourceArtifactRef)
  | beginInitialSourceActivation (requestId parentRequestId sourceId : String)
      (plan : MaintenancePlan) (request : ReadinessRequest) (expectedGateGeneration : Nat)
      (userConfirmedRestart : Bool)
  | endMaintenance (requestId token : String) (outcome : MaintenanceOutcome) (healthy : Bool)
  | validateHold (proof : MaintenanceHoldProof) (targetKind : UpdateTargetKind)
      (componentId artifactDigest : String) (expectedGateGeneration expectedCatalogGeneration : Nat)
  | reserveRuntime (token actionName : String)
  | finishRuntime (token : String)
  | clearRecovered

/-- A text that is neither empty nor too long. -/
def boundedText (value message : String) (bound : Nat) : Except MaintenanceError Unit :=
  failIf (value = "" ∨ (bytesOf value).length > bound) (.invalidRequest message)

def validateBindingOperationScope (scope : BindingOperationScope) :
    Except MaintenanceError Unit := do
  validateIdentifier scope.bindingId "binding_id"
  validateIdentifier scope.packageId "package_id"
  validateIdentifier scope.installationId "installation_id"

/-- The checks of both operations on a binding before they take the lock. -/
def precheckBinding (caller : BindingOperationCaller) (scope : BindingOperationScope) :
    Except MaintenanceError Unit := do
  validateIdentifier requestId "request_id"
  validateBindingOperationScope scope
  validateIdentifier caller.sourceId "source_id"
  boundedText caller.sourceToken "source_token must be non-empty and at most 4096 bytes" 4096

/-- The checks that an operation makes before it takes the lock. -/
def Operation.precheck : Operation → Except MaintenanceError Unit
  | .commitCatalog expectedGeneration catalog _ _ => do
    catalog.validate
    failIf (expectedGeneration = u64Max)
      (.invalidRequest "activity catalog generation exhausted")
    failIf (catalog.generation ≠ expectedGeneration + 1)
      (.invalidRequest "replacement catalog generation must advance exactly once")
  | .heartbeat sourceId | .updateTask sourceId _ _ | .listActiveTasks sourceId =>
    validateIdentifier sourceId "source_id"
  | .admitTask sourceId taskId _ | .completeTask sourceId taskId => do
    validateIdentifier sourceId "source_id"
    validateIdentifier taskId "task_id"
  | .reconcile sourceId activeTasks => do
    validateIdentifier sourceId "source_id"
    activeTasks.forM fun task => do
      failIf (task.sourceId ≠ sourceId)
        (.invalidRequest "reconciliation contains a task owned by another source")
      validateIdentifier task.taskId "task_id"
    failIf (¬ (activeTasks.map (·.taskId)).Nodup)
      (.invalidRequest "reconciliation contains duplicate task ids")
  | .admitBinding requestId caller scope => precheckBinding requestId caller scope
  | .completeBinding requestId caller scope operationToken => do
    precheckBinding requestId caller scope
    boundedText operationToken "operation_token must be non-empty and at most 256 bytes" 256
  | .beginMaintenance requestId plan _ _ _ | .beginMaintenanceWith requestId plan _ _ _ => do
    validateIdentifier requestId "request_id"
    validatePlan plan
  | .beginCoreBootstrap requestId plan request _ userConfirmedRestart sourceRef => do
    validateIdentifier requestId "request_id"
    validatePlan plan
    sourceRef.toList.forM validateInitialSourceArtifactRef
    failIf (request.targetKind ≠ .coreRuntime ∨ request.requiresRestart = false ∨
        userConfirmedRestart = false)
      (.invalidRequest "core bootstrap requires CORE_RUNTIME restart confirmation")
  | .beginInitialSourceActivation requestId parentRequestId sourceId plan request _ _ => do
    validateIdentifier requestId "request_id"
    validateIdentifier parentRequestId "parent_request_id"
    validateIdentifier sourceId "source_id"
    validatePlan plan
    failIf (requestId = parentRequestId)
      (.invalidRequest "initial source activation must use a new request id")
    failIf (request.targetKind ≠ .coreRuntime ∨ request.requiresRestart = false)
      (.invalidRequest "initial source activation requires CORE_RUNTIME restart")
  | .endMaintenance requestId token _ _ => do
    failIf (token = "") (.invalidRequest "maintenance token is required")
    validateIdentifier requestId "request_id"
  | .validateHold proof _ componentId artifactDigest _ _ => do
    validateIdentifier proof.requestId "request_id"
    validateIdentifier componentId "component_id"
    validatePlan proof.plan
    boundedText proof.maintenanceToken
      "maintenance token must be non-empty and at most 256 bytes" 256
    boundedText artifactDigest "artifact digest must be non-empty and at most 512 bytes" 512
  | .reserveRuntime _ actionName => validateIdentifier actionName "action_name"
  | _ => .ok ()

/-- What an operation decides while it holds the lock. -/
def Operation.decide (sha256 : String → String) (state : PersistedState) (sample : Sample) :
    Operation → Except MaintenanceError Decision
  | .refresh => .ok (.answer .done)
  | .commitCatalog expectedGeneration catalog proof written =>
    commitActivitySourceCatalog state sample expectedGeneration catalog proof written
  | .currentGateGeneration => .ok (.answer (.generation state.gateGeneration))
  | .coreBootstrapEligible => .ok (.answer (.eligible state.coreBootstrapEligible))
  | .heartbeat sourceId => heartbeatActivitySource sample sourceId
  | .admitTask sourceId taskId activityState =>
    Maintenance.admitTask state sample sourceId taskId activityState
  | .updateTask sourceId taskId activityState =>
    updateTaskActivity state sample sourceId taskId activityState
  | .completeTask sourceId taskId => Maintenance.completeTask state sample sourceId taskId
  | .listActiveTasks sourceId => do
    requireTrustedSourceCurrent sample sourceId
    return .answer (.tasks (activeTasksFor state (some sourceId)))
  | .reconcile sourceId activeTasks => reconcileActivitySource state sample sourceId activeTasks
  | .admitBinding requestId caller scope =>
    admitBindingOperation sha256 state sample requestId caller scope
  | .completeBinding requestId caller scope operationToken =>
    completeBindingOperation sha256 state sample requestId caller scope operationToken
  | .readiness request =>
    .ok (.answer (.readiness (readinessSnapshot state sample request sample.usage)))
  | .readinessWith request =>
    let usage := if request.targetKind = .coreRuntime then sample.usage else {}
    .ok (.answer (.readiness (readinessSnapshot state sample request usage)))
  | .beginMaintenance requestId plan request expectedGateGeneration userConfirmedRestart =>
    Maintenance.beginMaintenance state sample requestId plan request expectedGateGeneration
      userConfirmedRestart
  | .beginMaintenanceWith requestId plan request expectedGateGeneration userConfirmedRestart =>
    Maintenance.beginMaintenanceWith state sample requestId plan request expectedGateGeneration
      userConfirmedRestart
  | .beginCoreBootstrap requestId plan request expectedGateGeneration _ sourceRef =>
    Maintenance.beginCoreBootstrap state sample requestId plan request expectedGateGeneration
      sourceRef
  | .beginInitialSourceActivation requestId parentRequestId sourceId plan request
      expectedGateGeneration userConfirmedRestart =>
    if userConfirmedRestart = false then
      .ok (notBegun .userConfirmationRequired state.gateGeneration ["USER_CONFIRMATION_REQUIRED"])
    else Maintenance.beginInitialSourceActivation state sample requestId parentRequestId sourceId
      plan request expectedGateGeneration
  | .endMaintenance requestId token outcome healthy =>
    Maintenance.endMaintenance state sample requestId token outcome healthy
  | .validateHold proof targetKind componentId artifactDigest expectedGateGeneration
      expectedCatalogGeneration =>
    validateMaintenanceHold state sample proof targetKind componentId artifactDigest
      expectedGateGeneration expectedCatalogGeneration
  | .reserveRuntime token actionName => reserveRuntimeAdmission state token actionName
  | .finishRuntime token => .ok (finishRuntimeAdmission state token)
  | .clearRecovered => .ok (clearRecoveredRuntimeAdmissions state)

end CyreneKernel.Maintenance
