import CyreneKernel.Contract.Artifact
import CyreneKernel.Contract.Namespace

/-!
# The state of the maintenance gate

Kernel, broker and products share one gate: tasks, actions of the runtime and operations on bindings
are admitted through it, and a maintenance hold closes it.  The state of the gate is what a journal
of events amounts to.
-/

namespace CyreneKernel.Maintenance

open Lib

inductive MaintenanceError
  | invalidRequest (message : String)
  | catalogUnavailable (message : String)
  | stateUnknown (message : String)
  | storage (message : String)
  | admissionDenied (code : String)
deriving DecidableEq

inductive UpdateTargetKind
  | packageOnly
  | coreRuntime
deriving DecidableEq

inductive ReadinessStatus
  | ready
  | activeTasks
  | activeBindingOperations
  | unknown
  | idleRuntimeRequiresUnload
  | maintenanceActive
  | staleReadiness
  | userConfirmationRequired
deriving DecidableEq

inductive TaskActivityState
  | accepted
  | queued
  | dispatching
  | running
  | canceling
  | inflight
deriving DecidableEq

inductive BindingOperationKind
  | activate
  | recover
  | deactivate
deriving DecidableEq

inductive MaintenanceOutcome
  | success
  | rolledBack
  | failed
deriving DecidableEq

inductive MaintenanceOrigin
  | standard
  | coreBootstrap
  | initialSourceActivation
deriving DecidableEq

/-! ### Requests -/

structure TaskAdmission where
  token : String
  sourceId : String
  taskId : String
  state : TaskActivityState
  gateGeneration : Nat
deriving DecidableEq

structure TaskActivityRecord where
  sourceId : String
  taskId : String
  state : TaskActivityState
deriving DecidableEq

structure BindingOperationScope where
  bindingId : String
  packageId : String
  installationId : String
  operation : BindingOperationKind
deriving DecidableEq

structure BindingOperationCaller where
  sourceId : String
  sourceToken : String
  peerUid : Nat
  peerGid : Nat
  expectedCatalogGeneration : Nat
deriving DecidableEq

structure RuntimeUsage where
  known : Bool := false
  activeWorkerCount : Nat := 0
  activeAllocationCount : Nat := 0
deriving DecidableEq

structure ReadinessRequest where
  targetKind : UpdateTargetKind
  requiresRestart : Bool
  expectedCatalogGeneration : Nat
  expectedActivitySources : List String
deriving DecidableEq

structure MaintenancePlan where
  planId : String
  planDigest : String
  componentArtifactDigests : BTreeMap String String
deriving DecidableEq

structure InitialSourceArtifactRef where
  sourceId : String
  componentId : String
  artifactDigest : String
deriving DecidableEq

structure MaintenanceHoldProof where
  requestId : String
  maintenanceToken : String
  plan : MaintenancePlan
deriving DecidableEq

/-! ### Records -/

structure MaintenanceRecord where
  requestId : String
  token : String
  targetKind : UpdateTargetKind
  requiresRestart : Bool
  userConfirmedRestart : Bool
  expectedGateGeneration : Nat
  expectedCatalogGeneration : Nat
  expectedActivitySources : List String
  plan : MaintenancePlan
  startedAtUnixMs : Nat
  initialSourceArtifactRef : Option InitialSourceArtifactRef
  parentRequestId : Option String
  origin : MaintenanceOrigin
deriving DecidableEq

structure CompletedMaintenanceRecord where
  maintenance : MaintenanceRecord
  outcome : MaintenanceOutcome
  healthy : Bool
  unlocked : Bool
  endedAtUnixMs : Nat
  gateGeneration : Nat
deriving DecidableEq

structure BindingOperationRecord where
  requestId : String
  operationToken : String
  sourceId : String
  scope : BindingOperationScope
  startedAtUnixMs : Nat
deriving DecidableEq

def stateSchemaVersion : Nat := 2

/-- The state of the gate.  A task record is its admission, and a source record the time of the last
heartbeat. -/
structure PersistedState where
  schemaVersion : Nat := stateSchemaVersion
  journalSequence : Nat := 0
  gateGeneration : Nat := 0
  installCatalogGeneration : Nat := 0
  maintenance : Option MaintenanceRecord := none
  completedMaintenances : BTreeMap String CompletedMaintenanceRecord := ∅
  tasks : BTreeMap String TaskAdmission := ∅
  runtimeAdmissions : BTreeMap String String := ∅
  bindingOperations : BTreeMap String BindingOperationRecord := ∅
  completedBindingOperations : BTreeMap String BindingOperationRecord := ∅
  sources : BTreeMap String Nat := ∅
  coreBootstrapEligible : Bool := true
deriving DecidableEq

inductive JournalEvent
  | catalogConfigured (generation : Nat)
  | sourceHeartbeat (sourceId : String) (atUnixMs : Nat)
  | taskAdmitted (admission : TaskAdmission)
  | taskUpdated (admission : TaskAdmission)
  | taskCompleted (sourceId taskId : String)
  | tasksReconciled (sourceId : String) (activeTasks : List TaskAdmission) (atUnixMs : Nat)
  | stateCheckpoint (state : PersistedState)
  | runtimeAdmissionStarted (token action : String)
  | runtimeAdmissionEnded (token : String)
  | runtimeAdmissionsRecovered
  | bindingOperationAdmitted (record : BindingOperationRecord)
  | bindingOperationCompleted (record : BindingOperationRecord)
  | maintenanceBegan (record : MaintenanceRecord)
  | maintenanceEnded (requestId token : String) (outcome : MaintenanceOutcome)
      (healthy unlocked : Bool) (endedAtUnixMs : Nat)
deriving DecidableEq

structure JournalEntry where
  sequence : Nat
  event : JournalEvent
deriving DecidableEq

/-! ### The catalog of sources -/

structure TrustedBindingScope where
  bindingId : String
  packageId : String
  installationIds : List String
  operations : List BindingOperationKind
deriving DecidableEq

structure TrustedActivitySource where
  sourceId : String
  uid : Nat
  gid : Option Nat
  sourceTokenSha256 : String
  bindingScopes : List TrustedBindingScope
deriving DecidableEq

structure TrustedActivitySourceCatalog where
  schemaVersion : Nat
  generation : Nat
  sources : List TrustedActivitySource
deriving DecidableEq

def isAsciiHexDigit (byte : UInt8) : Bool :=
  isAsciiDigit byte || (97 ≤ byte && byte ≤ 102) || (65 ≤ byte && byte ≤ 70)

def validateIdentifier (value field : String) : Except MaintenanceError Unit :=
  failIf (value = "" ∨ (bytesOf value).length > 256 ∨
      (bytesOf value).all (fun byte => isAsciiAlphanumeric byte ∨
        byte = 46 ∨ byte = 95 ∨ byte = 45 ∨ byte = 58) = false)
    (.invalidRequest
      (field ++ " must be 1-256 ASCII letters, digits, '.', '_', '-', or ':'"))

def validateDigest (value field : String) : Except MaintenanceError Unit :=
  failIf (isDigest value = false) (.invalidRequest
    (field ++ " must use sha256:<64 lowercase hexadecimal characters>"))

namespace TrustedActivitySourceCatalog

/-- Check a scope of a source against the owners of the bindings and the keys of the scopes before
it. -/
def validateScope (sourceId : String) :
    BTreeMap String String × List (String × String) → TrustedBindingScope →
    Except MaintenanceError (BTreeMap String String × List (String × String))
  | (owners, keys), scope => do
    failIf (owners[scope.bindingId]?.any (· ≠ sourceId)) (.catalogUnavailable
      ("binding " ++ scope.bindingId ++ " is authorized by more than one source"))
    validateIdentifier scope.bindingId "binding_id"
    validateIdentifier scope.packageId "package_id"
    failIf (scope.installationIds = [] ∨ scope.operations = []) (.catalogUnavailable
      ("source " ++ sourceId ++ " has an empty binding operation scope"))
    failIf ((scope.bindingId, scope.packageId) ∈ keys) (.catalogUnavailable
      ("source " ++ sourceId ++ " has a duplicate binding/package scope"))
    let _ ← scope.installationIds.foldlM (fun seen id => do
      validateIdentifier id "installation_id"
      failIf (id ∈ seen) (.catalogUnavailable ("source " ++ sourceId ++
        " has a duplicate installation id in binding scope " ++ scope.bindingId))
      return id :: seen) []
    failIf (¬ scope.operations.Nodup) (.catalogUnavailable
      ("source " ++ sourceId ++ " has a duplicate operation in binding scope " ++ scope.bindingId))
    return (owners.insert scope.bindingId sourceId, (scope.bindingId, scope.packageId) :: keys)

/-- Check a source against the ids and the owners of the bindings before it. -/
def validateSource :
    List String × BTreeMap String String → TrustedActivitySource →
    Except MaintenanceError (List String × BTreeMap String String)
  | (ids, owners), source => do
    validateIdentifier source.sourceId "source_id"
    failIf ((bytesOf source.sourceTokenSha256).length ≠ 64 ∨
        (bytesOf source.sourceTokenSha256).all isAsciiHexDigit = false)
      (.catalogUnavailable ("source " ++ source.sourceId ++ " has an invalid token hash"))
    failIf (source.sourceId ∈ ids)
      (.catalogUnavailable ("duplicate source_id: " ++ source.sourceId))
    let (owners, _) ← source.bindingScopes.foldlM (validateScope source.sourceId) (owners, [])
    return (source.sourceId :: ids, owners)

variable (catalog : TrustedActivitySourceCatalog)

def validate : Except MaintenanceError Unit := do
  failIf (catalog.schemaVersion ≠ 1 ∨ catalog.generation = 0)
    (.catalogUnavailable "unsupported source catalog schema or zero generation")
  let _ ← catalog.sources.foldlM validateSource ([], ∅)

def sourceIds : BTreeSet String :=
  BTreeSet.insertList ∅ (catalog.sources.map (·.sourceId))

def source (sourceId : String) : Option TrustedActivitySource :=
  catalog.sources.find? (·.sourceId = sourceId)

end TrustedActivitySourceCatalog

/-! ### Events -/

def taskKey (sourceId taskId : String) : String := sourceId ++ "\u0000" ++ taskId

variable (state : PersistedState)

/-- Heartbeats do not go back when the clock does. -/
def recordMonotonicSourceHeartbeat (sourceId : String) (observedAtUnixMs : Nat) : PersistedState :=
  let heartbeat := max (state.sources[sourceId]?.getD observedAtUnixMs) observedAtUnixMs
  { state with sources := state.sources.insert sourceId heartbeat }

def maintenanceEndShouldUnlock (origin : MaintenanceOrigin) (outcome : MaintenanceOutcome)
    (healthy : Bool) : Bool :=
  healthy && match origin with
    | .initialSourceActivation => outcome = .success
    | .standard | .coreBootstrap => outcome = .success ∨ outcome = .rolledBack

/-- The generation after the next change. -/
def PersistedState.nextGeneration : Nat :=
  saturatingAdd state.gateGeneration 1

/-- What an event does to everything but the sequence. -/
def applyEvent (event : JournalEvent) : Except MaintenanceError PersistedState :=
  match event with
  | .catalogConfigured generation => .ok { state with installCatalogGeneration := generation }
  | .sourceHeartbeat sourceId atUnixMs =>
    .ok (recordMonotonicSourceHeartbeat state sourceId atUnixMs)
  | .taskAdmitted admission | .taskUpdated admission =>
    .ok { state with
      tasks := state.tasks.insert (taskKey admission.sourceId admission.taskId) admission
      gateGeneration := admission.gateGeneration }
  | .taskCompleted sourceId taskId =>
    .ok { state with
      tasks := state.tasks.erase (taskKey sourceId taskId)
      gateGeneration := state.nextGeneration }
  | .tasksReconciled sourceId activeTasks atUnixMs =>
    let others := state.tasks.filter fun _ admission => admission.sourceId ≠ sourceId
    let tasks := activeTasks.foldl
      (fun tasks active => tasks.insert (taskKey sourceId active.taskId) active) others
    .ok { recordMonotonicSourceHeartbeat { state with tasks := tasks } sourceId atUnixMs with
      gateGeneration := state.nextGeneration }
  | .stateCheckpoint _ =>
    .error (.stateUnknown "checkpoint event appeared after journal start")
  | .runtimeAdmissionStarted token action =>
    .ok { state with
      runtimeAdmissions := state.runtimeAdmissions.insert token action
      gateGeneration := state.nextGeneration }
  | .runtimeAdmissionEnded token =>
    .ok { state with
      runtimeAdmissions := state.runtimeAdmissions.erase token
      gateGeneration := state.nextGeneration }
  | .runtimeAdmissionsRecovered =>
    .ok { state with
      runtimeAdmissions := ∅
      gateGeneration := state.nextGeneration }
  | .bindingOperationAdmitted record =>
    if state.bindingOperations.contains record.requestId ∨
        state.completedBindingOperations.contains record.requestId then
      .error (.stateUnknown "binding operation request id was admitted more than once")
    else .ok { state with
      bindingOperations := state.bindingOperations.insert record.requestId record
      gateGeneration := state.nextGeneration }
  | .bindingOperationCompleted record =>
    match state.bindingOperations[record.requestId]? with
    | none => .error (.stateUnknown "binding operation completion has no active reservation")
    | some active =>
      if active ≠ record then
        .error (.stateUnknown "binding operation completion does not match its reservation")
      else .ok { state with
        bindingOperations := state.bindingOperations.erase record.requestId
        completedBindingOperations :=
          state.completedBindingOperations.insert record.requestId record
        gateGeneration := state.nextGeneration }
  | .maintenanceBegan record =>
    .ok { state with
      maintenance := some record
      gateGeneration := state.nextGeneration }
  | .maintenanceEnded requestId token outcome healthy unlocked endedAtUnixMs =>
    match state.maintenance with
    | none =>
      .error (.stateUnknown "maintenance end journal record has no active transaction")
    | some active =>
      if active.requestId ≠ requestId ∨ active.token ≠ token then
        .error (.stateUnknown
          "maintenance end journal record does not match the active transaction")
      else if unlocked ≠ maintenanceEndShouldUnlock active.origin outcome healthy then
        .error (.stateUnknown "maintenance end journal health and unlock outcome disagree")
      else if unlocked then .ok { state with
        maintenance := none
        completedMaintenances := state.completedMaintenances.insert requestId
          { maintenance := active
            outcome := outcome
            healthy := healthy
            unlocked := true
            endedAtUnixMs := endedAtUnixMs
            gateGeneration := state.nextGeneration }
        gateGeneration := state.nextGeneration }
      else .ok { state with gateGeneration := state.nextGeneration }

/-- Whether an event only sets up the catalog. -/
def JournalEvent.isCatalogConfigured : JournalEvent → Bool
  | .catalogConfigured _ => true
  | _ => false

def applyEntry (entry : JournalEntry) : Except MaintenanceError PersistedState := do
  failIf (entry.sequence ≠ saturatingAdd state.journalSequence 1) (.stateUnknown
    ("journal sequence " ++ toString entry.sequence ++ " does not follow " ++
      toString state.journalSequence))
  let eligible := state.coreBootstrapEligible && entry.event.isCatalogConfigured
  let state ← applyEvent { state with coreBootstrapEligible := eligible } entry.event
  return { state with journalSequence := entry.sequence }

end CyreneKernel.Maintenance
