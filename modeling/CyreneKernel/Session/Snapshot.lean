import CyreneKernel.Session.Registry
import CyreneKernel.Lib.Collect

/-!
# Saved registries

The service saves its registry after every change that has to outlive the process, and a new process
starts from what was saved.  Sessions are not saved: agents have to connect again.  The store
replaces one file; when this fails, the file may be the old one, or the new one without a guarantee
that it stays.

## Main definitions

* `Snapshot`, `Registry.snapshot`, `Registry.restore`.
* `SessionStore`, `SessionStore.save`, `SessionStore.versions`.
-/

namespace CyreneKernel.Session

open Lib Control

/-! ### Snapshots -/

structure RuntimeCredential where
  runtime : Identity
  node : Identity
  token : String
  workload : Identity
  organization : String
  workspace : String
  expiresAt : Nat
  pendingProofDigest : Option String
deriving DecidableEq

structure AcceptedAssignment where
  id : String
  attemptId : String
  runtime : Identity
  node : Identity
  lease : Identity
  fence : Nat
  digest : String
deriving DecidableEq

structure TerminalObservation where
  assignmentId : String
  value : RuntimeObservation
deriving DecidableEq

/-- A saved registry; node keys are written like identities. -/
structure Snapshot where
  version : Nat
  hostTokens : List (Identity × String)
  runtimeCredentials : List RuntimeCredential
  runtimeBindings : List (Identity × Identity)
  highestEpochs : List (String × Nat)
  assignments : List AcceptedAssignment
  terminalObservations : List TerminalObservation
deriving DecidableEq

def nodeIdentity (node : NodeKey) : Identity := ⟨node.nodeId, node.nodeEpoch⟩

def invalid : DispatchError :=
  .input "SESSION_SNAPSHOT_INVALID"
    "persisted execution session state is invalid; original data retained"

namespace Registry

/-- The credential of a runtime, with the proof that it is pending for. -/
def credential (registry : Registry) (key : RuntimeKey) (token : String) :
    Except DispatchError RuntimeCredential := do
  let grant ← foundOr registry.runtimeGrants[key]? invalid
  return {
    runtime := key.runtime
    node := nodeIdentity key.node
    token
    workload := grant.workloadIdentity
    organization := grant.scope.organizationId
    workspace := grant.scope.workspaceId
    expiresAt := grant.expiresAtUnixMs
    pendingProofDigest := registry.pendingRuntimeEnrollments[key]?.map (·.proofDigest) }

def snapshot (registry : Registry) : Except DispatchError Snapshot := do
  let runtimeCredentials ← registry.runtimeResumeTokens.toList.mapM fun (key, token) =>
    registry.credential key token
  return {
    version := 1
    hostTokens := registry.hostResumeTokens.toList.map fun (key, token) => (nodeIdentity key, token)
    runtimeCredentials
    runtimeBindings := registry.runtimeNodeBindings.toList.map fun (runtime, key) =>
      (runtime, nodeIdentity key)
    highestEpochs := registry.highestNodeEpochs.toList
    assignments := registry.acceptedAssignments.values.map fun binding =>
      { id := binding.assignmentId
        attemptId := binding.attemptId
        runtime := binding.runtime
        node := nodeIdentity binding.node
        lease := binding.lease.identity
        fence := binding.lease.fenceToken
        digest := binding.digest }
    terminalObservations := registry.terminalObservations.toList.map fun (assignmentId, value) =>
      ⟨assignmentId, value⟩ }

end Registry

/-! ### Restoring -/

variable (highestEpochs : BTreeMap String Nat) (identity : Identity)

def restoreIdentity : Except DispatchError Identity := do
  identity.validate.mapError fun _ => invalid
  return identity

def restoreNode : Except DispatchError NodeKey := do
  let identity ← restoreIdentity identity
  return ⟨identity.id, identity.generation⟩

/-- A node of a snapshot, in an incarnation that was admitted. -/
def restoreKnownNode : Except DispatchError NodeKey := do
  let node ← restoreNode identity
  failIf (∀ epoch ∈ highestEpochs[node.nodeId]?, node.nodeEpoch > epoch) invalid
  return node

def restoreEpoch (entry : String × Nat) : Except DispatchError (String × Nat) := do
  let _ ← restoreIdentity ⟨entry.1, entry.2⟩
  return entry

def restoreHostToken (entry : Identity × String) : Except DispatchError (NodeKey × String) := do
  let key ← restoreKnownNode highestEpochs entry.1
  failIf entry.2.isEmpty invalid
  return (key, entry.2)

/-- What a credential stands for. -/
structure RestoredCredential where
  token : String
  grant : EnrollmentGrant
  pendingProofDigest : Option String

def RestoredCredential.pending (credential : RestoredCredential) :
    Option PendingRuntimeEnrollment :=
  credential.pendingProofDigest.map fun digest => ⟨digest, credential.grant, credential.token⟩

def restoreCredential (credential : RuntimeCredential) :
    Except DispatchError (RuntimeKey × RestoredCredential) := do
  let runtime ← restoreIdentity credential.runtime
  let node ← restoreKnownNode highestEpochs credential.node
  failIf (credential.token.isEmpty ∨ credential.organization.isEmpty ∨
    credential.workspace.isEmpty ∨ credential.expiresAt = 0) invalid
  let workload ← restoreIdentity credential.workload
  let grant : EnrollmentGrant :=
    ⟨workload, ⟨credential.organization, credential.workspace, runtime⟩, credential.expiresAt⟩
  return (⟨runtime, node⟩, ⟨credential.token, grant, credential.pendingProofDigest⟩)

def restoreBinding (entry : Identity × Identity) : Except DispatchError (Identity × NodeKey) := do
  let runtime ← restoreIdentity entry.1
  let node ← restoreKnownNode highestEpochs entry.2
  return (runtime, node)

def restoreAssignment (bindings : BTreeMap Identity NodeKey) (value : AcceptedAssignment) :
    Except DispatchError (String × AssignmentBinding) := do
  let runtime ← restoreIdentity value.runtime
  let node ← restoreKnownNode highestEpochs value.node
  let lease ← restoreIdentity value.lease
  failIf (value.id.isEmpty ∨ value.fence = 0 ∨ bindings[runtime]? ≠ some node) invalid
  return (value.id,
    ⟨value.id, value.attemptId, runtime, node, ⟨lease, value.fence⟩, value.digest⟩)

def restoreTerminal (terminal : TerminalObservation) :
    Except DispatchError (String × RuntimeObservation) := do
  let isTerminal ← terminal.value.isTerminal.mapError fun _ => invalid
  failIf (terminal.assignmentId.isEmpty ∨ terminal.value.assignmentId ≠ terminal.assignmentId ∨
    terminal.value.attemptId.isEmpty ∨ terminal.value.runtime = none ∨ isTerminal = false) invalid
  return (terminal.assignmentId, terminal.value)

/-- Live sessions are not restored.  Every failure is the same, so that the order of the checks does
not matter. -/
def Registry.restore (snapshot : Snapshot) : Except DispatchError Registry := do
  failIf (snapshot.version ≠ 1) invalid
  let highestNodeEpochs ← collect restoreEpoch invalid snapshot.highestEpochs
  let hostResumeTokens ←
    collect (restoreHostToken highestNodeEpochs) invalid snapshot.hostTokens
  let credentials ←
    collect (restoreCredential highestNodeEpochs) invalid snapshot.runtimeCredentials
  let runtimeNodeBindings ←
    collect (restoreBinding highestNodeEpochs) invalid snapshot.runtimeBindings
  let acceptedAssignments ←
    collect (restoreAssignment highestNodeEpochs runtimeNodeBindings) invalid snapshot.assignments
  let terminalObservations ← collect restoreTerminal invalid snapshot.terminalObservations
  return {
    hostResumeTokens
    runtimeResumeTokens := credentials.map fun _ credential => credential.token
    runtimeGrants := credentials.map fun _ credential => credential.grant
    pendingRuntimeEnrollments := credentials.filterMap fun _ credential => credential.pending
    runtimeNodeBindings
    highestNodeEpochs
    acceptedAssignments
    terminalObservations }

/-! ### The store -/

/-- How a save ends: the file is replaced and synced, it is not replaced, or it is replaced and the
directory cannot be synced. -/
inductive SaveOutcome
  | saved
  | failed
  | unsynced
deriving DecidableEq

def storageError : DispatchError :=
  .unknown "execution session persistence failed; reconcile before dispatch"

/-- The snapshot that was saved last, and those that were put in its place since. -/
structure SessionStore where
  saved : Option Snapshot
  unsynced : List Snapshot
deriving DecidableEq

namespace SessionStore

def blank : SessionStore := ⟨none, []⟩

def save (store : SessionStore) (outcome : SaveOutcome) (snapshot : Snapshot) :
    Except DispatchError Unit × SessionStore :=
  match outcome with
  | .saved => (.ok (), ⟨some snapshot, []⟩)
  | .failed => (.error storageError, store)
  | .unsynced => (.error storageError, ⟨store.saved, store.unsynced ++ [snapshot]⟩)

/-- What a new process may find. -/
def versions (store : SessionStore) : List (Option Snapshot) :=
  store.saved :: store.unsynced.map some

end SessionStore

/-- The registry of a new process. -/
def Registry.load : Option Snapshot → Except DispatchError Registry
  | none => return {}
  | some snapshot => Registry.restore snapshot

end CyreneKernel.Session
