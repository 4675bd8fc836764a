import CyreneKernel.Control.Dispatch

/-!
# The registry of the execution control service

The control service keeps the sessions of the host agents and runtime agents that have connected,
the credentials with which they may come back, and what it has learned about assignments.  A node is
known by its id and its epoch, and only the highest epoch of a node counts.

Sessions are kept by their id; whether a session can be used is a property of its handle, which the
checks get as a function.
-/

namespace CyreneKernel

open Std (TransOrd LawfulEqOrd TransCmp)

namespace Control.NodeRef

instance : Ord NodeRef := ⟨compareLex (compareOn nodeId) (compareOn nodeEpoch)⟩

instance : TransOrd NodeRef :=
  inferInstanceAs (TransCmp (compareLex (compareOn nodeId) (compareOn nodeEpoch)))

instance : LawfulEqOrd NodeRef :=
  Lib.lawfulEqCmp_compareLex (by rintro ⟨⟩ ⟨⟩ ⟨⟩ ⟨⟩; rfl)

end Control.NodeRef

namespace Session

open Lib Control

/-! ### Keys -/

abbrev NodeKey := NodeRef

structure RuntimeKey where
  runtime : Identity
  node : NodeKey
deriving DecidableEq

namespace RuntimeKey

instance : Ord RuntimeKey := ⟨compareLex (compareOn runtime) (compareOn node)⟩

instance : TransOrd RuntimeKey :=
  inferInstanceAs (TransCmp (compareLex (compareOn runtime) (compareOn node)))

instance : LawfulEqOrd RuntimeKey :=
  Lib.lawfulEqCmp_compareLex (by rintro ⟨⟩ ⟨⟩ ⟨⟩ ⟨⟩; rfl)

end RuntimeKey

structure LeaseKey where
  identity : Identity
  fenceToken : Nat
deriving DecidableEq

/-! ### Records -/

structure RuntimeScope where
  organizationId : String
  workspaceId : String
  runtime : Identity
deriving DecidableEq

structure EnrollmentGrant where
  workloadIdentity : Identity
  scope : RuntimeScope
  expiresAtUnixMs : Nat
deriving DecidableEq

structure PendingRuntimeEnrollment where
  proofDigest : String
  grant : EnrollmentGrant
  resumeToken : String
deriving DecidableEq

structure RuntimeSession where
  node : NodeKey
  organizationId : String
  workspaceId : String
  workloadIdentity : Identity
  workloadIdentityExpiresAtUnixMs : Nat
  sessionId : String
deriving DecidableEq

structure AssignmentBinding where
  assignmentId : String
  attemptId : String
  runtime : Identity
  node : NodeKey
  lease : LeaseKey
  digest : String
deriving DecidableEq

inductive SessionIdentity
  | host (node : NodeKey)
  | runtime (runtime : Identity) (node : NodeKey)
deriving DecidableEq

inductive SessionBinding
  | host (node : NodeKey) (sessionId : String)
  | runtime (runtime : Identity) (node : NodeKey) (sessionId : String)
deriving DecidableEq

namespace SessionBinding

def forIdentity (sessionId : String) : SessionIdentity → SessionBinding
  | .host key => .host key sessionId
  | .runtime identity key => .runtime identity key sessionId

def sessionId : SessionBinding → String
  | .host _ sessionId | .runtime _ _ sessionId => sessionId

end SessionBinding

/-! ### Observations -/

inductive RuntimeObservedState
  | unspecified
  | enrolled
  | staging
  | starting
  | running
  | stopping
  | stopped
  | failed
  | lost
deriving DecidableEq

def RuntimeObservedState.ofNumber : Int → Option RuntimeObservedState
  | .ofNat number =>
    [unspecified, enrolled, staging, starting, running, stopping, stopped, failed, lost][number]?
  | .negSucc _ => none

def RuntimeObservedState.isTerminal (state : RuntimeObservedState) : Bool :=
  state matches .stopped | .failed | .lost

inductive TerminationClassification
  | unspecified
  | expected
  | graceful
  | unexpectedLoss
  | external
  | unknownLoss
deriving DecidableEq

def TerminationClassification.ofNumber : Int → Option TerminationClassification
  | .ofNat number =>
    [unspecified, expected, graceful, unexpectedLoss, external, unknownLoss][number]?
  | .negSucc _ => none

/-- An observation; `details` are the fields that the service passes on unread. -/
structure RuntimeObservation where
  runtime : Option Identity
  observedState : Int
  termination : Int
  assignmentId : String
  attemptId : String
  details : String
deriving DecidableEq

/-- Whether an observation is evidence of a termination.  A terminal state without a classified
termination is a failed preparation. -/
def RuntimeObservation.isTerminal (observation : RuntimeObservation) :
    Except DispatchError Bool := do
  let state ← foundOr (RuntimeObservedState.ofNumber observation.observedState)
    (.input "RUNTIME_OBSERVATION_INVALID" "unknown Runtime state")
  if ¬ state.isTerminal then
    return false
  let termination ← foundOr (TerminationClassification.ofNumber observation.termination)
    (.input "RUNTIME_OBSERVATION_INVALID" "unknown Runtime termination classification")
  return termination ≠ .unspecified

/-! ### The registry -/

structure Registry where
  hosts : BTreeMap NodeKey String := ∅
  runtimes : BTreeMap RuntimeKey RuntimeSession := ∅
  hostResumeTokens : BTreeMap NodeKey String := ∅
  runtimeResumeTokens : BTreeMap RuntimeKey String := ∅
  runtimeGrants : BTreeMap RuntimeKey EnrollmentGrant := ∅
  pendingRuntimeEnrollments : BTreeMap RuntimeKey PendingRuntimeEnrollment := ∅
  runtimeNodeBindings : BTreeMap Identity NodeKey := ∅
  highestNodeEpochs : BTreeMap String Nat := ∅
  acceptedAssignments : BTreeMap String AssignmentBinding := ∅
  terminalObservations : BTreeMap String RuntimeObservation := ∅

namespace Registry

variable (registry : Registry) (usable : String → Bool)

variable (runtime : Identity) (node : NodeKey)

def checkNodeEpoch : Except DispatchError Unit :=
  failIf (∃ highest ∈ registry.highestNodeEpochs[node.nodeId]?, node.nodeEpoch < highest)
    (.input "STALE_NODE_GENERATION" "NodeRef epoch is lower than the highest accepted generation")

/-- An earlier incarnation of the node. -/
def isOlder (key : NodeKey) : Bool :=
  key.nodeId == node.nodeId && decide (key.nodeEpoch < node.nodeEpoch)

/-- The sessions on earlier incarnations of the node. -/
def evicted : List String :=
  (registry.hosts.filter fun key _ => isOlder node key).values ++
    (registry.runtimes.filter fun key _ => isOlder node key.node).values.map (·.sessionId)

/-- Drop the sessions on earlier incarnations of the node, with the credentials of those sessions,
and what was assigned there. -/
def evict : Registry :=
  let keptHost (key : NodeKey) : Bool := !(isOlder node key && registry.hosts.contains key)
  let keptRuntime (key : RuntimeKey) : Bool :=
    !(isOlder node key.node && registry.runtimes.contains key)
  { registry with
    highestNodeEpochs := registry.highestNodeEpochs.insert node.nodeId node.nodeEpoch
    hosts := registry.hosts.filter fun key _ => keptHost key
    hostResumeTokens := registry.hostResumeTokens.filter fun key _ => keptHost key
    runtimes := registry.runtimes.filter fun key _ => keptRuntime key
    runtimeResumeTokens := registry.runtimeResumeTokens.filter fun key _ => keptRuntime key
    runtimeGrants := registry.runtimeGrants.filter fun key _ => keptRuntime key
    pendingRuntimeEnrollments :=
      registry.pendingRuntimeEnrollments.filter fun key _ => keptRuntime key
    acceptedAssignments := registry.acceptedAssignments.filter fun _ binding =>
      !isOlder node binding.node }

/-- Admit an incarnation of a node; the sessions that this evicts are to be fenced. -/
def admitNodeEpoch : Except DispatchError (List String × Registry) := do
  registry.checkNodeEpoch node
  if registry.highestNodeEpochs[node.nodeId]? = some node.nodeEpoch then
    return ([], registry)
  return (registry.evicted node, registry.evict node)

/-- The host session of the exact node, as long as it can be used. -/
def usableHost : Option String :=
  registry.hosts[node]?.filter usable

def isHighest : Bool :=
  registry.highestNodeEpochs[node.nodeId]? == some node.nodeEpoch

def validateRuntimeAttachment : Except DispatchError Unit := do
  registry.checkNodeEpoch node
  failIf (∃ bound ∈ registry.runtimeNodeBindings[runtime]?, bound ≠ node)
    (.input "RUNTIME_NODE_REBIND_REJECTED"
      "a Runtime generation cannot be rebound to a different NodeKey")
  failIf (registry.isHighest node = false ∨ registry.usableHost usable node = none)
    (.transient "HOST_SESSION_UNAVAILABLE"
      "Runtime Agent requires an authenticated Host session for the exact NodeKey")

end Registry

end Session

end CyreneKernel
