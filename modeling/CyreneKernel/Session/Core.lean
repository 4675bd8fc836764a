import CyreneKernel.Session.Snapshot

/-!
# The sections of the control service

The tasks of the service share the registry, the store and the calls that wait for an answer of an
agent.  Each of these is behind a lock, and a task works on them in short sections between which
other tasks may come.  A section is a function of the shared state and of what the surroundings
decide: the outcome of a save, the clock, the enrollment provider.
-/

namespace CyreneKernel.Session

open Lib Control Fabric

/-! ### Messages of the agents -/

/-- A status of the kernel; `rejection` is the structured detail that it carries. -/
structure KernelStatus where
  code : Int
  message : String
  rejection : Option Rejection
deriving DecidableEq

inductive KernelOutcome
  | lease (lease : WireLease)
  | otherAuthority
  | error (status : KernelStatus)
  | other
deriving DecidableEq

structure KernelCommandResult where
  commandId : String
  outcome : KernelOutcome
deriving DecidableEq

structure AssignmentAckFrame where
  assignmentId : String
  runtime : Option Identity
  ack : AssignmentAck
deriving DecidableEq

structure StopAck where
  commandId : String
  runtime : Option Identity
deriving DecidableEq

/-! ### Waiting calls -/

/-- A waiting call, with what it keeps to check its answer; the answer is sent on its channel. -/
structure Pending (κ : Type) where
  binding : SessionBinding
  correlation : κ
  channel : Nat
deriving DecidableEq

namespace Pending

variable {κ : Type} (calls : BTreeMap String (Pending κ))

/-- Forget the calls that wait for one of these sessions. -/
def removeForSessions (sessionIds : List String) : BTreeMap String (Pending κ) :=
  calls.filter fun _ pending => !sessionIds.contains pending.binding.sessionId

/-- Forget a call, unless another is there by now. -/
def remove (id : String) (expected : SessionBinding) : BTreeMap String (Pending κ) :=
  if (calls[id]?.map (·.binding)) = some expected then calls.erase id else calls

end Pending

inductive Response
  | command (result : KernelCommandResult)
  | assignment (ack : AssignmentAckFrame)
  | stop (ack : StopAck)
deriving DecidableEq

/-! ### The shared state -/

structure Core where
  registry : Registry := {}
  store : SessionStore
  pendingCommands : BTreeMap String (Pending Unit) := ∅
  pendingAssignments : BTreeMap String (Pending AssignmentBinding) := ∅
  pendingStops : BTreeMap String (Pending String) := ∅
  nextChannel : Nat := 0
  responses : BTreeMap Nat Response := ∅

/-- What the surroundings decide in a section: how a save ends, two readings of the clock, a fresh
random token, and the answer of the enrollment provider. -/
structure Input where
  save : SaveOutcome := .saved
  now : Nat := 0
  later : Nat := 0
  fresh : String := ""
  enrollment : Except FabricContractError EnrollmentGrant := .error ⟨"", ""⟩

namespace Core

variable (core : Core) (usable : String → Bool) (input : Input)

def persistRegistry (save : SaveOutcome) : Except DispatchError Unit × Core :=
  match core.registry.snapshot with
  | .error error => (.error error, core)
  | .ok snapshot =>
    let (result, store) := core.store.save save snapshot
    (result, { core with store })

/-- Save the registry, and go on when this succeeds. -/
def persistThen {α : Type} (save : SaveOutcome) (next : Core → α × Core) :
    Except DispatchError α × Core :=
  match core.persistRegistry save with
  | (.error error, core) => (.error error, core)
  | (.ok (), core) =>
    let (value, core) := next core
    (.ok value, core)

/-! ### Establishing sessions -/

/-- Enter a host session; the sessions that it replaces are to be fenced. -/
def commitHost (key : NodeKey) (presented sessionId resumeToken : String) :
    Except DispatchError (List String) × Core :=
  if ¬ presented.isEmpty ∧ core.registry.hostResumeTokens[key]? ≠ some presented then
    (.error (.input "RESUME_TOKEN_REJECTED"
      "Host Agent resume token is invalid for this Node incarnation"), core)
  else
    match core.registry.admitNodeEpoch key with
    | .error error => (.error error, core)
    | .ok (evicted, registry) =>
      let registry :=
        { registry with hostResumeTokens := registry.hostResumeTokens.insert key resumeToken }
      { core with registry }.persistThen input.save fun core =>
        let hosts := core.registry.hosts
        (evicted ++ hosts[key]?.toList,
          { core with registry := { core.registry with hosts := hosts.insert key sessionId } })

def resumeTokenRequired (message : String) : DispatchError :=
  .input "RESUME_TOKEN_REQUIRED" message

variable (identity : SessionIdentity) (sessionId : String) (key : RuntimeKey)

/-- Keep an enrollment before its session is welcomed. -/
def retain (pending : PendingRuntimeEnrollment) : Core :=
  let registry := core.registry
  { core with
    registry := { registry with
      pendingRuntimeEnrollments := registry.pendingRuntimeEnrollments.insert key pending
      runtimeResumeTokens := registry.runtimeResumeTokens.insert key pending.resumeToken
      runtimeGrants := registry.runtimeGrants.insert key pending.grant } }

def reserveEnrollment (pending : PendingRuntimeEnrollment) : Except DispatchError Unit × Core :=
  if core.registry.runtimeResumeTokens.contains key ∨
      core.registry.pendingRuntimeEnrollments.contains key then
    (.error (resumeTokenRequired "another session already enrolled this Runtime generation"), core)
  else
    (core.retain key pending).persistRegistry input.save

/-- Whether the credential is still the one with which the session was begun; `proofDigest` is that
of the proof, or `none` for a resumed session. -/
def checkCredential (proofDigest : Option String) (grant : EnrollmentGrant) (resumeToken : String) :
    Except DispatchError Unit :=
  match proofDigest with
  | some proofDigest =>
    failIf (core.registry.pendingRuntimeEnrollments[key]? ≠ some ⟨proofDigest, grant, resumeToken⟩)
      (resumeTokenRequired "Runtime bootstrap is no longer pending for this proof")
  | none =>
    failIf (core.registry.runtimeResumeTokens[key]? ≠ some resumeToken)
      (.input "RESUME_TOKEN_REJECTED"
        "Runtime Agent resume token is invalid for this Runtime and NodeKey")

/-- Enter a runtime session; the session that it replaces is to be fenced. -/
def commitRuntime (proofDigest : Option String) (grant : EnrollmentGrant) (resumeToken : String)
    (session : RuntimeSession) : Except DispatchError (List String) × Core :=
  match (do
    core.registry.validateRuntimeAttachment usable key.runtime key.node
    core.checkCredential key proofDigest grant resumeToken) with
  | .error error => (.error error, core)
  | .ok () =>
    let registry := core.registry
    let replaced := registry.runtimes[key]?.toList.map (·.sessionId)
    let registry :=
      { registry with
        runtimeNodeBindings := registry.runtimeNodeBindings.insertIfNew key.runtime key.node
        runtimeResumeTokens := registry.runtimeResumeTokens.insert key resumeToken
        runtimeGrants := registry.runtimeGrants.insert key grant
        runtimes := registry.runtimes.insert key session }
    { core with registry }.persistThen input.save fun core => (replaced, core)

/-! ### Preparing runtimes -/

def grantInvalid (message : String) : DispatchError := .input "ENROLLMENT_GRANT_INVALID" message

/-- The grant that is kept for a runtime that is prepared again; `none` when it has to enroll. -/
def preparation (scope : RuntimeScope) (proofDigest : String) :
    Except DispatchError (Option EnrollmentGrant) := do
  core.registry.validateRuntimeAttachment usable key.runtime key.node
  match core.registry.pendingRuntimeEnrollments[key]? with
  | some pending =>
    failIf (pending.proofDigest ≠ proofDigest ∨ pending.grant.scope ≠ scope)
      (.input "ENROLLMENT_IDENTITY_MISMATCH"
        "Runtime reservation is bound to another proof or scope")
    return some pending.grant
  | none =>
    failIf (core.registry.runtimeResumeTokens.contains key)
      (resumeTokenRequired "Runtime was already enrolled; use its retained identity")
    return none

/-- Save a prepared runtime whose grant is still good. -/
def finishPreparation (grant : EnrollmentGrant) : Except DispatchError EnrollmentGrant × Core :=
  if grant.expiresAtUnixMs ≤ input.later then
    (.error (.input "ENROLLMENT_EXPIRED"
      "Prepared Runtime identity expired; reconcile the generation before replacing it"), core)
  else
    core.persistThen input.save fun core => (grant, core)

def prepareWorkload (scope : RuntimeScope) (proofDigest : String) :
    Except DispatchError EnrollmentGrant × Core :=
  match core.preparation usable key scope proofDigest with
  | .error error => (.error error, core)
  | .ok (some grant) => core.finishPreparation input grant
  | .ok none =>
    match input.enrollment with
    | .error error => (.error (.ofContract error), core)
    | .ok grant =>
      if grant.scope ≠ scope ∨ grant.expiresAtUnixMs ≤ input.now then
        (.error (grantInvalid "Enrollment returned a mismatched or expired grant"), core)
      else
        let registry := core.registry
        let core :=
          { core with
            registry := { registry with
              runtimeNodeBindings := registry.runtimeNodeBindings.insert key.runtime key.node } }
        (core.retain key ⟨proofDigest, grant, input.fresh⟩).finishPreparation input grant

/-! ### Frames -/

/-- The first frame of a session uses up the proof with which it was enrolled. -/
def confirmEnrollment : SessionIdentity → Except DispatchError Unit × Core
  | .host _ => (.ok (), core)
  | .runtime runtime node =>
    let key : RuntimeKey := ⟨runtime, node⟩
    let registry := core.registry
    if (registry.runtimes[key]?.map (·.sessionId)) = some sessionId ∧ usable sessionId ∧
        registry.pendingRuntimeEnrollments.contains key then
      { core with
        registry := { registry with
          pendingRuntimeEnrollments := registry.pendingRuntimeEnrollments.erase key } }
        |>.persistRegistry input.save
    else
      (.ok (), core)

/-- Hand an answer to the call that waits on a channel. -/
def deliver (channel : Nat) (response : Response) : Core :=
  { core with responses := core.responses.insert channel response }

def completeCommand (result : KernelCommandResult) : Except DispatchError Unit × Core :=
  match core.pendingCommands[result.commandId]? with
  | none => (.ok (), core)
  | some pending =>
    if pending.binding ≠ .forIdentity sessionId identity then
      (.error (.input "PENDING_COMMAND_SESSION_MISMATCH"
        "Kernel authority result came from the wrong authenticated session"), core)
    else
      (.ok (), { core with pendingCommands := core.pendingCommands.erase result.commandId }
        |>.deliver pending.channel (.command result))

def completeStop (ack : StopAck) : Except DispatchError Unit × Core :=
  match core.pendingStops[ack.commandId]? with
  | none => (.ok (), core)
  | some pending =>
    if pending.binding ≠ .forIdentity sessionId identity then
      (.error (.input "PENDING_STOP_SESSION_MISMATCH"
        "stop acknowledgement came from the wrong authenticated session"), core)
    else if pending.correlation.isEmpty then
      (.error (.input "PENDING_STOP_ASSIGNMENT_INVALID"
        "stop acknowledgement has an invalid assignment correlation"), core)
    else
      (.ok (), { core with pendingStops := core.pendingStops.erase ack.commandId }
        |>.deliver pending.channel (.stop ack))

/-- The runtime has the assignment, or not, and the call goes on. -/
def finishAssignment (ack : AssignmentAckFrame) (channel : Nat) : Core :=
  { core with pendingAssignments := core.pendingAssignments.erase ack.assignmentId }
    |>.deliver channel (.assignment ack)

/-- An accepted assignment is entered and saved before its call goes on. -/
def completeAssignment (ack : AssignmentAckFrame) : Except DispatchError Unit × Core :=
  match core.pendingAssignments[ack.assignmentId]? with
  | none => (.ok (), core)
  | some pending =>
    if pending.binding ≠ .forIdentity sessionId identity then
      (.error (.input "PENDING_ASSIGNMENT_SESSION_MISMATCH"
        "Assignment acknowledgement came from the wrong authenticated session"), core)
    else
      match AssignmentAckDisposition.ofNumber ack.ack.disposition with
      | none =>
        (.error (.input "ASSIGNMENT_ACK_INVALID"
          "Assignment acknowledgement has an unknown disposition"), core)
      | some disposition =>
        if disposition.confirms then
          let binding := pending.correlation
          let accepted := core.registry.acceptedAssignments
          if ∃ existing ∈ accepted[binding.assignmentId]?, existing ≠ binding then
            (.error (.input "ASSIGNMENT_ID_REUSED"
              "assignment acknowledgement conflicts with the existing accepted binding"), core)
          else
            { core with
              registry := { core.registry with
                acceptedAssignments := accepted.insert binding.assignmentId binding } }
              |>.persistThen input.save fun core => ((), core.finishAssignment ack pending.channel)
        else
          (.ok (), core.finishAssignment ack pending.channel)

/-- Keep the evidence of a termination. -/
def recordTerminal (observation : RuntimeObservation) : Except DispatchError Unit × Core :=
  match observation.isTerminal with
  | .error error => (.error error, core)
  | .ok false => (.ok (), core)
  | .ok true =>
    if observation.assignmentId.isEmpty ∨ observation.attemptId.isEmpty then
      (.error (.input "RUNTIME_TERMINAL_CORRELATION_REQUIRED"
        "terminal Runtime evidence requires assignment, attempt, and termination"), core)
    else
      match identity with
      | .host _ =>
        (.error (.input "RUNTIME_FRAME_INVALID"
          "Host session cannot report Runtime terminal evidence"), core)
      | .runtime runtime node =>
        match core.registry.acceptedAssignments[observation.assignmentId]? with
        | none =>
          (.error (.input "RUNTIME_TERMINAL_ASSIGNMENT_UNKNOWN"
            "terminal Runtime evidence has no accepted assignment binding"), core)
        | some binding =>
          if binding.runtime ≠ runtime ∨ binding.node ≠ node ∨
              binding.attemptId ≠ observation.attemptId then
            (.error (.input "RUNTIME_TERMINAL_ASSIGNMENT_MISMATCH"
              "terminal Runtime evidence does not match its accepted assignment"), core)
          else
            match core.registry.terminalObservations[observation.assignmentId]? with
            | some existing =>
              if existing = observation then (.ok (), core)
              else
                (.error (.input "RUNTIME_TERMINAL_CONFLICT"
                  "terminal Runtime evidence is immutable"), core)
            | none =>
              { core with
                registry := { core.registry with
                  terminalObservations := core.registry.terminalObservations.insert
                    observation.assignmentId observation } }
                |>.persistRegistry input.save

/-- Take a session that has ended out of the registry, unless another is there by now. -/
def removeSession : SessionIdentity → Bool × Core
  | .host node =>
    let registry := core.registry
    if registry.hosts[node]? = some sessionId then
      (true, { core with registry := { registry with hosts := registry.hosts.erase node } })
    else (false, core)
  | .runtime runtime node =>
    let key : RuntimeKey := ⟨runtime, node⟩
    let registry := core.registry
    if (registry.runtimes[key]?.map (·.sessionId)) = some sessionId then
      (true, { core with registry := { registry with runtimes := registry.runtimes.erase key } })
    else (false, core)

/-! ### Waiting for answers -/

/-- Enter a kernel command that waits; `none` when its id is in use. -/
def insertCommand (commandId : String) (binding : SessionBinding) : Option Nat × Core :=
  if core.pendingCommands.contains commandId then (none, core)
  else
    (some core.nextChannel, { core with
      pendingCommands := core.pendingCommands.insert commandId ⟨binding, (), core.nextChannel⟩
      nextChannel := core.nextChannel + 1 })

def insertAssignment (binding : SessionBinding) (assignment : AssignmentBinding) :
    Option Nat × Core :=
  if core.pendingAssignments.contains assignment.assignmentId then (none, core)
  else
    (some core.nextChannel, { core with
      pendingAssignments := core.pendingAssignments.insert assignment.assignmentId
        ⟨binding, assignment, core.nextChannel⟩
      nextChannel := core.nextChannel + 1 })

def insertStop (commandId : String) (binding : SessionBinding) (assignmentId : String) :
    Option Nat × Core :=
  if core.pendingStops.contains commandId then (none, core)
  else
    (some core.nextChannel, { core with
      pendingStops := core.pendingStops.insert commandId ⟨binding, assignmentId, core.nextChannel⟩
      nextChannel := core.nextChannel + 1 })

def removeAssignmentBindings (lease : LeaseKey) : Except DispatchError Unit × Core :=
  let registry := core.registry
  { core with
    registry := { registry with
      acceptedAssignments := registry.acceptedAssignments.filter fun _ binding =>
        binding.lease != lease } }
    |>.persistRegistry input.save

end Core

end CyreneKernel.Session
