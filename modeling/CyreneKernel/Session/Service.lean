import CyreneKernel.Session.Core
import CyreneKernel.Lib.Runs

/-!
# The control service

A call of the service takes its turns in sections, and between two of them the sections of other
calls may come, in any order.  A call may be dropped at any point, and the process may be restarted
from what the store has.  So a run of the service is a sequence of sections and restarts, and
nothing is assumed about the calls that they belong to.  Sections that only read are left out.
-/

namespace CyreneKernel.Session

open Lib Control

/-- The sections of the service that change the shared state, and restarts.  The sessions in
`usable` are those that are ready and not fenced. -/
inductive Action
  | commitHost (input : Input) (key : NodeKey) (presented sessionId resumeToken : String)
  | reserveEnrollment (input : Input) (key : RuntimeKey) (pending : PendingRuntimeEnrollment)
  | commitRuntime (usable : String → Bool) (input : Input) (key : RuntimeKey)
      (proofDigest : Option String) (grant : EnrollmentGrant) (resumeToken : String)
      (session : RuntimeSession)
  | prepareWorkload (usable : String → Bool) (input : Input) (key : RuntimeKey)
      (scope : RuntimeScope) (proofDigest : String)
  | confirmEnrollment (usable : String → Bool) (input : Input) (identity : SessionIdentity)
      (sessionId : String)
  | completeCommand (identity : SessionIdentity) (sessionId : String) (result : KernelCommandResult)
  | completeAssignment (input : Input) (identity : SessionIdentity) (sessionId : String)
      (ack : AssignmentAckFrame)
  | completeStop (identity : SessionIdentity) (sessionId : String) (ack : StopAck)
  | recordTerminal (input : Input) (identity : SessionIdentity) (observation : RuntimeObservation)
  | removeSession (identity : SessionIdentity) (sessionId : String)
  | removeCommandsFor (sessionIds : List String)
  | removeAssignmentsFor (sessionIds : List String)
  | removeStopsFor (sessionIds : List String)
  | removeAssignmentBindings (input : Input) (lease : LeaseKey)
  | insertCommand (commandId : String) (binding : SessionBinding)
  | insertAssignment (binding : SessionBinding) (assignment : AssignmentBinding)
  | insertStop (commandId : String) (binding : SessionBinding) (assignmentId : String)
  | removeCommand (commandId : String) (expected : SessionBinding)
  | removeAssignment (assignmentId : String) (expected : SessionBinding)
  | removeStop (commandId : String) (expected : SessionBinding)
  /-- Start a new process from a version of the store. -/
  | restart (version : Option Snapshot)

/-- The shared state after an action; what a section answers to its call is not looked at. -/
def Core.step (core : Core) : Action → Core
  | .commitHost input key presented sessionId resumeToken =>
    (core.commitHost input key presented sessionId resumeToken).2
  | .reserveEnrollment input key pending => (core.reserveEnrollment input key pending).2
  | .commitRuntime usable input key proofDigest grant resumeToken session =>
    (core.commitRuntime usable input key proofDigest grant resumeToken session).2
  | .prepareWorkload usable input key scope proofDigest =>
    (core.prepareWorkload usable input key scope proofDigest).2
  | .confirmEnrollment usable input identity sessionId =>
    (core.confirmEnrollment usable input sessionId identity).2
  | .completeCommand identity sessionId result => (core.completeCommand identity sessionId result).2
  | .completeAssignment input identity sessionId ack =>
    (core.completeAssignment input identity sessionId ack).2
  | .completeStop identity sessionId ack => (core.completeStop identity sessionId ack).2
  | .recordTerminal input identity observation => (core.recordTerminal input identity observation).2
  | .removeSession identity sessionId => (core.removeSession sessionId identity).2
  | .removeCommandsFor sessionIds =>
    { core with pendingCommands := Pending.removeForSessions core.pendingCommands sessionIds }
  | .removeAssignmentsFor sessionIds =>
    { core with
      pendingAssignments := Pending.removeForSessions core.pendingAssignments sessionIds }
  | .removeStopsFor sessionIds =>
    { core with pendingStops := Pending.removeForSessions core.pendingStops sessionIds }
  | .removeAssignmentBindings input lease => (core.removeAssignmentBindings input lease).2
  | .insertCommand commandId binding => (core.insertCommand commandId binding).2
  | .insertAssignment binding assignment => (core.insertAssignment binding assignment).2
  | .insertStop commandId binding assignmentId =>
    (core.insertStop commandId binding assignmentId).2
  | .removeCommand commandId expected =>
    { core with pendingCommands := Pending.remove core.pendingCommands commandId expected }
  | .removeAssignment assignmentId expected =>
    { core with
      pendingAssignments := Pending.remove core.pendingAssignments assignmentId expected }
  | .removeStop commandId expected =>
    { core with pendingStops := Pending.remove core.pendingStops commandId expected }
  | .restart version =>
    if version ∈ core.store.versions then
      match Registry.load version with
      | .error _ => core
      -- The file stays as it is: a version that was not synced may still be lost later.
      | .ok registry => { registry, store := core.store }
    else core

end CyreneKernel.Session
