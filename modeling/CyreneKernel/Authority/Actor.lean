import CyreneKernel.Journal.Model
import CyreneKernel.Lib.Runs

/-!
# Sandboxed processes and their actors

The kernel's side of a sandboxed process: the handle of a launched process, and the actor that
owns it.  The sandbox decides how a launch or a stop ends; the results it would give are arguments
here.  A process without a handle is stopped without asking the sandbox.

## Main definitions

* `ProcessHandle`, `CleanupReport`, `SandboxedProcess`, `InstanceActor`.
* `InstanceActor.start`, `InstanceActor.stop`, `InstanceActor.onHeartbeatReceived`,
  `InstanceActor.recoveryEvidence`.

## Main results

* `InstanceActor.stop_of_handle_none`: stopping a process without a handle is complete.
* `InstanceActor.handle_of_stop_complete`: a complete stop leaves no handle.
* `InstanceActor.staysQuarantined_iff`: the runs that never leave quarantine.
-/

namespace CyreneKernel

open Lib
open Journal (RuntimeProcessEvidence)

/-- A process of the sandbox.  Of its cgroup path only the final component is read. -/
structure ProcessHandle where
  pid : Nat
  cgroupFileName : Option String
  startTimeTicks : Option Nat
deriving DecidableEq

/-- The identity that survives a restart of the kernel. -/
def ProcessHandle.recoveryEvidence (handle : ProcessHandle) :
    Except ProviderError RuntimeProcessEvidence :=
  match handle.cgroupFileName.filter (!·.isEmpty), handle.startTimeTicks with
  | none, _ => .error ⟨"process-runtime", "RECOVERY_EVIDENCE_INVALID",
      "process cgroup path has no safe final component"⟩
  | some _, none => .error ⟨"process-runtime", "RECOVERY_EVIDENCE_UNAVAILABLE",
      "process start time is required to defend against PID reuse"⟩
  | some cgroupName, some startTimeTicks =>
    if handle.pid = 0 then
      .error ⟨"process-runtime", "RECOVERY_EVIDENCE_INVALID", "process PID must be non-zero"⟩
    else .ok ⟨cgroupName, handle.pid, startTimeTicks⟩

/-- What the sandbox reports about a stop. -/
structure CleanupReport where
  complete : Bool
  reasonCode : String
deriving DecidableEq

inductive SandboxedProcessState
  | discovered
  | starting
  | healthy
  | stopping
  | stopped
  | quarantined
deriving DecidableEq

structure SandboxedProcess where
  handle : Option ProcessHandle
  state : SandboxedProcessState
deriving DecidableEq

namespace SandboxedProcess

def new : SandboxedProcess := ⟨none, .discovered⟩

/-- Launch the process unless it has a handle; `launch` is the sandbox's result. -/
def start (launch : Except ProviderError ProcessHandle) (process : SandboxedProcess) :
    Except ProviderError Unit × SandboxedProcess :=
  match process.handle with
  | some _ => (.ok (), process)
  | none =>
    match launch with
    | .ok handle => (.ok (), ⟨some handle, .healthy⟩)
    | .error error => (.error error, { process with state := .quarantined })

/-- Stop the process; `outcome` is the sandbox's result when there is a handle. -/
def stop (outcome : Except ProviderError CleanupReport) (process : SandboxedProcess) :
    Except ProviderError CleanupReport × SandboxedProcess :=
  match process.handle with
  | none => (.ok ⟨true, "NOT_RUNNING"⟩, { process with state := .stopped })
  | some handle =>
    match outcome with
    | .error error => (.error error, { process with state := .stopping })
    | .ok report =>
      if report.complete then (.ok report, ⟨none, .stopped⟩)
      else (.ok report, ⟨some handle, .quarantined⟩)

end SandboxedProcess

inductive InstanceActorState
  | starting
  | healthy
  | degraded
  | draining
  | stopping
  | stopped
  | quarantined
deriving DecidableEq

/-- The actor of one instance.  `transportAttached` says whether it has a worker transport. -/
structure InstanceActor where
  process : SandboxedProcess
  state : InstanceActorState
  lastHeartbeat : Option Nat
  crashTimestamps : List Nat
  transportAttached : Bool
deriving DecidableEq

namespace InstanceActor

def new : InstanceActor := ⟨.new, .starting, none, [], false⟩

variable (now : Nat) (actor : InstanceActor)

/-- Record a crash; more than three within a minute quarantine the instance. -/
def recordCrash : InstanceActor :=
  let crashTimestamps := (actor.crashTimestamps ++ [now]).filter fun t => now - t ≤ 60000
  { actor with
    crashTimestamps := crashTimestamps
    state := if 3 < crashTimestamps.length then .quarantined else .stopped }

/-- Whether a restart has to clean up a process that was left behind, and cannot. -/
def restartCleanupFails (cleanup : Except ProviderError CleanupReport) (actor : InstanceActor) :
    Bool :=
  actor.state == .stopped && actor.process.handle.isSome &&
    match (actor.process.stop cleanup).1 with
    | .ok report => !report.complete
    | .error _ => true

/-- Launch the process, cleaning up a process that a failure left behind. -/
def start (now : Nat) (cleanup : Except ProviderError CleanupReport)
    (launch : Except ProviderError ProcessHandle) (actor : InstanceActor) :
    Except ProviderError Unit × InstanceActor :=
  if actor.state = .quarantined then
    (.error ⟨"instance-watchdog", "INSTANCE_QUARANTINED",
      "instance is in quarantine; launch forbidden"⟩, actor)
  else
    let process :=
      if actor.state = .stopped ∧ actor.process.handle.isSome then
        (actor.process.stop cleanup).2
      else actor.process
    if actor.restartCleanupFails cleanup then
      (.error ⟨"instance-watchdog", "RESTART_CLEANUP_FAILED",
        "previous worker process could not be completely cleaned up"⟩,
        { actor with process := process, state := .quarantined })
    else
      match process.start launch with
      | (.ok _, process) =>
        (.ok (), { actor with process := process, state := .healthy, lastHeartbeat := some now })
      | (.error error, process) =>
        (.error error, recordCrash now { actor with process := process, state := .starting })

/-- The identity that must be journaled before the worker becomes visible. -/
def recoveryEvidence (actor : InstanceActor) : Except ProviderError RuntimeProcessEvidence :=
  match actor.process.handle with
  | none => .error ⟨"instance-watchdog", "RECOVERY_EVIDENCE_UNAVAILABLE",
      "worker process has not started"⟩
  | some handle => handle.recoveryEvidence

def onHeartbeatReceived : InstanceActor :=
  if actor.state = .quarantined then actor
  else
    { actor with
      lastHeartbeat := some now
      state :=
        if actor.state = .degraded ∨ actor.state = .starting then .healthy else actor.state }

/-- Stop the process and drop the transport. -/
def stop (outcome : Except ProviderError CleanupReport) (actor : InstanceActor) :
    Except ProviderError CleanupReport × InstanceActor :=
  match actor.process.stop outcome with
  | (.error error, process) =>
    (.error error,
      { actor with process := process, transportAttached := false, state := .quarantined })
  | (.ok report, process) =>
    (.ok report,
      { actor with
        process := process
        transportAttached := false
        state := if report.complete then .stopped else .quarantined })

/-- Hand a cancellation to the worker transport; `delivered` says whether the transport takes
it. -/
def requestCancel (delivered : Bool) (actor : InstanceActor) : Except ProviderError Unit :=
  if actor.transportAttached then
    if delivered then .ok ()
    else .error ⟨"instance-watchdog", "CANCEL_DELIVERY_FAILED",
      "worker cancellation channel is unavailable or saturated"⟩
  else .error ⟨"instance-watchdog", "TRANSPORT_UNAVAILABLE",
    "instance transport channel not attached"⟩

theorem process_onHeartbeatReceived : (actor.onHeartbeatReceived now).process = actor.process := by
  unfold onHeartbeatReceived
  split <;> rfl

/-- Stopping a process without a handle is complete. -/
theorem stop_of_handle_none {actor : InstanceActor} (h : actor.process.handle = none)
    (outcome : Except ProviderError CleanupReport) :
    (actor.stop outcome).1 = .ok ⟨true, "NOT_RUNNING"⟩ := by
  simp [stop, SandboxedProcess.stop, h]

/-- A stop is complete when the sandbox completes the cleanup. -/
theorem stop_complete {outcome : Except ProviderError CleanupReport}
    (h : ∃ report, outcome = .ok report ∧ report.complete = true) :
    ∃ report, (actor.stop outcome).1 = .ok report ∧ report.complete = true := by
  obtain ⟨report, rfl, hcomplete⟩ := h
  cases hhandle : actor.process.handle with
  | none => exact ⟨_, stop_of_handle_none hhandle _, rfl⟩
  | some handle =>
    exact ⟨report, by simp [stop, SandboxedProcess.stop, hhandle, hcomplete], hcomplete⟩

/-- A complete stop leaves no handle. -/
theorem handle_of_stop_complete {actor : InstanceActor}
    {outcome : Except ProviderError CleanupReport} {report : CleanupReport}
    (h : (actor.stop outcome).1 = .ok report) (hcomplete : report.complete = true) :
    (actor.stop outcome).2.process.handle = none := by
  cases hhandle : actor.process.handle with
  | none => simp [stop, SandboxedProcess.stop, hhandle]
  | some handle =>
    cases outcome with
    | error e => simp [stop, SandboxedProcess.stop, hhandle] at h
    | ok report' =>
      by_cases hreport : report'.complete = true
      · simp [stop, SandboxedProcess.stop, hhandle, hreport]
      · simp only [stop, SandboxedProcess.stop, hhandle, hreport] at h
        obtain rfl : report' = report := by simpa using h
        exact absurd hcomplete hreport

/-! ### Quarantine -/

def drain (actor : InstanceActor) : InstanceActor :=
  if actor.state = .healthy ∨ actor.state = .degraded then { actor with state := .draining }
  else actor

inductive HealthVerdict
  | healthy
  | deadlineExceeded
  | heartbeatLost
  | quarantined
deriving DecidableEq

def checkHeartbeatDeadline (heartbeatDeadline : Nat) : HealthVerdict × InstanceActor :=
  if actor.state = .quarantined then (.quarantined, actor)
  else
    match actor.lastHeartbeat with
    | some last =>
      if now - last > heartbeatDeadline then
        (.deadlineExceeded, { actor with state := .degraded })
      else (.healthy, actor)
    | none =>
      if actor.state ≠ .starting then (.heartbeatLost, { actor with state := .degraded })
      else (.healthy, actor)

/-- The calls of the watchdog, with what the sandbox answers. -/
inductive Call
  | start (now : Nat) (cleanup : Except ProviderError CleanupReport)
      (launch : Except ProviderError ProcessHandle)
  | stop (outcome : Except ProviderError CleanupReport)
  | drain
  | heartbeat (now : Nat)
  | deadline (now heartbeatDeadline : Nat)
  | crash (now : Nat)

def call (actor : InstanceActor) : Call → InstanceActor
  | .start now cleanup launch => (actor.start now cleanup launch).2
  | .stop outcome => (actor.stop outcome).2
  | .drain => actor.drain
  | .heartbeat now => onHeartbeatReceived now actor
  | .deadline now heartbeatDeadline => (checkHeartbeatDeadline now actor heartbeatDeadline).2
  | .crash now => recordCrash now actor

/-- The calls that do not end a quarantine.  A stop sets the state before it looks at it, so that a
complete one ends it, and without a handle every stop is complete.  A crash is judged by the last
minute alone: three others must be on record in it. -/
def StaysQuarantined (actor : InstanceActor) : Call → Prop
  | .stop outcome =>
    actor.process.handle.isSome ∧ ∀ report, outcome = .ok report → report.complete = false
  | .crash now => 3 ≤ (actor.crashTimestamps.filter fun t => now - t ≤ 60000).length
  | _ => True

theorem length_crashTimestamps_recordCrash :
    (recordCrash now actor).crashTimestamps.length =
      (actor.crashTimestamps.filter fun t => now - t ≤ 60000).length + 1 := by
  rw [recordCrash, List.filter_append, List.length_append]
  simp

/-- In quarantine with the process of `origin`, and refusing every start. -/
structure Quarantined (origin actor : InstanceActor) : Prop where
  state : actor.state = .quarantined
  handle : actor.process.handle = origin.process.handle
  refuses : ∀ now cleanup launch, actor.start now cleanup launch =
    (.error ⟨"instance-watchdog", "INSTANCE_QUARANTINED",
      "instance is in quarantine; launch forbidden"⟩, actor)

theorem quarantined_of_state {origin actor : InstanceActor} (hstate : actor.state = .quarantined)
    (hhandle : actor.process.handle = origin.process.handle) : Quarantined origin actor :=
  ⟨hstate, hhandle, fun _ _ _ => if_pos hstate⟩

theorem Quarantined.call_iff {origin actor : InstanceActor} (h : Quarantined origin actor)
    (c : Call) : actor.StaysQuarantined c ↔ Quarantined origin (actor.call c) := by
  have hstate := h.state
  cases c with
  | start now cleanup launch =>
    rw [call, h.refuses]
    exact iff_of_true trivial h
  | drain =>
    rw [call, drain, if_neg (by simp [hstate])]
    exact iff_of_true trivial h
  | heartbeat now =>
    rw [call, onHeartbeatReceived, if_pos hstate]
    exact iff_of_true trivial h
  | deadline now heartbeatDeadline =>
    rw [call, checkHeartbeatDeadline, if_pos hstate]
    exact iff_of_true trivial h
  | crash now =>
    have hcount : 3 < (recordCrash now actor).crashTimestamps.length ↔
        actor.StaysQuarantined (.crash now) := by
      rw [length_crashTimestamps_recordCrash, Nat.lt_succ_iff, StaysQuarantined]
    rw [← hcount]
    refine ⟨fun hcrash => quarantined_of_state (if_pos hcrash) h.handle, fun hcall => ?_⟩
    by_contra hfew
    exact absurd ((if_neg hfew).symm.trans hcall.state) (by decide)
  | stop outcome =>
    have hhandle := h.handle
    cases horigin : origin.process.handle with
    | none =>
      rw [horigin] at hhandle
      refine iff_of_false (by simp [StaysQuarantined, hhandle]) fun hcall => ?_
      exact absurd hcall.state (by simp [call, stop, SandboxedProcess.stop, hhandle])
    | some handle =>
      rw [horigin] at hhandle
      cases outcome with
      | error e =>
        refine iff_of_true (by simp [StaysQuarantined, hhandle]) ?_
        exact quarantined_of_state (by simp [call, stop, SandboxedProcess.stop, hhandle])
          (by simp [call, stop, SandboxedProcess.stop, hhandle, horigin])
      | ok report =>
        cases hcomplete : report.complete with
        | false =>
          refine iff_of_true (by simp [StaysQuarantined, hhandle, hcomplete]) ?_
          exact quarantined_of_state
            (by simp [call, stop, SandboxedProcess.stop, hhandle, hcomplete])
            (by simp [call, stop, SandboxedProcess.stop, hhandle, hcomplete, horigin])
        | true =>
          refine iff_of_false (by simp [StaysQuarantined, hcomplete]) fun hcall => ?_
          exact absurd hcall.state
            (by simp [call, stop, SandboxedProcess.stop, hhandle, hcomplete])

/-- From a quarantined instance on, the runs in which every call meets the condition are those in
which it stays quarantined, with its process, and refuses every start. -/
theorem staysQuarantined_iff {actor : InstanceActor} (hstate : actor.state = .quarantined)
    (calls : List Call) :
    Along call StaysQuarantined actor calls ↔
      ∀ pre, pre <+: calls → Quarantined actor (run call actor pre) :=
  along_iff_forall_reached (quarantined_of_state hstate rfl) fun _ c h => h.call_iff c

/-- An instance that crashed four times at once, after the given starts. -/
def crashed (starts : List Call) : InstanceActor :=
  run call new (starts ++ List.replicate 4 (.crash 0))

/-- A start whose launch gives a process. -/
def sampleStart (pid : Nat) : Call := .start 0 (.ok ⟨true, ""⟩) (.ok ⟨pid, none, none⟩)

theorem staysQuarantined_crashed :
    Quarantined (crashed [sampleStart 7]) (run call (crashed [sampleStart 7])
      [.stop (.ok ⟨false, "DEADLINE_EXCEEDED"⟩), .crash 60000, sampleStart 8]) := by
  refine (staysQuarantined_iff rfl _).1 ?_ _ List.prefix_rfl
  refine ⟨⟨rfl, ?_⟩, ?_, trivial, trivial⟩
  · rintro report ⟨⟩
    rfl
  · rw [StaysQuarantined]
    decide

/-- A complete stop ends the quarantine and the next start launches a process, whether the sandbox
reports it or the actor has no handle; and a crash after a minute ends it as well. -/
theorem crashed_leaves_quarantine :
    (∀ starts ∈ [[sampleStart 7], []], (crashed starts).state = .quarantined ∧
      (run call (crashed starts) [.stop (.ok ⟨true, ""⟩), sampleStart 8]).process.handle =
        some ⟨8, none, none⟩ ∧
      (run call (crashed starts) [.crash 60001]).state = .stopped) ∧
    (crashed [sampleStart 7]).process.handle = some ⟨7, none, none⟩ ∧
    (crashed []).process.handle = none := by
  decide

end InstanceActor

end CyreneKernel
