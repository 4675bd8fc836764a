import CyreneKernel.Sandboxd.Launch

/-!
# Stops and recoveries

The daemon stops a worker by the handle that it gave for it: it signals the process, waits for it
and kills the control group when there is something left of it.  After a restart it terminates the
group of a process whose evidence still holds.
-/

namespace CyreneKernel.Sandboxd

open Lib Lib.Program
open Journal (RuntimeProcessEvidence)
open Sandbox (OsError cgroupError)

structure StopRequest where
  gracePeriodMillis : Nat
  immediate : Bool
deriving DecidableEq

structure ProcessCondition where
  reasonCode : String
  summary : String
deriving DecidableEq

structure CleanupReport where
  complete : Bool
  exitCode : Option Nat
  oomKilled : Bool
  conditions : List ProcessCondition
  reasonCode : String
deriving DecidableEq

structure CgroupTelemetry where
  memoryCurrentBytes : Option Nat
  memoryPeakBytes : Option Nat
  cpuUsageUsec : Option Nat
  cpuUserUsec : Option Nat
  cpuSystemUsec : Option Nat
  oomKillCount : Nat
deriving DecidableEq

/-! ### Waiting for a child -/

def waitStatusCode (status : BitVec 32) : Option Nat :=
  if status &&& 0x7f = 0 then some ((status >>> 8) &&& 0xff).toNat else none

def waitPid (pid : Nat) : HostProgram (Option Nat) := do
  match ← call (.waitPid pid) with
  | .reaped status => return waitStatusCode status
  | _ => return none

/-- `none` while the child runs. -/
def tryWaitPid (pid : Nat) : HostProgram (Option (Option Nat)) := do
  match ← call (.tryWaitPid pid) with
  | .running => return none
  | .reaped status => return some (waitStatusCode status)
  | .failed => return some none

/-- The status of a tracked child that exited. -/
def observeChild (pid : Nat) : HostProgram (Option (Option Nat)) := do
  match ← call (.getChild pid) with
  | none => return none
  | some _ => tryWaitPid pid

/-- Look at a tracked child until it exits or the time is up; a child that exited is no longer
tracked. -/
def pollChild (pid : Nat) : Nat → HostProgram (Option Nat)
  | 0 => return none
  | n + 1 => do
    match ← observeChild pid with
    | some status =>
      let tracked ← call (.removeChild pid)
      stopTransport (tracked.bind (·.transport))
      return status
    | none =>
      if ← call .deadlinePassed then return none
      else pollChild pid n

/-- Wait for a child by its pidfd, if it has one. -/
def waitChildWithPidfd (pid timeoutMillis : Nat) : HostProgram (Option (Option Nat)) := do
  match ← call (.removeChild pid) with
  | none => return none
  | some tracked =>
    if tracked.pidfd then
      if ← call (.pollPidfd pid (min timeoutMillis (2 ^ 31 - 1))) then
        let exitCode ← waitPid pid
        stopTransport tracked.transport
        return some exitCode
      else
        call (.insertChild pid tracked)
        return some none
    else
      call (.insertChild pid tracked)
      return none

def waitChild (pid timeoutMillis : Nat) : HostProgram (Option Nat) := do
  match ← waitChildWithPidfd pid timeoutMillis with
  | some result => return result
  | none => pollChild pid (polls timeoutMillis)

/-! ### Stops -/

variable (config : CgroupV2Config)

/-- The `pid_t` of the process group of a pid. -/
def groupTarget (pid : Nat) : Int := (-(BitVec.ofNat 32 pid)).toInt

/-- Send a signal to a process and its group. -/
def signalPid (pid : Nat) (signal : Signal) : HostProgram Unit := do
  call (.signal (groupTarget pid) signal)
  call (.signal (processTarget pid) signal)

def terminatePid (pid : Nat) : HostProgram Unit := signalPid pid .term

def killPid (pid : Nat) : HostProgram Unit := signalPid pid .kill

/-- A group whose members cannot be read counts as empty. -/
def cgroupIsEmpty (cgroupPath : String) : HostProgram Bool := do
  return (← readTrimmed (join cgroupPath "cgroup.procs")).all (· = "")

/-- Wait for the child and the group after a kill. -/
def waitKilled (handle : ProcessHandle) (request : StopRequest) : HostProgram (Option Nat) := do
  let exitCode ← waitChild handle.pid request.gracePeriodMillis
  ignore (waitUntilEmpty handle.cgroupPath (max request.gracePeriodMillis 500))
  return exitCode

def stopImmediately (handle : ProcessHandle) (request : StopRequest) : Fallible (Option Nat) := do
  if config.devMode then
    killPid handle.pid
    waitChild handle.pid (min request.gracePeriodMillis 500)
  else
    if !(← cgroupIsEmpty handle.cgroupPath) then
      killCgroup config handle.cgroupPath
    waitKilled handle request

def stopGracefully (handle : ProcessHandle) (request : StopRequest) : Fallible (Option Nat) := do
  terminatePid handle.pid
  match ← waitChild handle.pid request.gracePeriodMillis with
  | some exitCode => return some exitCode
  | none =>
    if config.devMode then
      killPid handle.pid
      waitChild handle.pid 500
    else if ← cgroupIsEmpty handle.cgroupPath then
      return none
    else
      killCgroup config handle.cgroupPath
      waitKilled handle request

/-- Whether nothing is left: no member of the group, and no child that is tracked. -/
def isComplete (handle : ProcessHandle) : HostProgram Bool := do
  let empty ← if config.devMode then pure true else cgroupIsEmpty handle.cgroupPath
  if empty then
    let tracked ← call (.getChild handle.pid)
    return tracked.isNone
  else return false

def stopConditions (complete oomKilled : Bool) : List ProcessCondition :=
  (if complete then [] else
    [ ⟨"REAP_TIMEOUT", "process or cgroup remained after bounded cleanup"⟩
    , ⟨"CGROUP_NOT_EMPTY", "resource lease remains held and accelerator is quarantined"⟩ ]) ++
  (if oomKilled then
    [⟨"OOM_KILLED", "memory.events.local oom_kill counter increased"⟩] else [])

/-- Remove the directory of a group that was cleaned up; a failure is only logged. -/
def removeCgroup (cgroupPath : String) : HostProgram Unit :=
  if config.devMode then ignore (call (.removeDirAll cgroupPath))
  else ignore (call (.removeDir cgroupPath))

/-- Stop the process of a handle and all others in its group, and remove the group. -/
def stop (handle : ProcessHandle) (request : StopRequest) : Fallible CleanupReport := do
  let child ← call (.getChild handle.pid)
  stopTransport (child.bind (·.transport))
  let beforeOom ← readOomKillCount handle.cgroupPath
  let exitCode ←
    if request.immediate then stopImmediately config handle request
    else stopGracefully config handle request
  let complete ← isComplete config handle
  let oomKilled := beforeOom < (← readOomKillCount handle.cgroupPath)
  if complete then removeCgroup config handle.cgroupPath
  return ⟨complete, exitCode, oomKilled, stopConditions complete oomKilled,
    if complete then "CLEANUP_COMPLETE" else "PROCESS_UNINTERRUPTIBLE"⟩

/-! ### Recoveries -/

def recoveryProcessIds (cgroupPath : String) : Fallible (List Nat) := do
  let contents ← attempt (call (.readToString (join cgroupPath "cgroup.procs")))
    fun error => cgroupError "RECOVERY_DISCOVERY_FAILED" error.text
  match (splitWhitespace contents).mapM fun pid => parseNat (2 ^ 32) pid.toList with
  | some pids => return pids
  | none =>
    throw (cgroupError "RECOVERY_DISCOVERY_INVALID" "cgroup.procs contains an invalid PID")

def recoveryEvidence (cgroupName : String) : List Nat → Fallible (List RuntimeProcessEvidence)
  | [] => return []
  | pid :: rest => do
    match ← call (.procStartTime pid) with
    | none => throw (cgroupError "RECOVERY_EVIDENCE_UNAVAILABLE"
        "live sandbox process has no readable start time")
    | some startTimeTicks =>
      let processes ← recoveryEvidence cgroupName rest
      return ⟨cgroupName, pid, startTimeTicks⟩ :: processes

/-- The processes of an entry of the root. -/
def discoverEntry (entry : Except OsError DirEntry) : Fallible (List RuntimeProcessEvidence) := do
  let discoveryFailed := fun error : OsError => cgroupError "RECOVERY_DISCOVERY_FAILED" error.text
  let entry ← fromResult (entry.mapError discoveryFailed)
  let isDir ← fromResult (entry.isDir.mapError discoveryFailed)
  if isDir then
    match entry.fileName with
    | none => throw (cgroupError "RECOVERY_DISCOVERY_INVALID" "sandbox cgroup name is not UTF-8")
    | some cgroupName =>
      let pids ← recoveryProcessIds entry.path
      recoveryEvidence cgroupName pids
  else return []

def discoverEntries : List (Except OsError DirEntry) → Fallible (List RuntimeProcessEvidence)
  | [] => return []
  | entry :: rest => do
    let processes ← discoverEntry entry
    let others ← discoverEntries rest
    return processes ++ others

def discoverRecoveryProcesses : Fallible (List RuntimeProcessEvidence) := do
  let entries ← attempt (call (.readDir config.root))
    fun error => cgroupError "RECOVERY_DISCOVERY_FAILED" error.text
  discoverEntries entries

/-- The evidence of a process still holds. -/
def evidenceHolds (cgroupPath : String) (evidence : RuntimeProcessEvidence) : Fallible Bool := do
  let pids ← recoveryProcessIds cgroupPath
  if evidence.pid ∈ pids then
    let startTimeTicks ← call (.procStartTime evidence.pid)
    return startTimeTicks = some evidence.startTimeTicks
  else return false

def recoverStaleProcess (evidence : RuntimeProcessEvidence) : Fallible CleanupReport := do
  let path ← fromResult (cgroupPath config evidence.cgroupName)
  let holds ← evidenceHolds path evidence
  fromResult (failIf (holds = false) (cgroupError "RECOVERY_EVIDENCE_MISMATCH"
    "persisted process evidence no longer matches the sandbox runtime"))
  let beforeOom ← readOomKillCount path
  killCgroup config path
  let tracked ← call (.getChild evidence.pid)
  let exitCode ←
    if tracked.isSome then (waitChild evidence.pid 10000 : HostProgram (Option Nat)) else pure none
  let complete ← waitUntilEmpty path 10000
  let oomKilled := beforeOom < (← readOomKillCount path)
  if complete then ignore (call (.removeDir path))
  return ⟨complete, exitCode, oomKilled,
    if complete then [] else
      [⟨"CGROUP_NOT_EMPTY", "stale sandbox cgroup remained after bounded recovery cleanup"⟩],
    if complete then "RECOVERY_CLEANUP_COMPLETE" else "RECOVERY_CLEANUP_INCOMPLETE"⟩

def readNat (path : String) : HostProgram (Option Nat) := do
  return (← readTrimmed path).bind fun value => parseNat (2 ^ 64) value.toList

def telemetry (handle : ProcessHandle) : HostProgram CgroupTelemetry := do
  let cpu ← readKeyValues (join handle.cgroupPath "cpu.stat")
  let memoryCurrentBytes ← readNat (join handle.cgroupPath "memory.current")
  let memoryPeakBytes ← readNat (join handle.cgroupPath "memory.peak")
  let oomKillCount ← readOomKillCount handle.cgroupPath
  return ⟨memoryCurrentBytes, memoryPeakBytes, cpu["usage_usec"]?, cpu["user_usec"]?,
    cpu["system_usec"]?, oomKillCount⟩

end CyreneKernel.Sandboxd
