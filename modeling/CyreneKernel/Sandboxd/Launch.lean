import CyreneKernel.Sandboxd.Preflight

/-!
# Launches

The daemon gives a worker a control group of its own, with the limits and the device filter that it
is to have, and forks it there.  The child waits at a gate until it is a member of the group.
-/

namespace CyreneKernel.Sandboxd

open Lib Lib.Program
open Ledger (CgroupLimits)
open Sandbox (OsError cgroupError)

structure LaunchPlan where
  instanceName : String
  executable : String
  args : List String
  environment : BTreeMap String String
  cgroupName : String
  limits : CgroupLimits
  workingDir : Option String
  transportSocket : Option String

structure ProcessHandle where
  pid : Nat
  cgroupPath : String
  startTimeTicks : Option Nat
  transportSocket : Option String
deriving DecidableEq

variable (config : CgroupV2Config)

/-! ### The control group -/

def createInstanceCgroup (name : String) : Fallible String := do
  let path ← fromResult (cgroupPath config name)
  attempt (call (.createDir path)) fun error => cgroupError "CGROUP_CREATE_FAILED" error.text
  return path

variable (plan : LaunchPlan) (environment : BTreeMap String String) (path cgroupPath : String)
  (pid : Nat)

/-- A control group without the given file, which there is in development mode. -/
def isSynthetic (file : String) : HostProgram Bool := do
  if config.devMode then return !(← call (.pathExists (join cgroupPath file)))
  else return false

def applyCpuLimit (millicores : Nat) : Fallible Unit := do
  fromResult (failIf (millicores = 0) (cgroupError "CPU_LIMIT_INVALID" "zero millicores"))
  let quota := min (millicores * 100000) u64Max / 1000
  attempt (call (.write (join cgroupPath "cpu.max") (toString (max quota 1) ++ " 100000")))
    fun error => cgroupError "CPU_LIMIT_APPLY_FAILED" error.text

def applyMemoryLimit (bytes : Nat) : Fallible Unit := do
  fromResult (failIf (bytes = 0) (cgroupError "MEMORY_LIMIT_INVALID" "zero bytes"))
  attempt (call (.write (join cgroupPath "memory.max") (toString bytes)))
    fun error => cgroupError "MEMORY_LIMIT_APPLY_FAILED" error.text

def applyCpuset (cpus : String) : Fallible Unit := do
  fromResult (failIf (cpus = "" ∨ '\n' ∈ cpus.toList)
    (cgroupError "CPUSET_INVALID" "cpuset must be one non-empty line"))
  attempt (call (.write (join cgroupPath "cpuset.cpus") cpus))
    fun error => cgroupError "CPUSET_APPLY_FAILED" error.text

/-- Apply a limit that is set. -/
def applySome {α : Type} (limit : Option α) (apply : α → Fallible Unit) : Fallible Unit :=
  match limit with
  | some value => apply value
  | none => return ()

def applyLimits (limits : CgroupLimits) : Fallible Unit := do
  if ← isSynthetic config cgroupPath "cgroup.procs" then return ()
  else
    applySome limits.cpuMaxMillicores (applyCpuLimit cgroupPath)
    applySome limits.memoryMaxBytes (applyMemoryLimit cgroupPath)
    applySome limits.cpusetCpus (applyCpuset cgroupPath)

def enforceDeviceBinding (binding : DeviceBinding) : Fallible Unit :=
  if binding.enforcement = .hard then do
    fromResult (deviceBpfDisabled config)
    attachDeviceBpfFilter cgroupPath binding
  else return ()

def attach : Fallible Unit := do
  if ← isSynthetic config cgroupPath "cgroup.procs" then return ()
  else
    attempt (call (.write (join cgroupPath "cgroup.procs") (toString pid)))
      fun error => cgroupError "CGROUP_ATTACH_FAILED" error.text

def killCgroup : Fallible Unit := do
  if ← isSynthetic config cgroupPath "cgroup.kill" then return ()
  else
    attempt (call (.write (join cgroupPath "cgroup.kill") "1"))
      fun error => cgroupError "CGROUP_KILL_FAILED" error.text

/-- Kill and remove a group whose launch failed. -/
def discardCgroup : HostProgram Unit := do
  ignore (killCgroup config cgroupPath).run
  ignore (call (.removeDir cgroupPath))

/-! ### The transport -/

def processError (reasonCode message : String) : ProviderError :=
  ⟨"native-process", reasonCode, message⟩

def isAbsolute : Bool := path.toList.head? = some '/'

/-- The components of an absolute path; repeated separators and `.` are none. -/
def components : List String :=
  ((path.toList.splitOn '/').map String.ofList).filter fun part => part ≠ "" ∧ part ≠ "."

/-- A path directly in a directory. -/
def isDirectChild (directory path : String) : Bool :=
  isAbsolute path && isAbsolute directory &&
    (components path).dropLast = components directory && components path ≠ []

/-- Remove a socket that is in the way; nothing else is replaced. -/
def removeStaleSocket : Fallible Unit := do
  if ← call (.pathExists path) then
    let isSocket ← attempt (call (.isSocket path))
      fun error => processError "WORKER_TRANSPORT_STAT_FAILED" error.text
    fromResult (failIf (isSocket = false) (processError "WORKER_TRANSPORT_PATH_INVALID"
      "refusing to replace a non-socket worker transport path"))
    attempt (call (.removeFile path))
      fun error => processError "WORKER_TRANSPORT_REMOVE_FAILED" error.text
  else return ()

/-- Listen on a socket in `parent`. -/
def bindWorkerTransport (parent path : String) : Fallible Unit := do
  attempt (call (.createDirAll parent))
    fun error => processError "WORKER_TRANSPORT_PARENT_FAILED" error.text
  removeStaleSocket path
  attempt (call (.bindSocket path))
    fun error => processError "WORKER_TRANSPORT_BIND_FAILED" error.text
  attempt (call (.setPermissions path))
    fun error => processError "WORKER_TRANSPORT_PERMISSIONS_FAILED" error.text
  attempt (call (.setNonblocking path))
    fun error => processError "WORKER_TRANSPORT_NONBLOCKING_FAILED" error.text

/-- Listen on the socket of a plan, which has to be directly in the directory of the daemon. -/
def openTransport (socket : Option String) : Fallible Unit :=
  match socket with
  | none => return ()
  | some path => do
    fromResult (failIf (isDirectChild config.transportRoot path = false)
      (processError "WORKER_TRANSPORT_PATH_INVALID"
        "worker transport socket must be a direct child of sandboxd transport_root"))
    bindWorkerTransport config.transportRoot path

/-! ### The process -/

def spawnError (reasonCode message : String) : ProviderError :=
  ⟨"linux-process-runtime", reasonCode, message⟩

def cString (field text : String) : Except ProviderError String := do
  failIf (Char.ofNat 0 ∈ text.toList)
    (spawnError "SPAWN_ARGUMENT_INVALID" (field ++ " contains an embedded NUL byte"))
  return text

/-- The variables of the daemon, and over them those that were requested. -/
def commandEnvironment (inherited requested : BTreeMap String String) :
    Except ProviderError (List String) :=
  let environment := requested.foldl (fun merged key value => merged.insert key value) inherited
  environment.toList.mapM fun (key, value) => cString "environment" (key ++ "=" ++ value)

/-- What the child of a plan executes. -/
def forkRequest (inherited environment : BTreeMap String String) (withTransport : Bool) :
    Except ProviderError ForkRequest := do
  let executable ← cString "executable" plan.executable
  let arguments ← plan.args.mapM (cString "argument")
  let environment ← commandEnvironment inherited environment
  let workingDirectory ← plan.workingDir.mapM (cString "working directory")
  return ⟨executable, executable :: arguments, environment, workingDirectory, withTransport⟩

/-- Open a number of pipes. -/
def openPipes : Nat → Fallible Unit
  | 0 => return ()
  | n + 1 => do
    attempt (call .pipe) fun error => spawnError "PIPE_CREATE_FAILED" error.text
    openPipes n

/-- Fork a child that waits at its gate. -/
def spawnGatedProcess (withTransport : Bool) : Fallible Nat := do
  let inherited ← call .environment
  let request ← fromResult (forkRequest plan inherited environment withTransport)
  openPipes (if withTransport then 4 else 2)
  attempt (call (.fork request)) fun error => spawnError "FORK_FAILED" error.text

/-- The `pid_t` of a pid. -/
def processTarget : Int := (BitVec.ofNat 32 pid).toInt

def abort : HostProgram Unit := do
  call (.signal (processTarget pid) .kill)
  ignore (call (.waitPid pid))

/-- Open the gate, and see whether the child executes its program. -/
def release : Fallible Unit := do
  attempt (call (.releaseGate pid))
    fun error => spawnError "PROCESS_GATE_RELEASE_FAILED" error.text
  let failure ← attempt (call (.execResult pid))
    fun error => spawnError "SPAWN_RESULT_READ_FAILED" error.text
  match failure with
  | none => return ()
  | some error =>
    ignore (call (.waitPid pid))
    throw (spawnError "SPAWN_EXEC_FAILED" error.text)

/-- Remove the socket of a transport. -/
def stopTransport (transport : Option String) : HostProgram Unit :=
  match transport with
  | some path => ignore (call (.removeFile path))
  | none => return ()

/-- Connect the socket of a transport with the child. -/
def startTransport (transport : Option String) : HostProgram Unit :=
  match transport with
  | some path => call (.startBridge path)
  | none => return ()

/-- Fork the worker of a plan into its control group. -/
def launchInto : Fallible ProcessHandle := do
  let pid ← onFailure
    (do
      stopTransport plan.transportSocket
      discardCgroup config cgroupPath)
    (spawnGatedProcess plan environment plan.transportSocket.isSome)
  onFailure
    (do
      abort pid
      discardCgroup config cgroupPath)
    (attach config cgroupPath pid)
  onFailure (discardCgroup config cgroupPath) (release pid)
  startTransport plan.transportSocket
  let pidfd ← call (.openPidfd pid)
  call (.insertChild pid ⟨pidfd, plan.transportSocket⟩)
  let startTimeTicks ← call (.procStartTime pid)
  return ⟨pid, cgroupPath, startTimeTicks, plan.transportSocket⟩

/-- Start a process in a group of its own, with its limits and its devices. -/
def launch (binding : DeviceBinding) : Fallible ProcessHandle := do
  let capabilities ← preflightForBinding config binding
  if capabilities.ready then
    let cgroupPath ← createInstanceCgroup config plan.cgroupName
    onFailure (discardCgroup config cgroupPath) do
      applyLimits config cgroupPath plan.limits
      enforceDeviceBinding config cgroupPath binding
    let environment ← fromResult (binding.mergeEnvironment plan.environment)
    onFailure (discardCgroup config cgroupPath) (openTransport config plan.transportSocket)
    launchInto config plan environment cgroupPath
  else throw (preflightBlocker capabilities)

end CyreneKernel.Sandboxd
