import CyreneKernel.Sandbox.Recovery
import CyreneKernel.Sandboxd.Host

/-!
# The preflight of the sandbox daemon

Before a launch the daemon collects facts about its host.  A binding with hard enforcement needs
device filters; the daemon proves that it can attach one in a temporary control group.
-/

namespace CyreneKernel.Sandboxd

open Lib Lib.Program Lib.Ebpf
open Sandbox (DeviceRule OsError buildDeviceFilterProgram cgroupError deviceError deviceRule insn
  isOwnedInstanceName)

structure CgroupV2Config where
  root : String
  transportRoot : String
  deviceBpfEnabled : Bool
  devMode : Bool
deriving DecidableEq

structure CapabilityFact where
  name : String
  available : Bool
  required : Bool
  detail : String
deriving DecidableEq

structure EnforcementReport where
  resourceKind : String
  mode : EnforcementMode
  adapterId : String
  reasonCode : String
deriving DecidableEq

structure NodeCapabilities where
  ready : Bool
  facts : List CapabilityFact
  enforcement : List EnforcementReport
deriving DecidableEq

variable (config : CgroupV2Config)

def cgroupPath (name : String) : Except ProviderError String :=
  if isOwnedInstanceName name then .ok (join config.root name)
  else .error (cgroupError "INVALID_CGROUP_NAME"
    "instance cgroups must be a safe instance-* direct child")

/-! ### Failures of device filters -/

variable (report : NodeCapabilities) (path : String) (binding : Option DeviceBinding)
  (error : OsError)

/-- A denial of permission, for which the errors have reasons of their own. -/
def OsError.isDenied : Bool := error.errno = some 1 ∨ error.errno = some 13

/-- The reason of a failed call of the filter interface. -/
def bpfReason (otherwise : String) : String :=
  if OsError.isDenied error then "DEVICE_BPF_PERMISSION_DENIED"
  else if error.errno = some 95 then "DEVICE_BPF_UNSUPPORTED"
  else otherwise

def loadFailure (verifierLog : String) : ProviderError :=
  let reasonCode := bpfReason error "DEVICE_BPF_LOAD_FAILED"
  let detail := "loading cgroup device BPF program failed: " ++ error.text ++
    (if verifierLog = "" then "" else "; verifier: " ++ verifierLog)
  deviceError reasonCode <| detail ++
    if reasonCode = "DEVICE_BPF_PERMISSION_DENIED" then
      "; check CAP_BPF/CAP_SYS_ADMIN, the cgroup delegation, unprivileged BPF policy, and LSM " ++
        "restrictions; HARD GPU isolation remains unavailable until the host permits BPF loading"
    else if reasonCode = "DEVICE_BPF_UNSUPPORTED" then
      "; this kernel does not support cgroup device BPF; HARD GPU isolation requires a " ++
        "compatible Linux kernel"
    else ""

def attachFailure : ProviderError :=
  let reasonCode := bpfReason error "DEVICE_BPF_ATTACH_FAILED"
  deviceError reasonCode <| "attaching cgroup device BPF filter failed: " ++ error.text ++
    if reasonCode = "DEVICE_BPF_PERMISSION_DENIED" then
      "; check CAP_BPF/CAP_SYS_ADMIN, write access to the delegated cgroup, unprivileged BPF " ++
        "policy, and LSM restrictions; HARD GPU launch was rejected"
    else if reasonCode = "DEVICE_BPF_UNSUPPORTED" then
      "; the cgroup does not support device BPF; HARD GPU launch was rejected"
    else ""

def detachFailure : ProviderError :=
  deviceError (bpfReason error "DEVICE_BPF_DETACH_FAILED")
    ("detaching cgroup device BPF probe failed: " ++ error.text ++
      "; HARD GPU isolation cannot be certified")

def cgroupOpenFailure : ProviderError :=
  let detail := "opening cgroup " ++ path ++ " for device BPF failed: " ++ error.text
  if OsError.isDenied error then
    deviceError "DEVICE_BPF_PERMISSION_DENIED" (detail ++
      "; check ownership and permissions on the delegated cgroup subtree; HARD GPU isolation " ++
        "remains unavailable")
  else deviceError "CGROUP_OPEN_FAILED" detail

/-! ### Device filters -/

/-- The rules of the device nodes, in their order. -/
def deviceRulesOf : List DeviceNode → Fallible (List DeviceRule)
  | [] => return []
  | node :: rest => do
    let metadata ← call (.metadata node.path)
    let rule ← fromResult (deviceRule (fun _ => metadata) node)
    let rules ← deviceRulesOf rest
    return rule.toList ++ rules

def deviceRules (binding : DeviceBinding) : Fallible (List DeviceRule) := do
  let devices ← deviceRulesOf binding.nodes
  fromResult (failIf (devices = [])
    (deviceError "DEVICE_RULES_EMPTY" "HARD binding contains no valid device nodes"))
  return devices

def loadDeviceFilterProgram (program : List Insn) : Fallible Unit :=
  ExceptT.mk do
    match ← call (.loadProgram program) with
    | .ok () => return .ok ()
    | .error (error, verifierLog) => return .error (loadFailure error verifierLog)

/-- Attach the program that was loaded to a control group. -/
def attachProgramToCgroup : Fallible Unit := do
  attempt (call (.openCgroup path)) (cgroupOpenFailure path)
  attempt (call (.attachProgram path)) attachFailure

def attachDeviceBpfFilter (binding : DeviceBinding) : Fallible Unit := do
  let devices ← deviceRules binding
  loadDeviceFilterProgram (buildDeviceFilterProgram devices)
  attachProgramToCgroup path

/-- The program of a probe: the one of the binding, or one that allows everything. -/
def probeProgram : Fallible (List Insn) :=
  match binding with
  | some binding => do return buildDeviceFilterProgram (← deviceRules binding)
  | none => return [insn mov64K 0 0 0 1, insn exitCode 0 0 0 0]

def probeDeviceBpfAttach : Fallible Unit := do
  let program ← probeProgram binding
  loadDeviceFilterProgram program
  attachProgramToCgroup path
  attempt (call (.detachProgram path)) detachFailure

/-- The name of a temporary control group. -/
def probeName (processId sequence : Nat) : String :=
  "cyrene-bpf-probe-" ++ toString processId ++ "-" ++ toString sequence

/-- Try names of temporary control groups until one is new. -/
def createBpfProbeCgroup : Nat → Fallible String
  | 0 => throw (deviceError "DEVICE_BPF_PROBE_CGROUP_CREATE_FAILED"
      "cannot allocate a unique isolated temporary cgroup for device BPF preflight")
  | n + 1 => do
    let sequence ← call .nextProbe
    let processId ← call .processId
    let path := join config.root (probeName processId sequence)
    match ← call (.createDir path) with
    | .ok () => return path
    | .error error =>
      if error.errno = some 17 then createBpfProbeCgroup n
      else throw (deviceError
        (if OsError.isDenied error then "DEVICE_BPF_PERMISSION_DENIED"
          else "DEVICE_BPF_PROBE_CGROUP_CREATE_FAILED")
        ("cannot create isolated temporary cgroup under " ++ config.root ++ ": " ++ error.text ++
          "; check write access to the delegated cgroup subtree"))

/-- The outcome of a probe and of the removal of its control group. -/
def probeOutcome : Except ProviderError Unit → Except OsError Unit → Except ProviderError Unit
  | result, .ok () => result
  | .ok (), .error cleanupError => .error (deviceError "DEVICE_BPF_PROBE_CLEANUP_FAILED"
      ("device BPF attach probe succeeded but temporary cgroup cleanup failed: " ++
        cleanupError.text))
  | .error probeError, .error cleanupError =>
    .error (deviceError "DEVICE_BPF_PROBE_CLEANUP_FAILED"
      (probeError.reasonCode ++ ": " ++ probeError.message ++
        "; temporary cgroup cleanup failed: " ++ cleanupError.text))

/-- Why device filters are off. -/
def deviceBpfDisabled : Except ProviderError Unit := do
  failIf config.devMode (deviceError "DEVICE_BPF_DEV_MODE_FORBIDDEN"
    "dev mode disables hard device isolation; HARD GPU bindings cannot launch")
  failIf (config.deviceBpfEnabled = false) (deviceError "HARD_ENFORCEMENT_UNAVAILABLE"
    "device BPF is disabled; HARD GPU bindings cannot launch")

def probeDeviceBpf : Fallible Unit := do
  fromResult (deviceBpfDisabled config)
  let path ← createBpfProbeCgroup config 8
  let result ← outcome (probeDeviceBpfAttach path binding)
  let cleanup ← call (.removeDir path)
  fromResult (probeOutcome result cleanup)

/-! ### The report -/

/-- The detail of the fact about device filters. -/
def deviceBpfDetail (hardBinding : Bool) : Except ProviderError Unit → String
  | .ok () =>
    if hardBinding then
      "binding-specific device BPF load, attach, detach, node identity, and probe cleanup " ++
        "succeeded; launch still attaches to its target cgroup"
    else
      "host device BPF load, attach, detach, and probe cleanup succeeded; binding-specific " ++
        "device nodes and launch attach are checked separately"
  | .error error => error.reasonCode ++ ": " ++ error.message

/-- The facts are there that are required. -/
def allAvailable (facts : List CapabilityFact) : Bool :=
  (facts.filter (·.required)).all (·.available)

def processTreeReport (cgroupReady : Bool) : EnforcementReport where
  resourceKind := "process-tree"
  mode := if config.devMode then .unenforced else if cgroupReady then .hard else .unenforced
  adapterId := "linux-cgroup-v2"
  reasonCode :=
    if config.devMode then "DEV_MODE_UNENFORCED"
    else if cgroupReady then "CGROUP_V2_READY"
    else "CGROUP_V2_PREREQUISITES_MISSING"

def preflightReportWithBinding : HostProgram NodeCapabilities := do
  let controllers ← readTrimmed (join config.root "cgroup.controllers")
  let hasController := fun name => (splitWhitespace (controllers.getD "")).contains name
  let cgroupKill ← call (.isFile (join config.root "cgroup.kill"))
  let required := !config.devMode
  let hardBinding := binding.any (·.enforcement = .hard)
  let deviceBpfResult ← (probeDeviceBpf config (if hardBinding then binding else none)).run
  let pidfd ← call (.openPidfd (← call .processId))
  let facts : List CapabilityFact :=
    [ ⟨"platform-linux", true, required,
        "native cgroup v2 sandbox is a Linux system Adapter backend"⟩
    , ⟨"cgroup-v2", controllers.isSome, required, "owned cgroup.controllers"⟩
    , ⟨"cgroup-kill", cgroupKill, required, "owned cgroup.kill"⟩
    , ⟨"memory-controller", hasController "memory", required, "memory"⟩
    , ⟨"pids-controller", hasController "pids", required, "pids"⟩
    , ⟨"cpu-controller", hasController "cpu", required, "cpu"⟩
    , ⟨"pidfd", pidfd, false, "pidfd_open feature probe"⟩
    , ⟨"device-bpf-enabled", config.deviceBpfEnabled, false,
        "configuration toggle only; this is not a capability or isolation proof"⟩
    , ⟨"device-bpf-capable", deviceBpfResult.isOk, hardBinding,
        deviceBpfDetail hardBinding deviceBpfResult⟩
    , ⟨"dev-mode", config.devMode, false,
        "development mode disables hard device isolation; HARD bindings are rejected"⟩ ]
  return ⟨allAvailable facts, facts, [processTreeReport config
    (allAvailable (facts.filter (·.name ≠ "device-bpf-capable")))]⟩

def preflightForBinding (binding : DeviceBinding) : HostProgram NodeCapabilities :=
  preflightReportWithBinding config (some binding)

def preflight : HostProgram NodeCapabilities := preflightReportWithBinding config none

/-- The facts that are required and missing. -/
def missingFacts : List CapabilityFact :=
  report.facts.filter fun fact => fact.required && !fact.available

/-- The reason against a binding, which the fact about device filters has in its detail. -/
def bindingBlocker : Option ProviderError := do
  let fact ← (missingFacts report).find? (·.name = "device-bpf-capable")
  let (reasonCode, message) ← splitOnce [':', ' '] fact.detail.toList
  return deviceError (String.ofList reasonCode) (String.ofList message)

def preflightBlocker : ProviderError :=
  (bindingBlocker report).getD (cgroupError "NODE_NOT_READY"
    ("required sandbox capability facts unavailable: " ++
      ", ".intercalate ((missingFacts report).map (·.name))))

end CyreneKernel.Sandboxd
