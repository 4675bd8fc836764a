import CyreneKernel.Sandboxd.Stop

/-!
# The protocol of the sandbox daemon

The kernel calls the daemon through messages.  The client writes a launch plan and a binding into
a message; the daemon reads them back and launches what it read.  A plan has more than the message:
its working directory is not written.  Both sides of the socket refuse a frame of more than 1 MiB.
The encoding of the messages is that of Protobuf; here it is represented by the lengths of the
texts.

## Main definitions

* `SandboxRequest`, `SandboxResponse`: the messages.
* `launchMessage`: how the client writes a launch.
* `decodeLaunch`, `handleRequest`: how the daemon reads and serves a request.
* `exchange`, `serveOne`: the two ends of the socket.
* `receivedLaunch`: what the daemon reads of a launch that the client sends.

## Main results

* `decodeLaunch_launchMessage`: what the daemon reads of a launch.
* `SameLaunch.launch_eq`: what a launch uses.
-/

namespace CyreneKernel.Sandboxd

open Lib Lib.Program
open Ledger (CgroupLimits)
open Journal (RuntimeProcessEvidence)

/-! ### Messages -/

structure SandboxLimits where
  cpuMaxMillicores : Option Nat
  memoryMaxBytes : Option Nat
  cpusetCpus : Option String
deriving DecidableEq

structure SandboxDeviceNode where
  path : String
  major : Option (BitVec 32)
  minor : Option (BitVec 32)
  required : Bool
deriving DecidableEq

structure SandboxDeviceBinding where
  deviceId : String
  nodes : List SandboxDeviceNode
  environment : BTreeMap String String
  requiredGids : List Nat
  enforcement : Int
  adapterId : String
  reasonCode : String

structure SandboxLaunchRequest where
  instanceName : String
  executable : String
  args : List String
  environment : BTreeMap String String
  cgroupName : String
  limits : Option SandboxLimits
  binding : Option SandboxDeviceBinding
  transportSocketPath : String

structure SandboxProcessHandle where
  pid : Nat
  cgroupPath : String
  startTimeTicks : Option Nat
  transportSocketPath : String
deriving DecidableEq

structure SandboxStopRequest where
  handle : Option SandboxProcessHandle
  gracePeriodMs : Nat
  immediate : Bool
deriving DecidableEq

structure SandboxRuntimeEvidence where
  cgroupName : String
  pid : Nat
  startTimeTicks : Nat
deriving DecidableEq

inductive RequestBody
  | preflight (binding : Option SandboxDeviceBinding)
  | launch (request : SandboxLaunchRequest)
  | stop (request : SandboxStopRequest)
  | telemetry (handle : Option SandboxProcessHandle)
  | discoverRecovery
  | recoverStale (evidence : Option SandboxRuntimeEvidence)

structure SandboxRequest where
  protocolVersion : Nat
  body : Option RequestBody

structure SandboxError where
  reasonCode : String
  message : String
  retryable : Bool
deriving DecidableEq

inductive ResponseBody
  | capabilities (capabilities : NodeCapabilities)
  | process (handle : SandboxProcessHandle)
  | cleanup (report : CleanupReport)
  | telemetry (telemetry : CgroupTelemetry)
  | recoveryProcesses (processes : List RuntimeProcessEvidence)
  | error (error : SandboxError)
deriving DecidableEq

structure SandboxResponse where
  protocolVersion : Nat
  adapterId : String
  body : ResponseBody
deriving DecidableEq

def protocolVersion : Nat := 1

/-- A path of a message; an empty text stands for no path. -/
def pathFromProto (path : String) : Option String := if path = "" then none else some path

def enforcementModeToProto : EnforcementMode → Int
  | .hard => 1
  | .soft => 2
  | .visibilityOnly => 3
  | .observeOnly => 4
  | .unenforced => 5

def enforcementModeFromProto (value : Int) : EnforcementMode :=
  if value = 1 then .hard
  else if value = 2 then .soft
  else if value = 3 then .visibilityOnly
  else if value = 4 then .observeOnly
  else .unenforced

/-! ### The client -/

def limitsToProto (limits : CgroupLimits) : SandboxLimits :=
  ⟨limits.cpuMaxMillicores, limits.memoryMaxBytes, limits.cpusetCpus⟩

def bindingToProto (binding : DeviceBinding) : SandboxDeviceBinding where
  deviceId := binding.resourceId
  nodes := binding.nodes.map fun node => ⟨node.path, node.major, node.minor, node.required⟩
  environment := binding.environment
  requiredGids := binding.requiredGids
  enforcement := enforcementModeToProto binding.enforcement
  adapterId := binding.adapterId
  reasonCode := binding.reasonCode

/-- The message of a launch. -/
def launchMessage (plan : LaunchPlan) (binding : DeviceBinding) : SandboxLaunchRequest where
  instanceName := plan.instanceName
  executable := plan.executable
  args := plan.args
  environment := plan.environment
  cgroupName := plan.cgroupName
  limits := some (limitsToProto plan.limits)
  binding := some (bindingToProto binding)
  transportSocketPath := plan.transportSocket.getD ""

/-! ### The daemon -/

def sandboxdError (reasonCode message : String) : ProviderError := ⟨"sandboxd", reasonCode, message⟩

def limitsFromProto (limits : SandboxLimits) : CgroupLimits :=
  ⟨limits.cpuMaxMillicores, limits.memoryMaxBytes, limits.cpusetCpus⟩

def bindingFromProto (binding : SandboxDeviceBinding) : DeviceBinding where
  resourceId := binding.deviceId
  nodes := binding.nodes.map fun node => ⟨node.path, node.major, node.minor, node.required⟩
  environment := binding.environment
  joinableEnvironmentKeys := ∅
  requiredGids := binding.requiredGids
  enforcement := enforcementModeFromProto binding.enforcement
  adapterId := binding.adapterId
  reasonCode := binding.reasonCode

/-- What the daemon reads of a launch. -/
def decodeLaunch (request : SandboxLaunchRequest) :
    Except ProviderError (LaunchPlan × DeviceBinding) := do
  let limits ← foundOr request.limits
    (sandboxdError "SANDBOX_LIMITS_REQUIRED" "launch limits are required")
  let binding ← foundOr request.binding
    (sandboxdError "SANDBOX_BINDING_REQUIRED" "device binding is required")
  failIf (request.instanceName = "" ∨ request.cgroupName = "" ∨ request.executable = "")
    (sandboxdError "SANDBOX_LAUNCH_INVALID"
      "instance name, cgroup name, and executable are required")
  let plan : LaunchPlan :=
    { instanceName := request.instanceName
      executable := request.executable
      args := request.args
      environment := request.environment
      cgroupName := request.cgroupName
      limits := limitsFromProto limits
      workingDir := none
      transportSocket := pathFromProto request.transportSocketPath }
  return (plan, bindingFromProto binding)

def handleToProto (handle : ProcessHandle) : SandboxProcessHandle :=
  ⟨handle.pid, handle.cgroupPath, handle.startTimeTicks, handle.transportSocket.getD ""⟩

def handleFromProto (handle : SandboxProcessHandle) : Except ProviderError ProcessHandle := do
  failIf (handle.pid = 0 ∨ handle.cgroupPath = "")
    (sandboxdError "SANDBOX_PROCESS_HANDLE_INVALID"
      "process handle must contain a PID and cgroup path")
  return ⟨handle.pid, handle.cgroupPath, handle.startTimeTicks,
    pathFromProto handle.transportSocketPath⟩

def recoveryEvidenceFromProto (evidence : SandboxRuntimeEvidence) :
    Except ProviderError RuntimeProcessEvidence := do
  failIf (evidence.cgroupName = "" ∨ evidence.pid = 0 ∨ evidence.startTimeTicks = 0)
    (sandboxdError "SANDBOX_RECOVERY_EVIDENCE_INVALID"
      "recovery evidence requires cgroup name, non-zero PID, and start time")
  return ⟨evidence.cgroupName, evidence.pid, evidence.startTimeTicks⟩

variable (config : CgroupV2Config)

def launchRequest (request : SandboxLaunchRequest) : Fallible ProcessHandle := do
  let (plan, binding) ← fromResult (decodeLaunch request)
  launch config plan binding

def stopRequest (request : SandboxStopRequest) : Fallible CleanupReport := do
  let message ← fromResult (foundOr request.handle
    (sandboxdError "SANDBOX_PROCESS_HANDLE_REQUIRED" "stop requires a process handle"))
  let handle ← fromResult (handleFromProto message)
  stop config handle ⟨request.gracePeriodMs, request.immediate⟩

def telemetryRequest (message : Option SandboxProcessHandle) : Fallible CgroupTelemetry := do
  let message ← fromResult (foundOr message
    (sandboxdError "SANDBOX_PROCESS_HANDLE_REQUIRED" "telemetry requires a process handle"))
  let handle ← fromResult (handleFromProto message)
  telemetry handle

def recoverStaleRequest (message : Option SandboxRuntimeEvidence) : Fallible CleanupReport := do
  let message ← fromResult (foundOr message (sandboxdError "SANDBOX_RECOVERY_EVIDENCE_REQUIRED"
    "stale recovery requires persisted process evidence"))
  let evidence ← fromResult (recoveryEvidenceFromProto message)
  recoverStaleProcess config evidence

/-- Serve the body of a request. -/
def serveBody (adapterId : String) : Option RequestBody → Fallible ResponseBody
  | some (.preflight binding) => do
    let capabilities ← match binding with
      | some binding => preflightForBinding config (bindingFromProto binding)
      | none => preflight config
    return .capabilities capabilities
  | some (.launch request) => do
    let handle ← launchRequest config request
    return .process (handleToProto handle)
  | some (.stop request) => do
    let report ← stopRequest config request
    return .cleanup report
  | some (.telemetry handle) => do
    let values ← telemetryRequest handle
    return .telemetry values
  | some .discoverRecovery => do
    let processes ← discoverRecoveryProcesses config
    return .recoveryProcesses processes
  | some (.recoverStale evidence) => do
    let report ← recoverStaleRequest config evidence
    return .cleanup report
  | none =>
    throw ⟨adapterId, "SANDBOX_PROTOCOL_REQUEST", "sandbox request body is required"⟩

def errorResponse (adapterId reasonCode message : String) : SandboxResponse :=
  ⟨protocolVersion, adapterId, .error ⟨reasonCode, message, false⟩⟩

/-- The response to a request that was served. -/
def responseOf (adapterId : String) : Except ProviderError ResponseBody → SandboxResponse
  | .ok body => ⟨protocolVersion, adapterId, body⟩
  | .error error => errorResponse adapterId error.reasonCode error.message

/-- The answer of the daemon to a request. -/
def handleRequest (adapterId : String) (request : SandboxRequest) : HostProgram SandboxResponse :=
  if request.protocolVersion ≠ protocolVersion then
    return errorResponse adapterId "SANDBOX_PROTOCOL_VERSION"
      "sandbox request uses an incompatible protocol version"
  else do
    let result ← (serveBody config adapterId request.body).run
    return responseOf adapterId result

/-! ### Frames -/

/-- The most bytes that a frame may have, for the client and for the daemon. -/
def maxFrameBytes : Nat := 1024 * 1024

/-- What the client checks before it opens the socket; the rest of an exchange is reading and
writing. -/
def exchange (adapterId : String) (length : Nat) : Except ProviderError Unit :=
  failIf (length > maxFrameBytes)
    ⟨adapterId, "SANDBOX_FRAME_TOO_LARGE", "sandbox request exceeds the bounded UDS frame limit"⟩

/-- The check of `read_frame` and `write_frame`, whose error ends the connection. -/
def checkFrame (length : Nat) : Except String Unit :=
  failIf (length > maxFrameBytes) "sandbox adapter frame exceeds limit"

/-- A connection to the daemon.  Nothing is decoded of a frame that is too large, and a response
that is too large is not sent. -/
def serveOne (requestLength : SandboxRequest → Nat) (responseLength : SandboxResponse → Nat)
    (adapterId : String) (request : SandboxRequest) :
    HostProgram (Except String SandboxResponse) :=
  match checkFrame (requestLength request) with
  | .error error => return .error error
  | .ok () => do
    let response ← handleRequest config adapterId request
    return (checkFrame (responseLength response)).map fun () => response

/-- The request of a launch. -/
def launchCall (plan : LaunchPlan) (binding : DeviceBinding) : SandboxRequest :=
  ⟨protocolVersion, some (.launch (launchMessage plan binding))⟩

/-- What the daemon reads of a launch that the client sends, if the frame passes both sides. -/
def receivedLaunch (requestLength : SandboxRequest → Nat) (adapterId : String) (plan : LaunchPlan)
    (binding : DeviceBinding) : Option (LaunchPlan × DeviceBinding) := do
  let length := requestLength (launchCall plan binding)
  (exchange adapterId length).toOption
  (checkFrame length).toOption
  (decodeLaunch (launchMessage plan binding)).toOption

/-! ### Remote launches -/

/-- Two launches that agree in all that a launch uses; which variables of a binding can be joined
matters only where bindings are merged. -/
structure SameLaunch (plan : LaunchPlan) (binding : DeviceBinding) (plan' : LaunchPlan)
    (binding' : DeviceBinding) : Prop where
  plan : plan' = plan
  resourceId : binding'.resourceId = binding.resourceId
  nodes : binding'.nodes = binding.nodes
  environment : binding'.environment = binding.environment
  requiredGids : binding'.requiredGids = binding.requiredGids
  enforcement : binding'.enforcement = binding.enforcement
  adapterId : binding'.adapterId = binding.adapterId
  reasonCode : binding'.reasonCode = binding.reasonCode

/-- A plan that a message can carry: it has all names, no working directory, and no empty path. -/
structure LaunchPlan.Portable (plan : LaunchPlan) : Prop where
  names : plan.instanceName ≠ "" ∧ plan.cgroupName ≠ "" ∧ plan.executable ≠ ""
  workingDir : plan.workingDir = none
  transportSocket : plan.transportSocket ≠ some ""

section Remote

variable {config} {plan plan' : LaunchPlan} {binding binding' : DeviceBinding}

theorem enforcementModeFromProto_toProto (mode : EnforcementMode) :
    enforcementModeFromProto (enforcementModeToProto mode) = mode := by
  cases mode <;> rfl

theorem bindingFromProto_toProto (binding : DeviceBinding) :
    bindingFromProto (bindingToProto binding) = { binding with joinableEnvironmentKeys := ∅ } := by
  simp only [bindingFromProto, bindingToProto, enforcementModeFromProto_toProto, List.map_map]
  congr 1
  exact (List.map_congr_left fun _ _ => rfl).trans (List.map_id _)

theorem pathFromProto_getD {path : Option String} (h : path ≠ some "") :
    pathFromProto (path.getD "") = path := by
  cases path with
  | none => rfl
  | some text => rw [Option.getD_some, pathFromProto, if_neg fun hempty => h (congrArg some hempty)]

theorem pathFromProto_ne (path : String) : pathFromProto path ≠ some "" := by
  unfold pathFromProto
  split
  · exact nofun
  · next h => exact fun hsome => h (Option.some.inj hsome)

/-- What the daemon reads: the plan without its working directory, and the binding. -/
theorem decodeLaunch_launchMessage :
    decodeLaunch (launchMessage plan binding) = .ok (plan', binding') ↔
      (plan.instanceName ≠ "" ∧ plan.cgroupName ≠ "" ∧ plan.executable ≠ "") ∧
      { plan with workingDir := none,
                  transportSocket := pathFromProto (plan.transportSocket.getD "") } = plan' ∧
      { binding with joinableEnvironmentKeys := ∅ } = binding' := by
  rw [← bindingFromProto_toProto]
  simp only [decodeLaunch, except_bind_eq_ok, foundOr_eq_ok]
  constructor
  · rintro ⟨_, hlimits, _, hbinding, _, hnames, hread⟩
    obtain rfl := Option.some.inj hlimits
    obtain rfl := Option.some.inj hbinding
    obtain ⟨hplan, hbinding⟩ := Prod.mk.inj (except_pure_eq_ok.1 hread)
    rw [failIf_eq_ok, not_or, not_or] at hnames
    exact ⟨hnames, hplan, hbinding⟩
  · rintro ⟨hnames, rfl, rfl⟩
    refine ⟨_, rfl, _, rfl, (), ?_, rfl⟩
    rw [failIf_eq_ok, not_or, not_or]
    exact hnames

theorem deviceRules_congr (h : binding'.nodes = binding.nodes) :
    deviceRules binding' = deviceRules binding := by
  rw [deviceRules, h, deviceRules]

theorem probeDeviceBpf_congr (h : binding'.nodes = binding.nodes) (hard : Bool) :
    probeDeviceBpf config (if hard then some binding' else none) =
      probeDeviceBpf config (if hard then some binding else none) := by
  cases hard with
  | false => rfl
  | true =>
    simp only [if_true, probeDeviceBpf, probeDeviceBpfAttach, probeProgram, deviceRules_congr h]

section

variable (hnodes : binding'.nodes = binding.nodes)
  (henforcement : binding'.enforcement = binding.enforcement)

include hnodes henforcement

theorem preflightForBinding_congr :
    preflightForBinding config binding' = preflightForBinding config binding := by
  simp only [preflightForBinding, preflightReportWithBinding, Option.any_some, henforcement,
    probeDeviceBpf_congr hnodes]

theorem enforceDeviceBinding_congr (cgroupPath : String) :
    enforceDeviceBinding config cgroupPath binding' =
      enforceDeviceBinding config cgroupPath binding := by
  simp only [enforceDeviceBinding, attachDeviceBpfFilter, henforcement, deviceRules_congr hnodes]

end

/-- A launch uses nothing else. -/
theorem SameLaunch.launch_eq (h : SameLaunch plan binding plan' binding') :
    launch config plan' binding' = launch config plan binding := by
  have hmerge : binding'.mergeEnvironment = binding.mergeEnvironment := by
    funext requested
    rw [DeviceBinding.mergeEnvironment, h.environment, h.adapterId, DeviceBinding.mergeEnvironment]
  rw [h.plan, launch, preflightForBinding_congr h.nodes h.enforcement, hmerge]
  simp only [enforceDeviceBinding_congr h.nodes h.enforcement, launch]

theorem sameLaunch_joinable (plan : LaunchPlan) (binding : DeviceBinding) :
    SameLaunch plan binding plan { binding with joinableEnvironmentKeys := ∅ } :=
  ⟨rfl, rfl, rfl, rfl, rfl, rfl, rfl, rfl⟩

theorem receivedLaunch_eq_some {requestLength : SandboxRequest → Nat} {adapterId : String} :
    receivedLaunch requestLength adapterId plan binding = some (plan', binding') ↔
      requestLength (launchCall plan binding) ≤ maxFrameBytes ∧
        decodeLaunch (launchMessage plan binding) = .ok (plan', binding') := by
  simp only [receivedLaunch, Option.bind_eq_bind, Option.bind_eq_some_iff, toOption_eq_some,
    exchange, checkFrame, failIf_eq_ok, not_lt, exists_unit]
  tauto

/-- The daemon reads a plan that a message can carry as it is. -/
theorem LaunchPlan.Portable.decodeLaunch (h : plan.Portable) (binding : DeviceBinding) :
    Sandboxd.decodeLaunch (launchMessage plan binding) =
      .ok (plan, { binding with joinableEnvironmentKeys := ∅ }) := by
  refine decodeLaunch_launchMessage.2 ⟨h.names, ?_, rfl⟩
  rw [pathFromProto_getD h.transportSocket, ← h.workingDir]

/-- The daemon reads the launch that the client sent exactly for plans that a message can carry and
messages that fit in a frame, and then the connection runs the launch itself. -/
theorem receivedLaunch_sameLaunch_iff (requestLength : SandboxRequest → Nat)
    (responseLength : SandboxResponse → Nat) (adapterId : String) (plan : LaunchPlan)
    (binding : DeviceBinding) :
    let carried := plan.Portable ∧ requestLength (launchCall plan binding) ≤ maxFrameBytes
    ((∃ plan' binding', receivedLaunch requestLength adapterId plan binding =
        some (plan', binding') ∧ SameLaunch plan binding plan' binding') ↔ carried) ∧
      (carried → ∀ config,
        serveOne config requestLength responseLength adapterId (launchCall plan binding) = do
          let result ← (launch config plan binding).run
          let response := responseOf adapterId
            (result.map fun handle => .process (handleToProto handle))
          return (checkFrame (responseLength response)).map fun () => response) := by
  refine ⟨⟨?_, fun h => ⟨plan, _, receivedLaunch_eq_some.2 ⟨h.2, h.1.decodeLaunch binding⟩,
    sameLaunch_joinable plan binding⟩⟩, fun h config => ?_⟩
  · rintro ⟨plan', binding', hreceived, hsame⟩
    obtain ⟨hlength, hread⟩ := receivedLaunch_eq_some.1 hreceived
    obtain ⟨hnames, hplan, -⟩ := decodeLaunch_launchMessage.1 hread
    have heq := hplan.trans hsame.plan
    exact ⟨⟨hnames, (congrArg LaunchPlan.workingDir heq).symm, fun hempty =>
      pathFromProto_ne _ ((congrArg LaunchPlan.transportSocket heq).trans hempty)⟩, hlength⟩
  · have hframe : checkFrame (requestLength (launchCall plan binding)) = .ok () :=
      failIf_eq_ok.2 (not_lt.2 h.2)
    have hlaunch : launchRequest config (launchMessage plan binding) =
        launch config plan binding := by
      rw [launchRequest, h.1.decodeLaunch binding]
      exact (sameLaunch_joinable plan binding).launch_eq
    simp only [serveOne, hframe]
    simp only [handleRequest, launchCall, ne_eq, not_true, if_false, serveBody, hlaunch,
      ExceptT.run_bind, bind_assoc]
    refine bind_congr fun result => ?_
    cases result <;> rfl

end Remote

/-- A service with a working directory. -/
def samplePlan (workingDir : Option String) : LaunchPlan where
  instanceName := "web"
  executable := "/bin/web"
  args := []
  environment := ∅
  cgroupName := "instance-web"
  limits := ⟨none, none, none⟩
  workingDir := workingDir
  transportSocket := none

def sampleBinding : DeviceBinding := ⟨"none", [], ∅, ∅, [], .unenforced, "kernel-daemon", ""⟩

/-- The message of the plan without a working directory has 60 bytes. -/
theorem receivedLaunch_samplePlan :
    (∃ plan' binding', receivedLaunch (fun _ => 60) "sandboxd" (samplePlan none) sampleBinding =
        some (plan', binding') ∧
      SameLaunch (samplePlan none) sampleBinding plan' binding') :=
  (receivedLaunch_sameLaunch_iff _ (fun _ => 0) _ _ _).1.2 ⟨⟨by decide, rfl, by decide⟩, by decide⟩

/-- The working directory of a plan does not reach the daemon, which forks the worker in its own. -/
theorem receivedLaunch_drops_workingDir :
    ∃ plan', receivedLaunch (fun _ => 60) "sandboxd" (samplePlan (some "/app")) sampleBinding =
        some (plan', sampleBinding) ∧
      (forkRequest plan' ∅ ∅ false).map (·.workingDirectory) = .ok none ∧
      (forkRequest (samplePlan (some "/app")) ∅ ∅ false).map (·.workingDirectory) =
        .ok (some "/app") := by
  refine ⟨samplePlan none, rfl, ?_, ?_⟩ <;> decide +kernel

end CyreneKernel.Sandboxd
