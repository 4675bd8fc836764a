import CyreneKernel.Sandboxd.World

/-!
# Routine programs

Most of what the daemon does leaves its children alone, and changes only groups of its own.  This
file says so of the preflight, of the stages of a launch before the fork, and of all that only
reads.

## Main definitions

* `Quiet`, `QuietRun`: programs that make only routine calls.
-/

namespace CyreneKernel.Sandboxd

open Lib Lib.Program Lib.Ebpf
open Sandbox (OsError isOwnedInstanceName)

variable {config : CgroupV2Config} {strict : Bool} {α β : Type}

/-- A program that makes only routine calls. -/
abbrev Quiet (config : CgroupV2Config) (strict : Bool) (p : HostProgram α) : Prop :=
  Asks (Routine config strict) p fun _ => True

/-- A program that may fail and makes only routine calls. -/
abbrev QuietRun (config : CgroupV2Config) (strict : Bool) (p : Fallible α) : Prop :=
  Asks (Routine config strict) p.run (Returns fun _ => True)

theorem returns_trivial (result : Except ProviderError α) : Returns (fun _ => True) result := by
  cases result <;> trivial

theorem Quiet.bind {p : HostProgram α} {f : α → HostProgram β} (h : Quiet config strict p)
    (hf : ∀ a, Quiet config strict (f a)) : Quiet config strict (p >>= f) :=
  Asks.bind h fun a _ => hf a

variable {p : Fallible α} (binding : Option DeviceBinding)

theorem QuietRun.bind {f : α → Fallible β} (h : QuietRun config strict p)
    (hf : ∀ a, QuietRun config strict (f a)) : QuietRun config strict (p >>= f) :=
  Asks.run_bind h fun a _ => hf a

theorem Quiet.lift {p : HostProgram α} (h : Quiet config strict p) :
    QuietRun config strict (monadLift p : Fallible α) :=
  Asks.run_lift h

theorem quiet_pure {a : α} : Quiet config strict (pure a) := trivial

theorem quietRun_pure {a : α} : QuietRun config strict (pure a) := trivial

theorem quietRun_throw {e : ProviderError} :
    QuietRun config strict (throw e : Fallible α) := trivial

theorem quiet_call {question : HostCall} (h : Routine config strict question) :
    Quiet config strict (call question) :=
  asks_ask h

theorem quietRun_call {question : HostCall} (h : Routine config strict question) :
    QuietRun config strict (monadLift (call question) : Fallible _) :=
  (quiet_call h).lift

theorem quietRun_attempt {p : HostProgram (Except OsError α)} {error : OsError → ProviderError}
    (h : Quiet config strict p) : QuietRun config strict (attempt p error) :=
  Asks.bind h fun result _ => returns_trivial (result.mapError error)

theorem quiet_ignore {p : HostProgram α} (h : Quiet config strict p) :
    Quiet config strict (ignore p) :=
  h.bind fun _ => quiet_pure

theorem quietRun_fromResult (result : Except ProviderError α) :
    QuietRun config strict (fromResult result) :=
  returns_trivial result

theorem quietRun_outcome (h : QuietRun config strict p) : QuietRun config strict (outcome p) :=
  Asks.bind h fun _ _ => trivial

theorem quiet_of_quietRun (h : QuietRun config strict p) : Quiet config strict p.run :=
  h.mono fun _ _ => trivial

/-! ### Reading -/

section Reading

variable {S : HostCall → Prop} (h : ∀ path, S (.readToString path))
include h

theorem asks_readTrimmed (path : String) : Asks S (readTrimmed path) fun _ => True :=
  (asks_ask (h path)).bind fun _ _ => trivial

theorem asks_readKeyValues (path : String) : Asks S (readKeyValues path) fun _ => True :=
  (asks_readTrimmed h path).bind fun _ _ => trivial

theorem asks_readOomKillCount (path : String) : Asks S (readOomKillCount path) fun _ => True :=
  (asks_readKeyValues h _).bind fun _ _ => trivial

end Reading

section

variable (path : String)

include path

theorem quiet_readTrimmed : Quiet config strict (readTrimmed path) :=
  asks_readTrimmed (fun _ => trivial) path

theorem quiet_readKeyValues : Quiet config strict (readKeyValues path) :=
  asks_readKeyValues (fun _ => trivial) path

theorem quiet_readOomKillCount : Quiet config strict (readOomKillCount path) :=
  asks_readOomKillCount (fun _ => trivial) path

theorem quiet_pollUntilEmpty (n : Nat) : Quiet config strict (pollUntilEmpty path n) := by
  induction n with
  | zero => exact quiet_pure
  | succ n ih =>
    refine (quiet_readTrimmed _).bind fun contents => ?_
    split
    · exact quiet_pure
    · refine (quiet_call (by trivial)).bind fun passed => ?_
      split
      · exact quiet_pure
      · exact ih

theorem quiet_waitUntilEmpty (timeoutMillis : Nat) :
    Quiet config strict (waitUntilEmpty path timeoutMillis) :=
  quiet_pollUntilEmpty path _

theorem quiet_cgroupIsEmpty : Quiet config strict (cgroupIsEmpty path) :=
  (quiet_readTrimmed _).bind fun _ => quiet_pure

theorem quiet_readNat : Quiet config strict (readNat path) :=
  (quiet_readTrimmed _).bind fun _ => quiet_pure

end

theorem quiet_telemetry (handle : ProcessHandle) : Quiet config strict (telemetry handle) :=
  (quiet_readKeyValues _).bind fun _ => (quiet_readNat _).bind fun _ =>
    (quiet_readNat _).bind fun _ => (quiet_readOomKillCount _).bind fun _ => quiet_pure

theorem quietRun_recoveryProcessIds (path : String) :
    QuietRun config strict (recoveryProcessIds path) := by
  refine (quietRun_attempt (quiet_call (by trivial))).bind fun contents => ?_
  split
  · exact quietRun_pure
  · exact quietRun_throw

theorem quietRun_recoveryEvidence (cgroupName : String) (pids : List Nat) :
    QuietRun config strict (recoveryEvidence cgroupName pids) := by
  induction pids with
  | nil => exact quietRun_pure
  | cons pid rest ih =>
    refine (quietRun_call (by trivial)).bind fun start => ?_
    split
    · exact quietRun_throw
    · exact ih.bind fun _ => quietRun_pure

theorem quietRun_discoverEntry (entry : Except OsError DirEntry) :
    QuietRun config strict (discoverEntry entry) := by
  refine (quietRun_fromResult _).bind fun entry => (quietRun_fromResult _).bind fun isDir => ?_
  split
  · split
    · exact quietRun_throw
    · exact (quietRun_recoveryProcessIds _).bind fun pids => quietRun_recoveryEvidence _ pids
  · exact quietRun_pure

theorem quietRun_discoverEntries (entries : List (Except OsError DirEntry)) :
    QuietRun config strict (discoverEntries entries) := by
  induction entries with
  | nil => exact quietRun_pure
  | cons entry rest ih =>
    exact (quietRun_discoverEntry entry).bind fun _ => ih.bind fun _ => quietRun_pure

theorem quietRun_discoverRecoveryProcesses :
    QuietRun config strict (discoverRecoveryProcesses config) :=
  (quietRun_attempt (quiet_call (by trivial))).bind fun entries => quietRun_discoverEntries entries

theorem quietRun_evidenceHolds (path : String) (evidence : Journal.RuntimeProcessEvidence) :
    QuietRun config strict (evidenceHolds path evidence) := by
  refine (quietRun_recoveryProcessIds path).bind fun pids => ?_
  split
  · exact (quietRun_call (by trivial)).bind fun _ => quietRun_pure
  · exact quietRun_pure

/-! ### The preflight -/

theorem quietRun_deviceRulesOf (nodes : List DeviceNode) :
    QuietRun config strict (deviceRulesOf nodes) := by
  induction nodes with
  | nil => exact quietRun_pure
  | cons node rest ih =>
    exact (quietRun_call (by trivial)).bind fun _ => (quietRun_fromResult _).bind fun _ =>
      ih.bind fun _ => quietRun_pure

theorem quietRun_deviceRules (binding : DeviceBinding) :
    QuietRun config strict (deviceRules binding) :=
  (quietRun_deviceRulesOf _).bind fun _ => (quietRun_fromResult _).bind fun _ => quietRun_pure

theorem quietRun_loadDeviceFilterProgram (program : List Insn) :
    QuietRun config strict (loadDeviceFilterProgram program) := by
  refine Asks.bind (quiet_call (by trivial)) fun result _ => ?_
  split
  · trivial
  · trivial

theorem quietRun_attachProgramToCgroup {path : String} (h : strict = true → OwnGroup config path) :
    QuietRun config strict (attachProgramToCgroup path) :=
  (quietRun_attempt (quiet_call (by trivial))).bind fun _ => quietRun_attempt (quiet_call h)

theorem quietRun_attachDeviceBpfFilter {path : String} (h : strict = true → OwnGroup config path)
    (binding : DeviceBinding) : QuietRun config strict (attachDeviceBpfFilter path binding) :=
  (quietRun_deviceRules binding).bind fun _ => (quietRun_loadDeviceFilterProgram _).bind fun _ =>
    quietRun_attachProgramToCgroup h

theorem quietRun_probeProgram : QuietRun config strict (probeProgram binding) := by
  cases binding with
  | none => exact quietRun_pure
  | some binding => exact (quietRun_deviceRules binding).bind fun _ => quietRun_pure

theorem quietRun_probeDeviceBpfAttach {path : String} (h : strict = true → OwnGroup config path)
    (binding : Option DeviceBinding) : QuietRun config strict (probeDeviceBpfAttach path binding) :=
  (quietRun_probeProgram binding).bind fun _ => (quietRun_loadDeviceFilterProgram _).bind fun _ =>
    (quietRun_attachProgramToCgroup h).bind fun _ => quietRun_attempt (quiet_call h)

theorem asks_createBpfProbeCgroup (henabled : config.deviceBpfEnabled = true) (n : Nat) :
    Asks (Routine config strict) (createBpfProbeCgroup config n).run
      (Returns (OwnGroup config)) := by
  induction n with
  | zero => trivial
  | succ n ih =>
    refine Asks.run_bind (quietRun_call (by trivial)) fun sequence _ =>
      Asks.run_bind (quietRun_call (by trivial)) fun processId _ => ?_
    have hown : OwnGroup config (join config.root (probeName processId sequence)) :=
      .inr ⟨henabled, processId, sequence, rfl⟩
    refine Asks.run_bind (quietRun_call fun _ => hown) fun created _ => ?_
    split
    · exact hown
    · split
      · exact ih
      · trivial

theorem quietRun_probeDeviceBpf : QuietRun config strict (probeDeviceBpf config binding) := by
  cases hdisabled : deviceBpfDisabled config with
  | error e =>
    rw [probeDeviceBpf, hdisabled]
    trivial
  | ok u =>
    have henabled : config.deviceBpfEnabled = true := by
      simp only [deviceBpfDisabled, except_bind_eq_ok, failIf_eq_ok] at hdisabled
      obtain ⟨-, -, henabled⟩ := hdisabled
      exact Bool.eq_true_of_not_eq_false henabled
    refine QuietRun.bind (quietRun_fromResult _) fun _ =>
      Asks.run_bind (asks_createBpfProbeCgroup henabled 8) fun path hpath => ?_
    exact (quietRun_outcome (quietRun_probeDeviceBpfAttach (fun _ => hpath) binding)).bind fun _ =>
      (quietRun_call (by exact fun _ => hpath)).bind fun _ => quietRun_fromResult _

theorem quiet_preflightReportWithBinding :
    Quiet config strict (preflightReportWithBinding config binding) :=
  (quiet_readTrimmed _).bind fun _ => (quiet_call (by trivial)).bind fun _ =>
    (quiet_of_quietRun (quietRun_probeDeviceBpf _)).bind fun _ =>
      (quiet_call (by trivial)).bind fun _ => (quiet_call (by trivial)).bind fun _ => quiet_pure

/-! ### The stages of a launch -/

/-- The path of an instance group. -/
def InstanceGroup (config : CgroupV2Config) (path : String) : Prop :=
  ∃ name, isOwnedInstanceName name = true ∧ path = join config.root name

theorem InstanceGroup.ownGroup {path : String} (h : InstanceGroup config path) :
    OwnGroup config path := .inl h

theorem cgroupPath_eq_ok {name path : String} (h : cgroupPath config name = .ok path) :
    InstanceGroup config path := by
  unfold cgroupPath at h
  split at h
  · next hname => exact ⟨name, hname, (Except.ok.inj h).symm⟩
  · cases h

theorem asks_createInstanceCgroup (name : String) :
    Asks (Routine config strict) (createInstanceCgroup config name).run
      (Returns (InstanceGroup config)) := by
  unfold createInstanceCgroup
  cases hpath : cgroupPath config name with
  | error e => trivial
  | ok path =>
    have hown := cgroupPath_eq_ok hpath
    have hresult : Asks (Routine config strict) (fromResult (.ok path)).run
        (Returns (· = path)) := rfl
    refine Asks.run_bind hresult fun path' hpath' => ?_
    subst hpath'
    exact Asks.run_bind (quietRun_attempt (quiet_call fun _ => hown.ownGroup)) fun _ _ => hown

theorem quiet_isSynthetic (path file : String) :
    Quiet config strict (isSynthetic config path file) := by
  unfold isSynthetic
  split
  · exact (quiet_call (by trivial)).bind fun _ => quiet_pure
  · exact quiet_pure

theorem routine_write {path file : String} (h : strict = true → InstanceGroup config path)
    (hfile : file ∈ controlFiles) (contents : String) :
    Routine config strict (.write (join path file) contents) := by
  intro hstrict
  obtain ⟨name, hname, rfl⟩ := h hstrict
  exact ⟨name, hname, file, hfile, rfl⟩

theorem quietRun_applySome {limit : Option α} {apply : α → Fallible Unit}
    (h : ∀ value, QuietRun config strict (apply value)) :
    QuietRun config strict (applySome limit apply) := by
  cases limit with
  | none => exact quietRun_pure
  | some value => exact h value

section Instance

variable {path : String} (h : strict = true → InstanceGroup config path)
include h

theorem quietRun_applyLimits (limits : Ledger.CgroupLimits) :
    QuietRun config strict (applyLimits config path limits) := by
  refine (quiet_isSynthetic _ _).lift.bind fun synthetic => ?_
  split
  · exact quietRun_pure
  · refine (quietRun_applySome fun millicores => ?_).bind fun _ =>
      (quietRun_applySome fun bytes => ?_).bind fun _ => quietRun_applySome fun cpus => ?_
    all_goals exact (quietRun_fromResult _).bind fun _ =>
      quietRun_attempt (quiet_call (routine_write h (by simp [controlFiles]) _))

theorem quietRun_enforceDeviceBinding (binding : DeviceBinding) :
    QuietRun config strict (enforceDeviceBinding config path binding) := by
  unfold enforceDeviceBinding
  split
  · exact (quietRun_fromResult _).bind fun _ =>
      quietRun_attachDeviceBpfFilter (fun hstrict => (h hstrict).ownGroup) binding
  · exact quietRun_pure

theorem quietRun_attach (pid : Nat) : QuietRun config strict (attach config path pid) := by
  refine (quiet_isSynthetic _ _).lift.bind fun synthetic => ?_
  split
  · exact quietRun_pure
  · exact quietRun_attempt (quiet_call (routine_write h (by simp [controlFiles]) _))

theorem quietRun_killCgroup : QuietRun config strict (killCgroup config path) := by
  refine (quiet_isSynthetic _ _).lift.bind fun synthetic => ?_
  split
  · exact quietRun_pure
  · exact quietRun_attempt (quiet_call (routine_write h (by simp [controlFiles]) _))

theorem quiet_discardCgroup : Quiet config strict (discardCgroup config path) :=
  (quiet_ignore (quiet_of_quietRun (quietRun_killCgroup h))).bind fun _ =>
    quiet_ignore (quiet_call fun hstrict => (h hstrict).ownGroup)

end Instance

theorem quietRun_removeStaleSocket (path : String) :
    QuietRun config strict (removeStaleSocket path) := by
  refine (quietRun_call (by trivial)).bind fun found => ?_
  split
  · exact (quietRun_attempt (quiet_call (by trivial))).bind fun _ =>
      (quietRun_fromResult _).bind fun _ => quietRun_attempt (quiet_call (by trivial))
  · exact quietRun_pure

theorem quietRun_openTransport (socket : Option String) :
    QuietRun config strict (openTransport config socket) := by
  cases socket with
  | none => exact quietRun_pure
  | some path =>
    exact (quietRun_fromResult _).bind fun _ =>
      (quietRun_attempt (quiet_call (by trivial))).bind fun _ =>
        (quietRun_removeStaleSocket path).bind fun _ =>
          (quietRun_attempt (quiet_call (by trivial))).bind fun _ =>
            (quietRun_attempt (quiet_call (by trivial))).bind fun _ =>
              quietRun_attempt (quiet_call (by trivial))

theorem quiet_stopTransport (transport : Option String) :
    Quiet config strict (stopTransport transport) := by
  cases transport with
  | none => exact quiet_pure
  | some path => exact quiet_ignore (quiet_call (by trivial))

theorem quiet_startTransport (transport : Option String) :
    Quiet config strict (startTransport transport) := by
  cases transport with
  | none => exact quiet_pure
  | some path => exact quiet_call (by trivial)

theorem quietRun_openPipes (n : Nat) : QuietRun config strict (openPipes n) := by
  induction n with
  | zero => exact quietRun_pure
  | succ n ih => exact (quietRun_attempt (quiet_call (by trivial))).bind fun _ => ih

end CyreneKernel.Sandboxd
