import CyreneKernel.Sandboxd.Children

/-!
# Confinement and cleanup of the sandbox daemon

What a stop and a recovery do with the children and the groups of the daemon, and what follows for
every run of it.  A recovery looks up the group by its name, and compares the start time of the
process; a stop takes the group and the process from the handle of the peer as they are.  A stop
takes a group that it cannot look into for an empty one; a recovery does not.

## Main definitions

* `StopsTracked`: a request whose stop names an instance group and a child that is tracked.
* `Clean`: nothing of an instance is left.

## Main results

* `safe_stop`, `safe_recoverStaleProcess`, `safe_handleRequest`: what a request does.
* `Serves.sound`: the children and the table agree in every run.
* `confined_of_stopsTracked`: stops of tracked children are confined.
* `clean_of_complete`: a stop that reports a complete cleanup left nothing, if it could look.
-/

namespace CyreneKernel.Sandboxd

open Lib Lib.Program
open Sandbox (OsError isOwnedInstanceName)
open Journal (RuntimeProcessEvidence)

variable {config : CgroupV2Config} {strict trust : Bool} {known : Nat → String → Prop}
  {w w' : World}

/-! ### Stops -/

/-- Nothing of an instance is left: its group has no members, and its child was reaped. -/
def Clean (handle : ProcessHandle) (w : World) : Prop :=
  w.members (join handle.cgroupPath "cgroup.procs") = [] ∧ w.launched handle.pid = none

/-- A child that is known to be tracked where this matters. -/
def Held (strict trust : Bool) (known : Nat → String → Prop) (pid : Nat) (w : World) : Prop :=
  w.Sound trust known ∧ (strict = true → pid ∈ w.table)

theorem Held.sameChildren {pid : Nat} (h : Held strict trust known pid w)
    (hsame : SameChildren w w') :
    Held strict trust known pid w' :=
  ⟨h.1.sameChildren hsame, hsame.table ▸ h.2⟩

theorem Held.child {pid : Nat} (hstrict : strict = true) (h : Held strict trust known pid w) :
    w.IsChild pid ∧ 1 < pid ∧ pid < 2 ^ 31 :=
  h.1.isChild (h.1.tracked pid (h.2 hstrict))

section Stop

variable {handle : ProcessHandle}

section

variable (hown : ∀ path, known handle.pid path)

include hown

theorem safe_waitKilled (h : w.Sound trust known) (request : StopRequest) :
    SafeOn config strict trust (waitKilled handle request) w fun _ w' => w'.Sound trust known :=
  (safe_waitChild h hown _).bind fun _ _ h =>
    (h.quiet (quiet_ignore (quiet_waitUntilEmpty _ _))).bind fun _ _ h => h

variable (hpath : strict = true → InstanceGroup config handle.cgroupPath)

include hpath

/-- Kill the group, and wait for it. -/
theorem safe_killCgroup_waitKilled (h : w.Sound trust known) (request : StopRequest) :
    SoundOn config strict trust known (do
        killCgroup config handle.cgroupPath
        waitKilled handle request : Fallible (Option Nat)) w :=
  (h.quietRun (quietRun_killCgroup hpath)).run_bind
    fun _ _ h => Safe.run_lift (safe_waitKilled hown h request)

theorem safe_stopImmediately (h : Held strict trust known handle.pid w) (request : StopRequest) :
    SoundOn config strict trust known (stopImmediately config handle request) w := by
  unfold stopImmediately
  split
  · exact (Safe.run_lift (safe_signalPid Held.sameChildren (fun hstrict =>
      Held.child hstrict) h .kill)).run_bind fun _ _ h => Safe.run_lift (safe_waitChild h.1 hown _)
  · refine (h.1.lift (quiet_cgroupIsEmpty _)).run_bind fun empty w' h => ?_
    split
    · exact safe_killCgroup_waitKilled hown hpath h request
    · exact Safe.run_lift (safe_waitKilled hown h request)

/-- In the dev mode, the second signal may come when the child was reaped. -/
theorem safe_stopGracefully (hdev : strict = true → config.devMode = false)
    (h : Held strict trust known handle.pid w) (request : StopRequest) :
    SoundOn config strict trust known (stopGracefully config handle request) w := by
  refine (Safe.run_lift (safe_signalPid Held.sameChildren (fun hstrict =>
    Held.child hstrict) h .term)).run_bind fun _ w' h => ?_
  refine (Safe.run_lift (safe_waitChild h.1 hown _)).run_bind fun exitCode w' h => ?_
  cases exitCode with
  | some code => exact h
  | none =>
    change SafeOn config strict trust (ExceptT.run (if config.devMode then _ else _)) w' _
    split
    · next hmode =>
      have hnot (hstrict : strict = true) : False := by
        rw [hdev hstrict] at hmode
        cases hmode
      exact (Safe.run_lift (safe_signalPid World.Sound.sameChildren
        (fun hstrict => (hnot hstrict).elim) h .kill)).run_bind
          fun _ _ h => Safe.run_lift (safe_waitChild h hown _)
    · refine (h.lift (quiet_cgroupIsEmpty _)).run_bind fun empty w' h => ?_
      split
      · exact h
      · exact safe_killCgroup_waitKilled hown hpath h request

end

/-- A group of which the read members are empty has none, if they can be read while there are
any. -/
theorem safe_cgroupIsEmpty (h : w.Sound trust known) (path : String) :
    SafeOn config strict trust (cgroupIsEmpty path) w fun empty w' => w'.Sound trust known ∧
      (trust = true → InstanceGroup config path → empty = true →
        w'.members (join path "cgroup.procs") = []) := by
  refine safe_ask_bind.2 ⟨fun _ => trivial, fun answer w' hstep => ?_⟩
  have hroutine : Routine config false (.readToString (join path "cgroup.procs")) := trivial
  refine ⟨h.sameChildren (hstep.sameChildren hroutine), fun htrust hpath hempty => ?_⟩
  obtain ⟨name, hname, rfl⟩ := hpath
  refine hstep.members_eq_nil nofun ⟨name, hname, rfl⟩ ?_
  obtain ⟨hreliable, _, ⟨-, hread⟩, -⟩ := hstep
  cases answer with
  | error error =>
    by_contra hmembers
    obtain ⟨contents, hcontents⟩ := hreliable htrust _ rfl hmembers
    cases hcontents
  | ok contents => exact (hread contents rfl _ rfl).1 (of_decide_eq_true hempty)

/-- An instance with an empty group of which the child is not tracked is clean. -/
theorem safe_untracked (looked : Prop) (h : w.Sound trust known)
    (hmembers : looked → w.members (join handle.cgroupPath "cgroup.procs") = []) :
    SafeOn config strict trust
      (do
        let tracked ← call (.getChild handle.pid)
        return tracked.isNone) w fun complete w' => w'.Sound trust known ∧
      (trust = true → looked → InstanceGroup config handle.cgroupPath → complete = true →
        Clean handle w') := by
  refine safe_ask_bind.2 ⟨fun _ => trivial, fun answer w' hstep => ?_⟩
  have hroutine : Routine config false (.getChild handle.pid) := trivial
  have hsame := hstep.sameChildren hroutine
  refine ⟨h.sameChildren hsame, fun htrust hlooked hpath hcomplete => ?_⟩
  obtain ⟨name, hname, heq⟩ := hpath
  refine ⟨hstep.members_eq_nil nofun ⟨name, hname, by rw [heq]⟩ (hmembers hlooked), ?_⟩
  obtain ⟨-, _, ⟨hanswer, rfl⟩, -⟩ := hstep
  rw [Option.isNone_iff_eq_none.1 hcomplete] at hanswer
  rw [hsame.launched]
  by_contra hlaunched
  exact notMem_of_getElem? hanswer (h.launched htrust _ hlaunched)

/-- Where a stop ends: what it calls complete is clean, provided that the group is looked at. -/
def Stopped (config : CgroupV2Config) (trust : Bool) (known : Nat → String → Prop)
    (handle : ProcessHandle) (complete : Bool) (w : World) : Prop :=
  w.Sound trust known ∧ (trust = true → config.devMode = false →
    InstanceGroup config handle.cgroupPath → complete = true → Clean handle w)

theorem safe_isComplete (h : w.Sound trust known) :
    SafeOn config strict trust (isComplete config handle) w
      (Stopped config trust known handle) := by
  unfold isComplete
  split
  · next hdev =>
    have hnot : ¬ config.devMode = false := fun hnot => by
      rw [hnot] at hdev
      cases hdev
    exact safe_untracked _ h fun hlooked => (hnot hlooked).elim
  · refine (safe_cgroupIsEmpty h _).bind fun empty w' hw' => ?_
    obtain ⟨hsound, hmembers⟩ := hw'
    cases empty with
    | false => exact ⟨hsound, fun _ _ _ hcomplete => nomatch hcomplete⟩
    | true =>
      refine (safe_untracked (trust = true ∧ InstanceGroup config handle.cgroupPath) hsound
        fun hlooked => hmembers hlooked.1 hlooked.2 rfl).mono fun complete w'' hw'' => ?_
      exact ⟨hw''.1, fun htrust _ hpath => hw''.2 htrust ⟨htrust, hpath⟩ hpath⟩

variable {complete : Bool}

/-- Routine calls that write nothing leave an instance clean. -/
theorem Stopped.hostStep {question : HostCall} {answer : question.Answer}
    (h : Stopped config trust known handle complete w) (hroutine : Routine config strict question)
    (hquestion : ∀ path contents, question ≠ .write path contents)
    (hstep : HostStep config trust question w answer w') :
    Stopped config trust known handle complete w' := by
  have hsame := hstep.sameChildren hroutine
  refine ⟨h.1.sameChildren hsame, fun htrust hdev hpath hcomplete => ?_⟩
  obtain ⟨hmembers, hlaunched⟩ := h.2 htrust hdev hpath hcomplete
  obtain ⟨name, hname, heq⟩ := hpath
  refine ⟨hstep.members_eq_nil hquestion ⟨name, hname, by rw [heq]⟩ hmembers, ?_⟩
  rw [hsame.launched, hlaunched]

theorem safe_stopped {α : Type} {p : HostProgram α}
    (hasks : Asks (fun question => Routine config strict question ∧
      ∀ path contents, question ≠ .write path contents) p fun _ => True)
    (h : Stopped config trust known handle complete w) :
    SafeOn config strict trust p w fun _ w' => Stopped config trust known handle complete w' :=
  (hasks.safe (fun _ w hquestion _ => hquestion.1.confined w)
    (fun _ _ _ _ hquestion h hstep => h.hostStep hquestion.1 hquestion.2 hstep) h).mono
      fun _ _ h => h.2

theorem safe_removeCgroup (hpath : strict = true → InstanceGroup config handle.cgroupPath)
    (h : Stopped config trust known handle complete w) :
    SafeOn config strict trust (removeCgroup config handle.cgroupPath) w fun _ w' =>
      Stopped config trust known handle complete w' := by
  unfold removeCgroup
  split
  · exact safe_stopped ((asks_ask ⟨fun hstrict => (hpath hstrict).ownGroup, nofun⟩).bind
      fun _ _ => trivial) h
  · exact safe_stopped ((asks_ask ⟨fun hstrict => (hpath hstrict).ownGroup, nofun⟩).bind
      fun _ _ => trivial) h

/-- A stop.  A strict one needs a handle of a child that is tracked. -/
theorem safe_stop {request : StopRequest} (hown : ∀ path, known handle.pid path)
    (hpath : strict = true → InstanceGroup config handle.cgroupPath)
    (hdev : strict = true → config.devMode = true → request.immediate = true)
    (h : Held strict trust known handle.pid w) :
    SafeOn config strict trust (stop config handle request).run w
      (Ends (fun report w' => Stopped config trust known handle report.complete w')
        fun w' => w'.Sound trust known) := by
  have hend (beforeOom : Nat) (exitCode : Option Nat) (w : World) (h : w.Sound trust known) :
      SafeOn config strict trust
        (do
          let complete ← isComplete config handle
          let oomKilled := decide (beforeOom < (← readOomKillCount handle.cgroupPath))
          if complete then removeCgroup config handle.cgroupPath
          return ⟨complete, exitCode, oomKilled, stopConditions complete oomKilled,
            if complete then "CLEANUP_COMPLETE" else "PROCESS_UNINTERRUPTIBLE"⟩ :
            Fallible CleanupReport).run w
        (Ends (fun report w' => Stopped config trust known handle report.complete w')
          fun w' => w'.Sound trust known) := by
    refine (Safe.run_lift (safe_isComplete h)).run_bind fun complete w' h => ?_
    refine (Safe.run_lift (safe_stopped (asks_readOomKillCount (fun _ => ⟨trivial, nofun⟩) _)
      h)).run_bind fun count w' h => ?_
    split
    · exact (Safe.run_lift (safe_removeCgroup hpath h)).run_bind fun _ _ h => h
    · exact h
  refine (Safe.run_lift (safe_quiet (quiet_call (by trivial)) Held.sameChildren h)).run_bind
    fun child w' h => ?_
  refine (Safe.run_lift (safe_quiet (quiet_stopTransport _) Held.sameChildren h)).run_bind
    fun _ w' h => ?_
  refine (Safe.run_lift (safe_quiet (quiet_readOomKillCount _) Held.sameChildren h)).run_bind
    fun beforeOom w' h => ?_
  split
  · exact (safe_stopImmediately hown hpath h request).run_bind fun exitCode w' h => hend _ _ w' h
  · next himmediate =>
    refine (safe_stopGracefully hown hpath (fun hstrict => ?_) h request).run_bind
      fun exitCode w' h => hend _ _ w' h
    exact Bool.eq_false_iff.2 fun hmode => himmediate (hdev hstrict hmode)

end Stop

/-! ### Requests -/

/-- After a check that does not depend on the host, it is known to have passed. -/
theorem safe_fromResult {α : Type} {inv : World → Prop} (result : Except ProviderError α)
    (hw : inv w) : SafeOn config strict trust (fromResult result).run w
      (Ends (fun a w' => result = .ok a ∧ inv w') inv) := by
  cases result with
  | error error => exact hw
  | ok a => exact ⟨rfl, hw⟩

/-- A recovery kills only the group of its evidence. -/
theorem safe_recoverStaleProcess (h : w.Sound trust known) (evidence : RuntimeProcessEvidence)
    (hown : ∀ path, known evidence.pid path) :
    SoundOn config strict trust known (recoverStaleProcess config evidence) w := by
  refine (safe_fromResult _ h).run_bind fun path w' hw' => ?_
  obtain ⟨hname, h⟩ := hw'
  have hpath := cgroupPath_eq_ok hname
  refine (h.quietRun (quietRun_evidenceHolds _ _)).run_bind fun holds w' h => ?_
  refine (h.quietRun (quietRun_fromResult _)).run_bind fun _ w' h => ?_
  refine (h.lift (quiet_readOomKillCount _)).run_bind fun beforeOom w' h => ?_
  refine (h.quietRun (quietRun_killCgroup fun _ => hpath)).run_bind fun _ w' h => ?_
  refine (h.lift (quiet_call (by trivial))).run_bind fun tracked w' h => ?_
  have hend (exitCode : Option Nat) (w : World) (h : w.Sound trust known) :
      SoundOn config strict trust known (do
          let complete ← waitUntilEmpty path 10000
          let oomKilled := decide (beforeOom < (← readOomKillCount path))
          if complete then ignore (call (.removeDir path))
          return ⟨complete, exitCode, oomKilled,
            if complete then [] else
              [⟨"CGROUP_NOT_EMPTY",
                "stale sandbox cgroup remained after bounded recovery cleanup"⟩],
            if complete then "RECOVERY_CLEANUP_COMPLETE" else "RECOVERY_CLEANUP_INCOMPLETE"⟩ :
            Fallible CleanupReport) w := by
    refine (h.lift (quiet_waitUntilEmpty _ _)).run_bind fun complete w' h => ?_
    refine (h.lift (quiet_readOomKillCount _)).run_bind fun count w' h => ?_
    have hremove : Quiet config strict (ignore (call (.removeDir path))) :=
      quiet_ignore (quiet_call fun _ => hpath.ownGroup)
    split
    · exact (h.lift hremove).run_bind fun _ _ h => h
    · exact h
  split
  · exact (Safe.run_lift (safe_waitChild h hown 10000)).run_bind fun exitCode w' h => hend _ w' h
  · exact hend none w' h

/-- A stop of a child that is tracked and of an instance group, immediate in the dev mode. -/
def StopTracked (config : CgroupV2Config) (w : World) (body : SandboxStopRequest) : Prop :=
  ∀ handle, body.handle = some handle →
    InstanceGroup config handle.cgroupPath ∧ handle.pid ∈ w.table ∧
      (config.devMode = true → body.immediate = true)

/-- A request that, if it is a stop, is one of a tracked child. -/
def StopsTracked (config : CgroupV2Config) (w : World) (request : SandboxRequest) : Prop :=
  ∀ body, request.body = some (.stop body) → StopTracked config w body

theorem handleFromProto_eq_ok {message : SandboxProcessHandle} {handle : ProcessHandle}
    (h : handleFromProto message = .ok handle) :
    handle.pid = message.pid ∧ handle.cgroupPath = message.cgroupPath := by
  simp only [handleFromProto, except_bind_eq_ok] at h
  obtain ⟨_, -, hread⟩ := h
  obtain rfl := except_pure_eq_ok.1 hread
  exact ⟨rfl, rfl⟩

theorem safe_stopRequest {body : SandboxStopRequest} (h : w.Sound trust known)
    (hown : ∀ message, body.handle = some message → ∀ path, known message.pid path)
    (htracked : strict = true → StopTracked config w body) :
    SafeOn config strict trust (stopRequest config body).run w
      (Ends (fun report w' => ∃ message handle, body.handle = some message ∧
          handleFromProto message = .ok handle ∧ Stopped config trust known handle
            report.complete w')
        fun w' => w'.Sound trust known) := by
  have hfailed : ∀ w', w'.Sound trust known ∧ (strict = true → StopTracked config w' body) →
      w'.Sound trust known := fun _ h => h.1
  refine ((safe_fromResult _ ⟨h, htracked⟩).run_mono (fun _ _ h => h) hfailed).run_bind
    fun message w' hw' => ?_
  obtain ⟨hmessage, hw'⟩ := hw'
  refine ((safe_fromResult _ hw').run_mono (fun _ _ h => h) hfailed).run_bind
    fun handle w' hw' => ?_
  obtain ⟨hhandle, h, htracked⟩ := hw'
  have hmessage := foundOr_eq_ok.1 hmessage
  obtain ⟨hpid, hgroup⟩ := handleFromProto_eq_ok hhandle
  refine (safe_stop (hpid ▸ hown message hmessage) (fun hstrict => ?_) (fun hstrict => ?_)
    ⟨h, fun hstrict => ?_⟩).run_mono
    (fun report w' h => ⟨message, handle, hmessage, hhandle, h⟩) fun _ h => h
  · exact hgroup ▸ (htracked hstrict message hmessage).1
  · exact (htracked hstrict message hmessage).2.2
  · exact hpid ▸ (htracked hstrict message hmessage).2.1

theorem safe_serveBody {body : Option RequestBody} (h : w.Sound trust known)
    (hany : ∀ pid path, known pid path)
    (htracked : strict = true → ∀ stop, body = some (.stop stop) → StopTracked config w stop)
    (adapterId : String) :
    SoundOn config strict trust known (serveBody config adapterId body) w := by
  cases body with
  | none => exact h
  | some body =>
    cases body with
    | preflight binding =>
      cases binding <;>
        exact (h.lift (quiet_preflightReportWithBinding _)).run_bind fun _ _ h => h
    | launch request =>
      refine Safe.run_bind ?_ fun _ _ h => h
      exact (h.quietRun (quietRun_fromResult _)).run_bind fun _ _ h => safe_launch h hany _ _
    | stop request =>
      refine ((safe_stopRequest h (fun _ _ => hany _) fun hstrict =>
        htracked hstrict request rfl).run_mono
        (fun report w' hw' => ?_) fun _ h => h).run_bind fun _ _ h => h
      obtain ⟨_, _, -, -, hstopped⟩ := hw'
      exact hstopped.1
    | telemetry message =>
      refine Safe.run_bind ?_ fun _ _ h => h
      refine (h.quietRun (quietRun_fromResult _)).run_bind fun _ _ h => ?_
      refine (h.quietRun (quietRun_fromResult _)).run_bind fun _ _ h => ?_
      exact h.lift (quiet_telemetry _)
    | discoverRecovery =>
      exact (h.quietRun quietRun_discoverRecoveryProcesses).run_bind fun _ _ h => h
    | recoverStale message =>
      refine Safe.run_bind ?_ fun _ _ h => h
      refine (h.quietRun (quietRun_fromResult _)).run_bind fun _ _ h => ?_
      exact (h.quietRun (quietRun_fromResult _)).run_bind fun _ _ h =>
        safe_recoverStaleProcess h _ (hany _)

/-- What any request does. -/
theorem safe_handleRequest {request : SandboxRequest} (h : w.Sound trust known)
    (hany : ∀ pid path, known pid path) (htracked : strict = true → StopsTracked config w request)
    (adapterId : String) :
    SafeOn config strict trust (handleRequest config adapterId request) w fun _ w' =>
      w'.Sound trust known := by
  unfold handleRequest
  split
  · exact h
  · refine (safe_serveBody h hany htracked adapterId).bind fun result w' hresult => ?_
    cases result with
    | ok body => exact hresult
    | error error => exact hresult

/-- The children and the table agree in every run of the daemon. -/
theorem Serves.sound {adapterId : String} {requests : List SandboxRequest}
    (hserves : Serves config trust adapterId w requests w') (h : w.Sound trust known)
    (hany : ∀ pid path, known pid path) : w'.Sound trust known := by
  induction hserves with
  | nil => exact h
  | @snoc w' _ _ request _ _ _ hruns ih =>
    have hsafe : SafeOn config false trust (handleRequest config adapterId request) w' _ :=
      safe_handleRequest ih hany (fun hstrict => absurd hstrict Bool.false_ne_true) adapterId
    exact hsafe.post_of_runs hruns

/-- In every run each child of the table was launched and not reaped, so that its pid is still the
pid of this process. -/
theorem tracked_child_unreaped {adapterId : String} {requests : List SandboxRequest}
    (hfresh : w.Fresh) (hserves : Serves config trust adapterId w requests w') {pid : Nat}
    (hpid : pid ∈ w'.table) :
    ∃ start, w'.unreaped pid = some start ∧ w'.startTime pid = some start ∧ 1 < pid ∧
      pid < 2 ^ 31 := by
  have hsound : w'.Sound trust fun _ _ => True := hserves.sound (.fresh hfresh) fun _ _ => trivial
  obtain ⟨start, hstart⟩ := Option.ne_none_iff_exists'.1 (hsound.tracked pid hpid)
  exact ⟨start, hstart, hsound.held pid start hstart⟩

/-- From a fresh start, whatever was requested before, the calls of a request stay within the groups
and the children of the daemon, if its stop is one of a tracked child. -/
theorem confined_of_stopsTracked {w'' : World} {adapterId : String} {requests : List SandboxRequest}
    {request : SandboxRequest} {question : HostCall} (hfresh : w.Fresh)
    (hserves : Serves config false adapterId w requests w')
    (htracked : StopsTracked config w' request)
    (hreaches : Reaches (HostStep config false) (handleRequest config adapterId request) w' question
      w'') : Confined config w'' question := by
  have hsound : w'.Sound false fun _ _ => True := hserves.sound (.fresh hfresh) fun _ _ => trivial
  have hsafe : SafeOn config true false (handleRequest config adapterId request) w' _ :=
    safe_handleRequest hsound (fun _ _ => trivial) (fun _ => htracked) adapterId
  exact hsafe.allowed_of_reaches hreaches rfl

def sampleConfig : CgroupV2Config := ⟨"/sys/fs/cgroup/cyrene", "/run/cyrene/workers", false, false⟩

/-- A host on which the daemon was just started, and another service runs. -/
def sampleWorld : World where
  table := ∅
  unreaped := fun _ => none
  placed := fun _ => none
  launched := fun _ => none
  startTime := fun pid => if pid = 77 then some 1 else none
  members := fun path => if path = "/sys/fs/cgroup/system.slice/cgroup.procs" then [77] else []

theorem fresh_sampleWorld : sampleWorld.Fresh := ⟨rfl, fun _ => rfl, fun _ => rfl⟩

/-- A wait for a child, which has exited. -/
def World.wait (w : World) (pid : Nat) : WaitResult × World :=
  if w.unreaped pid = none then (.failed, w) else (.reaped 0, w.reaped pid)

/-- A fork of a child with the pid 42. -/
def World.forkChild (w : World) : Except OsError Nat × World :=
  if w.unreaped 42 = none then (.ok 42, w.forked 42 7)
  else (.error ⟨some 11, "Resource temporarily unavailable"⟩, w)

/-- What a file of a group contains, of those that the daemon needs. -/
def World.read (w : World) (readable : Bool) (path : String) : Except OsError String :=
  if path = "/sys/fs/cgroup/cyrene/cgroup.controllers" then .ok "cpu memory pids"
  else if readable then .ok (if w.members path = [] then "" else "42")
  else .error ⟨some 24, "Too many open files"⟩

/-- A host on which the child with the pid 42 is forked, which forks another one.  On an unreadable
one, the daemon has no file descriptor left to look into a group. -/
def sampleHost (readable : Bool) : (question : HostCall) → World → question.Answer × World
  | .readToString path, w => (w.read readable path, w)
  | .write path contents, w =>
    (.ok (), w.wrote path contents
      (if contents = "42" then Function.update w.members path [42, 43] else fun _ => []))
  | .fork _, w => w.forkChild
  | .waitPid pid, w => w.wait pid
  | .tryWaitPid pid, w => w.wait pid
  | .getChild pid, w => (w.table[pid]?, w)
  | .removeChild pid, w => (w.table[pid]?, w.removed pid)
  | .insertChild pid child, w => ((), w.inserted pid child)
  | .pathExists _, w | .isFile _, w => (true, w)
  | .readDir _, w => (.ok [], w)
  | .metadata _, w => (.error ⟨some 2, "No such file or directory"⟩, w)
  | .isSocket _, w => (.ok true, w)
  | .startBridge _, w | .signal _ _, w => ((), w)
  | .processId, w | .nextProbe, w => (10, w)
  | .loadProgram _, w => (.ok (), w)
  | .environment, w => (∅, w)
  | .execResult _, w => (.ok none, w)
  | .procStartTime pid, w => (w.startTime pid, w)
  | .openPidfd _, w | .pollPidfd _ _, w | .deadlinePassed, w => (true, w)
  | .createDir _, w | .createDirAll _, w | .removeDir _, w | .removeDirAll _, w
  | .removeFile _, w | .bindSocket _, w | .setPermissions _, w | .setNonblocking _, w
  | .openCgroup _, w | .attachProgram _, w | .detachProgram _, w | .pipe, w
  | .releaseGate _, w => (.ok (), w)

theorem suffix_join (base name : String) : name.toList <:+ (join base name).toList := by
  unfold join
  split
  · rw [String.toList_append]
    exact List.suffix_append _ _
  · rw [String.toList_append]
    exact List.suffix_append _ _

theorem waitEffect_wait (w : World) (pid : Nat) :
    WaitEffect pid w (w.wait pid).1 (w.wait pid).2 := by
  unfold World.wait
  split
  · rfl
  · next hchild => exact ⟨hchild, rfl⟩

variable {readable : Bool}

theorem trim_read {path cgroup contents : String} (hpath : path = join cgroup "cgroup.procs")
    (h : w.read readable path = .ok contents) : trim contents = "" ↔ w.members path = [] := by
  have hne : path ≠ "/sys/fs/cgroup/cyrene/cgroup.controllers" := by
    rintro rfl
    have hsuffix := suffix_join cgroup "cgroup.procs"
    rw [← hpath] at hsuffix
    revert hsuffix
    decide
  rw [World.read, if_neg hne] at h
  split at h
  · obtain rfl := Except.ok.inj h
    split
    · next hempty => exact ⟨fun _ => hempty, fun _ => by decide +kernel⟩
    · next hmembers =>
      exact ⟨fun htrim => absurd htrim (by decide +kernel), fun hempty => absurd hempty hmembers⟩
  · cases h

theorem effect_sampleHost (readable : Bool) (question : HostCall) (w : World) :
    Effect question w (sampleHost readable question w).1 (sampleHost readable question w).2 := by
  cases question with
  | readToString path =>
    exact ⟨rfl, fun contents hcontents cgroup hpath => trim_read hpath hcontents⟩
  | write path contents => exact ⟨_, rfl⟩
  | fork request =>
    change Effect (.fork request) w w.forkChild.1 w.forkChild.2
    unfold World.forkChild
    split
    · next hfresh => exact ⟨hfresh, by decide, by decide, 7, rfl⟩
    · rfl
  | waitPid pid | tryWaitPid pid => exact waitEffect_wait w pid
  | getChild pid | removeChild pid => exact ⟨rfl, rfl⟩
  | _ => rfl

theorem reliable_sampleHost (question : HostCall) (w : World) :
    Reliable question w (sampleHost true question w).1 := by
  have hwait {pid : Nat} (hchild : w.unreaped pid ≠ none) : (w.wait pid).1 = .reaped 0 := by
    rw [World.wait, if_neg hchild]
  cases question with
  | readToString path =>
    intro cgroup _ _
    change ∃ contents, w.read true path = .ok contents
    unfold World.read
    split
    · exact ⟨_, rfl⟩
    · exact ⟨_, rfl⟩
  | waitPid pid => exact fun hchild => ⟨0, hwait hchild⟩
  | tryWaitPid pid =>
    intro hchild hfailed
    have heq : (w.wait pid).1 = .failed := hfailed
    rw [hwait hchild] at heq
    cases heq
  | _ => trivial

/-- What happens on the host is what may happen. -/
theorem hostStep_sampleHost {trust : Bool} (h : trust = true → readable = true)
    (question : HostCall) (w : World) :
    HostStep config trust question w (sampleHost readable question w).1
      (sampleHost readable question w).2 := by
  refine ⟨fun htrust => ?_, _, effect_sampleHost readable question w, .refl _ _⟩
  rw [h htrust]
  exact reliable_sampleHost question w

/-- The run of a request on it. -/
theorem runs_sampleHost (readable trust : Bool) (h : trust = true → readable = true)
    (request : SandboxRequest) (w : World) :
    let outcome := (handleRequest sampleConfig "sandboxd" request).exec (sampleHost readable) w
    Runs (HostStep sampleConfig trust) (handleRequest sampleConfig "sandboxd" request) w outcome.1
      outcome.2.1 outcome.2.2 :=
  runs_exec (hostStep_sampleHost h) _ _

def sampleLaunch : SandboxRequest :=
  ⟨protocolVersion, some (.launch (launchMessage (samplePlan none) sampleBinding))⟩

/-- The stop of a process with its group. -/
def sampleStop (pid : Nat) (cgroupPath : String) (immediate : Bool) : SandboxRequest :=
  ⟨protocolVersion, some (.stop ⟨some ⟨pid, cgroupPath, none, ""⟩, 1000, immediate⟩)⟩

/-- The host when a worker was launched. -/
def launchedWorld (readable : Bool) : World :=
  ((handleRequest sampleConfig "sandboxd" sampleLaunch).exec (sampleHost readable) sampleWorld).2.2

theorem serves_sampleLaunch {trust : Bool} (h : trust = true → readable = true) :
    Serves sampleConfig trust "sandboxd" sampleWorld [sampleLaunch] (launchedWorld readable) :=
  .snoc (.nil _) (runs_sampleHost readable trust h _ _)

/-- The worker is the only child that was launched. -/
theorem launched_launchedWorld {pid : Nat} {path : String}
    (h : (launchedWorld true).launched pid = some path) : pid = 42 := by
  have hsound : (launchedWorld true).Sound true fun _ _ => True :=
    (serves_sampleLaunch fun _ => rfl).sound (.fresh fresh_sampleWorld) fun _ _ => trivial
  have hkeys : (launchedWorld true).table.keys = [42] := by decide +kernel
  have hmem := hsound.launched rfl pid (h ▸ Option.some_ne_none path)
  rw [← Std.ExtTreeMap.mem_keys, hkeys] at hmem
  exact List.mem_singleton.1 hmem

theorem sampleLaunch_unreaped : ∃ start, (launchedWorld true).unreaped 42 = some start ∧
    (launchedWorld true).startTime 42 = some start ∧ 1 < 42 ∧ 42 < 2 ^ 31 :=
  tracked_child_unreaped fresh_sampleWorld (serves_sampleLaunch fun _ : true = true => rfl)
    (by decide +kernel)

theorem exists_reaches_sampleHost {request : SandboxRequest} {question : HostCall}
    (h : question ∈ ((handleRequest sampleConfig "sandboxd" request).exec (sampleHost true) w).1.map
      (·.question)) :
    ∃ w'', Reaches (HostStep sampleConfig false) (handleRequest sampleConfig "sandboxd" request) w
      question w'' :=
  exists_reaches_of_runs (runs_sampleHost true false (fun _ => rfl) _ _) h

/-- The worker that was launched is signalled. -/
theorem confined_sampleStop :
    ∃ w'', Reaches (HostStep sampleConfig false)
        (handleRequest sampleConfig "sandboxd"
          (sampleStop 42 "/sys/fs/cgroup/cyrene/instance-web" false))
        (launchedWorld true) (.signal (-42) .term) w'' ∧
      Confined sampleConfig w'' (.signal (-42) .term) := by
  refine (exists_reaches_sampleHost (by decide +kernel)).imp fun w'' hreaches => ⟨hreaches,
    confined_of_stopsTracked fresh_sampleWorld (serves_sampleLaunch nofun)
      (fun body hbody handle hhandle => ?_) hreaches⟩
  obtain rfl : _ = body := RequestBody.stop.inj (Option.some.inj hbody)
  obtain rfl := Option.some.inj hhandle
  exact ⟨⟨"instance-web", by decide +kernel, by decide +kernel⟩, by decide +kernel, nofun⟩

theorem isPrefix_join (base name : String) : base.toList <+: (join base name).toList := by
  unfold join
  split
  · rw [String.toList_append]
    exact List.prefix_append _ _
  · rw [String.toList_append, String.toList_append, List.append_assoc]
    exact List.prefix_append _ _

/-- A stop kills the group that the peer names, and signals the pid that it names: the largest one
is that of all processes. -/
theorem stop_not_confined :
    (∃ w'', Reaches (HostStep sampleConfig false)
        (handleRequest sampleConfig "sandboxd" (sampleStop 1234 "/sys/fs/cgroup/system.slice" true))
        sampleWorld (.write "/sys/fs/cgroup/system.slice/cgroup.kill" "1") w'' ∧
      ¬ Confined sampleConfig w'' (.write "/sys/fs/cgroup/system.slice/cgroup.kill" "1")) ∧
    (∃ w'', Reaches (HostStep sampleConfig false)
        (handleRequest sampleConfig "sandboxd"
          (sampleStop 4294967295 "/sys/fs/cgroup/cyrene/instance-web" false))
        sampleWorld (.signal (-1) .term) w'' ∧
      ¬ Confined sampleConfig w'' (.signal (-1) .term)) := by
  constructor
  · refine (exists_reaches_sampleHost (by decide +kernel)).imp fun w'' hreaches => ⟨hreaches, ?_⟩
    rintro ⟨name, -, file, -, hpath⟩
    have hroot := (isPrefix_join sampleConfig.root name).trans (isPrefix_join _ file)
    rw [← hpath] at hroot
    revert hroot
    decide
  · refine (exists_reaches_sampleHost (by decide +kernel)).imp fun w'' hreaches => ⟨hreaches, ?_⟩
    rintro ⟨pid, htarget, hpos, -⟩
    omega

end CyreneKernel.Sandboxd
