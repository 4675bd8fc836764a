import CyreneKernel.Sandboxd.Stop

/-!
# The recovery of the daemon on a host

The restart boundary of the kernel is proved about a daemon whose recovery is two functions on a
host of control groups and processes.  Here the programs of the daemon run on such a host, through
its system calls, and end as these functions say.

## Main definitions

* `Answers`: how a host answers the calls of a recovery.

## Main results

* `refines_discoverRecoveryProcesses`, `refines_recoverStaleProcess`.
-/

namespace CyreneKernel.Sandboxd

open Lib Lib.Program
open Journal (RuntimeProcessEvidence)
open Sandbox (Host OsError cgroupError)

/-- How the groups of a host look in its files: the directory of all groups, the order in which it
is read, and the text of `cgroup.procs`. -/
structure GroupFiles where
  root : String
  order : List String → List String
  text : List Nat → String
  perm : ∀ names, (order names).Perm names
  parse : ∀ pids, (∀ pid ∈ pids, pid < 2 ^ 32) →
    (splitWhitespace (text pids)).mapM (fun pid => parseNat (2 ^ 32) pid.toList) = some pids
  blank : ∀ pids, trim (text pids) = "" ↔ pids = []

/-- The answers to a daemon that was just restarted, so that it has no children yet.  Other files
may have any contents, and the clock may stand anywhere. -/
def Answers (files : GroupFiles) :
    (question : HostCall) → Host → question.Answer → Host → Prop
  | .readDir path, host, answer, host' => host' = host ∧ (path = files.root →
      answer = .ok ((files.order host.groups.toList).map fun name =>
        .ok ⟨some name, join files.root name, .ok true⟩))
  | .readToString path, host, answer, host' => host' = host ∧
      ∀ name, path = join (join files.root name) "cgroup.procs" →
        answer = if name ∈ host.groups then .ok (files.text (host.members name))
          else .error ⟨some 2, "No such file or directory"⟩
  | .procStartTime pid, host, answer, host' => host' = host ∧ answer = host.procStartTime pid
  | .write path _, host, answer, host' =>
      ∀ name, path = join (join files.root name) "cgroup.kill" →
        answer = .ok () ∧ host' = host.killCgroup name
  | .removeDir path, host, _, host' => ∀ name, path = join files.root name →
      host' = if host.removable name then { host with groups := host.groups.erase name } else host
  | .getChild _, host, answer, host' => host' = host ∧ answer = none
  | _, host, _, host' => host' = host

/-- A run of a program on a host ends as `post` says; nothing is asked of its calls. -/
abbrev RunsTo {α : Type} (files : GroupFiles) (p : HostProgram α) (host : Host)
    (post : α → Host → Prop) : Prop :=
  Safe (Answers files) (fun _ _ => True) p host post

theorem runsTo_fromResult {α : Type} {files : GroupFiles} {host : Host}
    {result : Except ProviderError α} {post : Except ProviderError α → Host → Prop} :
    RunsTo files (fromResult result).run host post ↔ post result host := Iff.rfl

/-- A run ends with the outcome and the host of a function, up to what is reported. -/
def Refines {α β : Type} (agrees : α → β → Prop) (m : EStateM ProviderError Host β) (host : Host)
    (result : Except ProviderError α) (host' : Host) : Prop :=
  Ensures m host (fun b after => ∃ a, result = .ok a ∧ agrees a b ∧ host' = after)
    fun error after => result = .error error ∧ host' = after

variable {files : GroupFiles} {host : Host} {name : String} {evidence : RuntimeProcessEvidence}

/-! ### Reading -/

/-- A program that leaves the host as it is, with its only result. -/
def Reads {α : Type} (files : GroupFiles) (p : Fallible α) (host : Host)
    (result : Except ProviderError α) : Prop :=
  RunsTo files p.run host fun result' host' => host' = host ∧ result' = result

theorem Reads.bind {α β : Type} {p : Fallible α} {f : α → Fallible β}
    {x : Except ProviderError α} {y : α → Except ProviderError β} (hp : Reads files p host x)
    (hf : ∀ a, Reads files (f a) host (y a)) : Reads files (p >>= f) host (x >>= y) := by
  refine safe_run_bind.2 (hp.mono ?_)
  rintro x host ⟨rfl, rfl⟩
  cases x with
  | ok a => exact hf a
  | error e => exact ⟨rfl, rfl⟩

section Discovery

variable (hpids : ∀ pid ∈ host.processes, pid < 2 ^ 32)
include hpids

theorem reads_recoveryProcessIds :
    Reads files (recoveryProcessIds (join files.root name)) host
      (if name ∈ host.groups then .ok (host.members name)
        else .error (cgroupError "RECOVERY_DISCOVERY_FAILED" "No such file or directory")) := by
  have hparse := files.parse (host.members name) fun pid hpid => by
    obtain ⟨process, hprocess, -⟩ := Sandbox.mem_members.1 hpid
    exact hpids pid (Std.ExtTreeMap.mem_iff_isSome_getElem?.2 (by rw [hprocess]; rfl))
  have hread : Reads files
      (attempt (call (.readToString (join (join files.root name) "cgroup.procs")))
      fun error => cgroupError "RECOVERY_DISCOVERY_FAILED" error.text) host
      (if name ∈ host.groups then .ok (files.text (host.members name))
        else .error (cgroupError "RECOVERY_DISCOVERY_FAILED" "No such file or directory")) := by
    refine ⟨trivial, ?_⟩
    rintro answer host ⟨rfl, hanswer⟩
    rw [hanswer name rfl]
    split <;> exact ⟨rfl, rfl⟩
  refine safe_run_bind.2 (hread.mono ?_)
  rintro _ host ⟨rfl, rfl⟩
  by_cases hname : name ∈ host.groups
  · simp only [if_pos hname, hparse]
    exact ⟨rfl, rfl⟩
  · simp only [if_neg hname, and_self]

omit hpids in
theorem reads_recoveryEvidence (pids : List Nat) :
    Reads files (recoveryEvidence name pids) host
      ((pids.map fun pid => (name, pid)).mapM host.evidence) := by
  induction pids with
  | nil => exact ⟨rfl, rfl⟩
  | cons pid rest ih =>
    refine ⟨trivial, ?_⟩
    rintro answer host ⟨rfl, rfl⟩
    rw [List.map_cons, List.mapM_cons, Host.evidence]
    cases hstart : host.procStartTime pid with
    | none => exact ⟨rfl, rfl⟩
    | some startTimeTicks => exact ih.bind fun _ => ⟨rfl, rfl⟩

theorem reads_discoverEntries (names : List String) (hnames : ∀ name ∈ names, name ∈ host.groups) :
    Reads files
      (discoverEntries (names.map fun name => .ok ⟨some name, join files.root name, .ok true⟩)) host
      ((names.flatMap fun name => (host.members name).map fun pid => (name, pid)).mapM
        host.evidence) := by
  induction names with
  | nil => exact ⟨rfl, rfl⟩
  | cons name rest ih =>
    obtain ⟨hname, hrest⟩ := List.forall_mem_cons.1 hnames
    have hids : Reads files (recoveryProcessIds (join files.root name)) host _ :=
      reads_recoveryProcessIds hpids
    rw [if_pos hname] at hids
    rw [List.flatMap_cons, List.mapM_append]
    refine Reads.bind (p := discoverEntry _) ?_ fun processes => (ih hrest).bind fun _ => ⟨rfl, rfl⟩
    exact hids.bind reads_recoveryEvidence

/-- The daemon discovers the members of all groups of the host. -/
theorem refines_discoverRecoveryProcesses {config : CgroupV2Config}
    (hroot : config.root = files.root) :
    RunsTo files (discoverRecoveryProcesses config).run host
      (Refines Eq (Sandbox.discoverRecoveryProcesses files.order) host) := by
  refine safe_run_bind.2 ⟨trivial, ?_⟩
  rintro answer host ⟨rfl, hanswer⟩
  rw [hanswer hroot]
  refine (reads_discoverEntries hpids _ fun name hname => ?_).mono ?_
  · exact Std.ExtTreeSet.mem_toList.1 ((files.perm _).mem_iff.1 hname)
  · rintro _ host ⟨rfl, rfl⟩
    simp only [Refines, Sandbox.discoverRecoveryProcesses, ensures_bind, ensures_get,
      ensures_liftExcept, id, and_true]
    exact ⟨fun error herror => herror, fun processes hok => ⟨processes, hok, rfl⟩⟩

end Discovery

/-! ### Cleaning up -/

theorem runsTo_readOomKillCount (path : String) :
    RunsTo files (readOomKillCount path) host fun _ host' => host' = host := by
  refine ⟨trivial, ?_⟩
  rintro answer host ⟨rfl, -⟩
  rfl

/-- A group is waited for until the time is up, unless it is empty at once. -/
theorem runsTo_pollUntilEmpty (hname : name ∈ host.groups) (n : Nat) :
    RunsTo files (pollUntilEmpty (join files.root name) n) host fun empty host' =>
      host' = host ∧ empty = (decide (0 < n) && (host.members name).isEmpty) := by
  induction n with
  | zero => exact ⟨rfl, rfl⟩
  | succ n ih =>
    refine ⟨trivial, ?_⟩
    rintro answer host ⟨rfl, hanswer⟩
    rw [hanswer name rfl, if_pos hname, decide_eq_true n.succ_pos, Bool.true_and]
    have hread : ((Except.ok (files.text (host.members name)) : Except OsError String).toOption.map
        trim).any (· = "") = (host.members name).isEmpty := by
      rw [Bool.eq_iff_iff, List.isEmpty_iff, ← files.blank]
      simp [Except.toOption]
    change RunsTo files (if ((Except.ok _ : Except OsError String).toOption.map trim).any _ then _
      else _) host _
    rw [hread]
    cases hmembers : (host.members name).isEmpty with
    | true => exact ⟨rfl, rfl⟩
    | false =>
      rw [hmembers, Bool.and_false] at ih
      refine ⟨trivial, ?_⟩
      rintro (_ | _) host rfl
      · exact ih
      · exact ⟨rfl, rfl⟩

theorem reads_evidenceHolds (hpids : ∀ pid ∈ host.processes, pid < 2 ^ 32) :
    Reads files (evidenceHolds (join files.root name) evidence) host
      (if name ∈ host.groups then .ok (decide (evidence.pid ∈ host.members name ∧
          host.procStartTime evidence.pid = some evidence.startTimeTicks))
        else .error (cgroupError "RECOVERY_DISCOVERY_FAILED" "No such file or directory")) := by
  refine safe_run_bind.2 ((reads_recoveryProcessIds hpids).mono ?_)
  rintro _ host ⟨rfl, rfl⟩
  by_cases hname : name ∈ host.groups
  · simp only [if_pos hname]
    by_cases hpid : evidence.pid ∈ host.members name
    · simp only [hpid, true_and]
      refine ⟨trivial, ?_⟩
      rintro answer host ⟨rfl, rfl⟩
      exact ⟨rfl, rfl⟩
    · simp only [hpid, false_and]
      exact ⟨rfl, rfl⟩
  · simp only [if_neg hname, and_self]

/-- The group of a process whose evidence holds is killed. -/
theorem ensures_recoverStaleProcess (h : host.Leads evidence)
    {Q : CyreneKernel.CleanupReport → Host → Prop} {E : ProviderError → Host → Prop} :
    Ensures (Sandbox.recoverStaleProcess evidence) host Q E ↔
      if ((host.killCgroup evidence.cgroupName).members evidence.cgroupName).isEmpty then
        Q ⟨true, "RECOVERY_CLEANUP_COMPLETE"⟩ (host.cleared evidence.cgroupName)
      else Q ⟨false, "RECOVERY_CLEANUP_INCOMPLETE"⟩ (host.killCgroup evidence.cgroupName) := by
  obtain ⟨howned, hname, hpid, hstart⟩ := h
  unfold Sandbox.recoverStaleProcess Host.cleared
  split
  · next hempty =>
    have hgroups : (host.killCgroup evidence.cgroupName).groups = host.groups := rfl
    simp [howned, hname, hpid, hstart, List.isEmpty_iff.1 hempty, hgroups]
  · next hempty => simp [howned, hname, hpid, hstart, mt List.isEmpty_iff.2 hempty]

/-- The daemon kills the group of a process whose evidence holds, waits for it to be empty, and
removes it. -/
theorem refines_recoverStaleProcess {config : CgroupV2Config} (hroot : config.root = files.root)
    (hmode : config.devMode = false) (hpids : ∀ pid ∈ host.processes, pid < 2 ^ 32) :
    RunsTo files (recoverStaleProcess config evidence).run host
      (Refines (fun report cleanup => report.complete = cleanup.complete ∧
        report.reasonCode = cleanup.reasonCode) (Sandbox.recoverStaleProcess evidence) host) := by
  refine safe_run_bind.2 (runsTo_fromResult.2 ?_)
  by_cases howned : Sandbox.isOwnedInstanceName evidence.cgroupName = true
  case neg => simp [cgroupPath, howned, Refines, Sandbox.recoverStaleProcess]
  simp only [cgroupPath, if_pos howned, hroot]
  refine safe_run_bind.2 ((reads_evidenceHolds hpids).mono ?_)
  rintro _ host ⟨rfl, rfl⟩
  by_cases hname : evidence.cgroupName ∈ host.groups
  case neg => simp [hname, howned, Refines, Sandbox.recoverStaleProcess]
  simp only [if_pos hname]
  refine safe_run_bind.2 (runsTo_fromResult.2 ?_)
  by_cases hholds : evidence.pid ∈ host.members evidence.cgroupName ∧
    host.procStartTime evidence.pid = some evidence.startTimeTicks
  case neg =>
    simp only [decide_eq_false hholds, failIf, if_true]
    simpa [hname, howned, Refines, Sandbox.recoverStaleProcess] using hholds
  simp only [decide_eq_true hholds, failIf, Bool.true_eq_false, if_false]
  refine safe_run_bind.2 (safe_run_lift.2 ((runsTo_readOomKillCount _).mono ?_))
  rintro beforeOom host rfl
  simp only [killCgroup, isSynthetic, hmode]
  -- the group is killed, and the daemon has no child that it could wait for
  refine safe_run_bind.2 ⟨trivial, fun answer killed hkill => ?_⟩
  obtain ⟨rfl, rfl⟩ := hkill _ rfl
  refine safe_run_bind.2 ⟨trivial, ?_⟩
  rintro tracked killed ⟨rfl, rfl⟩
  simp only [pure_bind]
  refine safe_run_bind.2 (safe_run_lift.2 ((runsTo_pollUntilEmpty (by exact hname) _).mono ?_))
  rintro complete killed ⟨rfl, rfl⟩
  refine safe_run_bind.2 (safe_run_lift.2 ((runsTo_readOomKillCount _).mono ?_))
  rintro afterOom killed rfl
  rw [decide_eq_true (by decide : 0 < polls 10000), Bool.true_and]
  cases hempty : ((host.killCgroup evidence.cgroupName).members evidence.cgroupName).isEmpty with
  | true =>
    refine ⟨trivial, fun answer host' hremove => ?_⟩
    rw [hremove _ rfl]
    refine (ensures_recoverStaleProcess ⟨howned, hname, hholds⟩).2 ?_
    rw [if_pos hempty]
    exact ⟨_, rfl, ⟨rfl, rfl⟩, rfl⟩
  | false =>
    refine (ensures_recoverStaleProcess ⟨howned, hname, hholds⟩).2 ?_
    rw [if_neg (Bool.eq_false_iff.1 hempty)]
    exact ⟨_, rfl, ⟨rfl, rfl⟩, rfl⟩

end CyreneKernel.Sandboxd
