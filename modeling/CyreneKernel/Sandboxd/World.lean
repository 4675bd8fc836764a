import CyreneKernel.Sandboxd.Protocol
import Mathlib.Logic.Function.Basic

/-!
# The host of the sandbox daemon

What the calls of the daemon do on its host, as far as its children and their control groups are
concerned.  The rest of the host moves on between two calls.  Of the operating system this file
assumes that

* only the daemon reaps its children, and the pid of a child that was not reaped is not given to
  another process;
* a file `cgroup.procs` that can be read lists the members of its group;
* no other process is added to an instance group of the daemon that is empty.

Any call may fail, and the members of a group may change in any other way.

## Main results

* `HostStep.sameChildren`: routine calls leave the children alone.
-/

namespace CyreneKernel.Sandboxd

open Lib Lib.Program
open Sandbox (OsError isOwnedInstanceName)

/-- The host: the table of the daemon, its children that were not reaped with the times at which
they started, the file to which the daemon wrote a pid last, those children that it launched with
the file that this was when they were entered into the table, the processes with their start times,
and the processes that a file `cgroup.procs` lists. -/
structure World where
  table : BTreeMap Nat TrackedChild
  unreaped : Nat → Option Nat
  placed : Nat → Option String
  launched : Nat → Option String
  startTime : Nat → Option Nat
  members : String → List Nat

namespace World

/-- A child was forked. -/
def forked (w : World) (pid start : Nat) : World :=
  { w with
    unreaped := Function.update w.unreaped pid (some start)
    startTime := Function.update w.startTime pid (some start) }

/-- A child was reaped. -/
def reaped (w : World) (pid : Nat) : World :=
  { w with
    unreaped := Function.update w.unreaped pid none
    launched := Function.update w.launched pid none }

/-- A child was entered into the table. -/
def inserted (w : World) (pid : Nat) (child : TrackedChild) : World :=
  { w with
    table := w.table.insert pid child
    launched := Function.update w.launched pid (w.placed pid) }

/-- Something was written to a file; the members of the groups are what they are then. -/
def wrote (w : World) (path contents : String) (members : String → List Nat) : World :=
  { w with
    placed := fun pid => if contents = toString pid then some path else w.placed pid
    members := members }

/-- A child was taken from the table. -/
def removed (w : World) (pid : Nat) : World := { w with table := w.table.erase pid }

variable (w : World) (pid pid' : Nat)

theorem unreaped_forked (start : Nat) : (w.forked pid start).unreaped pid' =
    if pid' = pid then some start else w.unreaped pid' :=
  Function.update_apply ..

theorem startTime_forked (start : Nat) : (w.forked pid start).startTime pid' =
    if pid' = pid then some start else w.startTime pid' :=
  Function.update_apply ..

theorem unreaped_reaped : (w.reaped pid).unreaped pid' =
    if pid' = pid then none else w.unreaped pid' :=
  Function.update_apply ..

theorem launched_reaped : (w.reaped pid).launched pid' =
    if pid' = pid then none else w.launched pid' :=
  Function.update_apply ..

theorem launched_inserted (child : TrackedChild) : (w.inserted pid child).launched pid' =
    if pid' = pid then w.placed pid else w.launched pid' :=
  Function.update_apply ..

end World

/-- What a wait for a child does. -/
def WaitEffect (pid : Nat) (w : World) : WaitResult → World → Prop
  | .reaped _, w' => w.unreaped pid ≠ none ∧ w' = w.reaped pid
  | .running, w' => w' = w
  | .failed, w' => w' = w

/-- What a call does. -/
def Effect (question : HostCall) (w : World) : question.Answer → World → Prop :=
  match question with
  | .readToString path => fun answer w' => w' = w ∧ ∀ contents, answer = .ok contents →
      ∀ cgroup, path = join cgroup "cgroup.procs" → (trim contents = "" ↔ w.members path = [])
  | .write path contents => fun _ w' => ∃ members, w' = w.wrote path contents members
  | .fork _ => fun answer w' =>
    match answer with
    | .ok pid => w.unreaped pid = none ∧ 1 < pid ∧ pid < 2 ^ 31 ∧ ∃ start, w' = w.forked pid start
    | .error _ => w' = w
  | .waitPid pid => WaitEffect pid w
  | .tryWaitPid pid => WaitEffect pid w
  | .getChild pid => fun answer w' => answer = w.table[pid]? ∧ w' = w
  | .removeChild pid => fun answer w' => answer = w.table[pid]? ∧ w' = w.removed pid
  | .insertChild pid child => fun _ w' => w' = w.inserted pid child
  | _ => fun _ w' => w' = w

/-- The file that lists the members of an instance group. -/
def IsInstanceProcs (config : CgroupV2Config) (path : String) : Prop :=
  ∃ name, isOwnedInstanceName name = true ∧ path = join (join config.root name) "cgroup.procs"

/-- What the rest of the host may do between two calls. -/
structure Moves (config : CgroupV2Config) (w w' : World) : Prop where
  table : w'.table = w.table
  unreaped : w'.unreaped = w.unreaped
  placed : w'.placed = w.placed
  launched : w'.launched = w.launched
  held : ∀ pid start, w.unreaped pid = some start → w.startTime pid = some start →
    w'.startTime pid = some start
  empty : ∀ path, IsInstanceProcs config path → w.members path = [] → w'.members path = []

/-- An answer of a host on which a wait for a child does not fail, and the members of a group can be
read while there are any. -/
def Reliable (question : HostCall) (w : World) : question.Answer → Prop :=
  match question with
  | .readToString path => fun answer => ∀ cgroup, path = join cgroup "cgroup.procs" →
      w.members path ≠ [] → ∃ contents, answer = .ok contents
  | .waitPid pid => fun answer => w.unreaped pid ≠ none → ∃ status, answer = .reaped status
  | .tryWaitPid pid => fun answer => w.unreaped pid ≠ none → answer ≠ .failed
  | _ => fun _ => True

/-- A call, and what happens until the next one; `trust` says whether the host is reliable. -/
def HostStep (config : CgroupV2Config) (trust : Bool) (question : HostCall) (w : World)
    (answer : question.Answer) (w' : World) : Prop :=
  (trust = true → Reliable question w answer) ∧
    ∃ w'', Effect question w answer w'' ∧ Moves config w'' w'

/-- The daemon serves requests one after the other. -/
inductive Serves (config : CgroupV2Config) (trust : Bool) (adapterId : String) :
    World → List SandboxRequest → World → Prop
  | nil (w : World) : Serves config trust adapterId w [] w
  | snoc {w w' w'' : World} {requests : List SandboxRequest} {request : SandboxRequest}
      {response : SandboxResponse} {log : List (Exchange HostCall HostCall.Answer)}
      (hserves : Serves config trust adapterId w requests w')
      (hruns : Runs (HostStep config trust) (handleRequest config adapterId request) w' log response
        w'') :
      Serves config trust adapterId w (requests ++ [request]) w''

/-- A host on which the daemon was just started. -/
structure World.Fresh (w : World) : Prop where
  table : w.table = ∅
  unreaped : ∀ pid, w.unreaped pid = none
  launched : ∀ pid, w.launched pid = none

/-! ### Routine calls -/

/-- A control group that the daemon makes: the one of an instance, or that of a probe. -/
def OwnGroup (config : CgroupV2Config) (path : String) : Prop :=
  (∃ name, isOwnedInstanceName name = true ∧ path = join config.root name) ∨
    (config.deviceBpfEnabled = true ∧
      ∃ processId sequence, path = join config.root (probeName processId sequence))

/-- The files of a control group that the daemon writes. -/
def controlFiles : List String :=
  ["cpu.max", "memory.max", "cpuset.cpus", "cgroup.procs", "cgroup.kill"]

/-- Calls that leave the children of the daemon alone.  The strict ones send no signal, and change
only groups that the daemon makes. -/
def Routine (config : CgroupV2Config) (strict : Bool) : HostCall → Prop
  | .write path _ => strict = true → ∃ name, isOwnedInstanceName name = true ∧
      ∃ file ∈ controlFiles, path = join (join config.root name) file
  | .createDir path | .removeDir path | .removeDirAll path => strict = true → OwnGroup config path
  | .attachProgram path | .detachProgram path => strict = true → OwnGroup config path
  | .signal _ _ => strict = false
  | .fork _ | .waitPid _ | .tryWaitPid _ | .removeChild _ | .insertChild _ _ => False
  | _ => True

/-- The children of the daemon are the same. -/
structure SameChildren (w w' : World) : Prop where
  table : w'.table = w.table
  unreaped : w'.unreaped = w.unreaped
  launched : w'.launched = w.launched
  held : ∀ pid start, w.unreaped pid = some start → w.startTime pid = some start →
    w'.startTime pid = some start

variable {config : CgroupV2Config} {strict trust : Bool} {w w' w'' : World}

theorem SameChildren.refl (w : World) : SameChildren w w := ⟨rfl, rfl, rfl, fun _ _ _ h => h⟩

theorem SameChildren.trans (h : SameChildren w w') (h' : SameChildren w' w'') :
    SameChildren w w'' where
  table := h'.table.trans h.table
  unreaped := h'.unreaped.trans h.unreaped
  launched := h'.launched.trans h.launched
  held := fun pid start hchild hstart =>
    h'.held pid start (h.unreaped ▸ hchild) (h.held pid start hchild hstart)

/-- What is known of the children that were not reaped. -/
theorem SameChildren.of_unreaped (h : SameChildren w w') {known : Nat → Prop}
    (hknown : ∀ pid start, w.unreaped pid = some start → w.startTime pid = some start ∧ known pid)
    (pid start : Nat) (hchild : w'.unreaped pid = some start) :
    w'.startTime pid = some start ∧ known pid := by
  rw [h.unreaped] at hchild
  obtain ⟨hstart, hpid⟩ := hknown pid start hchild
  exact ⟨h.held pid start hchild hstart, hpid⟩

theorem Moves.sameChildren (h : Moves config w w') : SameChildren w w' :=
  ⟨h.table, h.unreaped, h.launched, h.held⟩

theorem Moves.refl (config : CgroupV2Config) (w : World) : Moves config w w :=
  ⟨rfl, rfl, rfl, rfl, fun _ _ _ h => h, fun _ _ h => h⟩

variable {question : HostCall} {answer : question.Answer}

/-- Routine calls leave the children alone. -/
theorem Effect.sameChildren (hroutine : Routine config strict question)
    (h : Effect question w answer w') : SameChildren w w' := by
  cases question with
  | readToString path =>
    obtain ⟨rfl, -⟩ := h
    exact .refl _
  | write path contents =>
    obtain ⟨members, rfl⟩ := h
    exact ⟨rfl, rfl, rfl, fun _ _ _ h => h⟩
  | getChild pid =>
    obtain ⟨-, rfl⟩ := h
    exact .refl _
  | fork _ | waitPid _ | tryWaitPid _ | removeChild _ | insertChild _ _ => exact hroutine.elim
  | _ =>
    obtain rfl : w' = w := h
    exact .refl _

theorem HostStep.sameChildren (hroutine : Routine config strict question)
    (h : HostStep config trust question w answer w') : SameChildren w w' := by
  obtain ⟨-, w'', heffect, hmoves⟩ := h
  exact (heffect.sameChildren hroutine).trans hmoves.sameChildren

/-- Only writes change the members of a group. -/
theorem Effect.members (hquestion : ∀ path contents, question ≠ .write path contents)
    (h : Effect question w answer w') : w'.members = w.members := by
  have hwait {pid : Nat} {answer : WaitResult} (h : WaitEffect pid w answer w') :
      w'.members = w.members := by
    cases answer with
    | reaped status =>
      obtain ⟨-, rfl⟩ := h
      rfl
    | running | failed =>
      obtain rfl : w' = w := h
      rfl
  cases question with
  | write path contents => exact absurd rfl (hquestion path contents)
  | readToString path =>
    obtain ⟨rfl, -⟩ := h
    rfl
  | getChild pid | removeChild pid =>
    obtain ⟨-, rfl⟩ := h
    rfl
  | waitPid pid => exact hwait h
  | tryWaitPid pid => exact hwait h
  | fork request =>
    cases answer with
    | error error =>
      obtain rfl : w' = w := h
      rfl
    | ok pid =>
      obtain ⟨-, -, -, start, rfl⟩ := h
      rfl
  | insertChild pid child =>
    obtain rfl : w' = w.inserted pid child := h
    rfl
  | _ =>
    obtain rfl : w' = w := h
    rfl

/-- An instance group that is empty stays so, unless something is written. -/
theorem HostStep.members_eq_nil {path : String} (h : HostStep config trust question w answer w')
    (hquestion : ∀ path contents, question ≠ .write path contents)
    (hpath : IsInstanceProcs config path) (hempty : w.members path = []) :
    w'.members path = [] := by
  obtain ⟨-, w'', heffect, hmoves⟩ := h
  exact hmoves.empty path hpath (by rw [heffect.members hquestion, hempty])

/-! ### Calls on the children -/

/-- The children of the daemon and its table agree.  A child that it launched is in the table until
it is reaped, provided that waits do not fail; and `known` is known of it with its file. -/
structure World.Sound (trust : Bool) (known : Nat → String → Prop) (w : World) : Prop where
  held : ∀ pid start, w.unreaped pid = some start →
    w.startTime pid = some start ∧ 1 < pid ∧ pid < 2 ^ 31
  tracked : ∀ pid ∈ w.table, w.unreaped pid ≠ none
  launched : trust = true → ∀ pid, w.launched pid ≠ none → pid ∈ w.table
  groups : ∀ pid path, w.launched pid = some path → known pid path

namespace World.Sound

variable {known : Nat → String → Prop}

theorem fresh (h : w.Fresh) : w.Sound trust known where
  held := fun pid start hchild => by
    rw [h.unreaped pid] at hchild
    cases hchild
  tracked := fun pid hpid => by
    rw [h.table] at hpid
    exact absurd hpid Std.ExtTreeMap.not_mem_empty
  launched := fun _ pid hpid => absurd (h.launched pid) hpid
  groups := fun pid path hpid => by
    rw [h.launched pid] at hpid
    cases hpid

theorem sameChildren (h : w.Sound trust known) (hsame : SameChildren w w') :
    w'.Sound trust known where
  held := hsame.of_unreaped h.held
  tracked := hsame.table ▸ hsame.unreaped ▸ h.tracked
  launched := hsame.table ▸ hsame.launched ▸ h.launched
  groups := hsame.launched ▸ h.groups

end World.Sound

end CyreneKernel.Sandboxd
