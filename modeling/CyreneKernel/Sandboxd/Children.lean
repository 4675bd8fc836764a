import CyreneKernel.Sandboxd.Routine

/-!
# The children of the daemon

A child is forked, entered into the table of the daemon, and taken from it when it is reaped.  This
file follows a child through the calls that do so.

## Main definitions

* `Confined`: the calls that stay within the groups and the children of the daemon.
* `Detached`, `Exited`: a child that is about to be reaped, or was just reaped.
* `Forked`: a child that was not entered into the table yet.

## Main results

* `safe_waitChild`, `safe_signalPid`, `safe_launch`: what the programs do with the children, and
  that they are confined.
-/

namespace CyreneKernel.Sandboxd

open Lib Lib.Program
open Sandbox (OsError isOwnedInstanceName)

/-- A process that is a child of the daemon, with the start time that it had when it was forked. -/
def World.IsChild (w : World) (pid : Nat) : Prop :=
  ∃ start, w.unreaped pid = some start ∧ w.startTime pid = some start

/-- A call on a group that the daemon makes, or a signal to one of its children. -/
def Confined (config : CgroupV2Config) (w : World) : HostCall → Prop
  | .write path _ => ∃ name, isOwnedInstanceName name = true ∧
      ∃ file ∈ controlFiles, path = join (join config.root name) file
  | .createDir path | .removeDir path | .removeDirAll path => OwnGroup config path
  | .attachProgram path | .detachProgram path => OwnGroup config path
  | .signal target _ => ∃ pid : Nat, (target = pid ∨ target = -pid) ∧ 1 < pid ∧ w.IsChild pid
  | _ => True

/-- A child that was taken from the table and not yet reaped. -/
structure Detached (trust : Bool) (known : Nat → String → Prop) (pid : Nat) (w : World) : Prop where
  held : ∀ pid start, w.unreaped pid = some start →
    w.startTime pid = some start ∧ 1 < pid ∧ pid < 2 ^ 31
  tracked : ∀ pid ∈ w.table, w.unreaped pid ≠ none
  launched : trust = true → ∀ pid', pid' ≠ pid → w.launched pid' ≠ none → pid' ∈ w.table
  groups : ∀ pid path, w.launched pid = some path → known pid path
  notMem : pid ∉ w.table
  child : w.unreaped pid ≠ none

/-- A child that was reaped, or whose wait failed, and is still in the table. -/
structure Exited (trust : Bool) (known : Nat → String → Prop) (pid : Nat) (w : World) : Prop where
  held : ∀ pid start, w.unreaped pid = some start →
    w.startTime pid = some start ∧ 1 < pid ∧ pid < 2 ^ 31
  tracked : ∀ pid' ∈ w.table, pid' ≠ pid → w.unreaped pid' ≠ none
  launched : trust = true → ∀ pid', w.launched pid' ≠ none → pid' ∈ w.table
  groups : ∀ pid path, w.launched pid = some path → known pid path
  exited : trust = true → w.launched pid = none

variable {config : CgroupV2Config} {strict trust : Bool} {known : Nat → String → Prop}
  {w w' : World} {pid : Nat} {α : Type}

/-! ### Changes of the table -/

variable {table : BTreeMap Nat TrackedChild} {inv : World → Prop}

theorem mem_erase {pid' : Nat} : pid' ∈ table.erase pid ↔ pid' ≠ pid ∧ pid' ∈ table := by
  rw [Std.ExtTreeMap.mem_erase, Ne, Std.compare_eq_iff_eq, eq_comm]

theorem mem_insert {pid' : Nat} {child : TrackedChild} :
    pid' ∈ table.insert pid child ↔ pid' = pid ∨ pid' ∈ table := by
  rw [Std.ExtTreeMap.mem_insert, Std.compare_eq_iff_eq, eq_comm]

theorem World.Sound.removed (h : w.Sound trust known) (hpid : pid ∈ w.table) :
    Detached trust known pid (w.removed pid) where
  held := h.held
  tracked := fun pid' hpid' => h.tracked pid' (mem_erase.1 hpid').2
  launched := fun htrust pid' hne hlaunched =>
    mem_erase.2 ⟨hne, h.launched htrust pid' hlaunched⟩
  groups := h.groups
  notMem := fun hmem => (mem_erase.1 hmem).1 rfl
  child := h.tracked pid hpid

theorem World.Sound.removed_of_notMem (h : w.Sound trust known) (hpid : pid ∉ w.table) :
    (w.removed pid).Sound trust known where
  held := h.held
  tracked := fun pid' hpid' => h.tracked pid' (mem_erase.1 hpid').2
  launched := fun htrust pid' hlaunched => by
    have hmem := h.launched htrust pid' hlaunched
    exact mem_erase.2 ⟨fun heq => hpid (heq ▸ hmem), hmem⟩
  groups := h.groups

theorem World.Sound.detached (h : w.Sound trust known) (hpid : pid ∉ w.table)
    (hchild : w.unreaped pid ≠ none) : Detached trust known pid w where
  held := h.held
  tracked := h.tracked
  launched := fun htrust pid' _ => h.launched htrust pid'
  groups := h.groups
  notMem := hpid
  child := hchild

theorem World.unreaped_of_reaped {pid' start : Nat}
    (h : (w.reaped pid).unreaped pid' = some start) : w.unreaped pid' = some start := by
  rw [World.unreaped_reaped] at h
  split_ifs at h
  exact h

theorem World.launched_of_reaped {pid' : Nat} (h : (w.reaped pid).launched pid' ≠ none) :
    pid' ≠ pid ∧ w.launched pid' ≠ none := by
  rw [World.launched_reaped] at h
  split_ifs at h with hne
  · exact absurd rfl h
  · exact ⟨hne, h⟩

theorem groups_reaped (h : ∀ pid path, w.launched pid = some path → known pid path)
    (pid' : Nat) (path : String) (hlaunched : (w.reaped pid).launched pid' = some path) :
    known pid' path := by
  rw [World.launched_reaped] at hlaunched
  split_ifs at hlaunched
  exact h pid' path hlaunched

theorem World.Sound.reaped (h : w.Sound trust known) : Exited trust known pid (w.reaped pid) where
  held := fun pid' start hchild => h.held pid' start (World.unreaped_of_reaped hchild)
  tracked := fun pid' hpid' hne => by
    rw [World.unreaped_reaped, if_neg hne]
    exact h.tracked pid' hpid'
  launched := fun htrust pid' hlaunched =>
    h.launched htrust pid' (World.launched_of_reaped hlaunched).2
  groups := groups_reaped h.groups
  exited := fun _ => by rw [World.launched_reaped, if_pos rfl]

theorem World.Sound.exited (h : w.Sound trust known) (htrust : trust = false) :
    Exited trust known pid w where
  held := h.held
  tracked := fun pid' hpid' _ => h.tracked pid' hpid'
  launched := h.launched
  groups := h.groups
  exited := fun htrust' => by
    rw [htrust] at htrust'
    cases htrust'

theorem Exited.removed (h : Exited trust known pid w) : (w.removed pid).Sound trust known where
  held := h.held
  tracked := fun pid' hpid' => h.tracked pid' (mem_erase.1 hpid').2 (mem_erase.1 hpid').1
  launched := fun htrust pid' hlaunched => by
    refine mem_erase.2 ⟨?_, h.launched htrust pid' hlaunched⟩
    rintro rfl
    exact hlaunched (h.exited htrust)
  groups := h.groups

theorem Detached.reaped (h : Detached trust known pid w) : (w.reaped pid).Sound trust known where
  held := fun pid' start hchild => h.held pid' start (World.unreaped_of_reaped hchild)
  tracked := fun pid' hpid' => by
    have hne : pid' ≠ pid := fun heq => h.notMem (heq ▸ hpid')
    rw [World.unreaped_reaped, if_neg hne]
    exact h.tracked pid' hpid'
  launched := fun htrust pid' hlaunched =>
    have h' := World.launched_of_reaped hlaunched
    h.launched htrust pid' h'.1 h'.2
  groups := groups_reaped h.groups

theorem Detached.untrusted (h : Detached trust known pid w) (htrust : trust = false) :
    w.Sound trust known where
  held := h.held
  tracked := h.tracked
  launched := fun htrust' => by
    rw [htrust] at htrust'
    cases htrust'
  groups := h.groups

theorem Detached.inserted (h : Detached trust known pid w) (hown : ∀ path, known pid path)
    (child : TrackedChild) : (w.inserted pid child).Sound trust known where
  held := h.held
  tracked := fun pid' hpid' => by
    rcases mem_insert.1 hpid' with rfl | hpid'
    · exact h.child
    · exact h.tracked pid' hpid'
  launched := fun htrust pid' hlaunched => by
    by_cases heq : pid' = pid
    · exact mem_insert.2 (.inl heq)
    · rw [World.launched_inserted, if_neg heq] at hlaunched
      exact mem_insert.2 (.inr (h.launched htrust pid' heq hlaunched))
  groups := fun pid' path hlaunched => by
    rw [World.launched_inserted] at hlaunched
    split_ifs at hlaunched with heq
    · exact heq ▸ hown path
    · exact h.groups pid' path hlaunched

theorem World.Sound.forked (h : w.Sound trust known) (hfresh : w.unreaped pid = none)
    (hpos : 1 < pid) (hlt : pid < 2 ^ 31) (start : Nat) :
    (w.forked pid start).Sound trust known ∧ pid ∉ (w.forked pid start).table ∧
      (w.forked pid start).unreaped pid ≠ none := by
  have hpid : pid ∉ w.table := fun hmem => h.tracked pid hmem hfresh
  refine ⟨⟨fun pid' start' hchild => ?_, fun pid' hpid' => ?_, h.launched, h.groups⟩, hpid, ?_⟩
  · by_cases heq : pid' = pid
    · subst heq
      rw [World.unreaped_forked, if_pos rfl] at hchild
      rw [World.startTime_forked, if_pos rfl]
      exact ⟨hchild, hpos, hlt⟩
    · rw [World.unreaped_forked, if_neg heq] at hchild
      rw [World.startTime_forked, if_neg heq]
      exact h.held pid' start' hchild
  · have hne : pid' ≠ pid := fun heq => hpid (heq ▸ hpid')
    rw [World.unreaped_forked, if_neg hne]
    exact h.tracked pid' hpid'
  · rw [World.unreaped_forked, if_pos rfl]
    exact Option.some_ne_none _

/-! ### Waiting -/

theorem Detached.sameChildren (h : Detached trust known pid w) (hsame : SameChildren w w') :
    Detached trust known pid w' where
  held := hsame.of_unreaped h.held
  tracked := hsame.table ▸ hsame.unreaped ▸ h.tracked
  launched := hsame.table ▸ hsame.launched ▸ h.launched
  groups := hsame.launched ▸ h.groups
  notMem := hsame.table ▸ h.notMem
  child := hsame.unreaped ▸ h.child

theorem Exited.sameChildren (h : Exited trust known pid w) (hsame : SameChildren w w') :
    Exited trust known pid w' where
  held := hsame.of_unreaped h.held
  tracked := hsame.table ▸ hsame.unreaped ▸ h.tracked
  launched := hsame.table ▸ hsame.launched ▸ h.launched
  groups := hsame.launched ▸ h.groups
  exited := hsame.launched ▸ h.exited

theorem Routine.confined {question : HostCall} (h : Routine config strict question) (w : World)
    (hstrict : strict = true) : Confined config w question := by
  cases question with
  | write _ _ | createDir _ | removeDir _ | removeDirAll _ | attachProgram _ | detachProgram _ =>
    exact h hstrict
  | signal _ _ =>
    have hnot : strict = false := h
    rw [hstrict] at hnot
    cases hnot
  | _ => trivial

/-- What is known of the children holds as long as they stay the same. -/
abbrev Stable (inv : World → Prop) : Prop :=
  ∀ {w w'}, inv w → SameChildren w w' → inv w'

/-- The programs of the daemon, run on its host; strict programs are confined. -/
abbrev SafeOn (config : CgroupV2Config) (strict trust : Bool) (p : HostProgram α) (w : World)
    (post : α → World → Prop) : Prop :=
  Safe (HostStep config trust) (fun w question => strict = true → Confined config w question) p w
    post

/-- A routine program keeps what is known of the children. -/
theorem safe_of_asks {p : HostProgram α} {result : α → Prop}
    (h : Asks (Routine config strict) p result)
    (hstable : Stable inv) (hw : inv w) :
    SafeOn config strict trust p w fun a w' => result a ∧ inv w' :=
  h.safe (fun _ w hroutine _ => hroutine.confined w)
    (fun _ _ _ _ hroutine hinv hstep => hstable hinv (hstep.sameChildren hroutine)) hw

theorem safe_quiet {p : HostProgram α} (h : Quiet config strict p)
    (hstable : Stable inv) (hw : inv w) :
    SafeOn config strict trust p w fun _ w' => inv w' :=
  (safe_of_asks h hstable hw).mono fun _ _ h => h.2

theorem World.Sound.quiet (h : w.Sound trust known) {p : HostProgram α}
    (hp : Quiet config strict p) : SafeOn config strict trust p w fun _ w' =>
        w'.Sound trust known :=
  safe_quiet hp World.Sound.sameChildren h

theorem notMem_of_getElem? (h : none = table[pid]?) : pid ∉ table := by
  rw [Std.ExtTreeMap.mem_iff_isSome_getElem?, ← h]
  exact Bool.false_ne_true

theorem mem_of_getElem? {child : TrackedChild} (h : some child = table[pid]?) : pid ∈ table := by
  rw [Std.ExtTreeMap.mem_iff_isSome_getElem?, ← h]
  rfl

theorem safe_waitPid (h : Detached trust known pid w) :
    SafeOn config strict trust (waitPid pid) w fun _ w' => w'.Sound trust known := by
  refine safe_ask_bind.2 ⟨fun _ => trivial, fun answer w' hstep => ?_⟩
  obtain ⟨hreliable, w'', heffect, hmoves⟩ := hstep
  have huntrusted (hnot : ∀ status, answer ≠ .reaped status) : trust = false := by
    refine Bool.eq_false_iff.2 fun htrust => ?_
    obtain ⟨status, hstatus⟩ := hreliable htrust h.child
    exact hnot status hstatus
  cases answer with
  | reaped status =>
    obtain ⟨-, rfl⟩ := heffect
    exact h.reaped.sameChildren hmoves.sameChildren
  | running | failed =>
    obtain rfl : w'' = w := heffect
    exact (h.untrusted (huntrusted nofun)).sameChildren hmoves.sameChildren

theorem safe_insertChild (h : Detached trust known pid w) (hown : ∀ path, known pid path)
    (child : TrackedChild) :
    SafeOn config strict trust (call (.insertChild pid child)) w fun _ w' =>
      w'.Sound trust known := by
  refine ⟨fun _ => trivial, fun _ w' hstep => ?_⟩
  obtain ⟨-, _, rfl, hmoves⟩ := hstep
  exact (h.inserted hown child).sameChildren hmoves.sameChildren

theorem safe_waitChildWithPidfd (h : w.Sound trust known) (hown : ∀ path, known pid path)
    (timeoutMillis : Nat) :
    SafeOn config strict trust (waitChildWithPidfd pid timeoutMillis) w fun _ w' =>
      w'.Sound trust known := by
  refine safe_ask_bind.2 ⟨fun _ => trivial, fun answer w' hstep => ?_⟩
  obtain ⟨-, _, ⟨hanswer, rfl⟩, hmoves⟩ := hstep
  cases answer with
  | none =>
    exact (h.removed_of_notMem (notMem_of_getElem? hanswer)).sameChildren hmoves.sameChildren
  | some tracked =>
    have hdetached := (h.removed (mem_of_getElem? hanswer)).sameChildren hmoves.sameChildren
    change SafeOn config strict trust (if tracked.pidfd = true then _ else _) _ _
    split
    · refine (safe_quiet (quiet_call (by trivial)) Detached.sameChildren hdetached).bind
        fun ready w'' hready => ?_
      split
      · exact (safe_waitPid hready).bind fun _ _ hsound =>
          (hsound.quiet (quiet_stopTransport _)).bind fun _ _ hsound => hsound
      · exact (safe_insertChild hready hown tracked).bind fun _ _ hsound => hsound
    · exact (safe_insertChild hdetached hown tracked).bind fun _ _ hsound => hsound

theorem safe_observeChild (h : w.Sound trust known) :
    SafeOn config strict trust (observeChild pid) w fun result w' =>
      (result = none → w'.Sound trust known) ∧ (result ≠ none → Exited trust known pid w') := by
  refine safe_ask_bind.2 ⟨fun _ => trivial, fun answer w' hstep => ?_⟩
  obtain ⟨-, _, ⟨hanswer, rfl⟩, hmoves⟩ := hstep
  have hsound := h.sameChildren hmoves.sameChildren
  cases answer with
  | none => exact ⟨fun _ => hsound, fun hne => absurd rfl hne⟩
  | some tracked =>
    have hchild : w'.unreaped pid ≠ none := by
      rw [hmoves.unreaped]
      exact h.tracked pid (mem_of_getElem? hanswer)
    refine safe_ask_bind.2 ⟨fun _ => trivial, fun answer' w'' hstep' => ?_⟩
    obtain ⟨hreliable, _, heffect, hmoves'⟩ := hstep'
    cases answer' with
    | running =>
      obtain rfl := heffect
      exact ⟨fun _ => hsound.sameChildren hmoves'.sameChildren, fun hne => absurd rfl hne⟩
    | reaped status =>
      obtain ⟨-, rfl⟩ := heffect
      exact ⟨nofun, fun _ => hsound.reaped.sameChildren hmoves'.sameChildren⟩
    | failed =>
      obtain rfl := heffect
      have htrust : trust = false :=
        Bool.eq_false_iff.2 fun htrust => hreliable htrust hchild rfl
      exact ⟨nofun, fun _ => (hsound.exited htrust).sameChildren hmoves'.sameChildren⟩

theorem safe_pollChild (h : w.Sound trust known) (n : Nat) :
    SafeOn config strict trust (pollChild pid n) w fun _ w' => w'.Sound trust known := by
  induction n generalizing w with
  | zero => exact h
  | succ n ih =>
    refine (safe_observeChild h).bind fun result w' hresult => ?_
    cases result with
    | some status =>
      refine safe_ask_bind.2 ⟨fun _ => trivial, fun answer w'' hstep => ?_⟩
      obtain ⟨-, _, ⟨-, rfl⟩, hmoves⟩ := hstep
      have hsound := (hresult.2 nofun).removed.sameChildren hmoves.sameChildren
      exact (hsound.quiet (quiet_stopTransport _)).bind fun _ _ hsound => hsound
    | none =>
      refine (safe_quiet (quiet_call (by trivial)) World.Sound.sameChildren (hresult.1 rfl)).bind
        fun passed w'' hsound => ?_
      split
      · exact hsound
      · exact ih hsound

theorem safe_waitChild (h : w.Sound trust known) (hown : ∀ path, known pid path)
    (timeoutMillis : Nat) :
    SafeOn config strict trust (waitChild pid timeoutMillis) w fun _ w' =>
      w'.Sound trust known := by
  refine (safe_waitChildWithPidfd h hown timeoutMillis).bind fun result w' hsound => ?_
  cases result with
  | some result => exact hsound
  | none => exact safe_pollChild hsound _

/-! ### Signals -/

theorem processTarget_eq (hlt : pid < 2 ^ 31) : processTarget pid = pid := by
  rw [processTarget, BitVec.toInt_ofNat', Int.bmod_eq_of_le]
  · omega
  · omega

theorem groupTarget_eq (hpos : 0 < pid) (hlt : pid < 2 ^ 31) : groupTarget pid = -(pid : Int) := by
  have hne : BitVec.ofNat 32 pid ≠ BitVec.intMin 32 := fun heq => by
    have hnat := congrArg BitVec.toNat heq
    rw [BitVec.toNat_ofNat, BitVec.toNat_intMin] at hnat
    omega
  have hprocess : (BitVec.ofNat 32 pid).toInt = pid := processTarget_eq hlt
  rw [groupTarget, BitVec.toInt_neg_of_ne_intMin hne, hprocess]

theorem World.Sound.isChild (h : w.Sound trust known) (hchild : w.unreaped pid ≠ none) :
    w.IsChild pid ∧ 1 < pid ∧ pid < 2 ^ 31 := by
  obtain ⟨start, hstart⟩ := Option.ne_none_iff_exists'.1 hchild
  obtain ⟨htime, hbounds⟩ := h.held pid start hstart
  exact ⟨⟨start, hstart, htime⟩, hbounds⟩

theorem confined_processTarget (h : w.IsChild pid ∧ 1 < pid ∧ pid < 2 ^ 31) (signal : Signal) :
    Confined config w (.signal (processTarget pid) signal) :=
  ⟨pid, .inl (processTarget_eq h.2.2), h.2.1, h.1⟩

theorem confined_groupTarget (h : w.IsChild pid ∧ 1 < pid ∧ pid < 2 ^ 31) (signal : Signal) :
    Confined config w (.signal (groupTarget pid) signal) :=
  ⟨pid, .inr (groupTarget_eq (by omega) h.2.2), h.2.1, h.1⟩

theorem safe_signal {target : Int} {signal : Signal}
    (hstable : Stable inv)
    (hallowed : strict = true → Confined config w (.signal target signal)) (hw : inv w) :
    SafeOn config strict trust (call (.signal target signal)) w fun _ w' => inv w' := by
  refine ⟨hallowed, fun _ w' hstep => ?_⟩
  obtain ⟨-, _, rfl, hmoves⟩ := hstep
  exact hstable hw hmoves.sameChildren

/-- Signals leave what is known of the children; a strict program signals a child. -/
theorem safe_signalPid (hstable : Stable inv)
    (hchild : strict = true → ∀ {w}, inv w → w.IsChild pid ∧ 1 < pid ∧ pid < 2 ^ 31)
    (hw : inv w) (signal : Signal) : SafeOn config strict trust (signalPid pid signal) w
        fun _ w' => inv w' := by
  refine (safe_signal hstable (fun hstrict => ?_) hw).bind fun _ w' hw' =>
    safe_signal hstable (fun hstrict => ?_) hw'
  · exact confined_groupTarget (hchild hstrict hw) signal
  · exact confined_processTarget (hchild hstrict hw') signal

/-! ### Launches -/

/-- A routine program that may fail keeps what is known of the children. -/
theorem safe_run_of_asks {p : Fallible α} {result : α → Prop}
    (h : Asks (Routine config strict) p.run (Returns result))
    (hstable : Stable inv) (hw : inv w) :
    SafeOn config strict trust p.run w (Ends (fun a w' => result a ∧ inv w') inv) := by
  refine (safe_of_asks h hstable hw).mono fun outcome w' houtcome => ?_
  cases outcome with
  | ok a => exact houtcome
  | error e => exact houtcome.2

theorem safe_run_quiet {p : Fallible α} (h : QuietRun config strict p)
    (hstable : Stable inv) (hw : inv w) :
    SafeOn config strict trust p.run w (Ends (fun _ w' => inv w') inv) :=
  (safe_run_of_asks h hstable hw).run_mono (fun _ _ h => h.2) fun _ h => h

/-- The program leaves a sound world, whether or not it fails. -/
abbrev SoundOn (config : CgroupV2Config) (strict trust : Bool) (known : Nat → String → Prop)
    (p : Fallible α) (w : World) : Prop :=
  SafeOn config strict trust p.run w
    (Ends (fun _ w' => w'.Sound trust known) fun w' => w'.Sound trust known)

theorem World.Sound.quietRun (h : w.Sound trust known) {p : Fallible α}
    (hp : QuietRun config strict p) : SoundOn config strict trust known p w :=
  safe_run_quiet hp World.Sound.sameChildren h

theorem World.Sound.lift (h : w.Sound trust known) {p : HostProgram α}
    (hp : Quiet config strict p) : SoundOn config strict trust known (monadLift p) w :=
  Safe.run_lift (h.quiet hp)

/-- A child that waits at its gate. -/
structure Forked (trust : Bool) (known : Nat → String → Prop) (pid : Nat) (w : World) : Prop where
  sound : w.Sound trust known
  notMem : pid ∉ w.table
  child : w.unreaped pid ≠ none

theorem Forked.sameChildren (h : Forked trust known pid w) (hsame : SameChildren w w') :
    Forked trust known pid w' where
  sound := h.sound.sameChildren hsame
  notMem := hsame.table ▸ h.notMem
  child := hsame.unreaped ▸ h.child

theorem Forked.detached (h : Forked trust known pid w) : Detached trust known pid w :=
  h.sound.detached h.notMem h.child

theorem safe_fork (h : w.Sound trust known) (request : ForkRequest)
    (error : OsError → ProviderError) :
    SafeOn config strict trust (attempt (call (.fork request)) error).run w
      (Ends (fun pid w' => Forked trust known pid w') fun w' => w'.Sound trust known) := by
  refine safe_ask_bind.2 ⟨fun _ => trivial, fun answer w'' hstep => ?_⟩
  obtain ⟨-, _, heffect, hmoves⟩ := hstep
  cases answer with
  | error error =>
    obtain rfl := heffect
    exact h.sameChildren hmoves.sameChildren
  | ok pid =>
    obtain ⟨hfresh, hpos, hlt, start, rfl⟩ := heffect
    obtain ⟨hsound, hnotMem, hchild⟩ := h.forked hfresh hpos hlt start
    exact (Forked.mk hsound hnotMem hchild).sameChildren hmoves.sameChildren

theorem safe_spawnGatedProcess (h : w.Sound trust known) (plan : LaunchPlan)
    (environment : BTreeMap String String) (withTransport : Bool) :
    SafeOn config strict trust (spawnGatedProcess plan environment withTransport).run w
      (Ends (fun pid w' => Forked trust known pid w') fun w' => w'.Sound trust known) :=
  (h.quietRun (quietRun_call (by trivial))).run_bind
    fun _ _ h => (h.quietRun (quietRun_fromResult _)).run_bind
      fun _ _ h => (h.quietRun (quietRun_openPipes _)).run_bind fun _ _ h => safe_fork h _ _

/-- A forked child that is not waited for successfully stays a child, and was not launched. -/
theorem safe_reap (h : Forked trust known pid w) :
    SafeOn config strict trust (ignore (call (.waitPid pid))) w fun _ w' =>
      w'.Sound trust known := by
  refine safe_ask_bind.2 ⟨fun _ => trivial, fun answer w'' hstep => ?_⟩
  obtain ⟨-, _, heffect, hmoves⟩ := hstep
  cases answer with
  | reaped status =>
    obtain ⟨-, rfl⟩ := heffect
    exact h.detached.reaped.sameChildren hmoves.sameChildren
  | running | failed =>
    obtain rfl := heffect
    exact h.sound.sameChildren hmoves.sameChildren

theorem safe_abort (h : Forked trust known pid w) :
    SafeOn config strict trust (abort pid) w fun _ w' => w'.Sound trust known :=
  (safe_signal Forked.sameChildren (fun _ => confined_processTarget (h.sound.isChild h.child)
    .kill) h).bind
    fun _ _ h => safe_reap h

theorem safe_release (h : Forked trust known pid w) :
    SafeOn config strict trust (release pid).run w
      (Ends (fun _ w' => Forked trust known pid w') fun w' => w'.Sound trust known) := by
  have hfailed (w' : World) (h : Forked trust known pid w') : w'.Sound trust known := h.sound
  refine ((safe_run_quiet (quietRun_attempt (quiet_call (by trivial))) Forked.sameChildren
    h).run_mono (fun _ _ h => h) hfailed).run_bind fun _ _ h => ?_
  refine ((safe_run_quiet (quietRun_attempt (quiet_call (by trivial))) Forked.sameChildren
    h).run_mono (fun _ _ h => h) hfailed).run_bind fun failure _ h => ?_
  cases failure with
  | none => exact h
  | some error => exact (Safe.run_lift (safe_reap h)).run_bind fun _ _ h => h

/-- A launch into a group of the daemon: the child that it forks is aborted, or tracked. -/
theorem safe_launchInto {path : String} (hpath : InstanceGroup config path)
    (h : w.Sound trust known) (hany : ∀ pid path, known pid path) (plan : LaunchPlan)
    (environment : BTreeMap String String) :
    SoundOn config strict trust known (launchInto config plan environment path) w := by
  have hdiscard (w' : World) (h : w'.Sound trust known) :
      SafeOn config strict trust (discardCgroup config path) w' fun _ w' => w'.Sound trust known :=
    h.quiet (quiet_discardCgroup fun _ => hpath)
  refine ((safe_spawnGatedProcess h plan environment _).run_onFailure fun w' h =>
    (h.quiet (quiet_stopTransport _)).bind fun _ w' h => hdiscard w' h).run_bind fun pid w' h => ?_
  refine ((safe_run_quiet (quietRun_attach (fun _ => hpath) pid) Forked.sameChildren
    h).run_onFailure fun w' h => (safe_abort h).bind fun _ w' h => hdiscard w' h).run_bind
      fun _ w' h => ?_
  refine ((safe_release h).run_onFailure hdiscard).run_bind fun _ w' h => ?_
  refine (Safe.run_lift (safe_quiet (quiet_startTransport _) Forked.sameChildren h)).run_bind
    fun _ w' h => ?_
  refine (Safe.run_lift (safe_quiet (quiet_call (by trivial)) Forked.sameChildren h)).run_bind
    fun pidfd w' h => ?_
  refine (Safe.run_lift (safe_insertChild h.detached (hany pid) _)).run_bind fun _ w' h => ?_
  exact (h.lift (quiet_call (by trivial))).run_bind fun _ w' h => h

theorem safe_launch (h : w.Sound trust known) (hany : ∀ pid path, known pid path)
    (plan : LaunchPlan) (binding : DeviceBinding) :
    SoundOn config strict trust known (launch config plan binding) w := by
  refine (h.lift (quiet_preflightReportWithBinding _)).run_bind fun capabilities w' h => ?_
  split
  · refine (safe_run_of_asks (asks_createInstanceCgroup _) World.Sound.sameChildren h).run_bind
      fun path w' hcreated => ?_
    obtain ⟨hpath, h⟩ := hcreated
    have hlimits : QuietRun config strict (applyLimits config path plan.limits) :=
      quietRun_applyLimits (fun _ => hpath) plan.limits
    have hbinding : QuietRun config strict (enforceDeviceBinding config path binding) :=
      quietRun_enforceDeviceBinding (fun _ => hpath) binding
    have hdiscard : Quiet config strict (discardCgroup config path) :=
      quiet_discardCgroup fun _ => hpath
    refine (h.quietRun (Asks.run_onFailure (hlimits.bind fun _ => hbinding) hdiscard)).run_bind
      fun _ w' h => ?_
    refine (h.quietRun (quietRun_fromResult _)).run_bind fun environment w' h => ?_
    refine (h.quietRun (Asks.run_onFailure (quietRun_openTransport _) hdiscard)).run_bind
      fun _ w' h => ?_
    exact safe_launchInto hpath h hany plan environment
  · exact h

end CyreneKernel.Sandboxd
