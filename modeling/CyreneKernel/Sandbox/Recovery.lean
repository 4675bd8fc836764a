import CyreneKernel.Journal.Restart
import Mathlib.Data.List.Nodup
import Mathlib.Data.List.Pairwise

/-!
# The recovery of sandboxed processes

The sandbox daemon keeps every worker in a control group of its own.  For the restart boundary it
lists the members of all groups, and terminates the group of a process whose evidence still holds.
Discovery reports a group once for every member, while the journal has one record for every worker,
that of its leader.

## Main results

* `recovers_iff_solitary`: the kernel restarts over journaled workers exactly if no worker has a
  process besides its leader and no two workers share a group.
-/

namespace CyreneKernel.Sandbox

open Lib Journal

/-! ### The daemon -/

/-- A process of the host; `killable` says whether it dies when its group is killed. -/
structure HostProcess where
  cgroup : String
  startTimeTicks : Option Nat
  killable : Bool
deriving DecidableEq

/-- The directories under the root of the daemon, and the processes of the host by their pid.
`removable` says whether the directory of an empty group can be removed. -/
structure Host where
  groups : BTreeSet String
  processes : BTreeMap Nat HostProcess
  removable : String → Bool

/-- The members of a group, as `cgroup.procs` lists them. -/
def Host.members (host : Host) (name : String) : List Nat :=
  (host.processes.toList.filter fun entry => entry.2.cgroup = name).map Prod.fst

def Host.procStartTime (host : Host) (pid : Nat) : Option Nat :=
  (host.processes[pid]?).bind (·.startTimeTicks)

/-- The host after a group was killed. -/
def Host.killCgroup (host : Host) (name : String) : Host :=
  { host with processes := host.processes.filter fun _ process =>
      !(process.cgroup = name && process.killable) }

def safeCgroupSegment (name : String) : Bool :=
  !name.isEmpty && (bytesOf name).all fun byte =>
    isAsciiAlphanumeric byte || byte == 45 || byte == 95

def isOwnedInstanceName (name : String) : Bool :=
  "instance-".toList.isPrefixOf name.toList && "instance-".utf8ByteSize < name.utf8ByteSize &&
    safeCgroupSegment name

def cgroupError (reasonCode message : String) : ProviderError :=
  ⟨"linux-cgroup-v2", reasonCode, message⟩

/-- The evidence of a member of a group. -/
def Host.evidence (host : Host) (member : String × Nat) :
    Except ProviderError RuntimeProcessEvidence :=
  match host.procStartTime member.2 with
  | some startTimeTicks => .ok ⟨member.1, member.2, startTimeTicks⟩
  | none => .error (cgroupError "RECOVERY_EVIDENCE_UNAVAILABLE"
      "live sandbox process has no readable start time")

/-- The members of all groups, in the order in which the directory is read. -/
def Host.allMembers (host : Host) (order : List String → List String) : List (String × Nat) :=
  (order host.groups.toList).flatMap fun name => (host.members name).map fun pid => (name, pid)

variable (order : List String → List String)

def discoverRecoveryProcesses : EStateM ProviderError Host (List RuntimeProcessEvidence) := do
  let host ← get
  liftExcept id ((host.allMembers order).mapM host.evidence)

/-- Kill the group of a process whose evidence holds.  The directory of an empty group is removed;
a failure to do so is only logged. -/
def recoverStaleProcess (evidence : RuntimeProcessEvidence) :
    EStateM ProviderError Host CleanupReport := do
  rejectIf (!isOwnedInstanceName evidence.cgroupName)
    (cgroupError "INVALID_CGROUP_NAME" "instance cgroups must be a safe instance-* direct child")
  let host ← get
  rejectIf (evidence.cgroupName ∉ host.groups)
    (cgroupError "RECOVERY_DISCOVERY_FAILED" "No such file or directory")
  rejectIf (evidence.pid ∉ host.members evidence.cgroupName ∨
      host.procStartTime evidence.pid ≠ some evidence.startTimeTicks)
    (cgroupError "RECOVERY_EVIDENCE_MISMATCH"
      "persisted process evidence no longer matches the sandbox runtime")
  let killed := host.killCgroup evidence.cgroupName
  if (killed.members evidence.cgroupName).isEmpty then
    set (if host.removable evidence.cgroupName then
      { killed with groups := killed.groups.erase evidence.cgroupName } else killed)
    return ⟨true, "RECOVERY_CLEANUP_COMPLETE"⟩
  else
    set killed
    return ⟨false, "RECOVERY_CLEANUP_INCOMPLETE"⟩

/-- The restart boundary over the daemon and a journal that takes every record. -/
def sandboxPorts : RestartPorts (Host × List RuntimeJournalRecord) where
  discoverRecoveryProcesses :=
    zoom Prod.fst (fun host s => (host, s.2)) id (discoverRecoveryProcesses order)
  recoverStaleProcess evidence :=
    zoom Prod.fst (fun host s => (host, s.2)) id (recoverStaleProcess evidence)
  append record := modify fun s => (s.1, s.2 ++ [record])

/-! ### Journaled workers -/

/-- The leader of a worker is alive in the group of the worker, as the journal has it. -/
def Host.Leads (host : Host) (evidence : RuntimeProcessEvidence) : Prop :=
  isOwnedInstanceName evidence.cgroupName = true ∧ evidence.cgroupName ∈ host.groups ∧
    evidence.pid ∈ host.members evidence.cgroupName ∧
    host.procStartTime evidence.pid = some evidence.startTimeTicks

/-- All processes can be killed. -/
def Host.Killable (host : Host) : Prop :=
  ∀ ⦃pid : Nat⦄ ⦃process⦄, host.processes[pid]? = some process → process.killable = true

/-- The journal has the leaders of workers of an older epoch.  Their groups may have any number of
further members; there are no other processes, and every process can be killed. -/
structure LeadersJournaled (host : Host) (recovery : RecoveryState) : Prop where
  older : ∀ record ∈ recovery.runtimeProcesses, record.nodeEpoch < recovery.nodeEpoch
  leads : ∀ record ∈ recovery.runtimeProcesses, ∃ evidence,
    record.runtimeEvidence = some evidence ∧ host.Leads evidence
  noForeign : ∀ name ∈ host.groups, host.members name ≠ [] →
    ∃ record ∈ recovery.runtimeProcesses, ∃ evidence,
      record.runtimeEvidence = some evidence ∧ evidence.cgroupName = name
  readable : ∀ name ∈ host.groups, ∀ pid ∈ host.members name, (host.procStartTime pid).isSome
  killable : host.Killable

/-- No two workers share a group, and no group has a member besides the leader. -/
structure Solitary (host : Host) (recovery : RecoveryState) : Prop where
  distinct : recovery.runtimeProcesses.Pairwise fun record record' =>
    record.runtimeEvidence.map (·.cgroupName) ≠ record'.runtimeEvidence.map (·.cgroupName)
  alone : ∀ record ∈ recovery.runtimeProcesses, ∀ evidence,
    record.runtimeEvidence = some evidence → host.members evidence.cgroupName = [evidence.pid]

/-- The kernel restarts, and no process of a journaled worker is left. -/
def Recovers (order : List String → List String) (nodeId : String) (recovery : RecoveryState)
    (s : Host × List RuntimeJournalRecord) : Prop :=
  ∃ s', recoverBeforeListeners (sandboxPorts order) nodeId recovery s = .ok () s' ∧
    ∀ record ∈ recovery.runtimeProcesses, ∀ evidence,
      record.runtimeEvidence = some evidence → s'.1.members evidence.cgroupName = []

/-! ### Members -/

variable {order} {host host' : Host} {name : String} {pid : Nat}

theorem mem_members : pid ∈ host.members name ↔
    ∃ process, host.processes[pid]? = some process ∧ process.cgroup = name := by
  simp [Host.members, Std.ExtTreeMap.mem_toList_iff_getElem?_eq_some]

theorem nodup_members (host : Host) (name : String) : (host.members name).Nodup := by
  have hkeys : (host.processes.toList.map Prod.fst).Nodup := by
    rw [Std.ExtTreeMap.map_fst_toList_eq_keys]
    exact Std.ExtTreeMap.nodup_keys
  exact hkeys.sublist (List.filter_sublist.map Prod.fst)

/-- A kill empties a group of killable processes. -/
theorem members_killCgroup_self (h : host.Killable) : (host.killCgroup name).members name = [] := by
  refine List.eq_nil_iff_forall_not_mem.2 fun pid hmem => ?_
  obtain ⟨process, hprocess, hname⟩ := mem_members.1 hmem
  obtain ⟨hstored, hkept⟩ := BTreeMap.getElem?_of_filter hprocess
  simp [hname, h hstored] at hkept

/-- What the daemon leaves of a host after it cleaned up a group of killable processes. -/
def Host.cleared (host : Host) (name : String) : Host :=
  if host.removable name then
    { host.killCgroup name with groups := host.groups.erase name }
  else host.killCgroup name

theorem processes_cleared (host : Host) (name : String) :
    (host.cleared name).processes = (host.killCgroup name).processes := by
  unfold Host.cleared
  split <;> rfl

theorem members_cleared (host : Host) (name name' : String) :
    (host.cleared name).members name' = (host.killCgroup name).members name' := by
  unfold Host.members
  rw [processes_cleared]

theorem Host.Killable.cleared (h : host.Killable) (name : String) :
    (host.cleared name).Killable := by
  intro pid process hprocess
  rw [processes_cleared] at hprocess
  exact h (BTreeMap.getElem?_of_filter hprocess).1

theorem mem_members_of_cleared {name' : String}
    (h : pid ∈ (host.cleared name).members name') : pid ∈ host.members name' := by
  rw [members_cleared] at h
  obtain ⟨process, hprocess, hname⟩ := mem_members.1 h
  exact mem_members.2 ⟨process, (BTreeMap.getElem?_of_filter hprocess).1, hname⟩

/-- A process of another group survives. -/
theorem getElem?_processes_cleared {process : HostProcess}
    (hprocess : host.processes[pid]? = some process) (hne : process.cgroup ≠ name) :
    (host.cleared name).processes[pid]? = some process := by
  rw [processes_cleared]
  refine (BTreeMap.getElem?_filter_of_forall fun stored hstored => ?_).trans hprocess
  obtain rfl := Option.mem_unique hstored hprocess
  simp [hne]

theorem mem_groups_cleared {name' : String} (h : name' ∈ host.groups) (hne : name' ≠ name) :
    name' ∈ (host.cleared name).groups := by
  unfold Host.cleared
  split
  · exact (BTreeSet.mem_erase _ _ _).2 ⟨hne.symm, h⟩
  · exact h

variable {evidence : RuntimeProcessEvidence}

theorem Host.Leads.cleared (h : host.Leads evidence) (hne : evidence.cgroupName ≠ name) :
    (host.cleared name).Leads evidence := by
  obtain ⟨howned, hgroup, hmember, hstart⟩ := h
  obtain ⟨process, hprocess, hcgroup⟩ := mem_members.1 hmember
  have hprocess' := getElem?_processes_cleared hprocess (hcgroup ▸ hne)
  refine ⟨howned, mem_groups_cleared hgroup hne, mem_members.2 ⟨process, hprocess', hcgroup⟩, ?_⟩
  rw [Host.procStartTime, hprocess] at hstart
  rw [Host.procStartTime, hprocess', hstart]

/-! ### Cleanups -/

/-- On a host of killable processes the daemon cleans up exactly the groups whose evidence holds. -/
theorem recoverStaleProcess_eq_ok (h : host.Killable) {cleanup : CleanupReport} :
    recoverStaleProcess evidence host = .ok cleanup host' ↔ host.Leads evidence ∧
      cleanup = ⟨true, "RECOVERY_CLEANUP_COMPLETE"⟩ ∧ host' = host.cleared evidence.cgroupName := by
  unfold recoverStaleProcess
  rw [eq_ok_iff_ensures]
  simp only [ensures_bind, ensures_rejectIf, ensures_get, members_killCgroup_self h,
    List.isEmpty_nil, if_true, ensures_set, ensures_pure, Host.Leads, Host.cleared, not_or, not_not,
    Bool.not_eq_true, Bool.not_eq_false', ne_eq, imp_false]
  constructor
  · rintro ⟨howned, hnamed⟩
    obtain ⟨hgroup, hlisted⟩ := hnamed howned
    obtain ⟨hmember, hdone⟩ := hlisted hgroup
    obtain ⟨rfl, rfl⟩ := hdone hmember
    exact ⟨⟨howned, hgroup, hmember⟩, rfl, rfl⟩
  · rintro ⟨⟨howned, hgroup, hmember⟩, rfl, rfl⟩
    exact ⟨howned, fun _ => ⟨hgroup, fun _ => ⟨hmember, fun _ => ⟨rfl, rfl⟩⟩⟩⟩

variable {s s' : Host × List RuntimeJournalRecord} {nodeId : String} {recovery : RecoveryState}
  {pairs : List (RuntimeProcessRecord × RuntimeProcessEvidence)}

theorem zoom_eq_ok {α : Type} {m : EStateM ProviderError Host α} {a : α} :
    (zoom Prod.fst (fun host s => (host, s.2)) id m :
        EStateM ProviderError (Host × List RuntimeJournalRecord) α) s = .ok a s' ↔
      m s.1 = .ok a s'.1 ∧ s'.2 = s.2 := by
  unfold zoom
  obtain ⟨host', journal'⟩ := s'
  cases m s.1 with
  | ok b host =>
    simp only [EStateM.Result.ok.injEq, Prod.mk.injEq]
    tauto
  | error e host => simp

/-- One cleanup of the restart boundary. -/
theorem cleanUp_sandboxPorts (h : s.1.Killable) {record : RuntimeProcessRecord} :
    cleanUp (sandboxPorts order) nodeId recovery record evidence s = .ok () s' ↔
      s.1.Leads evidence ∧ s'.1 = s.1.cleared evidence.cgroupName ∧
        s'.2 = s.2 ++ [cleanupRecord nodeId recovery record
          ⟨true, "RECOVERY_CLEANUP_COMPLETE"⟩] := by
  rw [cleanUp_eq_ok]
  simp only [sandboxPorts, zoom_eq_ok, recoverStaleProcess_eq_ok h]
  constructor
  · rintro ⟨cleanup, s₁, ⟨⟨hleads, rfl, hhost⟩, hjournal⟩, -, happend⟩
    obtain ⟨-, rfl⟩ := EStateM.Result.ok.inj happend
    exact ⟨hleads, hhost, congrArg (· ++ _) hjournal⟩
  · rintro ⟨hleads, hhost, hjournal⟩
    refine ⟨_, (s'.1, s.2), ⟨⟨hleads, rfl, hhost⟩, rfl⟩, rfl, ?_⟩
    obtain ⟨host', journal'⟩ := s'
    exact congrArg (EStateM.Result.ok ()) (Prod.ext rfl hjournal.symm)

/-- What was cleaned up was there, one group after the other, and is gone. -/
theorem cleanedUp_distinct (hkill : s.1.Killable)
    (h : CleanedUp (sandboxPorts order) nodeId recovery pairs s s') :
    (∀ p ∈ pairs, p.2.pid ∈ s.1.members p.2.cgroupName) ∧
      (∀ name pid, pid ∈ s'.1.members name → pid ∈ s.1.members name) ∧
      (∀ p ∈ pairs, s'.1.members p.2.cgroupName = []) ∧
      pairs.Pairwise fun p p' => p.2.cgroupName ≠ p'.2.cgroupName := by
  induction pairs generalizing s with
  | nil =>
    cases h
    exact ⟨fun _ hp => absurd hp List.not_mem_nil, fun _ _ h => h,
      fun _ hp => absurd hp List.not_mem_nil, .nil⟩
  | cons p rest ih =>
    obtain ⟨record, evidence⟩ := p
    obtain ⟨s₁, hclean, hrest⟩ := cleanedUp_cons.1 h
    obtain ⟨hleads, hs₁, -⟩ := (cleanUp_sandboxPorts hkill).1 hclean
    obtain ⟨hmember, hshrink, hempty, hdistinct⟩ := ih (hs₁ ▸ hkill.cleared _) hrest
    have hgone : s₁.1.members evidence.cgroupName = [] := by
      rw [hs₁, members_cleared, members_killCgroup_self hkill]
    have hback : ∀ name pid, pid ∈ s₁.1.members name → pid ∈ s.1.members name := by
      intro name pid hpid
      rw [hs₁] at hpid
      exact mem_members_of_cleared hpid
    refine ⟨fun p hp => ?_, fun name pid hpid => hback name pid (hshrink name pid hpid),
      fun p hp => ?_, List.pairwise_cons.2 ⟨fun p hp heq => ?_, hdistinct⟩⟩
    · rcases List.mem_cons.1 hp with rfl | hp
      · exact hleads.2.2.1
      · exact hback _ _ (hmember p hp)
    · rcases List.mem_cons.1 hp with rfl | hp
      · refine List.eq_nil_iff_forall_not_mem.2 fun pid hpid => ?_
        have hpid := hshrink _ _ hpid
        rw [hgone] at hpid
        exact absurd hpid List.not_mem_nil
      · exact hempty p hp
    · have hpid := hmember p hp
      rw [← heq, hgone] at hpid
      exact absurd hpid List.not_mem_nil

/-- Workers in different groups are cleaned up one after the other. -/
theorem exists_cleanedUp (hkill : s.1.Killable) (hleads : ∀ p ∈ pairs, s.1.Leads p.2)
    (hdistinct : pairs.Pairwise fun p p' => p.2.cgroupName ≠ p'.2.cgroupName) :
    ∃ s', CleanedUp (sandboxPorts order) nodeId recovery pairs s s' := by
  induction pairs generalizing s with
  | nil => exact ⟨s, .nil s⟩
  | cons p rest ih =>
    obtain ⟨record, evidence⟩ := p
    obtain ⟨hfirst, hrest⟩ := List.pairwise_cons.1 hdistinct
    obtain ⟨s', hcleaned⟩ := ih (s := (s.1.cleared evidence.cgroupName, s.2 ++
        [cleanupRecord nodeId recovery record ⟨true, "RECOVERY_CLEANUP_COMPLETE"⟩]))
      (hkill.cleared _) (fun p hp => (hleads p (List.mem_cons_of_mem _ hp)).cleared
        (hfirst p hp).symm) hrest
    refine ⟨s', cleanedUp_cons.2 ⟨_, (cleanUp_sandboxPorts hkill).2 ⟨?_, rfl, rfl⟩, hcleaned⟩⟩
    exact hleads (record, evidence) List.mem_cons_self

/-! ### Discovery -/

/-- The evidence of a member whose start time can be read. -/
def Host.observed (host : Host) (member : String × Nat) : RuntimeProcessEvidence :=
  ⟨member.1, member.2, (host.procStartTime member.2).getD 0⟩

theorem mapM_evidence {members : List (String × Nat)}
    (h : ∀ member ∈ members, (host.procStartTime member.2).isSome) :
    members.mapM host.evidence = .ok (members.map host.observed) := by
  induction members with
  | nil => rfl
  | cons member rest ih =>
    obtain ⟨startTimeTicks, hstart⟩ := Option.isSome_iff_exists.1 (h member List.mem_cons_self)
    have hevidence : host.evidence member = .ok (host.observed member) := by
      simp [Host.evidence, Host.observed, hstart]
    rw [List.mapM_cons, hevidence, ih fun m hm => h m (List.mem_cons_of_mem _ hm)]
    rfl

theorem mem_allMembers (horder : ∀ l, (order l).Perm l) :
    (name, pid) ∈ host.allMembers order ↔ name ∈ host.groups ∧ pid ∈ host.members name := by
  simp only [Host.allMembers, List.mem_flatMap, (horder _).mem_iff, Std.ExtTreeSet.mem_toList,
    List.mem_map, Prod.mk.injEq, exists_eq_right_right]

theorem nodup_allMembers (horder : ∀ l, (order l).Perm l) (host : Host) :
    (host.allMembers order).Nodup := by
  refine List.nodup_flatMap.2 ⟨fun name _ => ?_, ?_⟩
  · exact (nodup_members host name).map fun _ _ h => (Prod.mk.inj h).2
  · have hgroups : (order host.groups.toList).Nodup :=
      (horder _).nodup_iff.2 (Std.ExtTreeSet.distinct_toList.imp fun h heq =>
        h (Std.compare_eq_iff_eq.2 heq))
    refine hgroups.imp fun {name name'} hne => ?_
    rintro ⟨n, pid⟩ hmem hmem'
    obtain ⟨_, -, heq⟩ := List.mem_map.1 hmem
    obtain ⟨_, -, heq'⟩ := List.mem_map.1 hmem'
    exact hne ((Prod.mk.inj heq).1.trans (Prod.mk.inj heq').1.symm)

/-- Over journaled workers, discovery reports every member of every group. -/
theorem discover_eq_ok (h : LeadersJournaled s.1 recovery) (horder : ∀ l, (order l).Perm l)
    {observed : List RuntimeProcessEvidence} :
    (sandboxPorts order).discoverRecoveryProcesses s = .ok observed s' ↔
      observed = (s.1.allMembers order).map s.1.observed ∧ s' = s := by
  have hread : (s.1.allMembers order).mapM s.1.evidence =
      .ok ((s.1.allMembers order).map s.1.observed) := by
    refine mapM_evidence fun member hmember => ?_
    obtain ⟨hname, hpid⟩ := (mem_allMembers horder).1 hmember
    exact h.readable _ hname _ hpid
  have hdiscover : discoverRecoveryProcesses order s.1 =
      .ok ((s.1.allMembers order).map s.1.observed) s.1 := by
    change liftExcept id ((s.1.allMembers order).mapM s.1.evidence) s.1 = _
    rw [hread]
    rfl
  simp only [sandboxPorts, zoom_eq_ok, hdiscover, EStateM.Result.ok.injEq]
  obtain ⟨host, journal⟩ := s
  obtain ⟨host', journal'⟩ := s'
  simp only [Prod.mk.injEq]
  tauto

theorem mem_observed (horder : ∀ l, (order l).Perm l) :
    evidence ∈ (host.allMembers order).map host.observed ↔
      (evidence.cgroupName ∈ host.groups ∧ evidence.pid ∈ host.members evidence.cgroupName) ∧
        evidence.startTimeTicks = (host.procStartTime evidence.pid).getD 0 := by
  rw [List.mem_map]
  constructor
  · rintro ⟨⟨name, pid⟩, hmem, rfl⟩
    exact ⟨(mem_allMembers horder).1 hmem, rfl⟩
  · rintro ⟨hmem, hstart⟩
    refine ⟨(evidence.cgroupName, evidence.pid), (mem_allMembers horder).2 hmem, ?_⟩
    rw [Host.observed, ← hstart]

/-- The evidence of a leader is observed. -/
theorem Host.Leads.mem_observed (horder : ∀ l, (order l).Perm l) (h : host.Leads evidence) :
    evidence ∈ (host.allMembers order).map host.observed :=
  (Sandbox.mem_observed horder).2 ⟨⟨h.2.1, h.2.2.1⟩, by rw [h.2.2.2]; rfl⟩

/-! ### The restart -/

/-- When everything is stale, the matches have different groups exactly if the records do. -/
theorem pairwise_staleMatches {observed : List RuntimeProcessEvidence}
    (hstale : ∀ candidate ∈ classifyRecovery recovery observed,
      candidate.classification = .stale) :
    ((staleMatches recovery (classifyRecovery recovery observed)).Pairwise
        fun p p' => p.2.cgroupName ≠ p'.2.cgroupName) ↔
      recovery.runtimeProcesses.Pairwise fun record record' =>
        record.runtimeEvidence.map (·.cgroupName) ≠
          record'.runtimeEvidence.map (·.cgroupName) := by
  have h := classified recovery observed
  have hperm := h.records_perm
  rw [← map_fst_staleMatches h.sound hstale] at hperm
  rw [← hperm.pairwise_iff (fun h => h.symm), List.pairwise_map]
  refine ⟨fun hdistinct => hdistinct.imp_of_mem ?_, fun hdistinct => hdistinct.imp_of_mem ?_⟩ <;>
  · intro p p' hp hp' hne
    rw [(mem_staleMatches hp).2.1, (mem_staleMatches hp').2.1] at *
    simpa using hne

/-- A restart that succeeds had one process for every worker. -/
theorem Recovers.solitary (h : LeadersJournaled s.1 recovery) (horder : ∀ l, (order l).Perm l)
    (hrecovers : Recovers order nodeId recovery s) : Solitary s.1 recovery := by
  obtain ⟨s', hok, -⟩ := hrecovers
  obtain ⟨observed, s₁, hobserved, hstale, hcleaned⟩ := recoverBeforeListeners_eq_ok.1 hok
  obtain ⟨rfl, rfl⟩ := (discover_eq_ok h horder).1 hobserved
  have hdistinct := (pairwise_staleMatches hstale).1 (cleanedUp_distinct h.killable hcleaned).2.2.2
  have : Std.Symm fun record record' : RuntimeProcessRecord =>
      record.runtimeEvidence.map (·.cgroupName) ≠ record'.runtimeEvidence.map (·.cgroupName) :=
    ⟨fun _ _ h => h.symm⟩
  refine ⟨hdistinct, fun record hrecord evidence hevidence => ?_⟩
  obtain ⟨evidence', hevidence', hleads⟩ := h.leads record hrecord
  obtain rfl := Option.mem_unique hevidence hevidence'
  have hperm := ((all_stale_iff recovery _).1 hstale).2
  have honly : ∀ pid ∈ s₁.1.members evidence.cgroupName, pid = evidence.pid := by
    intro pid hpid
    -- a further member would have a record of its own, in the same group
    have hmem : some (s₁.1.observed (evidence.cgroupName, pid)) ∈
        recovery.runtimeProcesses.map (·.runtimeEvidence) :=
      hperm.mem_iff.1 (List.mem_map_of_mem (List.mem_map_of_mem
        ((mem_allMembers horder).2 ⟨hleads.2.1, hpid⟩)))
    obtain ⟨record', hrecord', hevidence'⟩ := List.mem_map.1 hmem
    by_cases heq : record' = record
    · rw [heq, hevidence] at hevidence'
      exact (congrArg RuntimeProcessEvidence.pid (Option.some.inj hevidence')).symm
    · refine absurd ?_ (hdistinct.forall hrecord' hrecord heq)
      rw [hevidence, hevidence']
      rfl
  refine List.perm_singleton.1 ((List.perm_ext_iff_of_nodup (nodup_members _ _)
    (List.nodup_singleton _)).2 fun pid => ⟨fun hpid => ?_, fun hpid => ?_⟩)
  · exact List.mem_singleton.2 (honly pid hpid)
  · rw [List.mem_singleton.1 hpid]
    exact hleads.2.2.1

/-- Workers of one process each are observed exactly as the journal has them. -/
theorem Solitary.perm (hsolitary : Solitary host recovery) (h : LeadersJournaled host recovery)
    (horder : ∀ l, (order l).Perm l) :
    (((host.allMembers order).map host.observed).map some).Perm
      (recovery.runtimeProcesses.map (·.runtimeEvidence)) := by
  refine (List.perm_ext_iff_of_nodup ?_ ?_).2 fun evidence => ?_
  · refine ((nodup_allMembers horder host).map ?_).map (Option.some_injective _)
    rintro ⟨name, pid⟩ ⟨name', pid'⟩ heq
    obtain ⟨rfl, rfl, -⟩ := RuntimeProcessEvidence.mk.inj heq
    rfl
  · refine List.pairwise_map.2 (hsolitary.distinct.imp fun hne heq => hne ?_)
    rw [heq]
  · rw [List.mem_map, List.mem_map]
    constructor
    · rintro ⟨evidence, hmem, rfl⟩
      obtain ⟨⟨hgroup, hpid⟩, hstart⟩ := (mem_observed horder).1 hmem
      obtain ⟨record, hrecord, leader, hleader, hname⟩ :=
        h.noForeign _ hgroup (List.ne_nil_of_mem hpid)
      refine ⟨record, hrecord, hleader.trans (congrArg some ?_)⟩
      obtain ⟨leader', hleader', hleads⟩ := h.leads record hrecord
      obtain rfl := Option.mem_unique hleader hleader'
      rw [← hname, hsolitary.alone record hrecord leader hleader, List.mem_singleton] at hpid
      rw [hpid, hleads.2.2.2, Option.getD_some] at hstart
      obtain ⟨cgroupName, pid, startTimeTicks⟩ := evidence
      obtain ⟨cgroupName', pid', startTimeTicks'⟩ := leader
      simp only at hname hpid hstart
      rw [hname, hpid, hstart]
    · rintro ⟨record, hrecord, rfl⟩
      obtain ⟨leader, hleader, hleads⟩ := h.leads record hrecord
      exact ⟨leader, hleads.mem_observed horder, hleader.symm⟩

/-- Workers of one process each are recovered. -/
theorem Solitary.recovers (hsolitary : Solitary s.1 recovery)
    (h : LeadersJournaled s.1 recovery) (horder : ∀ l, (order l).Perm l) :
    Recovers order nodeId recovery s := by
  have hperm := hsolitary.perm h horder
  have hstale := (all_stale_iff recovery _).2 ⟨h.older, hperm⟩
  have hleads : ∀ p ∈ staleMatches recovery (classifyRecovery recovery
      ((s.1.allMembers order).map s.1.observed)), s.1.Leads p.2 := by
    intro p hp
    obtain ⟨hrecord, hevidence, -⟩ := mem_staleMatches hp
    obtain ⟨evidence, hevidence', hleads⟩ := h.leads _ hrecord
    rwa [Option.mem_unique hevidence hevidence']
  obtain ⟨s', hcleaned⟩ := exists_cleanedUp h.killable hleads
    ((pairwise_staleMatches hstale).2 hsolitary.distinct)
  refine ⟨s', recoverBeforeListeners_eq_ok.2
    ⟨_, s, (discover_eq_ok h horder).2 ⟨rfl, rfl⟩, hstale, hcleaned⟩, ?_⟩
  intro record hrecord evidence hevidence
  have hclassified := classified recovery ((s.1.allMembers order).map s.1.observed)
  have hmem := hclassified.records_perm.mem_iff.2 hrecord
  rw [← map_fst_staleMatches hclassified.sound hstale] at hmem
  obtain ⟨p, hp, rfl⟩ := List.mem_map.1 hmem
  rw [Option.some.inj (hevidence.symm.trans (mem_staleMatches hp).2.1)]
  exact (cleanedUp_distinct h.killable hcleaned).2.2.1 p hp

/-- The kernel restarts over journaled workers exactly if each of them consists of its leader, in a
group of its own. -/
theorem recovers_iff_solitary (order : List String → List String)
    (horder : ∀ l, (order l).Perm l) (nodeId : String) (recovery : RecoveryState) (host : Host)
    (journal : List RuntimeJournalRecord) (h : LeadersJournaled host recovery) :
    Recovers order nodeId recovery (host, journal) ↔ Solitary host recovery :=
  ⟨fun hrecovers => Recovers.solitary h horder hrecovers,
    fun hsolitary => Solitary.recovers hsolitary h horder⟩

/-! ### A sample -/

/-- A host with two groups, and the given processes in them, all started at once. -/
def sampleHost (processes : List (Nat × String)) : Host where
  groups := BTreeSet.insertList ∅ ["instance-first", "instance-second"]
  processes := processes.foldr (fun entry processes =>
    processes.insert entry.1 ⟨entry.2, some 7, true⟩) ∅
  removable := fun _ => true

/-- The journal of two workers, led by the processes `10` and `20`. -/
def sampleRecovery : RecoveryState where
  nodeEpoch := 20
  nextFenceToken := 3
  runtimeProcesses :=
    [ ⟨"first", some "lease-1", some 1, 10, some ⟨"instance-first", 10, 7⟩⟩
    , ⟨"second", some "lease-2", some 2, 10, some ⟨"instance-second", 20, 7⟩⟩ ]

theorem process_sampleHost {processes : List (Nat × String)} {pid : Nat} {process : HostProcess}
    (h : (sampleHost processes).processes[pid]? = some process) :
    process.startTimeTicks = some 7 ∧ process.killable = true := by
  induction processes with
  | nil => simp [sampleHost] at h
  | cons first rest ih =>
    have hinsert : (sampleHost (first :: rest)).processes =
        (sampleHost rest).processes.insert first.1 ⟨first.2, some 7, true⟩ := rfl
    rw [hinsert, BTreeMap.getElem?_insert] at h
    split at h
    · rw [← Option.some.inj h]
      exact ⟨rfl, rfl⟩
    · exact ih h

/-- The journal has the leaders of the groups, whatever else is in them. -/
theorem leadersJournaled_sampleHost {processes : List (Nat × String)}
    (hfirst : (sampleHost processes).Leads ⟨"instance-first", 10, 7⟩)
    (hsecond : (sampleHost processes).Leads ⟨"instance-second", 20, 7⟩) :
    LeadersJournaled (sampleHost processes) sampleRecovery where
  older := by decide
  leads := List.forall_mem_cons.2 ⟨⟨_, rfl, hfirst⟩, List.forall_mem_singleton.2 ⟨_, rfl, hsecond⟩⟩
  noForeign := by
    intro name hname _
    have hnames : name = "instance-first" ∨ name = "instance-second" := by
      simpa [sampleHost] using hname
    rcases hnames with rfl | rfl
    · exact ⟨_, .head _, _, rfl, rfl⟩
    · exact ⟨_, .tail _ (.head _), _, rfl, rfl⟩
  readable := by
    intro name _ pid hpid
    obtain ⟨process, hprocess, -⟩ := mem_members.1 hpid
    rw [Host.procStartTime, hprocess, Option.bind_some, (process_sampleHost hprocess).1]
    rfl
  killable := fun _ _ hprocess => (process_sampleHost hprocess).2

/-- Two workers of which one has forked a process. -/
def forkedHost : Host :=
  sampleHost [(10, "instance-first"), (11, "instance-first"), (20, "instance-second")]

/-- The workers are not recovered when one of them has forked a process. -/
theorem forkedWorker_not_recovered :
    LeadersJournaled forkedHost sampleRecovery ∧
      ¬ Recovers id "node" sampleRecovery (forkedHost, []) := by
  refine ⟨leadersJournaled_sampleHost ⟨by decide, by simp [sampleHost], by decide +kernel, by rfl⟩
    ⟨by decide, by simp [sampleHost], by decide +kernel, by rfl⟩, ?_⟩
  rintro ⟨s', hok, -⟩
  have herror : value? (recoverBeforeListeners (sandboxPorts id) "node" sampleRecovery
      (forkedHost, [])) = none := by
    decide +kernel
  rw [hok] at herror
  exact nomatch herror

/-- Workers that are their leaders alone are recovered. -/
theorem recovers_loneWorkers :
    let host := sampleHost [(10, "instance-first"), (20, "instance-second")]
    LeadersJournaled host sampleRecovery ∧ Recovers id "node" sampleRecovery (host, []) := by
  intro host
  have hleaders : LeadersJournaled host sampleRecovery :=
    leadersJournaled_sampleHost ⟨by decide, by simp [sampleHost], by decide +kernel, by rfl⟩
      ⟨by decide, by simp [sampleHost], by decide +kernel, by rfl⟩
  refine ⟨hleaders, (recovers_iff_solitary id (fun l => .refl l) "node" sampleRecovery host []
    hleaders).2 ⟨by decide, ?_⟩⟩
  intro record hrecord evidence hevidence
  rcases List.mem_pair.1 hrecord with rfl | rfl <;> obtain rfl := Option.some.inj hevidence
  · decide +kernel
  · decide +kernel

end CyreneKernel.Sandbox
