import CyreneKernel.Authority.Model
import CyreneKernel.Lib.Matching

/-!
# The restart boundary

Before a restarted kernel accepts calls, it compares the processes that the journal holds for alive
with those the sandbox observes.  A process that both know and that belongs to an older epoch is
terminated; anything else keeps the kernel from starting.

The sandbox and the journal are ports over some state of the outside world.

## Main results

* `restartBoundary`: the classification is a maximal matching, the kernel starts exactly if
  everything is matched and cleaned up, and it terminates only what it matched.
-/

namespace CyreneKernel

open Lib

/-! ### Records of the journal file -/

def RuntimeJournalEvent.name : RuntimeJournalEvent → String
  | .kernelStarted => "KERNEL_STARTED"
  | .leaseAcquired => "LEASE_ACQUIRED"
  | .leaseReleaseStarted => "LEASE_RELEASE_STARTED"
  | .leaseReleased => "LEASE_RELEASED"
  | .leaseRevoked => "LEASE_REVOKED"
  | .fenceAdvanced => "FENCE_ADVANCED"
  | .instanceLaunching => "INSTANCE_LAUNCHING"
  | .instanceLaunched => "INSTANCE_LAUNCHED"
  | .instanceTerminated => "INSTANCE_TERMINATED"
  | .instanceCleanupFailed => "INSTANCE_CLEANUP_FAILED"
  | .watchdogReaped => "WATCHDOG_REAPED"
  | .workerLost => "WORKER_LOST"
  | .operationLost => "OPERATION_LOST"
  | .endpointRevoked => "ENDPOINT_REVOKED"

namespace Journal

/-- A record as the journal file keeps it. -/
def persisted (observedAtMillis : Nat) (record : RuntimeJournalRecord) :
    PersistedRuntimeRecord where
  observedAtMillis := observedAtMillis
  event := record.event.name
  nodeId := record.nodeId
  nodeEpoch := record.nodeEpoch
  instanceName := record.instanceName
  leaseName := record.leaseName
  fenceToken := record.fenceToken
  reasonCode := record.reasonCode
  runtimeEvidence := record.runtimeEvidence
  semanticEvent := none

/-! ### Classification -/

inductive RecoveryClassification
  | valid
  | stale
  | unknown
  | foreign
deriving DecidableEq

structure RecoveryCandidate where
  classification : RecoveryClassification
  record : Option RuntimeProcessRecord
  observed : Option RuntimeProcessEvidence
deriving DecidableEq

variable (nodeEpoch : Nat) (p : RuntimeProcessEvidence × Option RuntimeProcessRecord)

/-- The verdict on an observed process, with the record it was matched with. -/
def observedCandidate (matching : RuntimeProcessEvidence × Option RuntimeProcessRecord) :
    RecoveryCandidate :=
  match matching with
  | (current, some record) =>
    ⟨if record.nodeEpoch < nodeEpoch then .stale else .valid, some record, some current⟩
  | (current, none) => ⟨.foreign, none, some current⟩

/-- Every observed process takes the first record of its evidence that is not matched yet; the
records that remain are unknown. -/
def classifyRecovery (recovery : RecoveryState) (observed : List RuntimeProcessEvidence) :
    List RecoveryCandidate :=
  let matching := assign (·.runtimeEvidence) observed
    (recovery.runtimeProcesses.map fun record => (record, false))
  matching.1.map (observedCandidate recovery.nodeEpoch) ++
    (free matching.2).map fun record => ⟨.unknown, some record, none⟩

/-! ### The boundary -/

/-- What the restart needs of the sandbox and of the journal. -/
structure RestartPorts (σ : Type) where
  discoverRecoveryProcesses : EStateM ProviderError σ (List RuntimeProcessEvidence)
  recoverStaleProcess : RuntimeProcessEvidence → EStateM ProviderError σ CleanupReport
  append : RuntimeJournalRecord → EStateM ProviderError σ Unit

variable {σ : Type} (ports : RestartPorts σ) (nodeId : String) (recovery : RecoveryState)

/-- The record of a cleanup at the restart boundary. -/
def cleanupRecord (record : RuntimeProcessRecord) (cleanup : CleanupReport) :
    RuntimeJournalRecord where
  event := if cleanup.complete then .instanceTerminated else .instanceCleanupFailed
  nodeId := nodeId
  nodeEpoch := recovery.nodeEpoch
  instanceName := some record.instanceName
  leaseName := record.leaseName
  fenceToken := record.fenceToken
  reasonCode := cleanup.reasonCode
  runtimeEvidence := none

/-- Terminate a stale process and journal the outcome. -/
def cleanUp (record : RuntimeProcessRecord) (evidence : RuntimeProcessEvidence) :
    EStateM ProviderError σ Unit := do
  let cleanup ← ports.recoverStaleProcess evidence
  ports.append (cleanupRecord nodeId recovery record cleanup)
  rejectIf (!cleanup.complete)
    ⟨"runtime-journal", "RECOVERY_CLEANUP_INCOMPLETE", cleanup.reasonCode⟩

/-- The loop over the candidates.  It returns the reason for which the kernel must not start, the
one of the last offending candidate. -/
def settle : Option String → List RecoveryCandidate → EStateM ProviderError σ (Option String)
  | blocked, [] => return blocked
  | blocked, candidate :: rest =>
    match candidate.classification with
    | .stale => do
      -- a stale candidate has both
      let record ← okOr candidate.record ⟨"", "", "stale candidate has journal record"⟩
      let evidence ← okOr candidate.observed
        ⟨"", "", "stale candidate has verified sandbox evidence"⟩
      cleanUp ports nodeId recovery record evidence
      settle blocked rest
    | .valid => settle (some "RECOVERY_VALID_PROCESS_UNADOPTED") rest
    | .unknown => settle (some "RECOVERY_UNKNOWN_PROCESS") rest
    | .foreign => settle (some "RECOVERY_FOREIGN_PROCESS") rest

/-- Refuse to start when there is a reason. -/
def refuse : Option String → EStateM ProviderError σ Unit
  | some reasonCode =>
    throw ⟨"runtime-journal", reasonCode,
      "restart recovery refuses to adopt or terminate unverified runtime state"⟩
  | none => return

/-- Settle the processes of earlier epochs before the kernel takes calls. -/
def recoverBeforeListeners : EStateM ProviderError σ Unit := do
  let observed ← ports.discoverRecoveryProcesses
  let blocked ← settle ports nodeId recovery none (classifyRecovery recovery observed)
  refuse blocked

/-! ### What a classification says -/

/-- What a candidate says about its record and its observed process. -/
def RecoveryCandidate.Sound (candidate : RecoveryCandidate) : Prop :=
  match candidate.record, candidate.observed with
  | some record, some evidence => record.runtimeEvidence = some evidence ∧
      candidate.classification = if record.nodeEpoch < nodeEpoch then .stale else .valid
  | none, some _ => candidate.classification = .foreign
  | some _, none => candidate.classification = .unknown
  | none, none => False

/-- A match: a record and an observed process. -/
def RecoveryCandidate.matched (candidate : RecoveryCandidate) :
    Option (RuntimeProcessRecord × RuntimeProcessEvidence) :=
  candidate.record.bind fun record => candidate.observed.map fun evidence => (record, evidence)

/-- The candidates partition the observations and the records; they match only equal evidence, and
as much of it as there is on both sides. -/
structure Classified (recovery : RecoveryState) (observed : List RuntimeProcessEvidence)
    (candidates : List RecoveryCandidate) : Prop where
  observed_eq : candidates.filterMap (·.observed) = observed
  records_perm : (candidates.filterMap (·.record)).Perm recovery.runtimeProcesses
  sound : ∀ candidate ∈ candidates, candidate.Sound recovery.nodeEpoch
  matched_eq : (((candidates.filterMap (·.matched)).map fun p => some p.2 :
      List (Option RuntimeProcessEvidence)) : Multiset (Option RuntimeProcessEvidence)) =
    (observed.map some : Multiset _) ∩
      (recovery.runtimeProcesses.map (·.runtimeEvidence) : Multiset _)

theorem observedCandidate_observed : (observedCandidate nodeEpoch p).observed = some p.1 := by
  obtain ⟨current, _ | record⟩ := p <;> rfl

theorem observedCandidate_record : (observedCandidate nodeEpoch p).record = p.2 := by
  obtain ⟨current, _ | record⟩ := p <;> rfl

/-- The match of an observed process. -/
theorem observedCandidate_matched :
    (observedCandidate nodeEpoch p).matched = p.2.map fun record => (record, p.1) := by
  obtain ⟨current, _ | record⟩ := p <;> rfl

theorem observedCandidate_sound {p : RuntimeProcessEvidence × Option RuntimeProcessRecord}
    (h : ∀ record, p.2 = some record → record.runtimeEvidence = some p.1) :
    (observedCandidate nodeEpoch p).Sound nodeEpoch := by
  obtain ⟨current, _ | record⟩ := p
  · rfl
  · exact ⟨h record rfl, rfl⟩

theorem classified (recovery : RecoveryState) (observed : List RuntimeProcessEvidence) :
    Classified recovery observed (classifyRecovery recovery observed) := by
  have hfree := free_start recovery.runtimeProcesses
  unfold classifyRecovery
  generalize recovery.runtimeProcesses.map (fun record => (record, false)) = slots at hfree ⊢
  have hfst := map_fst_assign (·.runtimeEvidence) observed slots
  have hperm := assign_perm (·.runtimeEvidence) observed slots
  have hmatched := coe_matched (·.runtimeEvidence) observed slots
  have hkey : ∀ p ∈ (assign (·.runtimeEvidence) observed slots).1,
      ∀ record, p.2 = some record → record.runtimeEvidence = some p.1 := by
    rintro ⟨current, _⟩ hmem record rfl
    exact key_of_mem_assign hmem
  rw [hfree] at hperm hmatched
  generalize assign (·.runtimeEvidence) observed slots = matching at *
  refine ⟨?_, ?_, fun candidate hmem => ?_, ?_⟩
  · rw [List.filterMap_append, List.filterMap_map, List.filterMap_map, ← hfst]
    simp [observedCandidate_observed]
  · simpa [Function.comp_def, observedCandidate_record] using hperm.symm
  · rcases List.mem_append.1 hmem with hmem | hmem
    · obtain ⟨p, hp, rfl⟩ := List.mem_map.1 hmem
      exact observedCandidate_sound _ (hkey p hp)
    · obtain ⟨record, -, rfl⟩ := List.mem_map.1 hmem
      rfl
  · rw [← hmatched, List.filterMap_append, List.filterMap_map, List.filterMap_map]
    have hunknown : ∀ record, (⟨.unknown, some record, none⟩ : RecoveryCandidate).matched = none :=
      fun _ => rfl
    simp only [Function.comp_def, observedCandidate_matched, hunknown, List.filterMap_none,
      List.append_nil, List.map_filterMap]
    refine congrArg _ (List.filterMap_congr fun p hp => ?_)
    cases hrecord : p.2 with
    | none => rfl
    | some record => simp [hkey p hp record hrecord]

/-! ### What the boundary does -/

/-- The matches with a record of an older epoch. -/
def staleMatches (recovery : RecoveryState) (candidates : List RecoveryCandidate) :
    List (RuntimeProcessRecord × RuntimeProcessEvidence) :=
  candidates.filterMap fun candidate =>
    candidate.matched.filter fun p => p.1.nodeEpoch < recovery.nodeEpoch

/-- The processes were terminated one after the other, each completely, and each termination was
journaled. -/
inductive CleanedUp : List (RuntimeProcessRecord × RuntimeProcessEvidence) → σ → σ → Prop
  | nil (s : σ) : CleanedUp [] s s
  | cons {record : RuntimeProcessRecord} {evidence : RuntimeProcessEvidence}
      {rest : List (RuntimeProcessRecord × RuntimeProcessEvidence)} {cleanup : CleanupReport}
      {s s₁ s₂ s' : σ} (hcleanup : ports.recoverStaleProcess evidence s = .ok cleanup s₁)
      (hcomplete : cleanup.complete = true)
      (happend : ports.append (cleanupRecord nodeId recovery record cleanup) s₁ = .ok () s₂)
      (hrest : CleanedUp rest s₂ s') : CleanedUp ((record, evidence) :: rest) s s'

variable {ports nodeId recovery}

variable {record : RuntimeProcessRecord} {evidence : RuntimeProcessEvidence} {s s' : σ}
  {candidate : RecoveryCandidate}

theorem cleanUp_eq_ok : cleanUp ports nodeId recovery record evidence s = .ok () s' ↔
      ∃ cleanup s₁, ports.recoverStaleProcess evidence s = .ok cleanup s₁ ∧
        cleanup.complete = true ∧
        ports.append (cleanupRecord nodeId recovery record cleanup) s₁ = .ok () s' := by
  simp only [cleanUp, bind_eq_ok, rejectIf_eq_ok, Bool.not_eq_true, Bool.not_eq_false',
    exists_unit, exists_eq_right_right]
  exact exists₂_congr fun _ _ => and_congr_right fun _ => and_comm

theorem cleanedUp_cons {rest : List (RuntimeProcessRecord × RuntimeProcessEvidence)} :
    CleanedUp ports nodeId recovery ((record, evidence) :: rest) s s' ↔
      ∃ s₁, cleanUp ports nodeId recovery record evidence s = .ok () s₁ ∧
        CleanedUp ports nodeId recovery rest s₁ s' := by
  simp only [cleanUp_eq_ok]
  constructor
  · intro h
    cases h with
    | cons hcleanup hcomplete happend hrest =>
      exact ⟨_, ⟨_, _, hcleanup, hcomplete, happend⟩, hrest⟩
  · rintro ⟨s₁, ⟨cleanup, s₀, hcleanup, hcomplete, happend⟩, hrest⟩
    exact .cons hcleanup hcomplete happend hrest

/-- A stale candidate is a match with a record of an older epoch. -/
theorem RecoveryCandidate.Sound.stale {nodeEpoch : Nat} (h : candidate.Sound nodeEpoch)
    (hstale : candidate.classification = .stale) :
    ∃ record evidence, candidate.record = some record ∧ candidate.observed = some evidence ∧
      record.runtimeEvidence = some evidence ∧ record.nodeEpoch < nodeEpoch := by
  obtain ⟨classification, _ | record, _ | evidence⟩ := candidate <;> obtain rfl := hstale
  · exact h.elim
  · exact nomatch h
  · exact nomatch h
  · obtain ⟨hevidence, hepoch⟩ := h
    refine ⟨record, evidence, rfl, rfl, hevidence, ?_⟩
    by_contra hlt
    rw [if_neg hlt] at hepoch
    exact nomatch hepoch

theorem staleMatches_cons {rest : List RecoveryCandidate}
    (hrecord : candidate.record = some record) (hobserved : candidate.observed = some evidence)
    (hepoch : record.nodeEpoch < recovery.nodeEpoch) :
    staleMatches recovery (candidate :: rest) =
      (record, evidence) :: staleMatches recovery rest := by
  simp [staleMatches, RecoveryCandidate.matched, hrecord, hobserved, hepoch, Option.filter]

theorem staleMatches_cons_of_ne {rest : List RecoveryCandidate}
    (h : candidate.Sound recovery.nodeEpoch) (hne : candidate.classification ≠ .stale) :
    staleMatches recovery (candidate :: rest) = staleMatches recovery rest := by
  obtain ⟨classification, _ | record, _ | evidence⟩ := candidate
  · rfl
  · rfl
  · rfl
  · have hepoch : ¬ record.nodeEpoch < recovery.nodeEpoch :=
      fun hlt => hne (h.2.trans (if_pos hlt))
    simp [staleMatches, RecoveryCandidate.matched, hepoch, Option.filter]

theorem settle_eq_ok {candidates : List RecoveryCandidate}
    (hsound : ∀ candidate ∈ candidates, candidate.Sound recovery.nodeEpoch)
    {blocked : Option String} :
    settle ports nodeId recovery blocked candidates s = .ok none s' ↔ blocked = none ∧
      (∀ candidate ∈ candidates, candidate.classification = .stale) ∧
      CleanedUp ports nodeId recovery (staleMatches recovery candidates) s s' := by
  induction candidates generalizing blocked s with
  | nil =>
    rw [settle, pure_eq_ok]
    refine ⟨?_, ?_⟩
    · rintro ⟨rfl, rfl⟩
      exact ⟨rfl, fun _ h => absurd h List.not_mem_nil, .nil s⟩
    · rintro ⟨rfl, -, h⟩
      cases h
      exact ⟨rfl, rfl⟩
  | cons candidate rest ih =>
    have hrest : ∀ c ∈ rest, c.Sound recovery.nodeEpoch :=
      fun c hc => hsound c (List.mem_cons_of_mem _ hc)
    rw [settle]
    cases hclass : candidate.classification with
    | stale =>
      obtain ⟨record, evidence, hrecord, hobserved, -, hepoch⟩ :=
        (hsound candidate List.mem_cons_self).stale hclass
      rw [staleMatches_cons hrecord hobserved hepoch, hrecord, hobserved, okOr_some, okOr_some,
        pure_bind, pure_bind]
      simp only [bind_eq_ok, cleanedUp_cons, ih hrest, List.forall_mem_cons, hclass, true_and]
      constructor
      · rintro ⟨_, s₁, hclean, hblocked, hall, hcleaned⟩
        exact ⟨hblocked, hall, s₁, hclean, hcleaned⟩
      · rintro ⟨hblocked, hall, s₁, hclean, hcleaned⟩
        exact ⟨(), s₁, hclean, hblocked, hall, hcleaned⟩
    | valid | unknown | foreign =>
      simp only [ih hrest, List.forall_mem_cons, hclass, reduceCtorEq, false_and, and_false]

/-- Everything is stale exactly if the observed evidence is that of the records, all of which
belong to older epochs. -/
theorem all_stale_iff (recovery : RecoveryState) (observed : List RuntimeProcessEvidence) :
    (∀ candidate ∈ classifyRecovery recovery observed, candidate.classification = .stale) ↔
      (∀ record ∈ recovery.runtimeProcesses, record.nodeEpoch < recovery.nodeEpoch) ∧
        (observed.map some).Perm (recovery.runtimeProcesses.map (·.runtimeEvidence)) := by
  have h := classified recovery observed
  have hcomplete := assign_complete_iff (·.runtimeEvidence) observed
    (recovery.runtimeProcesses.map fun record => (record, false))
  rw [free_start] at hcomplete
  rw [← hcomplete]
  constructor
  · intro hstale
    have hboth := fun candidate hmem => (h.sound candidate hmem).stale (hstale candidate hmem)
    refine ⟨fun record hmem => ?_, fun p hp => ?_, List.eq_nil_iff_forall_not_mem.2
      fun record hmem => ?_⟩
    · obtain ⟨candidate, hcandidate, hrecord⟩ :=
        List.mem_filterMap.1 (h.records_perm.mem_iff.2 hmem)
      obtain ⟨record', -, hrecord', -, -, hepoch⟩ := hboth candidate hcandidate
      obtain rfl := Option.mem_unique hrecord hrecord'
      exact hepoch
    · obtain ⟨record, -, hrecord, -⟩ := hboth _ (List.mem_append_left _ (List.mem_map_of_mem hp))
      rw [observedCandidate_record] at hrecord
      rw [hrecord]
      rfl
    · exact nomatch hstale _ (List.mem_append_right _ (List.mem_map_of_mem hmem))
  · rintro ⟨holder, hall, hnone⟩ candidate hmem
    have hmem' := hmem
    unfold classifyRecovery at hmem'
    dsimp only at hmem'
    rw [hnone, List.map_nil, List.append_nil, List.mem_map] at hmem'
    obtain ⟨⟨current, record⟩, hp, rfl⟩ := hmem'
    obtain ⟨record, rfl⟩ := Option.isSome_iff_exists.1 (hall _ hp)
    have hrecord : record ∈ recovery.runtimeProcesses :=
      h.records_perm.mem_iff.1 (List.mem_filterMap.2 ⟨_, hmem, rfl⟩)
    exact if_pos (holder record hrecord)

/-! ### What the boundary asks of the sandbox -/

/-- The ports with a log of the processes that the sandbox was asked to terminate. -/
def RestartPorts.logged (ports : RestartPorts σ) :
    RestartPorts (σ × List RuntimeProcessEvidence) where
  discoverRecoveryProcesses :=
    zoom Prod.fst (fun s logged => (s, logged.2)) id ports.discoverRecoveryProcesses
  recoverStaleProcess evidence := do
    modify fun logged => (logged.1, logged.2 ++ [evidence])
    zoom Prod.fst (fun s logged => (s, logged.2)) id (ports.recoverStaleProcess evidence)
  append record := zoom Prod.fst (fun s logged => (s, logged.2)) id (ports.append record)

section Logged

variable {α : Type} {s : σ × List RuntimeProcessEvidence}

/-- What only the outside world does is not logged. -/
theorem ensures_unlogged (m : EStateM ProviderError σ α) :
    Ensures (zoom Prod.fst (fun s logged => (s, logged.2)) id m) s
      (fun a s' => s'.2 = s.2 ∧ ∃ s₁, m s.1 = .ok a s₁) fun _ s' => s'.2 = s.2 := by
  unfold Ensures zoom
  cases m s.1 with
  | ok a s₁ => exact ⟨rfl, s₁, rfl⟩
  | error e s₁ => rfl

theorem ensures_cleanUp_logged (record : RuntimeProcessRecord)
    (evidence : RuntimeProcessEvidence) :
    Ensures (cleanUp ports.logged nodeId recovery record evidence) s
      (fun _ s' => s'.2 = s.2 ++ [evidence]) fun _ s' => s'.2 = s.2 ++ [evidence] := by
  have hrequest : Ensures (ports.logged.recoverStaleProcess evidence) s
      (fun _ s' => s'.2 = s.2 ++ [evidence]) fun _ s' => s'.2 = s.2 ++ [evidence] := by
    exact (ensures_unlogged _).mono (fun _ _ h => h.1) fun _ _ h => h
  refine hrequest.bind fun cleanup s₁ hs₁ => ?_
  rw [← hs₁]
  refine (ensures_unlogged (ports.append _)).bind fun _ s₂ hs₂ => ?_
  rw [ensures_rejectIf]
  exact ⟨fun _ => hs₂.1, fun _ => hs₂.1⟩

/-- The log goes on with a beginning of the stale matches. -/
def Asked (recovery : RecoveryState) (candidates : List RecoveryCandidate)
    (log log' : List RuntimeProcessEvidence) : Prop :=
  ∃ requests, requests <+: (staleMatches recovery candidates).map Prod.snd ∧ log' = log ++ requests

/-- The loop asks for the stale matches, one after the other. -/
theorem ensures_settle_logged {candidates : List RecoveryCandidate}
    (hsound : ∀ candidate ∈ candidates, candidate.Sound recovery.nodeEpoch)
    {blocked : Option String} :
    Ensures (settle ports.logged nodeId recovery blocked candidates) s
      (fun _ s' => Asked recovery candidates s.2 s'.2)
      fun _ s' => Asked recovery candidates s.2 s'.2 := by
  induction candidates generalizing blocked s with
  | nil =>
    exact ⟨[], List.nil_prefix, (List.append_nil _).symm⟩
  | cons candidate rest ih =>
    have hrest : ∀ c ∈ rest, c.Sound recovery.nodeEpoch :=
      fun c hc => hsound c (List.mem_cons_of_mem _ hc)
    rw [settle]
    cases hclass : candidate.classification with
    | stale =>
      obtain ⟨record, evidence, hrecord, hobserved, -, hepoch⟩ :=
        (hsound candidate List.mem_cons_self).stale hclass
      unfold Asked
      rw [staleMatches_cons hrecord hobserved hepoch, hrecord, hobserved, okOr_some, okOr_some,
        pure_bind, pure_bind, List.map_cons]
      refine ((ensures_cleanUp_logged record evidence).mono (fun _ _ h => h) ?_).bind ?_
      · intro _ s' hs'
        exact ⟨[evidence], List.prefix_cons_inj evidence |>.2 List.nil_prefix, hs'⟩
      · intro _ s₁ hs₁
        refine (ih hrest).mono ?_ ?_ <;>
        · rintro _ s' ⟨requests, hbegins, hs'⟩
          refine ⟨evidence :: requests, (List.prefix_cons_inj evidence).2 hbegins, ?_⟩
          rw [hs', hs₁, List.append_assoc, List.singleton_append]
    | valid | unknown | foreign =>
      have hnone : staleMatches recovery (candidate :: rest) = staleMatches recovery rest :=
        staleMatches_cons_of_ne (hsound candidate List.mem_cons_self) (by rw [hclass]; decide)
      unfold Asked
      rw [hnone]
      exact ih hrest

variable (ports nodeId recovery s) in
/-- What the boundary as a whole asks for. -/
theorem finalState_recoverBeforeListeners_logged :
    let s' := finalState (recoverBeforeListeners ports.logged nodeId recovery s)
    s'.2 = s.2 ∨ ∃ observed s₁, ports.discoverRecoveryProcesses s.1 = .ok observed s₁ ∧
      Asked recovery (classifyRecovery recovery observed) s.2 s'.2 := by
  refine Ensures.finalState (P := fun s' : σ × _ => s'.2 = s.2 ∨ ∃ observed s₁,
    ports.discoverRecoveryProcesses s.1 = .ok observed s₁ ∧
      Asked recovery (classifyRecovery recovery observed) s.2 s'.2) ?_
  refine ((ensures_unlogged ports.discoverRecoveryProcesses).mono (fun _ _ h => h)
    fun _ _ h => .inl h).bind ?_
  rintro observed s' ⟨hs', s₁, hobserved⟩
  refine ((ensures_settle_logged (classified recovery observed).sound).mono
    (fun _ _ h => h) ?_).bind
    ?_
  · exact fun _ s'' hasked => .inr ⟨observed, s₁, hobserved, hs' ▸ hasked⟩
  · intro blocked s'' hasked
    cases blocked with
    | none | some reasonCode => exact .inr ⟨observed, s₁, hobserved, hs' ▸ hasked⟩

end Logged

theorem refuse_eq_ok {blocked : Option String} {s s' : σ} :
    refuse blocked s = .ok () s' ↔ blocked = none ∧ s = s' := by
  cases blocked with
  | none =>
    rw [refuse, pure_eq_ok]
    simp
  | some reasonCode => exact iff_of_false (fun h => nomatch h) fun h => nomatch h.1

theorem recoverBeforeListeners_eq_ok {s s' : σ} :
    recoverBeforeListeners ports nodeId recovery s = .ok () s' ↔
      ∃ observed s₁, ports.discoverRecoveryProcesses s = .ok observed s₁ ∧
        (∀ candidate ∈ classifyRecovery recovery observed, candidate.classification = .stale) ∧
        CleanedUp ports nodeId recovery
          (staleMatches recovery (classifyRecovery recovery observed)) s₁ s' := by
  simp only [recoverBeforeListeners, bind_eq_ok, refuse_eq_ok]
  refine exists_congr fun observed => exists_congr fun s₁ => and_congr_right fun _ => ?_
  have hsettle : settle ports nodeId recovery none (classifyRecovery recovery observed) s₁ =
      .ok none s' ↔ _ := settle_eq_ok (classified recovery observed).sound
  simp only [true_and] at hsettle
  rw [← hsettle]
  constructor
  · rintro ⟨_, _, h, rfl, rfl⟩
    exact h
  · exact fun h => ⟨none, s', h, rfl, rfl⟩

/-- A stale match is a record of an older epoch with the evidence that was observed. -/
theorem mem_staleMatches {observed : List RuntimeProcessEvidence}
    {p : RuntimeProcessRecord × RuntimeProcessEvidence}
    (h : p ∈ staleMatches recovery (classifyRecovery recovery observed)) :
    p.1 ∈ recovery.runtimeProcesses ∧ p.1.runtimeEvidence = some p.2 ∧
      p.1.nodeEpoch < recovery.nodeEpoch := by
  obtain ⟨candidate, hcandidate, hp⟩ := List.mem_filterMap.1 h
  rw [Option.filter_eq_some_iff, decide_eq_true_eq, RecoveryCandidate.matched,
    Option.bind_eq_some_iff] at hp
  obtain ⟨⟨record, hrecord, hp⟩, hepoch⟩ := hp
  obtain ⟨evidence, hevidence, rfl⟩ := Option.map_eq_some_iff.1 hp
  have hclassified := classified recovery observed
  have hsound := hclassified.sound candidate hcandidate
  rw [RecoveryCandidate.Sound, hrecord, hevidence] at hsound
  exact ⟨hclassified.records_perm.mem_iff.1 (List.mem_filterMap.2 ⟨candidate, hcandidate, hrecord⟩),
    hsound.1, hepoch⟩

/-- When everything is stale, every record has a match. -/
theorem map_fst_staleMatches {candidates : List RecoveryCandidate}
    (hsound : ∀ candidate ∈ candidates, candidate.Sound recovery.nodeEpoch)
    (hstale : ∀ candidate ∈ candidates, candidate.classification = .stale) :
    (staleMatches recovery candidates).map Prod.fst = candidates.filterMap (·.record) := by
  induction candidates with
  | nil => rfl
  | cons candidate rest ih =>
    obtain ⟨record, evidence, hrecord, hobserved, -, hepoch⟩ :=
      (hsound candidate List.mem_cons_self).stale (hstale candidate List.mem_cons_self)
    rw [staleMatches_cons hrecord hobserved hepoch, List.map_cons,
      List.filterMap_cons_some hrecord, ih (fun c hc => hsound c (List.mem_cons_of_mem _ hc))
        fun c hc => hstale c (List.mem_cons_of_mem _ hc)]

/-- The restart boundary.  The candidates are a maximal matching of observations and records; the
kernel starts exactly if the records are older than its epoch, the observed evidence is theirs, and
every cleanup is complete and journaled; and whatever happens, the sandbox is only asked to
terminate processes that were matched with a record of an older epoch. -/
theorem restartBoundary {σ : Type} (ports : RestartPorts σ) (nodeId : String)
    (recovery : RecoveryState) (s : σ) :
    (∀ observed, Classified recovery observed (classifyRecovery recovery observed)) ∧
    (∀ s', recoverBeforeListeners ports nodeId recovery s = .ok () s' ↔
      ∃ observed s₁, ports.discoverRecoveryProcesses s = .ok observed s₁ ∧
        (∀ record ∈ recovery.runtimeProcesses, record.nodeEpoch < recovery.nodeEpoch) ∧
        (observed.map some).Perm (recovery.runtimeProcesses.map (·.runtimeEvidence)) ∧
        CleanedUp ports nodeId recovery
          (staleMatches recovery (classifyRecovery recovery observed)) s₁ s') ∧
    let requests := (finalState (recoverBeforeListeners ports.logged nodeId recovery (s, []))).2
    requests = [] ∨ ∃ observed s₁, ports.discoverRecoveryProcesses s = .ok observed s₁ ∧
      requests <+: (staleMatches recovery (classifyRecovery recovery observed)).map Prod.snd ∧
      ∀ evidence ∈ requests, ∃ record ∈ recovery.runtimeProcesses,
        record.runtimeEvidence = some evidence ∧ record.nodeEpoch < recovery.nodeEpoch := by
  refine ⟨classified recovery, fun s' => ?_, ?_⟩
  · rw [recoverBeforeListeners_eq_ok]
    simp only [all_stale_iff, and_assoc]
  · rcases finalState_recoverBeforeListeners_logged ports nodeId recovery (s, []) with
      hs' | ⟨observed, s₁, hobserved, requests, hbegins, hs'⟩
    · exact .inl hs'
    · refine .inr ⟨observed, s₁, hobserved, ?_⟩
      rw [hs', List.nil_append]
      refine ⟨hbegins, fun evidence hmem => ?_⟩
      obtain ⟨⟨record, _⟩, hp, rfl⟩ := List.mem_map.1 (hbegins.subset hmem)
      exact ⟨record, mem_staleMatches hp⟩

end Journal

end CyreneKernel
