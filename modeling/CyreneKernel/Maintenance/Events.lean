import CyreneKernel.Maintenance.Holds

/-!
# The events of the operations

What an operation of the gate may append, and under which conditions.  Every property of the gate
is derived from this.

## Main definitions

* `Quiet`: no work is admitted, and no maintenance holds the gate.
* `Emits`: the events that an operation appends in a state.

## Main results

* `emits_of_decide`: an operation appends nothing else.
* `begin_agrees`: both ways to begin maintenance decide the same.
* `Emits.exists_applyEvent`: what an operation appends can be applied.
-/

namespace CyreneKernel.Maintenance

open Lib

/-- No work is admitted, and no maintenance holds the gate. -/
structure Quiet (s : PersistedState) : Prop where
  maintenance : s.maintenance = none
  tasks : s.tasks = ∅
  runtimeAdmissions : s.runtimeAdmissions = ∅
  bindingOperations : s.bindingOperations = ∅

/-- The generation at which an operation wants to begin maintenance. -/
def Operation.beginsAt : Operation → Option Nat
  | .beginMaintenance _ _ _ generation _ | .beginMaintenanceWith _ _ _ generation _
  | .beginCoreBootstrap _ _ _ generation _ _
  | .beginInitialSourceActivation _ _ _ _ _ generation _ => some generation
  | _ => none

/-- The events that an operation appends in a state. -/
inductive Emits (s : PersistedState) : Operation → JournalEvent → Prop
  | commitCatalog (expected : Nat) (catalog : TrustedActivitySourceCatalog)
      (proof : Option MaintenanceHoldProof) (written : Except MaintenanceError Unit) :
      Emits s (.commitCatalog expected catalog proof written)
        (.catalogConfigured catalog.generation)
  | heartbeat (sourceId : String) (time : Nat) :
      Emits s (.heartbeat sourceId) (.sourceHeartbeat sourceId time)
  | admitTask {sourceId taskId : String} {state : TaskActivityState} {admission : TaskAdmission}
      (hold : s.maintenance = none) (hgeneration : admission.gateGeneration = s.nextGeneration) :
      Emits s (.admitTask sourceId taskId state) (.taskAdmitted admission)
  | readmitTask {sourceId taskId : String} {state : TaskActivityState} {existing : TaskAdmission}
      (hold : s.maintenance = none) (hexisting : s.tasks[taskKey sourceId taskId]? = some existing)
      (hne : state ≠ existing.state) :
      Emits s (.admitTask sourceId taskId state) (.taskUpdated { existing with state := state })
  | updateTask {sourceId taskId : String} {state : TaskActivityState} {existing : TaskAdmission}
      (hexisting : s.tasks[taskKey sourceId taskId]? = some existing) :
      Emits s (.updateTask sourceId taskId state) (.taskUpdated
        { existing with state := state, gateGeneration := s.nextGeneration })
  | completeTask {sourceId taskId : String} (hstored : s.tasks.contains (taskKey sourceId taskId)) :
      Emits s (.completeTask sourceId taskId) (.taskCompleted sourceId taskId)
  | reconcileHeartbeat (sourceId : String) (time : Nat) :
      Emits s (.reconcile sourceId []) (.sourceHeartbeat sourceId time)
  | reconcile {sourceId : String} {activeTasks : List TaskActivityRecord}
      {admissions : List TaskAdmission} (time : Nat)
      (hlength : admissions.length = activeTasks.length)
      (hold : s.maintenance.isSome → ∀ task ∈ activeTasks,
        s.tasks.contains (taskKey sourceId task.taskId)) :
      Emits s (.reconcile sourceId activeTasks) (.tasksReconciled sourceId admissions time)
  | admitBinding {requestId : String} {caller : BindingOperationCaller}
      {scope : BindingOperationScope} {record : BindingOperationRecord}
      (hold : s.maintenance = none) (hid : record.requestId = requestId)
      (hfresh : s.bindingOperations[requestId]? = none)
      (hcompleted : s.completedBindingOperations[requestId]? = none) :
      Emits s (.admitBinding requestId caller scope) (.bindingOperationAdmitted record)
  | completeBinding {caller : BindingOperationCaller} {scope : BindingOperationScope}
      {token : String} {record : BindingOperationRecord}
      (hactive : s.bindingOperations[record.requestId]? = some record) :
      Emits s (.completeBinding record.requestId caller scope token)
        (.bindingOperationCompleted record)
  | begin {op : Operation} {record : MaintenanceRecord} (hquiet : Quiet s)
      (hfresh : s.completedMaintenances.contains record.requestId = false)
      (hop : op.beginsAt = some s.gateGeneration) : Emits s op (.maintenanceBegan record)
  | end {active : MaintenanceRecord} {outcome : MaintenanceOutcome} {healthy : Bool} (time : Nat)
      (hactive : s.maintenance = some active) :
      Emits s (.endMaintenance active.requestId active.token outcome healthy)
        (.maintenanceEnded active.requestId active.token outcome healthy
          (maintenanceEndShouldUnlock active.origin outcome healthy) time)
  | reserveRuntime {token actionName : String} (hold : s.maintenance = none) :
      Emits s (.reserveRuntime token actionName) (.runtimeAdmissionStarted token actionName)
  | finishRuntime {token : String} (hstored : s.runtimeAdmissions.contains token) :
      Emits s (.finishRuntime token) (.runtimeAdmissionEnded token)
  | clearRecovered (hstored : s.runtimeAdmissions.isEmpty = false) :
      Emits s .clearRecovered .runtimeAdmissionsRecovered

/-! ### Readiness -/

theorem tasks_eq_empty_of_activeTasksFor {s : PersistedState} (h : activeTasksFor s none = []) :
    s.tasks = ∅ := by
  rw [← Std.ExtTreeMap.toList_eq_nil_iff]
  cases htasks : s.tasks.toList with
  | nil => rfl
  | cons entry rest =>
    rw [activeTasksFor, htasks, List.map_cons, List.filterMap_cons] at h
    simp at h

theorem quiet_of_readinessStatus {s : PersistedState} {sample : Sample}
    {request : ReadinessRequest} {usage : RuntimeUsage}
    (h : (readinessStatus s sample request usage).1 = .ready) : Quiet s := by
  simp only [readinessStatus] at h
  split_ifs at h with _ hmaintenance _ htasks hbindings
  obtain ⟨hactive, hadmissions⟩ := List.append_eq_nil_iff.1 (not_not.1 htasks)
  exact {
    maintenance := Option.not_isSome_iff_eq_none.1 hmaintenance
    tasks := tasks_eq_empty_of_activeTasksFor hactive
    runtimeAdmissions :=
      Std.ExtTreeMap.toList_eq_nil_iff.1 (List.map_eq_nil_iff.1 hadmissions)
    bindingOperations := Std.ExtTreeMap.toList_eq_nil_iff.1 (not_not.1 hbindings) }

/-! ### What is appended -/

section Decisions

variable {sha256 : String → String} {s : PersistedState} {sample : Sample} {event : JournalEvent}
  {answer : PersistedState → Answer}

variable {sourceId taskId requestId : String} {plan : MaintenancePlan} {request : ReadinessRequest}
  {generation : Nat} {confirmed : Bool}

/-- All that a decision appends, if one is made, is as `P` says. -/
def Adds (P : JournalEvent → Prop) (decided : Except MaintenanceError Decision) : Prop :=
  ∀ event answer, decided = .ok (.append event answer) → P event

section Adds

variable {P : JournalEvent → Prop}

theorem adds_bind {α : Type} {x : Except MaintenanceError α}
    {f : α → Except MaintenanceError Decision} :
    Adds P (x >>= f) ↔ ∀ a, x = .ok a → Adds P (f a) := by
  simp only [Adds, except_bind_eq_ok]
  constructor
  · exact fun h a ha event answer hf => h event answer ⟨a, ha, hf⟩
  · exact fun h event answer ⟨a, ha, hf⟩ => h a ha event answer hf

theorem adds_append : Adds P (pure (.append event answer)) ↔ P event := by
  constructor
  · exact fun h => h event answer rfl
  · intro hP _ _ heq
    obtain ⟨rfl, -⟩ := Decision.append.inj (Except.ok.inj heq)
    exact hP

theorem adds_answer (answer : Answer) : Adds P (pure (.answer answer)) := by
  rintro _ _ ⟨⟩

end Adds

theorem emits_heartbeat :
    Adds (Emits s (.heartbeat sourceId)) (heartbeatActivitySource sample sourceId) := by
  simp only [heartbeatActivitySource, adds_bind, adds_append]
  exact fun _ _ => .heartbeat sourceId sample.now

theorem emits_admitTask {state : TaskActivityState} :
    Adds (Emits s (.admitTask sourceId taskId state))
      (admitTask s sample sourceId taskId state) := by
  simp only [admitTask, adds_bind, failIf_eq_ok]
  intro _ _ _ hold _ _
  have hold := Option.not_isSome_iff_eq_none.1 hold
  split
  · next existing hexisting =>
    split_ifs with hne
    · exact adds_append.2 (.readmitTask hold hexisting hne)
    · exact adds_answer _
  · exact adds_append.2 (.admitTask hold rfl)

theorem emits_updateTask {state : TaskActivityState} :
    Adds (Emits s (.updateTask sourceId taskId state))
      (updateTaskActivity s sample sourceId taskId state) := by
  simp only [updateTaskActivity, adds_bind, foundOr_eq_ok, adds_append]
  exact fun _ _ existing hexisting => .updateTask hexisting

theorem emits_completeTask :
    Adds (Emits s (.completeTask sourceId taskId)) (completeTask s sample sourceId taskId) := by
  simp only [completeTask, adds_bind]
  intro _ _
  split_ifs with hstored
  · exact adds_append.2 (.completeTask hstored)
  · exact adds_answer _

theorem emits_reconcile {activeTasks : List TaskActivityRecord} :
    Adds (Emits s (.reconcile sourceId activeTasks))
      (reconcileActivitySource s sample sourceId activeTasks) := by
  simp only [reconcileActivitySource, adds_bind, failIf_eq_ok]
  intro _ _ _ hold
  split_ifs with hnone
  · obtain ⟨rfl, -⟩ := hnone
    exact adds_append.2 (.reconcileHeartbeat sourceId sample.now)
  · refine adds_append.2 (.reconcile _ (by simp) fun hsome task htask => ?_)
    by_contra hmissing
    exact hold ⟨hsome, task, htask, Bool.eq_false_iff.2 hmissing⟩

theorem emits_admitBinding {caller : BindingOperationCaller} {scope : BindingOperationScope} :
    Adds (Emits s (.admitBinding requestId caller scope))
      (admitBindingOperation sha256 s sample requestId caller scope) := by
  simp only [admitBindingOperation, adds_bind]
  intro _ _
  split
  · simp only [adds_bind, adds_answer, implies_true]
  · simp only [adds_bind, adds_answer, implies_true]
  · next hfresh hcompleted =>
    simp only [adds_bind, failIf_eq_ok, adds_append]
    intro _ _ _ hold
    exact .admitBinding (Option.not_isSome_iff_eq_none.1 hold) rfl hfresh hcompleted

theorem emits_completeBinding {token : String} {caller : BindingOperationCaller}
    {scope : BindingOperationScope} :
    Adds (Emits s (.completeBinding requestId caller scope token))
      (completeBindingOperation sha256 s sample requestId caller scope token) := by
  simp only [completeBindingOperation, adds_bind]
  intro _ _
  split
  · simp only [adds_bind, adds_answer, implies_true]
  · rintro _ _ ⟨⟩
  · next active _ hactive =>
    simp only [adds_bind, failIf_eq_ok, adds_append, not_or, sameBindingOperation,
      Bool.decide_and, Bool.not_eq_false, Bool.and_eq_true, decide_eq_true_eq]
    rintro _ ⟨⟨rfl, -⟩, -⟩
    exact .completeBinding hactive

/-- A hold that a snapshot allows begins at its generation, in a quiet state. -/
theorem emits_holdWhenReady {op : Operation} {usage : RuntimeUsage}
    (hfresh : s.completedMaintenances.contains requestId = false)
    (hop : op.beginsAt = some generation) :
    Adds (Emits s op) (pure (holdWhenReady sample requestId plan request generation confirmed
      (readinessSnapshot s sample request usage))) := by
  intro event answer h
  have h := except_pure_eq_ok.1 h
  unfold holdWhenReady at h
  split_ifs at h with hgeneration hstatus _
  · cases h
  · cases h
  · cases h
  · obtain ⟨rfl, -⟩ := Decision.append.inj h
    obtain rfl := not_not.1 hgeneration
    exact .begin (quiet_of_readinessStatus (not_not.1 hstatus)) hfresh hop

/-- A request that goes on behind the replays was not completed, and did not append yet. -/
theorem of_standardReplay {replay : Option Decision}
    (h : standardReplay s requestId plan request confirmed = .ok replay) :
    (replay = none ∧ s.completedMaintenances.contains requestId = false) ∨
      ∃ existing, s.maintenance = some existing ∧ replay = some (alreadyBegun s existing) := by
  unfold standardReplay at h
  split at h
  · next existing hactive =>
    split_ifs at h
    · simp only [except_bind_eq_ok, except_pure_eq_ok] at h
      obtain ⟨-, -, rfl⟩ := h
      exact .inr ⟨existing, hactive, rfl⟩
    · simp only [except_bind_eq_ok, failIf_eq_ok, except_pure_eq_ok] at h
      obtain ⟨-, hfresh, rfl⟩ := h
      exact .inl ⟨rfl, Bool.eq_false_iff.2 hfresh⟩
  · simp only [except_bind_eq_ok, failIf_eq_ok, except_pure_eq_ok] at h
    obtain ⟨-, hfresh, rfl⟩ := h
    exact .inl ⟨rfl, Bool.eq_false_iff.2 hfresh⟩

theorem emits_beginMaintenance :
    Adds (Emits s (.beginMaintenance requestId plan request generation confirmed))
      (beginMaintenance s sample requestId plan request generation confirmed) := by
  simp only [beginMaintenance, adds_bind]
  intro replay hreplay
  rcases of_standardReplay hreplay with ⟨rfl, hfresh⟩ | ⟨existing, -, rfl⟩
  · exact emits_holdWhenReady hfresh rfl
  · exact adds_answer _

theorem emits_beginMaintenanceWith :
    Adds (Emits s (.beginMaintenanceWith requestId plan request generation confirmed))
      (beginMaintenanceWith s sample requestId plan request generation confirmed) := by
  simp only [beginMaintenanceWith, adds_bind]
  intro replay hreplay
  rcases of_standardReplay hreplay with ⟨rfl, hfresh⟩ | ⟨existing, -, rfl⟩
  · dsimp only
    split
    · exact adds_answer _
    · exact emits_holdWhenReady hfresh rfl
  · exact adds_answer _

/-! ### The two ways to begin maintenance -/

/-- Two decisions about a hold agree: both begin it, with one record but for the token, both find
the one that is active, or none of them appends an event or answers with a token. -/
inductive SameBegin (s : PersistedState) :
    Except MaintenanceError Decision → Except MaintenanceError Decision → Prop
  | held (record : MaintenanceRecord) (token : String) :
      SameBegin s
        (.ok (.append (.maintenanceBegan record) fun after =>
          .begun ⟨.maintenanceActive, some record.token, after.gateGeneration, []⟩))
        (.ok (.append (.maintenanceBegan { record with token := token }) fun after =>
          .begun ⟨.maintenanceActive, some token, after.gateGeneration, []⟩))
  | replayed {existing : MaintenanceRecord} (hactive : s.maintenance = some existing) :
      SameBegin s (.ok (alreadyBegun s existing)) (.ok (alreadyBegun s existing))
  | refused (status status' : ReadinessStatus) (generation generation' : Nat)
      (codes codes' : List String) :
      SameBegin s (.ok (notBegun status generation codes))
        (.ok (notBegun status' generation' codes'))
  | failed (error : MaintenanceError) : SameBegin s (.error error) (.error error)

/-- The usage of the runtime changes the status only if its lack is all that blocks the request. -/
theorem status_or_unknown (s : PersistedState) (sample : Sample) (request : ReadinessRequest)
    (usage : RuntimeUsage) :
    (readinessSnapshot s sample request usage).status =
        (readinessSnapshot s sample request {}).status ∨
      (readinessSnapshot s sample request {}).status = .unknown ∧
        (readinessSnapshot s sample request {}).blockerCodes = ["RUNTIME_ACTIVITY_UNKNOWN"] := by
  by_cases hcore : request.targetKind = .coreRuntime
  · simp only [readinessSnapshot, readinessStatus, hcore, and_true, true_and, if_true]
    -- the tests before the one of the usage do not depend on it
    split
    · exact .inl rfl
    · split
      · exact .inl rfl
      · next hnone =>
        rw [Option.not_isSome_iff_eq_none.1 hnone]
        exact .inr ⟨rfl, rfl⟩
  · exact .inl (by simp only [readinessSnapshot, readinessStatus, hcore, and_false, false_and,
      if_false])

/-- Snapshots of one generation, both of them ready or none, lead to the same hold. -/
theorem sameBegin_holdWhenReady {snapshot snapshot' : ReadinessSnapshot} (uuid : Nat → String)
    (hgeneration : snapshot'.gateGeneration = snapshot.gateGeneration)
    (hstatus : snapshot'.status = .ready ↔ snapshot.status = .ready) :
    SameBegin s
      (.ok (holdWhenReady sample requestId plan request generation confirmed snapshot))
      (.ok (holdWhenReady { sample with uuid := uuid } requestId plan request generation confirmed
        snapshot')) := by
  simp only [holdWhenReady, hgeneration, ne_eq, hstatus]
  split_ifs
  · exact .refused ..
  · exact .held ..
  · exact .refused ..
  · exact .refused ..

/-- Maintenance begins the same way whether the usage of the runtime is given or asked for. -/
theorem begin_agrees (sha256 : String → String) (s : PersistedState) (sample : Sample)
    (uuid : Nat → String) (requestId : String) (plan : MaintenancePlan)
    (request : ReadinessRequest) (generation : Nat) (confirmed : Bool) :
    (Operation.beginMaintenance requestId plan request generation confirmed).precheck =
      (Operation.beginMaintenanceWith requestId plan request generation confirmed).precheck ∧
    SameBegin s
      ((Operation.beginMaintenance requestId plan request generation confirmed).decide sha256 s
        sample)
      ((Operation.beginMaintenanceWith requestId plan request generation confirmed).decide sha256 s
        { sample with uuid := uuid }) := by
  refine ⟨rfl, ?_⟩
  simp only [Operation.decide, beginMaintenance, beginMaintenanceWith]
  cases hreplay : standardReplay s requestId plan request confirmed with
  | error error => exact .failed error
  | ok replay =>
    rcases of_standardReplay hreplay with ⟨rfl, -⟩ | ⟨existing, hactive, rfl⟩
    · have husage := status_or_unknown s sample request sample.usage
      change SameBegin s (.ok _) _
      split
      · next hblocked =>
        have hready : (readinessSnapshot s sample request sample.usage).status ≠ .ready :=
          fun h => hblocked.1 ((husage.resolve_right hblocked.2).symm.trans h)
        rw [holdWhenReady, if_pos hready]
        split
        · exact .refused ..
        · exact .refused ..
      · refine sameBegin_holdWhenReady uuid rfl ?_
        split
        · exact Iff.rfl
        · next hfacts =>
          rw [husage.resolve_right hfacts]
          exact Iff.rfl
    · exact .replayed hactive

/-- Both begin an update of the core runtime, each with a token of its own. -/
example :
    let request : ReadinessRequest := ⟨.coreRuntime, false, 0, []⟩
    let plan : MaintenancePlan := ⟨"plan", "digest", ∅⟩
    let sample (token : String) : Sample :=
      ⟨⟨1, 0, []⟩, 60000, 0, 0, fun _ => token, { known := true }⟩
    let begun (decision : Except MaintenanceError Decision) : Option String :=
      match decision with
      | .ok (.append (.maintenanceBegan record) _) => some record.token
      | _ => none
    begun ((Operation.beginMaintenance "update" plan request 0 false).decide id {} (sample "a")) =
        some "a" ∧
      begun ((Operation.beginMaintenanceWith "update" plan request 0 false).decide id {}
        (sample "b")) = some "b" := by
  decide +kernel

/-- Work that none of the checks of a first hold found. -/
theorem quiet_of_isEmpty (hold : s.maintenance = none) (htasks : ¬ s.tasks.isEmpty = false)
    (hruntime : ¬ s.runtimeAdmissions.isEmpty = false)
    (hbindings : ¬ s.bindingOperations.isEmpty = false) : Quiet s where
  maintenance := hold
  tasks := Std.ExtTreeMap.isEmpty_iff.1 (Bool.not_eq_false _ ▸ htasks)
  runtimeAdmissions := Std.ExtTreeMap.isEmpty_iff.1 (Bool.not_eq_false _ ▸ hruntime)
  bindingOperations := Std.ExtTreeMap.isEmpty_iff.1 (Bool.not_eq_false _ ▸ hbindings)

theorem emits_beginCoreBootstrap {sourceRef : Option InitialSourceArtifactRef} :
    Adds (Emits s (.beginCoreBootstrap requestId plan request generation confirmed sourceRef))
      (beginCoreBootstrap s sample requestId plan request generation sourceRef) := by
  simp only [beginCoreBootstrap, adds_bind]
  intro _ _
  split
  · simp only [adds_bind, alreadyBegun, adds_answer, implies_true]
  · next hold =>
    simp only [adds_bind, failIf_eq_ok, not_or]
    rintro _ hfresh _ ⟨-, -, htasks, hruntime, hbindings, -⟩ _ _ _ _ _ hgeneration
    exact adds_append.2 (.begin (quiet_of_isEmpty hold htasks hruntime hbindings)
      (Bool.eq_false_iff.2 hfresh) (congrArg some (not_not.1 hgeneration).symm))

theorem emits_beginInitialSourceActivation {parentRequestId : String} :
    Adds (Emits s (.beginInitialSourceActivation requestId parentRequestId sourceId plan request
        generation confirmed))
      (beginInitialSourceActivation s sample requestId parentRequestId sourceId plan request
        generation) := by
  simp only [beginInitialSourceActivation, adds_bind]
  intro _ _ _ _ _ _ _ _ _ _ _ _ _ _
  split
  · simp only [adds_bind, alreadyBegun, adds_answer, implies_true]
  · next hold =>
    simp only [adds_bind, failIf_eq_ok, not_or]
    rintro _ hfresh _ ⟨-, htasks, hruntime, hbindings, -⟩ _ _
    split_ifs with hgeneration _ _
    · exact adds_answer _
    · exact adds_answer _
    · exact adds_answer _
    · exact adds_append.2 (.begin (quiet_of_isEmpty hold htasks hruntime hbindings)
        (Bool.eq_false_iff.2 hfresh) (congrArg some (not_not.1 hgeneration).symm))

theorem emits_endMaintenance {token : String} {outcome : MaintenanceOutcome} {healthy : Bool} :
    Adds (Emits s (.endMaintenance requestId token outcome healthy))
      (endMaintenance s sample requestId token outcome healthy) := by
  unfold endMaintenance
  split
  · simp only [adds_bind, adds_answer, implies_true]
  · rintro _ _ ⟨⟩
  · next active _ hactive =>
    simp only [adds_bind, failIf_eq_ok, not_or, not_not]
    rintro _ ⟨rfl, rfl⟩
    split_ifs
    · simp only [adds_bind, adds_append]
      exact fun _ _ => .end _ hactive
    · exact adds_append.2 (.end _ hactive)

/-- An operation appends only the events that `Emits` lists. -/
theorem emits_of_decide {op : Operation}
    (h : op.decide sha256 s sample = .ok (.append event answer)) : Emits s op event := by
  suffices hall : Adds (Emits s op) (op.decide sha256 s sample) from hall event answer h
  cases op with
  | commitCatalog expected catalog proof written =>
    simp only [Operation.decide, commitActivitySourceCatalog, adds_bind, adds_append]
    intros
    exact .commitCatalog expected catalog proof written
  | heartbeat => exact emits_heartbeat
  | admitTask => exact emits_admitTask
  | updateTask => exact emits_updateTask
  | completeTask => exact emits_completeTask
  | refresh | currentGateGeneration | coreBootstrapEligible | readiness | readinessWith =>
    exact adds_answer _
  | listActiveTasks =>
    simp only [Operation.decide, adds_bind, adds_answer, implies_true]
  | reconcile => exact emits_reconcile
  | admitBinding => exact emits_admitBinding
  | completeBinding => exact emits_completeBinding
  | beginMaintenance => exact emits_beginMaintenance
  | beginMaintenanceWith => exact emits_beginMaintenanceWith
  | beginCoreBootstrap => exact emits_beginCoreBootstrap
  | beginInitialSourceActivation =>
    simp only [Operation.decide]
    split_ifs
    · exact adds_answer _
    · exact emits_beginInitialSourceActivation
  | endMaintenance => exact emits_endMaintenance
  | validateHold =>
    simp only [Operation.decide, validateMaintenanceHold, adds_bind, adds_answer,
      implies_true]
  | reserveRuntime =>
    simp only [Operation.decide, reserveRuntimeAdmission, adds_bind, failIf_eq_ok,
      adds_append]
    exact fun _ hold => .reserveRuntime (Option.not_isSome_iff_eq_none.1 hold)
  | finishRuntime token =>
    simp only [Operation.decide, finishRuntimeAdmission]
    split_ifs with hstored
    · exact adds_append.2 (.finishRuntime hstored)
    · exact adds_answer _
  | clearRecovered =>
    simp only [Operation.decide, clearRecoveredRuntimeAdmissions]
    split_ifs with hstored
    · exact adds_answer _
    · exact adds_append.2 (.clearRecovered (Bool.eq_false_iff.2 hstored))

end Decisions

/-! ### What is appended can be applied -/

/-- What an operation appends in a state can be applied to it. -/
theorem Emits.exists_applyEvent {s : PersistedState} {op : Operation} {event : JournalEvent}
    (h : Emits s op event) (eligible : Bool) :
    ∃ t, applyEvent { s with coreBootstrapEligible := eligible } event = .ok t := by
  cases h with
  | admitBinding _ hid hfresh hcompleted =>
    refine ⟨_, if_neg ?_⟩
    subst hid
    simp [Std.ExtTreeMap.contains_eq_isSome_getElem?, hfresh, hcompleted]
  | completeBinding hactive =>
    simp only [applyEvent, hactive, ne_eq, not_true, if_false]
    exact ⟨_, rfl⟩
  | @«end» active outcome healthy time hactive =>
    simp only [applyEvent, hactive, ne_eq, not_true, or_self, if_false]
    split_ifs
    · exact ⟨_, rfl⟩
    · exact ⟨_, rfl⟩
  | _ => exact ⟨_, rfl⟩

end CyreneKernel.Maintenance
