import CyreneKernel.Maintenance.Processes

/-!
# Maintenance excludes work

Work enters the gate through tasks, reconciliations, runtime admissions and binding operations, and
holds begin in four ways.  While a hold is active no work is stored, and only the holder ends it.

## Main definitions

* `Excludes`: under a hold no work is stored, and its request was not completed.
* `Frees`: the operations that end a hold.

## Main results

* `Emits.hold`: what an operation does to the hold.
* `maintenance_excludes_work`: the exclusion, in every history of the processes.
-/

namespace CyreneKernel.Maintenance

open Lib Lib.Program Relation

/-- No work is stored. -/
structure Idle (s : PersistedState) : Prop where
  tasks : s.tasks = ∅
  runtimeAdmissions : s.runtimeAdmissions = ∅
  bindingOperations : s.bindingOperations = ∅

/-- Under a hold no work is stored, and its request was not completed. -/
def Excludes (s : PersistedState) : Prop :=
  ∀ active, s.maintenance = some active →
    Idle s ∧ s.completedMaintenances.contains active.requestId = false

/-- An operation ends a hold: with its request and token, a healthy report, and an outcome that
its origin allows. -/
def Frees (active : MaintenanceRecord) (op : Operation) : Prop :=
  ∃ outcome, op = .endMaintenance active.requestId active.token outcome true ∧
    (outcome = .success ∨ outcome = .rolledBack ∧ active.origin ≠ .initialSourceActivation)

section Moves

variable {s t : PersistedState} {op : Operation} {event : JournalEvent}

theorem frees_of_unlock {active : MaintenanceRecord} {outcome : MaintenanceOutcome} {healthy : Bool}
    (h : maintenanceEndShouldUnlock active.origin outcome healthy) :
    Frees active (.endMaintenance active.requestId active.token outcome healthy) := by
  obtain ⟨rfl, houtcome⟩ := Bool.and_eq_true_iff.1 h
  refine ⟨outcome, rfl, ?_⟩
  cases horigin : active.origin with
  | initialSourceActivation => exact .inl (by simpa [horigin] using houtcome)
  | standard | coreBootstrap => simpa [horigin] using houtcome

/-- What an operation does to the hold: nothing, or it begins one, or it ends it. -/
theorem Emits.hold (h : Emits s op event) (happly : Applies s event t) :
    (t.maintenance = s.maintenance ∧ t.completedMaintenances = s.completedMaintenances) ∨
    (op.beginsAt = some s.gateGeneration ∧ s.maintenance = none ∧ Excludes t ∧
      t.completedMaintenances = s.completedMaintenances) ∨
    ∃ active completion, s.maintenance = some active ∧ Frees active op ∧ t.maintenance = none ∧
      t.completedMaintenances = s.completedMaintenances.insert active.requestId completion := by
  obtain ⟨-, u, hu, rfl⟩ := applyEntry_eq_ok.1 happly
  cases h with
  | begin hquiet hfresh hop =>
    cases hu
    refine .inr (.inl ⟨hop, hquiet.maintenance, ?_, rfl⟩)
    rintro _ ⟨⟩
    exact ⟨⟨hquiet.tasks, hquiet.runtimeAdmissions, hquiet.bindingOperations⟩, hfresh⟩
  | «end» time hactive =>
    simp only [applyEvent, hactive] at hu
    split_ifs at hu with _ _ hunlocked
    · cases hu
      exact .inr (.inr ⟨_, _, hactive, frees_of_unlock hunlocked, rfl, rfl⟩)
    · cases hu
      exact .inl ⟨hactive.symm, rfl⟩
  | admitBinding _ _ _ _ =>
    simp only [applyEvent] at hu
    split_ifs at hu
    cases hu
    exact .inl ⟨rfl, rfl⟩
  | completeBinding hactive =>
    simp only [applyEvent, hactive, ne_eq, not_true, if_false] at hu
    cases hu
    exact .inl ⟨rfl, rfl⟩
  | _ => cases hu; exact .inl ⟨rfl, rfl⟩

/-- No operation adds work under a hold. -/
theorem Emits.idle (h : Emits s op event) (happly : Applies s event t)
    (hactive : s.maintenance ≠ none) (hs : Idle s) : Idle t := by
  obtain ⟨-, u, hu, rfl⟩ := applyEntry_eq_ok.1 happly
  clear happly
  obtain ⟨htasks, hruntime, hbindings⟩ := hs
  cases h with
  | commitCatalog expected catalog proof written | heartbeat sourceId time
  | reconcileHeartbeat sourceId time => cases hu; exact ⟨htasks, hruntime, hbindings⟩
  | admitTask hold _ | readmitTask hold _ _ => exact absurd hold hactive
  | updateTask hexisting => simp [htasks] at hexisting
  | completeTask hstored => simp [htasks] at hstored
  | @reconcile sourceId activeTasks admissions time hlength hold =>
    cases hu
    -- every task that is reconciled under a hold is stored, so there is none
    have hnil : activeTasks = [] := List.eq_nil_iff_forall_not_mem.2 fun task htask => by
      simpa [htasks] using hold (Option.isSome_iff_ne_none.2 hactive) task htask
    subst hnil
    rw [List.length_eq_zero_iff.1 hlength]
    refine ⟨?_, hruntime, hbindings⟩
    rw [htasks]
    rfl
  | admitBinding hold _ _ _ => exact absurd hold hactive
  | completeBinding hstored => simp [hbindings] at hstored
  | begin hquiet _ _ => exact absurd hquiet.maintenance hactive
  | «end» time hactive =>
    simp only [applyEvent, hactive] at hu
    split_ifs at hu <;> cases hu <;> exact ⟨htasks, hruntime, hbindings⟩
  | reserveRuntime hold => exact absurd hold hactive
  | finishRuntime hstored | clearRecovered hstored => simp [hruntime] at hstored

/-- What a move keeps: the exclusion, the completed requests, and a hold that it does not end. -/
theorem Moves.excludes {label : Option Operation} (h : Moves label s t) (hs : Excludes s) :
    Excludes t ∧
    (∀ id, s.completedMaintenances.contains id → t.completedMaintenances.contains id) ∧
    ∀ active, s.maintenance = some active → Idle t ∧ (t.maintenance = some active ∨
      t.maintenance = none ∧ ∃ op, label = some op ∧ Frees active op) := by
  obtain ⟨m, ⟨generation, sequence, eligible, hm⟩, h⟩ := h
  have hmaintenance : s.maintenance = m.maintenance := by rw [hm]
  have hcompleted : s.completedMaintenances = m.completedMaintenances := by rw [hm]
  have hm : Excludes m := fun active hactive => by
    obtain ⟨hidle, hfresh⟩ := hs active (hmaintenance.trans hactive)
    subst hm
    exact ⟨⟨hidle.tasks, hidle.runtimeAdmissions, hidle.bindingOperations⟩, hfresh⟩
  rw [hmaintenance, hcompleted]
  rcases h with rfl | ⟨op, event, hlabel, hemits, ht⟩
  · exact ⟨hm, fun id hid => hid, fun active hactive => ⟨(hm active hactive).1, .inl hactive⟩⟩
  have hidle (active) (hactive : m.maintenance = some active) : Idle t :=
    hemits.idle ht (by simp [hactive]) (hm active hactive).1
  rcases hemits.hold ht with ⟨hold, hdone⟩ | ⟨-, hnone, ht, hdone⟩ |
    ⟨active, completion, hactive, hfrees, hold, hdone⟩
  · rw [hdone]
    exact ⟨fun active hactive =>
      ⟨hidle active (hold ▸ hactive), hdone ▸ (hm active (hold ▸ hactive)).2⟩,
      fun id hid => hid, fun active hactive => ⟨hidle active hactive, .inl (hold ▸ hactive)⟩⟩
  · rw [hdone]
    exact ⟨ht, fun id hid => hid, fun active hactive => by simp [hnone] at hactive⟩
  · refine ⟨fun active hactive => by simp [hold] at hactive, fun id hid => ?_, ?_⟩
    · rw [hdone, Std.ExtTreeMap.contains_insert, hid, Bool.or_true]
    · intro active' hactive'
      obtain rfl : active = active' := Option.mem_unique hactive hactive'
      exact ⟨hidle active hactive, .inr ⟨hold, op, hlabel, hfrees⟩⟩

end Moves

/-- In every history, a hold of any origin excludes work, is the only one, and ends only as
`Frees` says.  A request that completed does not hold the gate again. -/
theorem maintenance_excludes_work (sha256 : String → String)
    (catalogs : Nat → TrustedActivitySourceCatalog) {w : World}
    (hw : Steps sha256 (fun _ _ => True) { catalogs := catalogs } w) :
    ∃ s, w.disk.contents = .ok s ∧
    (∀ active, s.maintenance = some active → Idle s) ∧
    (∀ label w', Step sha256 w label w' → ∃ t, w'.disk.contents = .ok t ∧
      ∀ active, s.maintenance = some active → Idle t ∧ (t.maintenance = some active ∨
        t.maintenance = none ∧ ∃ op, label = some op ∧ Frees active op)) ∧
    ∀ w', Steps sha256 (fun _ _ => True) w w' → ∃ t, w'.disk.contents = .ok t ∧
      ∀ id, s.completedMaintenances.contains id → t.completedMaintenances.contains id ∧
        ∀ active, t.maintenance = some active → active.requestId ≠ id := by
  have hempty : Excludes {} := fun active hactive => by cases hactive
  obtain ⟨s, hs, hexcludes⟩ := exists_of_steps (R := fun _ t => Excludes t) represents_new hempty
    (fun m t label hm hmove _ => (hmove.excludes hm).1) hw
  refine ⟨s, contents_of_represents hs, fun active hactive => (hexcludes active hactive).1,
    fun label w' hstep => ?_, fun w' hsteps => ?_⟩
  · obtain ⟨t, ht, hmove⟩ := exists_moves_of_step hs hstep
    exact ⟨t, contents_of_represents ht, (hmove.excludes hexcludes).2.2⟩
  · obtain ⟨t, ht, hexcludes', hcompleted⟩ := exists_of_steps
      (R := fun s t => Excludes t ∧ ∀ id, s.completedMaintenances.contains id →
        t.completedMaintenances.contains id) hs ⟨hexcludes, fun id hid => hid⟩
      (fun m t label hm hmove _ => ⟨(hmove.excludes hm.1).1, fun id hid =>
        (hmove.excludes hm.1).2.1 id (hm.2 id hid)⟩) hsteps
    refine ⟨t, contents_of_represents ht, fun id hid => ⟨hcompleted id hid, ?_⟩⟩
    rintro active hactive rfl
    simpa [(hexcludes' active hactive).2] using hcompleted _ hid

/-- A hold that is active excludes work. -/
theorem excludes_work_update :
    let digest := "sha256:" ++ String.ofList (List.replicate 64 'a')
    let w := (sampleWorld.after (.heartbeat "agent")).after (.beginMaintenance "update"
      ⟨"plan", digest, (∅ : BTreeMap String String).insert "core" digest⟩
      ⟨.packageOnly, false, 1, ["agent"]⟩ 0 true)
    ∃ s, w.disk.contents = .ok s ∧ s.maintenance.isSome ∧ Idle s := by
  intro digest w
  obtain ⟨s, hs, hidle, -⟩ := maintenance_excludes_work id sampleWorld.catalogs
    ((steps_after _ _).trans (steps_after _ _) : Steps id _ sampleWorld w)
  have hsome : w.disk.contents.toOption.all (·.maintenance.isSome) := by decide +kernel
  rw [hs] at hsome
  obtain ⟨active, hactive⟩ := Option.isSome_iff_exists.1 hsome
  exact ⟨s, hs, hsome, hidle active hactive⟩

end CyreneKernel.Maintenance
