import CyreneKernel.Session.Service

/-!
# What the control plane does not forget

Two maps of the registry are never cut back: the highest epoch of a node, and the evidence of
terminations.  A new process starts from a version of the store that may be older than what was in
memory, but no version is behind one that was saved with success.

## Main definitions

* `Registry.Extends`: a registry has what another one has in these maps.
* `Core.Retains`: neither the memory nor a version of the store is behind a registry.

## Main results

* `Core.keeps_step`: every section and every restart keeps what is retained.
* `saved_retained`: once the registry is saved, it is retained in every run.
* `older_host_refused`: an admitted host shuts out the older ones of its node for good.
-/

namespace CyreneKernel.Session

open Lib Control

/-! ### The order of registries -/

/-- The later registry has no lower epoch and the same evidence. -/
structure Registry.Extends (before after : Registry) : Prop where
  epochs : BTreeMap.Evolves (· ≤ ·) before.highestNodeEpochs after.highestNodeEpochs
  terminals : BTreeMap.Evolves Eq before.terminalObservations after.terminalObservations

namespace Registry

variable {a b c : Registry}

theorem Extends.of_eq (hepochs : b.highestNodeEpochs = a.highestNodeEpochs)
    (hterminals : b.terminalObservations = a.terminalObservations) : a.Extends b where
  epochs := hepochs ▸ .refl (fun _ => le_rfl) _
  terminals := hterminals ▸ .refl (fun _ => rfl) _

theorem Extends.trans (h : a.Extends b) (h' : b.Extends c) : a.Extends c where
  epochs := h.epochs.trans le_trans h'.epochs
  terminals := h.terminals.trans Eq.trans h'.terminals

theorem extends_admitNodeEpoch {node : NodeKey} {evicted : List String}
    (h : a.admitNodeEpoch node = .ok (evicted, b)) :
    a.Extends b ∧ b.highestNodeEpochs[node.nodeId]? = some node.nodeEpoch := by
  simp only [admitNodeEpoch, checkNodeEpoch, except_bind_eq_ok, failIf_eq_ok] at h
  obtain ⟨_, hepoch, h⟩ := h
  split at h <;> obtain ⟨-, rfl⟩ := Prod.mk.inj (except_pure_eq_ok.1 h)
  · next hhighest => exact ⟨.of_eq rfl rfl, hhighest⟩
  · refine ⟨⟨.insert (fun _ => le_rfl) fun hstored => ?_, .refl (fun _ => rfl) _⟩, ?_⟩
    · exact not_lt.1 fun hlt => hepoch ⟨_, hstored, hlt⟩
    · exact Std.ExtTreeMap.getElem?_insert_self

/-- A snapshot that can be restored has the two maps as they were. -/
theorem extends_restore {snapshot : Snapshot} (hsnapshot : a.snapshot = .ok snapshot)
    (hrestore : restore snapshot = .ok b) : a.Extends b := by
  simp only [Registry.snapshot, except_bind_eq_ok, except_pure_eq_ok] at hsnapshot
  obtain ⟨_, -, rfl⟩ := hsnapshot
  simp only [restore, except_bind_eq_ok, except_pure_eq_ok] at hrestore
  obtain ⟨_, -, _, hepochs, _, -, _, -, _, -, _, -, _, hterminals, rfl⟩ := hrestore
  rw [← List.map_id a.highestNodeEpochs.toList] at hepochs
  refine .of_eq (collect_toList (fun h => ?_) hepochs) (collect_toList (fun h => ?_) hterminals)
  · simp only [restoreEpoch, except_bind_eq_ok, except_pure_eq_ok] at h
    exact h.choose_spec.2.symm
  · simp only [restoreTerminal, except_bind_eq_ok, except_pure_eq_ok] at h
    obtain ⟨_, -, _, -, rfl⟩ := h
    rfl

end Registry

/-! ### Sections -/

namespace Core

/-- What the registry `floor` has is in memory, and in whatever a new process may load. -/
structure Retains (floor : Registry) (core : Core) : Prop where
  registry : floor.Extends core.registry
  versions : ∀ version ∈ core.store.versions, ∀ loaded, Registry.load version = .ok loaded →
    floor.Extends loaded

/-- What is retained before is retained after. -/
def Keeps (core after : Core) : Prop := ∀ ⦃floor⦄, Retains floor core → Retains floor after

variable {core after : Core} {usable : String → Bool} {input : Input}

theorem Keeps.refl (core : Core) : Keeps core core := fun _ => id

theorem keeps_of_extends (h : core.registry.Extends after.registry)
    (hstore : after.store = core.store) : Keeps core after :=
  fun _ hfloor => ⟨hfloor.registry.trans h, hstore ▸ hfloor.versions⟩

/-- A section that writes neither of the maps and does not save. -/
theorem keeps_of_eq
    (hepochs : after.registry.highestNodeEpochs = core.registry.highestNodeEpochs)
    (hterminals : after.registry.terminalObservations = core.registry.terminalObservations)
    (hstore : after.store = core.store) : Keeps core after :=
  keeps_of_extends (.of_eq hepochs hterminals) hstore

theorem keeps_persistRegistry (outcome : SaveOutcome) (h : Keeps core after) :
    Keeps core (after.persistRegistry outcome).2 := by
  intro floor hfloor
  have hfloor := h hfloor
  unfold persistRegistry
  split
  · exact hfloor
  · next snapshot hsnapshot =>
    refine ⟨hfloor.registry, fun version hversion loaded hload => ?_⟩
    have hnew : version ∈ after.store.versions ∨ version = some snapshot := by
      cases outcome <;> simp_all [SessionStore.save, SessionStore.versions, or_assoc]
    obtain hold | rfl := hnew
    · exact hfloor.versions version hold loaded hload
    · exact hfloor.registry.trans (Registry.extends_restore hsnapshot hload)

theorem keeps_persistThen {α : Type} {next : Core → α × Core} (outcome : SaveOutcome)
    (h : Keeps core after) (hnext : ∀ core : Core, Keeps core (next core).2) :
    Keeps core (after.persistThen outcome next).2 := by
  have hsaved := keeps_persistRegistry outcome h
  unfold persistThen
  split
  · next hresult => rwa [hresult] at hsaved
  · next hresult =>
    rw [hresult] at hsaved
    exact fun _ hfloor => hnext _ (hsaved hfloor)

theorem keeps_commitHost (key : NodeKey) (presented sessionId resumeToken : String) :
    Keeps core (core.commitHost input key presented sessionId resumeToken).2 := by
  unfold commitHost
  split
  · exact .refl core
  split
  · exact .refl core
  · next hadmit =>
    refine keeps_persistThen _ (keeps_of_extends ?_ rfl) fun _ => keeps_of_eq rfl rfl rfl
    exact (Registry.extends_admitNodeEpoch hadmit).1.trans (.of_eq rfl rfl)

theorem keeps_recordTerminal (identity : SessionIdentity) (observation : RuntimeObservation) :
    Keeps core (core.recordTerminal input identity observation).2 := by
  unfold recordTerminal
  repeat' split
  all_goals try exact .refl core
  next hnone =>
    refine keeps_persistRegistry _ (keeps_of_extends ⟨.refl (fun _ => le_rfl) _,
      .insert (fun _ => rfl) fun hstored => ?_⟩ rfl)
    rw [hnone] at hstored
    cases hstored

theorem keeps_reserveEnrollment (key : RuntimeKey) (pending : PendingRuntimeEnrollment) :
    Keeps core (core.reserveEnrollment input key pending).2 := by
  unfold reserveEnrollment
  split
  · exact .refl core
  · exact keeps_persistRegistry _ (keeps_of_eq rfl rfl rfl)

theorem keeps_commitRuntime (key : RuntimeKey) (proofDigest : Option String)
    (grant : EnrollmentGrant) (resumeToken : String) (session : RuntimeSession) :
    Keeps core (core.commitRuntime usable input key proofDigest grant resumeToken session).2 := by
  unfold commitRuntime
  split
  · exact .refl core
  · exact keeps_persistThen _ (keeps_of_eq rfl rfl rfl) .refl

theorem keeps_finishPreparation (grant : EnrollmentGrant) (h : Keeps core after) :
    Keeps core (after.finishPreparation input grant).2 := by
  unfold finishPreparation
  split
  · exact h
  · exact keeps_persistThen _ h .refl

theorem keeps_prepareWorkload (key : RuntimeKey) (scope : RuntimeScope) (proofDigest : String) :
    Keeps core (core.prepareWorkload usable input key scope proofDigest).2 := by
  unfold prepareWorkload
  split
  · exact .refl core
  · exact keeps_finishPreparation _ (.refl core)
  split
  · exact .refl core
  split
  · exact .refl core
  · exact keeps_finishPreparation _ (keeps_of_eq rfl rfl rfl)

theorem keeps_confirmEnrollment (sessionId : String) (identity : SessionIdentity) :
    Keeps core (core.confirmEnrollment usable input sessionId identity).2 := by
  cases identity with
  | host node => exact .refl core
  | runtime runtime node =>
    simp only [confirmEnrollment]
    split
    · exact keeps_persistRegistry _ (keeps_of_eq rfl rfl rfl)
    · exact .refl core

section Answers

variable (identity : SessionIdentity) (sessionId : String)

theorem keeps_completeCommand (result : KernelCommandResult) :
    Keeps core (core.completeCommand identity sessionId result).2 := by
  unfold completeCommand
  split
  · exact .refl core
  split
  · exact .refl core
  · exact keeps_of_eq rfl rfl rfl

theorem keeps_completeStop (ack : StopAck) :
    Keeps core (core.completeStop identity sessionId ack).2 := by
  unfold completeStop
  split
  · exact .refl core
  split_ifs
  · exact .refl core
  · exact .refl core
  · exact keeps_of_eq rfl rfl rfl

theorem keeps_completeAssignment (ack : AssignmentAckFrame) :
    Keeps core (core.completeAssignment input identity sessionId ack).2 := by
  unfold completeAssignment
  split
  · exact .refl core
  split
  · exact .refl core
  split
  · exact .refl core
  simp only
  split_ifs
  · exact .refl core
  · exact keeps_persistThen _ (keeps_of_eq rfl rfl rfl) fun _ => keeps_of_eq rfl rfl rfl
  · exact keeps_of_eq rfl rfl rfl

theorem keeps_removeSession : Keeps core (core.removeSession sessionId identity).2 := by
  cases identity with
  | host | runtime =>
    simp only [removeSession]
    split
    · exact keeps_of_eq rfl rfl rfl
    · exact .refl core

end Answers

theorem keeps_removeAssignmentBindings (lease : LeaseKey) :
    Keeps core (core.removeAssignmentBindings input lease).2 :=
  keeps_persistRegistry _ (keeps_of_eq rfl rfl rfl)

theorem keeps_insertCommand (commandId : String) (binding : SessionBinding) :
    Keeps core (core.insertCommand commandId binding).2 := by
  unfold insertCommand
  split <;> exact keeps_of_eq rfl rfl rfl

theorem keeps_insertAssignment (binding : SessionBinding) (assignment : AssignmentBinding) :
    Keeps core (core.insertAssignment binding assignment).2 := by
  unfold insertAssignment
  split <;> exact keeps_of_eq rfl rfl rfl

theorem keeps_insertStop (commandId : String) (binding : SessionBinding) (assignmentId : String) :
    Keeps core (core.insertStop commandId binding assignmentId).2 := by
  unfold insertStop
  split <;> exact keeps_of_eq rfl rfl rfl

/-- A saved registry is retained. -/
theorem retains_of_saved {snapshot : Snapshot} (hsnapshot : core.registry.snapshot = .ok snapshot)
    (hsaved : core.store = ⟨some snapshot, []⟩) : Retains core.registry core := by
  refine ⟨.of_eq rfl rfl, fun version hversion loaded hload => ?_⟩
  obtain rfl : version = some snapshot := by simpa [hsaved, SessionStore.versions] using hversion
  exact Registry.extends_restore hsnapshot hload

theorem persistThen_eq_ok {α : Type} {next : Core → α × Core} {outcome : SaveOutcome} {value : α}
    (h : core.persistThen outcome next = (.ok value, after)) :
    ∃ snapshot, core.registry.snapshot = .ok snapshot ∧
      after = (next { core with store := ⟨some snapshot, []⟩ }).2 := by
  cases outcome <;> grind [persistThen, persistRegistry, SessionStore.save]

/-- The registry that a host session was entered in is saved, with the epoch of the host. -/
theorem retains_commitHost {key : NodeKey} {presented sessionId resumeToken : String}
    {replaced : List String}
    (h : core.commitHost input key presented sessionId resumeToken = (.ok replaced, after)) :
    Retains after.registry after ∧
      after.registry.highestNodeEpochs[key.nodeId]? = some key.nodeEpoch := by
  unfold commitHost at h
  split at h
  · cases h
  split at h
  · cases h
  next hadmit =>
    obtain ⟨snapshot, hsnapshot, rfl⟩ := persistThen_eq_ok h
    exact ⟨retains_of_saved hsnapshot rfl, (Registry.extends_admitNodeEpoch hadmit).2⟩

end Core

/-! ### Runs -/

open CyreneKernel.Session.Core

variable {floor : Registry}

/-- No section and no restart loses what is retained. -/
theorem Core.keeps_step (core : Core) (action : Action) : Keeps core (core.step action) := by
  cases action with
  | commitHost => exact keeps_commitHost ..
  | reserveEnrollment => exact keeps_reserveEnrollment ..
  | commitRuntime => exact keeps_commitRuntime ..
  | prepareWorkload => exact keeps_prepareWorkload ..
  | confirmEnrollment => exact keeps_confirmEnrollment ..
  | completeCommand => exact keeps_completeCommand ..
  | completeAssignment => exact keeps_completeAssignment ..
  | completeStop => exact keeps_completeStop ..
  | recordTerminal => exact keeps_recordTerminal ..
  | removeSession => exact keeps_removeSession ..
  | removeAssignmentBindings => exact keeps_removeAssignmentBindings _
  | insertCommand => exact keeps_insertCommand ..
  | insertAssignment => exact keeps_insertAssignment ..
  | insertStop => exact keeps_insertStop ..
  | restart version =>
    intro floor h
    simp only [step]
    split
    · next hversion =>
      split
      · exact h
      · next hload => exact ⟨h.versions version hversion _ hload, h.versions⟩
    · exact h
  -- the other sections forget calls that wait
  | _ => exact keeps_of_eq rfl rfl rfl

theorem Core.retains_run {core : Core} (h : Retains floor core) (actions : List Action) :
    Retains floor (run step core actions) :=
  run_induction (I := Retains floor) (C := fun _ _ => True) h
    (fun core action h _ => keeps_step core action h) (along_of_forall (fun _ _ => trivial) _ _)

/-- Once the registry has been saved, no run loses an evidence of it or goes back behind an epoch:
neither in memory, nor in anything that a later process may start from. -/
theorem saved_retained {core : Core} {snapshot : Snapshot}
    (hsnapshot : core.registry.snapshot = .ok snapshot)
    (hsaved : core.store = ⟨some snapshot, []⟩) (actions : List Action) :
    Retains core.registry (run step core actions) :=
  retains_run (retains_of_saved hsnapshot hsaved) actions

/-- A service that has admitted a host. -/
def sampleCore : Core := (commitHost { store := .blank } {} ⟨"node", 2⟩ "" "session" "token").2

/-- The end of an assignment that the runtime had accepted. -/
def sampleObservation : RuntimeObservation :=
  ⟨some ⟨"runtime", 1⟩, 7, 3, "assignment", "attempt", ""⟩

/-- The service after the end of an assignment was saved as well. -/
def terminatedCore : Core :=
  (recordTerminal
    { sampleCore with
      registry := { sampleCore.registry with
        runtimeNodeBindings := (∅ : BTreeMap Identity NodeKey).insert ⟨"runtime", 1⟩ ⟨"node", 2⟩
        acceptedAssignments := (∅ : BTreeMap String AssignmentBinding).insert "assignment"
          ⟨"assignment", "attempt", ⟨"runtime", 1⟩, ⟨"node", 2⟩, ⟨⟨"lease", 1⟩, 1⟩, ""⟩ } }
    {} (.runtime ⟨"runtime", 1⟩ ⟨"node", 2⟩) sampleObservation).2

/-- A host with a higher epoch is entered in memory, but the registry is not synced. -/
def unsyncedHost : Action :=
  .commitHost { save := .unsynced } ⟨"node", 3⟩ "" "session-3" "token-3"

/-- The epoch that was not synced is gone after the restart; the saved one and the end of the
assignment are not. -/
theorem saved_retained_restart :
    let unsynced := run step terminatedCore [unsyncedHost]
    let restarted := run step terminatedCore [unsyncedHost, .restart terminatedCore.store.saved]
    terminatedCore.registry.terminalObservations["assignment"]? = some sampleObservation ∧
      unsynced.registry.highestNodeEpochs["node"]? = some 3 ∧
      unsynced.store.unsynced.length = 1 ∧
      restarted.registry.highestNodeEpochs["node"]? = some 2 ∧
      restarted.registry.terminalObservations["assignment"]? = some sampleObservation ∧
      Retains terminatedCore.registry unsynced ∧ Retains terminatedCore.registry restarted := by
  intro unsynced restarted
  exact ⟨by decide +kernel, by decide +kernel, by decide +kernel, by decide +kernel,
    by decide +kernel, saved_retained rfl rfl _, saved_retained rfl rfl _⟩

/-- After a host session was entered, hosts of the node with a lower epoch are refused in every run,
by this process and by later ones. -/
theorem older_host_refused {before core : Core} {input : Input} {key : NodeKey}
    {presented sessionId resumeToken : String} {replaced : List String}
    (h : before.commitHost input key presented sessionId resumeToken = (.ok replaced, core))
    (actions : List Action) {older : NodeKey} (hid : older.nodeId = key.nodeId)
    (hepoch : older.nodeEpoch < key.nodeEpoch) (input' : Input)
    (presented' sessionId' resumeToken' : String) :
    let after := run step core actions
    ∃ error, after.commitHost input' older presented' sessionId' resumeToken' =
      (.error error, after) := by
  intro after
  obtain ⟨hsaved, hhighest⟩ := retains_commitHost h
  have hafter : Retains core.registry after := retains_run hsaved actions
  obtain ⟨highest, hhighest, hle⟩ := hafter.registry.epochs hhighest
  have hstale : ∃ highest ∈ after.registry.highestNodeEpochs[older.nodeId]?,
      older.nodeEpoch < highest :=
    ⟨highest, hid ▸ hhighest, hepoch.trans_le hle⟩
  unfold commitHost
  split
  · exact ⟨_, rfl⟩
  · simp only [Registry.admitNodeEpoch, Registry.checkNodeEpoch, failIf, if_pos hstale]
    exact ⟨_, rfl⟩

theorem older_host_refused_restart :
    let after := run step sampleCore [.restart sampleCore.store.saved]
    ∃ error, after.commitHost {} ⟨"node", 1⟩ "" "other" "token" = (.error error, after) := by
  have h : commitHost { store := .blank } {} ⟨"node", 2⟩ "" "session" "token" =
    (.ok [], sampleCore) := rfl
  exact older_host_refused h _ (by rfl) (by decide) ..

end CyreneKernel.Session
