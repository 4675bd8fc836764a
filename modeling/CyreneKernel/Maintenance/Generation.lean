import CyreneKernel.Maintenance.Exclusion

/-!
# The generation of the gate

A readiness snapshot names the generation of the gate, and a hold begins only at the generation it
was asked for.  This excludes work that was admitted in between as long as no change leaves the
generation where it was, or takes it back.

A task that is admitted again with another state takes the generation back to the one of its first
admission.  Every other change goes ahead.

## Main results

* `generation_advances`: the generation of the gate goes ahead, unless a task is readmitted.
* `generation_goes_back`: a history in which it is.
-/

namespace CyreneKernel.Maintenance

open Lib Lib.Program Relation

/-- The admitted work, and the hold. -/
def PersistedState.activity (s : PersistedState) :=
  (s.tasks, s.runtimeAdmissions, s.bindingOperations, s.maintenance)

/-- The generation does not go back, and goes ahead with every change below the last one. -/
structure Advances (s t : PersistedState) : Prop where
  le : s.gateGeneration ≤ t.gateGeneration
  lt : s.activity ≠ t.activity → s.gateGeneration < u64Max → s.gateGeneration < t.gateGeneration

/-- An operation admits a stored task again, with another state. -/
def Readmits (s : PersistedState) (op : Operation) : Prop :=
  ∃ sourceId taskId state existing, op = .admitTask sourceId taskId state ∧
    s.tasks[taskKey sourceId taskId]? = some existing ∧ state ≠ existing.state

section Moves

variable {s t u : PersistedState} {op : Operation} {event : JournalEvent}

theorem Advances.refl (s : PersistedState) : Advances s s := ⟨Nat.le_refl _, fun h => absurd rfl h⟩

theorem Advances.trans (h : Advances s t) (h' : Advances t u) : Advances s u where
  le := Nat.le_trans h.le h'.le
  lt hne hlt := by
    by_cases hst : s.activity = t.activity
    · -- the change is between `t` and `u`
      have ht := h'.lt (hst ▸ hne)
      have := h.le
      have := h'.le
      omega
    · exact Nat.lt_of_lt_of_le (h.lt hst hlt) h'.le

/-- An event changes nothing that the generation stands for, or takes the next generation. -/
theorem Emits.generation (h : Emits s op event) (happly : Applies s event t)
    (hreadmits : ¬ Readmits s op) :
    (t.activity = s.activity ∧ t.gateGeneration = s.gateGeneration) ∨
      t.gateGeneration = s.nextGeneration := by
  obtain ⟨-, u, hu, rfl⟩ := applyEntry_eq_ok.1 happly
  cases h with
  | commitCatalog expected catalog proof written | heartbeat sourceId time
  | reconcileHeartbeat sourceId time => cases hu; exact .inl ⟨rfl, rfl⟩
  | admitTask _ hgeneration => cases hu; exact .inr hgeneration
  | readmitTask _ hexisting hne => exact absurd ⟨_, _, _, _, rfl, hexisting, hne⟩ hreadmits
  | admitBinding _ _ _ _ =>
    simp only [applyEvent] at hu
    split_ifs at hu
    cases hu
    exact .inr rfl
  | completeBinding hactive =>
    simp only [applyEvent, hactive, ne_eq, not_true, if_false] at hu
    cases hu
    exact .inr rfl
  | «end» time hactive =>
    simp only [applyEvent, hactive] at hu
    split_ifs at hu <;> cases hu <;> exact .inr rfl
  | _ => cases hu; exact .inr rfl

theorem advances_of_generation (hs : s.gateGeneration ≤ u64Max)
    (h : (t.activity = s.activity ∧ t.gateGeneration = s.gateGeneration) ∨
      t.gateGeneration = s.nextGeneration) : Advances s t ∧ t.gateGeneration ≤ u64Max := by
  rcases h with ⟨hactivity, hgeneration⟩ | hgeneration
  · exact ⟨⟨Nat.le_of_eq hgeneration.symm, fun hne => absurd hactivity.symm hne⟩, hgeneration ▸ hs⟩
  · simp only [PersistedState.nextGeneration, saturatingAdd] at hgeneration
    exact ⟨⟨by omega, by omega⟩, by omega⟩

/-- Every move but a readmission advances. -/
theorem Moves.advances {label : Option Operation} (h : Moves label s t)
    (hreadmits : ∀ op, label = some op → ¬ Readmits s op) (hs : s.gateGeneration ≤ u64Max) :
    Advances s t ∧ t.gateGeneration ≤ u64Max := by
  obtain ⟨m, ⟨generation, sequence, eligible, rfl⟩, h⟩ := h
  rcases h with rfl | ⟨op, event, hlabel, hemits, ht⟩
  · exact advances_of_generation hs (.inl ⟨rfl, rfl⟩)
  · exact advances_of_generation hs (hemits.generation ht (hreadmits op hlabel))

/-- A hold begins at the generation of the state before it. -/
theorem Moves.begins {label : Option Operation} (h : Moves label s t)
    (hs : s.maintenance = none) (ht : t.maintenance ≠ none) :
    ∃ op, label = some op ∧ op.beginsAt = some s.gateGeneration := by
  obtain ⟨m, ⟨generation, sequence, eligible, rfl⟩, h⟩ := h
  rcases h with rfl | ⟨op, event, hlabel, hemits, happly⟩
  · exact absurd hs ht
  rcases hemits.hold happly with ⟨hold, -⟩ | ⟨hop, -⟩ | ⟨active, -, -, -, hold, -⟩
  · exact absurd (hold.trans hs) ht
  · exact ⟨op, hlabel, hop⟩
  · exact absurd hold ht

end Moves

/-- As long as no operation readmits a task, the generation of the gate goes ahead.  A hold that
begins at the generation of a snapshot finds the activity that the snapshot found, and so did every
state in between. -/
theorem generation_advances (sha256 : String → String)
    (catalogs : Nat → TrustedActivitySourceCatalog) {w m w' : World}
    (hw : Steps sha256 (fun s op => ¬ Readmits s op) { catalogs := catalogs } w)
    (hm : Steps sha256 (fun s op => ¬ Readmits s op) w m)
    (hw' : Steps sha256 (fun s op => ¬ Readmits s op) m w') :
    ∃ s u t, w.disk.contents = .ok s ∧ m.disk.contents = .ok u ∧ w'.disk.contents = .ok t ∧
      Advances s u ∧
      ∀ sample request usage op w'' t', s.gateGeneration < u64Max →
        op.beginsAt = some (readinessSnapshot s sample request usage).gateGeneration →
        Step sha256 w' (some op) w'' → w''.disk.contents = .ok t' →
        t.maintenance = none → t'.maintenance ≠ none → u.activity = s.activity := by
  have hadvances {w w' : World} {s : PersistedState} (hs : Represents w.disk s)
      (hle : s.gateGeneration ≤ u64Max)
      (hsteps : Steps sha256 (fun s op => ¬ Readmits s op) w w') :
      ∃ t, Represents w'.disk t ∧ Advances s t ∧ t.gateGeneration ≤ u64Max := by
    refine exists_of_steps (R := fun s t => Advances s t ∧ t.gateGeneration ≤ u64Max) hs
      ⟨.refl s, hle⟩ (fun m t label hm hmove hcondition => ?_) hsteps
    obtain ⟨hadvances, hle⟩ := hmove.advances hcondition hm.2
    exact ⟨hm.1.trans hadvances, hle⟩
  obtain ⟨s, hs, -, hle⟩ := hadvances represents_new (Nat.zero_le _) hw
  obtain ⟨u, hu, hsu, hle⟩ := hadvances hs hle hm
  obtain ⟨t, ht, hut, -⟩ := hadvances hu hle hw'
  refine ⟨s, u, t, contents_of_represents hs, contents_of_represents hu, contents_of_represents ht,
    hsu, fun sample request usage op w'' t' hlt hop hstep ht' hold hold' => ?_⟩
  obtain ⟨t'', ht'', hmove⟩ := exists_moves_of_step ht hstep
  obtain rfl : t'' = t' := Except.ok.inj ((contents_of_represents ht'').symm.trans ht')
  obtain ⟨_, ⟨⟩, hbegins⟩ := hmove.begins hold hold'
  have heq : s.gateGeneration = t.gateGeneration := Option.mem_unique hop hbegins
  -- a change up to `u` would have taken the generation ahead
  by_contra hne
  have := hsu.lt (fun h => hne h.symm) hlt
  have := hut.le
  omega

/-- A runtime admission takes the generation ahead. -/
theorem generation_advances_reserve : ∃ s t, sampleWorld.disk.contents = .ok s ∧
    (sampleWorld.after (.reserveRuntime "token" "launch")).disk.contents = .ok t ∧
    Advances s t := by
  have hsteps : Steps id (fun s op => ¬ Readmits s op) sampleWorld
      (sampleWorld.after (.reserveRuntime "token" "launch")) :=
    .single ⟨_, step_after _ _, by rintro _ _ - ⟨⟩ ⟨_, _, _, _, ⟨⟩, -⟩⟩
  obtain ⟨s, t, -, hs, ht, -, hadvances, -⟩ := generation_advances id _ .refl hsteps .refl
  exact ⟨s, t, hs, ht, hadvances⟩

/-- Two tasks are admitted, and the first one once more when it is running: the generation goes
back to the one of its first admission. -/
theorem generation_goes_back :
    let w := ((sampleWorld.after (.heartbeat "agent")).after
      (.admitTask "agent" "t" .queued)).after (.admitTask "agent" "u" .queued)
    let w' := w.after (.admitTask "agent" "t" .running)
    Steps id (fun _ _ => True) sampleWorld w ∧ Steps id (fun _ _ => True) w w' ∧
      w.disk.contents.toOption.map (·.gateGeneration) = some 2 ∧
      w'.disk.contents.toOption.map (·.gateGeneration) = some 1 := by
  refine ⟨((steps_after _ _).trans (steps_after _ _)).trans (steps_after _ _), steps_after _ _,
    ?_, ?_⟩
  · decide +kernel
  · decide +kernel

end CyreneKernel.Maintenance
