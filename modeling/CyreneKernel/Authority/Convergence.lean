import CyreneKernel.Authority.ProviderSessions

/-!
# Reconciling a provider twice

A reconciliation that asks for no termination marks the inventory it worked on as reconciled, and a
second reconciliation of that inventory has nothing to do.  It does not find the first one's work in
two cases.  When the inventory had expired the first call drops it, and the second one misses it
unless the provider is unavailable.  And a provider of resource facts that still has workers to
terminate, from a time when it reported workers, has its resources refreshed by every call.

## Main results

* `settled_iff`: a reconciliation without terminations is followed by one that does nothing exactly
  when the record settles.
-/

namespace CyreneKernel

open Lib Relation

/-- The record of a session after a reconciliation that asks for no termination. -/
def ProviderRecord.converged (record : ProviderRecord) (now : Nat) : ProviderRecord :=
  { Authority.dropExpiredInventory record now with
    reconciledSnapshotGeneration :=
      some (((Authority.dropExpiredInventory record now).inventory.map
        (·.snapshotGeneration)).getD 0)
    pendingStaleWorkers :=
      if record.inventoryScope = .resourceFactsOnly then record.pendingStaleWorkers else [] }

/-- A second reconciliation of the session finds nothing to do: an inventory that expired is not
missed, and no resources are refreshed while workers are still to be terminated. -/
def ProviderRecord.settles (record : ProviderRecord) (now : Nat) : Bool :=
  (!record.inventory.any (·.expiresAtUnixMs ≤ now) || record.provider.state = .unavailable) &&
    (record.inventoryScope ≠ .resourceFactsOnly || record.pendingStaleWorkers.isEmpty ||
      (Authority.refreshActions (Authority.dropExpiredInventory record now).inventory).isEmpty)

namespace Authority

variable {Γ : Scope} {c c' : Core} {env : Environment} {s : AuthorityRuntime}
  {context : AuthorityCallContext} {principal : Principal} {provider : Identity}
  {record : ProviderRecord} {now : Nat}

/-- A reconciliation returns the action to do nothing, and changes nothing. -/
def Settled (env : Environment) (context : AuthorityCallContext) (principal : Principal)
    (provider : Identity) (s : AuthorityRuntime) : Prop :=
  ∃ result s', reconcileProvider env context principal provider s = .ok result s' ∧
    result.actions = [.noop] ∧ s'.toCore = s.toCore

/-! ### The first reconciliation -/

/-- Nothing but an inventory is dropped. -/
theorem dropExpiredInventory_kept (record : ProviderRecord) (now : Nat) :
    (dropExpiredInventory record now).provider = record.provider ∧
      (dropExpiredInventory record now).principal = record.principal ∧
      (dropExpiredInventory record now).inventoryScope = record.inventoryScope ∧
      (dropExpiredInventory record now).pendingStaleWorkers = record.pendingStaleWorkers := by
  unfold dropExpiredInventory
  split <;> exact ⟨rfl, rfl, rfl, rfl⟩

theorem LossEffect.providers (h : LossEffect Γ c c') : c'.providers = c.providers := by
  cases h <;> rfl

theorem LossPath.providers (h : LossPath Γ c c') : c'.providers = c.providers := by
  induction h with
  | refl => rfl
  | tail _ heffect ih => exact heffect.providers.trans ih

/-- Losing workers leaves the sessions of the providers alone. -/
theorem does_loseUnobserved_providers (hc : Coherent c) {snapshot : Option ProviderSnapshot}
    {observed : List Identity} {workers : List Worker} :
    Does (loseUnobserved env context snapshot observed workers) c
      (fun _ c' => c'.providers = c.providers) fun _ => True := by
  let Γ : Scope := { Scope.within env fun _ => True with
    purges := fun _ => True
    frees := fun _ => True }
  have h : Does (loseUnobserved env context snapshot observed workers) c
      (fun _ => LossPath Γ c) (LossPath Γ c) :=
    does_loseUnobserved hc .refl trivial id (fun _ _ => trivial) fun _ => trivial
  exact h.mono (fun _ _ hpath => hpath.providers) fun _ _ => trivial

/-- A step that updates the record of a provider. -/
theorem Does.modifyProvider_of_some {β : Type} {R : β → Core → Prop} {E : Core → Prop}
    {id : String} {g : ProviderRecord → ProviderRecord} {f : Unit → Action β}
    (hrecord : c.providers[(⟨context.ns, id⟩ : ProviderKey)]? = some record)
    (hf : Does (f ()) { c with providers := c.providers.insert ⟨context.ns, id⟩ (g record) } R E) :
    Does (Authority.modifyProvider context id g >>= f) c R E := by
  refine holds_modify_bind ?_
  rintro s rfl
  simpa only [BTreeMap.modify_of_some g hrecord] using hf

/-- The reconciliation of a provider that reports workers marks its inventory as reconciled, unless
it asks for a termination. -/
theorem does_reconcileWorkers_converged (hc : Coherent c) {snapshot : Option ProviderSnapshot}
    {generation : Nat}
    (hrecord : c.providers[(⟨context.ns, provider.id⟩ : ProviderKey)]? = some record) :
    Does (reconcileWorkers env context provider snapshot generation) c
      (fun result c' => (∀ worker, .terminateStaleWorker worker ∉ result.actions) →
        c'.providers[(⟨context.ns, provider.id⟩ : ProviderKey)]? = some { record with
          reconciledSnapshotGeneration := some generation
          pendingStaleWorkers := [] })
      fun _ => True := by
  refine Does.instanceEntries fun entries _ => Holds.get fun s hs => ?_
  refine (does_loseUnobserved_providers hc).bind fun lost c₁ hproviders => ?_
  rw [← hproviders] at hrecord
  refine Holds.get fun s₁ _ => Does.modifyProvider_of_some hrecord (Holds.get fun s₂ hs₂ => ?_)
  rw [hs₂, BTreeMap.getElem?_insert, if_pos rfl, Option.map_some, Option.getD_some]
  generalize addStaleWorkers s₁.toCore context.ns generation _ record.pendingStaleWorkers = pending
  refine Holds.ite (fun hempty => ?_) fun hpending => ?_
  · obtain rfl : pending = [] := List.isEmpty_iff.1 hempty
    refine Does.modifyProvider_of_some (by rw [BTreeMap.getElem?_insert, if_pos rfl]) ?_
    refine (mute_publishSemanticEventIn _ _ _ _).holds_bind fun _ => Holds.pure fun _ => ?_
    rw [BTreeMap.getElem?_insert, if_pos rfl]
  · refine (mute_publishSemanticEventIn _ _ _ _).holds_bind fun _ => Holds.pure fun hnone => ?_
    -- a worker that is still to be terminated is among the actions
    obtain ⟨⟨worker, _⟩, rest, rfl⟩ :=
      List.exists_cons_of_ne_nil fun hnil => hpending (List.isEmpty_iff.2 hnil)
    refine absurd ?_ (hnone worker)
    simp [orNoop]

/-- What a reconciliation that returns has found in the state before it. -/
structure Reconcilable (context : AuthorityCallContext) (principal : Principal)
    (provider : Identity) (s : AuthorityRuntime) (record : ProviderRecord) : Prop where
  valid : context.validateFor .current = .ok ()
  stored : s.providers[(⟨context.ns, provider.id⟩ : ProviderKey)]? = some record
  principal_eq : record.principal = principal
  provider_eq : record.provider.identity = provider
  known : record.inventory = none → record.provider.state = .unavailable

/-- A reconciliation leaves the converged record behind, unless it asks for a termination. -/
def Converges (env : Environment) (context : AuthorityCallContext) (principal : Principal)
    (provider : Identity) (s : AuthorityRuntime) (result : ProviderReconcileResult)
    (c' : Core) : Prop :=
  ∃ record, Reconcilable context principal provider s record ∧
    ((∀ worker, .terminateStaleWorker worker ∉ result.actions) →
      c'.providers[(⟨context.ns, provider.id⟩ : ProviderKey)]? =
        some (record.converged (env.now s.tick)))

theorem holds_reconcileProvider_converges (hc : Coherent s.toCore) :
    Holds id (reconcileProvider env context principal provider) s
      (fun result s' => Converges env context principal provider s result s'.toCore)
      fun _ => True := by
  refine Holds.liftExcept trivial fun _ hvalid => ?_
  refine holds_providerSession trivial fun s' record hs hrecord hprincipal hprovider => ?_
  rw [show s' = s from hs] at hrecord
  refine holds_ask ?_
  refine holds_of_does (E := fun _ => True) ?_
  refine Does.putProvider ?_
  set reviewed := dropExpiredInventory record (env.now s.tick) with hreviewed
  have hstored : (s.providers.insert ⟨context.ns, provider.id⟩ reviewed)[
      (⟨context.ns, provider.id⟩ : ProviderKey)]? = some reviewed := by
    rw [BTreeMap.getElem?_insert, if_pos rfl]
  obtain ⟨-, -, hscope, hpending⟩ : _ ∧ _ ∧ reviewed.inventoryScope = record.inventoryScope ∧
      reviewed.pendingStaleWorkers = record.pendingStaleWorkers :=
    dropExpiredInventory_kept record _
  refine Holds.rejectIf trivial fun hknown => ?_
  have hreconcilable : Reconcilable context principal provider s record :=
    ⟨hvalid, hrecord, hprincipal, hprovider, fun hnone =>
      not_not.1 fun hstate => hknown ⟨by rw [hnone]; rfl, hstate⟩⟩
  refine Holds.ite (fun hdone => Holds.pure ⟨record, hreconcilable, fun _ => ?_⟩) fun _ => ?_
  · obtain ⟨hgeneration, hempty⟩ := hdone
    rw [hstored, ProviderRecord.converged, ← hreviewed, ← hgeneration, ← hpending,
      List.isEmpty_iff.1 hempty, ite_self, ← List.isEmpty_iff.1 hempty]
  refine Holds.ite (fun hfacts => ?_) fun hreports => ?_
  · refine Does.modifyProvider_of_some hstored ?_
    refine (mute_publishSemanticEventIn _ _ _ _).holds_bind fun _ =>
      Holds.pure ⟨record, hreconcilable, fun _ => ?_⟩
    rw [BTreeMap.getElem?_insert, if_pos rfl, ProviderRecord.converged, ← hreviewed, ← hpending,
      if_pos (hscope ▸ hfacts)]
  · have hinsert : Coherent { s.toCore with
        providers := s.providers.insert ⟨context.ns, provider.id⟩ reviewed } := by
      refine hc.effect (Γ := { Scope.within env fun _ => True with
        providers := fun _ _ _ => True }) ?_
      exact .provider trivial
    refine (does_reconcileWorkers_converged hinsert hstored).mono (fun result c' h => ?_)
      fun _ h => h
    refine ⟨record, hreconcilable, fun hnone => ?_⟩
    rw [h hnone, ProviderRecord.converged, ← hreviewed, if_neg (hscope ▸ hreports)]

/-! ### The second reconciliation -/

theorem orNoop_refreshActions_eq (inventory : Option ProviderSnapshot) :
    orNoop (refreshActions inventory) = [.noop] ↔ refreshActions inventory = [] := by
  constructor
  · intro h
    by_contra hne
    rw [orNoop, if_neg (fun hempty => hne (List.isEmpty_iff.1 hempty))] at h
    cases inventory with
    | none => exact hne rfl
    | some snapshot =>
      have hmem : .noop ∈ refreshActions (some snapshot) := h ▸ List.mem_singleton_self _
      simp [refreshActions] at hmem
  · intro h
    rw [h]
    rfl

/-- Reporting a reconciliation does nothing else. -/
theorem ensures_reconciled_iff {generation : Nat} {actions : List ProviderReconcileAction} :
    Ensures (reconciled env context provider generation actions) s
        (fun result s' => result.actions = [.noop] ∧ s'.toCore = s.toCore) (fun _ _ => False) ↔
      actions = [.noop] := by
  have h : Does (reconciled env context provider generation actions) s.toCore
      (fun result c' => result.actions = actions ∧ c' = s.toCore) fun _ => False :=
    (mute_publishSemanticEventIn _ _ _ _).holds_bind fun _ => Holds.pure ⟨rfl, rfl⟩
  constructor
  · intro hnoop
    obtain ⟨result, s', -, ⟨hactions, -⟩, hresult, -⟩ :=
      exists_ok_iff_ensures.2 ((hnoop.and (h s rfl)).mono (fun _ _ h => h) fun _ _ h => h.1)
    exact hresult.symm.trans hactions
  · rintro rfl
    exact h s rfl

/-- When the inventory of a session is marked as reconciled, a reconciliation does nothing if it
does not miss the inventory, and no resources are to be refreshed once more. -/
theorem settled_iff_of_stored (hvalid : context.validateFor .current = .ok ())
    (hstored : s.providers[(⟨context.ns, provider.id⟩ : ProviderKey)]? = some record)
    (hprincipal : record.principal = principal) (hprovider : record.provider.identity = provider)
    (hfresh : record.inventory.any (·.expiresAtUnixMs ≤ env.now s.tick) = false)
    (hgeneration : record.reconciledSnapshotGeneration =
      some ((record.inventory.map (·.snapshotGeneration)).getD 0))
    (hpending : record.inventoryScope ≠ .resourceFactsOnly → record.pendingStaleWorkers = []) :
    Settled env context principal provider s ↔
      (record.inventory = none → record.provider.state = .unavailable) ∧
        (record.pendingStaleWorkers = [] ∨ refreshActions record.inventory = []) := by
  have hreview : dropExpiredInventory record (env.now s.tick) = record := by
    rw [dropExpiredInventory, if_neg (by simp [hfresh])]
  unfold Settled
  rw [exists_ok_iff_ensures]
  simp only [reconcileProvider, validateContext, providerSession, putProvider, ask, ensures_bind,
    ensures_liftExcept, ensures_get, ensures_okOr, ensures_rejectIf, ensures_set, ensures_pure,
    ensures_modify, hvalid, hstored, Option.some.injEq, forall_eq', hprincipal, hprovider, hreview,
    BTreeMap.insert_of_some hstored, ne_eq, not_true_eq_false, not_false_eq_true, reduceCtorEq,
    false_implies, implies_true, true_and, forall_const, hgeneration, Option.isNone_iff_eq_none]
  have hknown : (record.inventory = none ∧ ¬ record.provider.state = .unavailable → False) ↔
      (record.inventory = none → record.provider.state = .unavailable) := by
    constructor
    · exact fun h hnone => not_not.1 fun hstate => h ⟨hnone, hstate⟩
    · rintro h ⟨hnone, hstate⟩
      exact hstate (h hnone)
  rw [hknown]
  refine and_congr_right fun hmissed => ?_
  rw [imp_iff_right (hknown.2 hmissed)]
  by_cases hempty : record.pendingStaleWorkers = []
  · rw [if_pos (List.isEmpty_iff.2 hempty)]
    exact iff_of_true ⟨rfl, rfl⟩ (.inl hempty)
  · have hfacts : record.inventoryScope = .resourceFactsOnly := not_not.1 (mt hpending hempty)
    rw [if_neg (fun h => hempty (List.isEmpty_iff.1 h)), if_pos hfacts, modifyProvider,
      ensures_bind, ensures_modify, BTreeMap.modify_of_some _ hstored, or_iff_right hempty,
      ← hgeneration, BTreeMap.insert_of_some hstored]
    exact ensures_reconciled_iff.trans (orNoop_refreshActions_eq _)

/-! ### Reconciling twice -/

theorem dropExpiredInventory_fresh {now' : Nat}
    (hexpiry : ∀ snapshot, record.inventory = some snapshot →
      snapshot.expiresAtUnixMs ≤ now' → snapshot.expiresAtUnixMs ≤ now) :
    (dropExpiredInventory record now).inventory.any (·.expiresAtUnixMs ≤ now') = false := by
  unfold dropExpiredInventory
  split
  · rfl
  · next hcurrent =>
    cases hinventory : record.inventory with
    | none => rfl
    | some snapshot =>
      rw [hinventory, Option.any_some, decide_eq_true_eq] at hcurrent
      rw [Option.any_some, decide_eq_false_iff_not]
      exact mt (hexpiry snapshot hinventory) hcurrent

/-- The converged record is not missed, and has no resources to refresh, when the record settles. -/
theorem settles_iff (hknown : record.inventory = none → record.provider.state = .unavailable) :
    record.settles now = true ↔
      ((record.converged now).inventory = none →
          (record.converged now).provider.state = .unavailable) ∧
        ((record.converged now).pendingStaleWorkers = [] ∨
          refreshActions (record.converged now).inventory = []) := by
  have hmissed : ((record.converged now).inventory = none →
      (record.converged now).provider.state = .unavailable) ↔
      (record.inventory.any (·.expiresAtUnixMs ≤ now) = false ∨
        record.provider.state = .unavailable) := by
    simp only [ProviderRecord.converged, dropExpiredInventory_kept]
    unfold dropExpiredInventory
    split
    · next hexpired => simp [hexpired]
    · next hcurrent => simpa [Bool.eq_false_iff.2 hcurrent] using hknown
  have hpending : (record.converged now).pendingStaleWorkers = [] ↔
      record.inventoryScope ≠ .resourceFactsOnly ∨ record.pendingStaleWorkers = [] := by
    simp only [ProviderRecord.converged]
    split
    · next hfacts => simp [hfacts]
    · next hreports => simp [hreports]
  rw [hmissed, hpending]
  simp only [ProviderRecord.settles, ProviderRecord.converged, Bool.and_eq_true, Bool.or_eq_true,
    Bool.not_eq_true', decide_eq_true_eq, List.isEmpty_iff]

/-- A reconciliation without terminations is followed by one that does nothing, as long as no
expiry passes in between, exactly when the record of the session settles. -/
theorem settled_iff (env : Environment) (s s' : AuthorityRuntime) (hs : Reachable env s)
    (context : AuthorityCallContext) (principal : Principal) (provider : Identity)
    (result : ProviderReconcileResult)
    (hfirst : reconcileProvider env context principal provider s = .ok result s')
    (hnone : ∀ worker, .terminateStaleWorker worker ∉ result.actions)
    (hexpiry : ∀ record snapshot,
      s.providers[(⟨context.ns, provider.id⟩ : ProviderKey)]? = some record →
      record.inventory = some snapshot →
      snapshot.expiresAtUnixMs ≤ env.now s'.tick → snapshot.expiresAtUnixMs ≤ env.now s.tick) :
    Settled env context principal provider s' ↔
      (s.providers[(⟨context.ns, provider.id⟩ : ProviderKey)]?).all
        (·.settles (env.now s.tick)) = true := by
  have hconverges : Ensures (reconcileProvider env context principal provider) s
      (fun result s' => Converges env context principal provider s result s'.toCore)
      fun _ _ => True :=
    holds_reconcileProvider_converges (coherent_of_reachable hs) s rfl
  rw [Ensures, hfirst] at hconverges
  obtain ⟨record, hrecord, hstored⟩ := hconverges
  rw [hrecord.stored, Option.all_some, settles_iff hrecord.known]
  refine settled_iff_of_stored hrecord.valid (hstored hnone) ?_ ?_ ?_ rfl ?_
  · exact (dropExpiredInventory_kept record _).2.1.trans hrecord.principal_eq
  · exact (congrArg _ (dropExpiredInventory_kept record _).1).trans hrecord.provider_eq
  · exact dropExpiredInventory_fresh fun snapshot => hexpiry record snapshot hrecord.stored
  · intro hreports
    simp only [ProviderRecord.converged, dropExpiredInventory_kept] at hreports ⊢
    rw [if_neg hreports]

/-! ### A sample session -/

/-- The sample authority after a session was opened and two inventories were published in it. -/
def sampleSession (env : Environment) : AuthorityRuntime :=
  run (step env) (sampleAuthority []) [sampleRegister, samplePublish 1, samplePublish 2]

/-- The reconciliation of the sample session. -/
def sampleReconciliation (env : Environment) :
    EStateM.Result Rejection AuthorityRuntime ProviderReconcileResult :=
  reconcileProvider env (sampleContext default "reconcile") samplePrincipal ⟨"provider", 1⟩
    (sampleSession env)

/-- The inventory of the sample session has expired.  The first reconciliation drops it and has
nothing else to do, and the second one, at the same time, misses it. -/
theorem expiredInventory_not_settled :
    (value? (sampleReconciliation replayEnvironment)).map (·.actions) = some [.noop] ∧
      replayEnvironment.now (finalState (sampleReconciliation replayEnvironment)).tick =
        replayEnvironment.now (sampleSession replayEnvironment).tick ∧
      ¬ Settled replayEnvironment (sampleContext default "reconcile") samplePrincipal
        ⟨"provider", 1⟩ (finalState (sampleReconciliation replayEnvironment)) := by
  refine ⟨by decide +kernel, by decide +kernel, ?_⟩
  rintro ⟨result, s', hsecond, -⟩
  have hfails : value? (reconcileProvider replayEnvironment (sampleContext default "reconcile")
      samplePrincipal ⟨"provider", 1⟩ (finalState (sampleReconciliation replayEnvironment))) =
        none := by decide +kernel
  rw [hsecond] at hfails
  cases hfails

/-- A world whose clock does not move. -/
def frozenEnvironment : Environment :=
  sampleEnvironment (fun _ => 2000) (fun _ => .ok ()) fun _ => .ok ⟨true, "STOPPED"⟩

/-- The inventory of the sample session is current, and the second reconciliation does nothing. -/
theorem currentInventory_settled :
    Settled frozenEnvironment (sampleContext default "reconcile") samplePrincipal
      ⟨"provider", 1⟩ (finalState (sampleReconciliation frozenEnvironment)) := by
  have hactions : (value? (sampleReconciliation frozenEnvironment)).map (·.actions) =
      some [.noop] := by decide +kernel
  cases hfirst : sampleReconciliation frozenEnvironment with
  | error e s' => rw [hfirst] at hactions; cases hactions
  | ok result s' =>
    rw [hfirst, value?_ok, Option.map_some, Option.some.injEq] at hactions
    refine (settled_iff frozenEnvironment (sampleSession frozenEnvironment) s'
      (reachable_sampleAuthority [] _) _ _ _ result hfirst ?_ fun _ _ _ _ h => h).2 ?_
    · rw [hactions]
      simp
    · decide +kernel

end Authority

end CyreneKernel
