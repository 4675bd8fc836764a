import CyreneKernel.Authority.ScanEffects

/-!
# The effects of the provider actions and of reading

A registration opens a session, an inventory is observed in one, and a reconciliation drops an
inventory that has expired; beyond that the record of a session keeps its provider and inventory.
A reconciliation also loses workers that it found in the namespace of the call, and reading sweeps
the ledger.

## Main definitions

* `OpensOver`, `Observes`, `Reviews`, `KeepsFacts`: the updates of the record of a session.
* `Recorded`: the workers a reconciliation may lose.
-/

namespace CyreneKernel

open Lib Relation
open Ledger (ResourceLease)

namespace Authority

variable {Γ : Scope} {c c₀ : Core} {env : Environment} {context : AuthorityCallContext}
  {principal : Principal} {β : Type} {R : β → Core → Prop} {E : Core → Prop}

/-! ### The records of the sessions -/

variable (ns : NamespaceId) {provider : Identity}

/-- A registration opens a session over the stored one. -/
def OpensOver (principal : Principal) (provider : Provider) (key : ProviderKey)
    (stored : Option ProviderRecord) (record : ProviderRecord) : Prop :=
  key = ⟨ns, provider.identity.id⟩ ∧ record = freshRecord provider principal ∧
    ∀ current, stored = some current → opensSession current.provider provider = true

/-- An inventory is stored in its session, over an older one. -/
def Observes (snapshot : ProviderSnapshot) (key : ProviderKey) (stored : Option ProviderRecord)
    (record : ProviderRecord) : Prop :=
  key = ⟨ns, snapshot.provider.id⟩ ∧ ∃ current, stored = some current ∧
    current.provider.identity = snapshot.provider ∧
    current.inventory.any (snapshot.snapshotGeneration ≤ ·.snapshotGeneration) = false ∧
    record = { current with inventory := some snapshot, reconciledSnapshotGeneration := none }

/-- The provider and the inventory of a session stay. -/
def KeepsFacts (stored : Option ProviderRecord) (record : ProviderRecord) : Prop :=
  ∃ current, stored = some current ∧ record.provider = current.provider ∧
    record.inventory = current.inventory

/-- The provider and the inventory of a session stay, unless the inventory has expired at `now`. -/
def Reviews (now : Nat) (ns : NamespaceId) (provider : Identity) (key : ProviderKey)
    (stored : Option ProviderRecord) (record : ProviderRecord) : Prop :=
  key = ⟨ns, provider.id⟩ ∧ ∃ current, stored = some current ∧
    record.provider = current.provider ∧
    (record.inventory = current.inventory ∨
      current.inventory.any (·.expiresAtUnixMs ≤ now) = true ∧ record.inventory = none)

theorem KeepsFacts.reviews {now : Nat} {ns : NamespaceId} {stored : Option ProviderRecord}
    {record : ProviderRecord} (h : KeepsFacts stored record) :
    Reviews now ns provider ⟨ns, provider.id⟩ stored record := by
  obtain ⟨current, hstored, hprovider, hinventory⟩ := h
  exact ⟨rfl, current, hstored, hprovider, .inl hinventory⟩

theorem Does.putProvider {id : String} {record : ProviderRecord} {f : Unit → Action β}
    (hf : Does (f ()) { c with providers := c.providers.insert ⟨context.ns, id⟩ record } R E) :
    Does (putProvider context id record >>= f) c R E := by
  refine holds_modify_bind ?_
  rintro s rfl
  exact hf

/-- An update of a record that keeps the facts of the session. -/
theorem Does.modifyProvider {id : String} {g : ProviderRecord → ProviderRecord}
    {f : Unit → Action β} (h : Path Γ c₀ c)
    (hprovider : ∀ stored record, KeepsFacts stored record →
      Γ.providers ⟨context.ns, id⟩ stored record)
    (hkeeps : ∀ record, (g record).provider = record.provider ∧
      (g record).inventory = record.inventory)
    (hf : ∀ c', Path Γ c₀ c' → Does (f ()) c' R E) :
    Does (modifyProvider context id g >>= f) c R E := by
  refine holds_modify_bind ?_
  rintro s rfl
  refine hf _ ?_
  cases hstored : s.providers[(⟨context.ns, id⟩ : ProviderKey)]? with
  | none =>
    simp only [BTreeMap.modify_of_none g hstored]
    exact h
  | some record =>
    simp only [BTreeMap.modify_of_some g hstored]
    refine h.tail (.provider (hprovider _ _ ⟨record, hstored, hkeeps record⟩))

/-! ### Registrations and inventories -/

theorem does_openSession {provider : Provider}
    (hprovider : Γ.providers ⟨context.ns, provider.identity.id⟩
      (c.providers[(⟨context.ns, provider.identity.id⟩ : ProviderKey)]?)
      (freshRecord provider principal)) :
    Follows Γ c (openSession env context principal provider) c := by
  refine Does.putProvider ?_
  refine (mute_publishSemanticEventIn _ _ _ _).holds_bind fun _ => Holds.pure ?_
  exact .single (.provider hprovider)

theorem does_registerProvider {provider : Provider}
    (hprovider : ∀ stored record,
      OpensOver context.ns principal provider ⟨context.ns, provider.identity.id⟩ stored record →
      Γ.providers ⟨context.ns, provider.identity.id⟩ stored record) :
    Follows Γ c (registerProvider env context principal provider) c := by
  have h : Path Γ c c := .refl
  refine (quiet_validateContext _).holds_bind h fun _ => Holds.rejectIf h fun _ => ?_
  refine Holds.liftExcept h fun _ _ => Holds.get fun s hs => ?_
  rw [hs]
  cases hstored : c.providers[(⟨context.ns, provider.identity.id⟩ : ProviderKey)]? with
  | none => exact does_openSession (hprovider _ _ ⟨rfl, rfl, by simp [hstored]⟩)
  | some current =>
    refine Holds.rejectIf h fun _ => Holds.rejectIf h fun _ => ?_
    refine Holds.ite (fun _ => Holds.pure h) fun _ => Holds.rejectIf h fun hopens => ?_
    refine does_openSession (hprovider _ _ ⟨rfl, rfl, ?_⟩)
    rintro _ hcurrent
    obtain rfl := Option.mem_unique hstored hcurrent
    simpa using hopens

theorem does_registerResourceFactsProvider {provider : Provider}
    (hprovider : ∀ stored record,
      OpensOver context.ns principal provider ⟨context.ns, provider.identity.id⟩ stored record →
      Γ.providers ⟨context.ns, provider.identity.id⟩ stored record)
    (hkeeps : ∀ key stored record, KeepsFacts stored record → Γ.providers key stored record) :
    Follows Γ c (registerResourceFactsProvider env context principal provider) c := by
  refine (does_registerProvider hprovider).bind fun registered c' h => ?_
  refine Does.modifyProvider h (fun _ _ => hkeeps _ _ _) (fun _ => ⟨rfl, rfl⟩) fun c'' h' => ?_
  exact Holds.pure h'

/-- A lookup of a session reads its record. -/
theorem holds_providerSession {τ : Type} {view : AuthorityRuntime → τ} {v : τ} {R : β → τ → Prop}
    {E : τ → Prop} {unknown denied stale : String} {f : ProviderRecord → Action β} (hE : E v)
    (hf : ∀ s record, view s = v →
      s.providers[(⟨context.ns, provider.id⟩ : ProviderKey)]? = some record →
      record.principal = principal → record.provider.identity = provider →
      Holds view (f record) v R E) :
    Holds view (providerSession context principal provider unknown denied stale >>= f) v R E := by
  unfold providerSession
  simp only [bind_assoc]
  refine Holds.get fun s hs => Holds.okOr hE fun record hrecord => ?_
  refine Holds.rejectIf hE fun hprincipal => Holds.rejectIf hE fun hidentity => ?_
  exact hf s record hs hrecord (not_not.1 hprincipal) (not_not.1 hidentity)

theorem does_publishInventory {inventory : ProviderSnapshot}
    (hprovider : ∀ stored record,
      Observes context.ns inventory ⟨context.ns, inventory.provider.id⟩ stored record →
      Γ.providers ⟨context.ns, inventory.provider.id⟩ stored record) :
    Follows Γ c (publishInventory env context principal inventory) c := by
  have h : Path Γ c c := .refl
  refine (quiet_validateContext _).holds_bind h fun _ => Holds.liftExcept h fun _ _ => ?_
  refine holds_providerSession h fun s record hs hrecord _ hidentity => ?_
  rw [hs] at hrecord
  refine Holds.rejectIf h fun hnew => Does.putProvider ?_
  refine (mute_publishSemanticEventIn _ _ _ _).holds_bind fun _ => Holds.pure ?_
  refine .single (.provider (hprovider _ _ ⟨rfl, record, hrecord, hidentity, ?_, rfl⟩))
  simpa using hnew

variable {snapshotGeneration : Nat}

theorem does_confirmStaleWorkerTermination {worker : Identity} {terminated : Bool}
    (hprovider : ∀ stored record, KeepsFacts stored record →
      Γ.providers ⟨context.ns, provider.id⟩ stored record) :
    Follows Γ c (confirmStaleWorkerTermination context principal provider snapshotGeneration worker
      terminated) c := by
  have h : Path Γ c c := .refl
  refine (quiet_validateContext _).holds_bind h fun _ => Holds.get fun s hs => ?_
  refine Holds.okOr h fun record hrecord => Holds.rejectIf h fun _ => ?_
  refine Holds.rejectIf h fun _ => Holds.rejectIf h fun _ => ?_
  rw [hs] at hrecord
  refine Holds.ite (fun _ => Holds.rejectIf h fun _ => ?_) fun _ => Holds.pure h
  exact Does.putProvider (Holds.pure (.single (.provider
    (hprovider _ _ ⟨record, hrecord, rfl, rfl⟩))))

/-! ### Reconciliation -/

/-- A worker of the namespace that the kernel manages for a provider and that has not ended. -/
def Recorded (c : Core) (ns : NamespaceId) (provider : Identity) (worker : Worker) : Prop :=
  ∃ (object : ObjectRef) (name : String) (process : ManagedProcess), object.ns = ns ∧
    c.workers[object]? = some name ∧ c.instances[name]? = some process ∧
    process.semanticWorker = some worker ∧ worker.provider.id = provider.id ∧
    worker.state ≠ .stopped ∧ worker.state ≠ .failed ∧ worker.state ≠ .lost

theorem recorded_of_mem {ns : NamespaceId} {worker : Worker}
    {entries : List (String × ManagedProcess)}
    (hentries : ∀ name process, (name, process) ∈ entries ↔ c.instances[name]? = some process)
    (h : worker ∈ recordedWorkers c ns provider entries) : Recorded c ns provider worker := by
  simp only [recordedWorkers, List.mem_filterMap, List.mem_filter, List.mem_map,
    decide_eq_true_eq, Option.filter_eq_some_iff] at h
  obtain ⟨⟨name, process⟩, ⟨hmem, ⟨object, _⟩, ⟨hobject, hns⟩, rfl⟩, hworker, hcond⟩ := h
  exact ⟨object, _, process, hns, Std.ExtTreeMap.mem_toList_iff_getElem?_eq_some.1 hobject,
    (hentries _ process).1 hmem, hworker, hcond⟩

theorem does_loseUnobserved (hc : Coherent c₀) (h : LossPath Γ c₀ c)
    (hns : Γ.namespaces context.ns) (hfaulty : env.Faulty → Γ.faulty)
    {snapshot : Option ProviderSnapshot} {observed : List Identity} {workers : List Worker}
    (hpurge : ∀ worker ∈ workers, Γ.purges worker.identity) (hfree : ∀ name, Γ.frees name) :
    Does (loseUnobserved env context snapshot observed workers) c (fun _ => LossPath Γ c₀)
      (LossPath Γ c₀) := by
  induction workers generalizing c with
  | nil => exact Holds.pure h
  | cons worker rest ih =>
    have hrest : ∀ c', LossPath Γ c₀ c' → Does (loseUnobserved env context snapshot observed rest)
        c' (fun _ => LossPath Γ c₀) (LossPath Γ c₀) :=
      fun c' h' => ih h' fun w hw => hpurge w (List.mem_cons_of_mem _ hw)
    have hlapse : ∀ now, LossPath Γ c₀ (c.lapse now) := fun now => h.tail (.lapse now)
    have hlookup : Does (leaseFor env context worker.lease) c (fun _ => LossPath Γ c₀)
        (LossPath Γ c₀) := by
      rw [← bind_pure (leaseFor env context worker.lease)]
      exact Does.leaseFor h hlapse fun now _ _ _ => Holds.pure (hlapse now)
    refine (Does.tryAction (Q := fun _ => LossPath Γ c₀) hlookup fun _ _ h' => h').bind ?_
    intro lease c₁ h₁
    refine Holds.ite (fun _ => ?_) fun _ => ?_
    · refine (does_markWorkerLost (h₁.coherent hc) hns hfaulty (hpurge worker List.mem_cons_self)
        fun _ => hfree _).mono (fun _ _ h₂ => h₁.trans h₂) (fun _ h₂ => h₁.trans h₂) |>.bind ?_
      exact fun _ c₂ h₂ => (hrest c₂ h₂).bind fun _ _ h₃ => Holds.pure h₃
    · exact (hrest c₁ h₁).bind fun _ _ h₃ => Holds.pure h₃

theorem does_reconciled (h : Path Γ c₀ c) {actions : List ProviderReconcileAction} :
    Follows Γ c₀ (reconciled env context provider snapshotGeneration actions) c :=
  (mute_publishSemanticEventIn _ _ _ _).holds_bind fun _ => Holds.pure h

theorem does_reconcileWorkers (hc : Coherent c) (h : Path Γ c₀ c) (hns : Γ.namespaces context.ns)
    (hfaulty : env.Faulty → Γ.faulty) {snapshot : Option ProviderSnapshot}
    (hprovider : ∀ stored record, KeepsFacts stored record →
      Γ.providers ⟨context.ns, provider.id⟩ stored record)
    (hpurge : ∀ {worker}, Recorded c context.ns provider worker → Γ.purges worker.identity)
    (hfree : ∀ name, Γ.frees name) :
    Follows Γ c₀ (reconcileWorkers env context provider snapshot snapshotGeneration) c := by
  refine Does.instanceEntries fun entries hentries => Holds.get fun s hs => ?_
  rw [hs]
  have hlose : Does (loseUnobserved env context snapshot
      ((snapshot.map fun snapshot => snapshot.workers.map (·.identity)).getD [])
      (recordedWorkers c context.ns provider entries)) c (fun _ => LossPath Γ c) (LossPath Γ c) :=
    does_loseUnobserved hc .refl hns hfaulty
      (fun worker hworker => hpurge (recorded_of_mem hentries hworker)) hfree
  refine (hlose.mono (fun _ _ h' => h.trans h'.path) fun _ h' => h.trans h'.path).bind ?_
  intro lost c₁ h₁
  refine Holds.get fun s₁ _ => ?_
  refine Does.modifyProvider h₁ hprovider (fun _ => ⟨rfl, rfl⟩) fun c₂ h₂ => ?_
  refine Holds.get fun s₂ _ => Holds.ite (fun _ => ?_) fun _ => does_reconciled h₂
  exact Does.modifyProvider h₂ hprovider (fun _ => ⟨rfl, rfl⟩) fun c₃ h₃ => does_reconciled h₃

/-- A reconciliation reads the clock once, before it touches anything. -/
theorem path_reconcileProvider (s : AuthorityRuntime) (hc : Coherent s.toCore)
    (hns : Γ.namespaces context.ns) (hfaulty : env.Faulty → Γ.faulty)
    (hprovider : ∀ key stored record,
      Reviews (env.now s.tick) context.ns provider key stored record →
      Γ.providers key stored record)
    (hpurge : ∀ {worker}, Recorded s.toCore context.ns provider worker → Γ.purges worker.identity)
    (hfree : ∀ name, Γ.frees name) :
    Path Γ s.toCore (finalState (reconcileProvider env context principal provider s)).toCore := by
  have hkeeps : ∀ stored record, KeepsFacts stored record →
      Γ.providers ⟨context.ns, provider.id⟩ stored record :=
    fun _ _ hfacts => hprovider _ _ _ hfacts.reviews
  suffices h : Holds id (reconcileProvider env context principal provider) s
      (fun _ s' => Path Γ s.toCore s'.toCore) (fun s' => Path Γ s.toCore s'.toCore) from
    h.finalState_id
  refine Holds.liftExcept .refl fun _ _ => ?_
  refine holds_providerSession .refl fun s' stored hs hstored _ hidentity => holds_ask ?_
  rw [show s' = s from hs] at hstored
  refine holds_of_does ?_
  refine Does.putProvider ?_
  have h : Path Γ s.toCore { s.toCore with
      providers := s.providers.insert ⟨context.ns, provider.id⟩
        (dropExpiredInventory stored (env.now s.tick)) } := by
    refine .single (.provider (hprovider _ _ _ ⟨rfl, stored, hstored, ?_⟩))
    unfold dropExpiredInventory
    split
    · next hexpired => exact ⟨rfl, .inr ⟨hexpired, rfl⟩⟩
    · exact ⟨rfl, .inl rfl⟩
  refine Holds.rejectIf h fun _ => Holds.ite (fun _ => Holds.pure h) fun _ => ?_
  refine Holds.ite (fun _ => ?_) fun _ => ?_
  · exact Does.modifyProvider h hkeeps (fun _ => ⟨rfl, rfl⟩) fun c' h' => does_reconciled h'
  · exact does_reconcileWorkers (hc.path h) h hns hfaulty hkeeps hpurge hfree

/-! ### Reading -/

theorem shows_of_lapse {n token : Nat} (h : (c.lapse n).Shows token) : c.Shows token := by
  cases h with
  | lease hleased hlease htoken =>
    obtain ⟨stored, hstored, rfl⟩ := exists_of_stores_lapse hlease
    rw [ResourceLease.name_expireIfDue] at hleased
    exact .lease hleased hstored ((Ledger.fenceToken_expireIfDue n stored).symm.trans htoken)
  | grant hgrant htoken => exact .grant hgrant htoken

theorem does_readLeases (h : Path Γ c₀ c) {entries : List (ObjectRef × String)}
    (hentries : ∀ entry ∈ entries, c.leases[entry.1]? = some entry.2) :
    Does (readLeases env entries) c
      (fun leases c' => Path Γ c₀ c' ∧ ∀ lease ∈ leases, c.Shows lease.fenceToken) (Path Γ c₀) := by
  induction entries generalizing c with
  | nil => exact Holds.pure ⟨h, fun _ hmem => absurd hmem List.not_mem_nil⟩
  | cons entry rest ih =>
    obtain ⟨object, name⟩ := entry
    refine Does.ask fun t => does_ledgerCall_bind (Ledger.getLease_ensures.mono ?_ ?_)
    · rintro lease ledger hdone
      cases hdone with
      | getLease hlease =>
        refine (ih (h.lapse (env.now t)) fun entry hmem =>
          hentries entry (List.mem_cons_of_mem _ hmem)).bind fun leases _ hrest =>
            Holds.pure ⟨hrest.1, fun l hl => shows_of_lapse (n := env.now t) ?_⟩
        rcases List.mem_cons.1 hl with rfl | hl
        · exact .lease (hentries _ List.mem_cons_self) hlease rfl
        · exact hrest.2 l hl
    · rintro _ ledger rfl
      exact h.lapse (env.now t)

theorem does_snapshot :
    Does (snapshot env context principal) c (fun snapshot c' => Path Γ c c' ∧
      (∀ lease ∈ snapshot.leases, c.Shows lease.fenceToken) ∧
      ∀ grant ∈ snapshot.endpointGrants, c.Shows grant.fenceToken) (Path Γ c) := by
  have h : Path Γ c c := .refl
  refine Does.asOwner h (Holds.get fun s hs => ?_)
  refine (quiet_eventHistoryFor _ _).holds_bind h fun history => ?_
  subst hs
  refine (does_readLeases h fun entry hentry => ?_).bind fun leases _ h' =>
    Holds.pure ⟨h'.1, h'.2, fun grant hgrant => ?_⟩
  · exact Std.ExtTreeMap.mem_toList_iff_getElem?_eq_some.1 (List.mem_filter.1 hentry).1
  · obtain ⟨entry, hentry, rfl⟩ := List.mem_map.1 hgrant
    exact .grant (Std.ExtTreeMap.mem_toList_iff_getElem?_eq_some.1 (List.mem_filter.1 hentry).1) rfl

theorem quiet_readEventsPage (cursor : EventCursor) (limit : Nat) :
    Quiet (readEventsPage env ns cursor limit) := by
  refine Silent.get.bind fun s => ?_
  dsimp only
  split
  · exact .pure _
  · split
    · exact .pure _
    · refine (quiet_eventHistoryFor _ _).bind fun history => ?_
      split <;> exact .pure _

theorem quiet_readEvents (cursor : EventCursor) (limit : Nat) :
    Quiet (readEvents env context principal cursor limit) :=
  (quiet_validateContext _).bind fun _ => (quiet_requireNamespaceOwner _ _).bind fun _ =>
    (Silent.rejectIf _ _).bind fun _ => quiet_readEventsPage _ _ _

/-! ### The inventory of the ledger -/

theorem does_refreshInventory {inventory : InventorySnapshot} :
    Follows Γ c (ledgerCall (Ledger.refreshInventory inventory)) c := by
  refine does_ledgerCall ((Ledger.refreshInventory_ensures inventory).mono ?_ ?_)
  · rintro _ ledger hdone
    cases hdone with
    | refreshInventory => exact .single (.inventory _ _ _)
  · rintro _ ledger rfl
    exact .refl

theorem does_quarantine {resourceId reasonCode : String} :
    Follows Γ c (ledgerCall (Ledger.quarantine resourceId reasonCode)) c := by
  refine does_ledgerCall ((Ledger.quarantine_ensures resourceId reasonCode).mono ?_ ?_)
  · rintro _ ledger hdone
    cases hdone with
    | quarantine => exact .single (.inventory _ _ _)
  · rintro _ ledger rfl
    exact .refl

end Authority

end CyreneKernel
