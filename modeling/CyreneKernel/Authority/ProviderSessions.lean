import CyreneKernel.Authority.Steps

/-!
# The inventories of a provider session

An inventory is accepted in a session only over an older one, but the comparison is with the
inventory that is stored.  Two calls forget it: a reconciliation that finds it expired, and a
registration of the same session as unavailable.  As long as neither forgets the inventory of a
session, the snapshot generations accepted in that session increase strictly.

## Main results

* `acceptedGenerations_increase`: the accepted generations increase while nothing is forgotten.
-/

namespace CyreneKernel

open Lib Relation

/-- The session is over, or a generation of its inventories is stored from which on only newer ones
are accepted; `ok` is what else is known of the record. -/
def ProviderRecord.AtLeast (session : Identity) (generation : Nat) (ok : ProviderRecord → Prop)
    (record : ProviderRecord) : Prop :=
  session.generation < record.provider.identity.generation ∨
    (record.provider.identity.generation = session.generation ∧
      record.inventory.any (generation ≤ ·.snapshotGeneration) = true ∧ ok record)

namespace Authority

variable {Γ : Scope} {c c' : Core} {env : Environment} {s : AuthorityRuntime} {ns : NamespaceId}
  {session : Identity} {generation : Nat} {ok : ProviderRecord → Prop}

/-- The snapshot generation that the call publishes in the session, if it is accepted. -/
def acceptedGeneration? (env : Environment) (ns : NamespaceId) (session : Identity)
    (s : AuthorityRuntime) : Call → Option Nat
  | .publishInventory context principal inventory =>
    if context.ns = ns ∧ inventory.provider = session then
      (value? (publishInventory env context principal inventory s)).map (·.snapshotGeneration)
    else none
  | _ => none

/-- The snapshot generations accepted in the session along a run, in order. -/
def acceptedGenerations (env : Environment) (ns : NamespaceId) (session : Identity) :
    AuthorityRuntime → List Call → List Nat
  | _, [] => []
  | s, call :: calls =>
    (acceptedGeneration? env ns session s call).toList ++
      acceptedGenerations env ns session (step env s call) calls

/-- The registration opens the session again although an inventory is stored for it. -/
def reopensSession (s : Core) (ns : NamespaceId) (session : Identity)
    (context : AuthorityCallContext) (provider : Provider) : Bool :=
  context.ns = ns && provider.identity = session &&
    (s.providers[(⟨ns, session.id⟩ : ProviderKey)]?).any fun record =>
      record.provider.identity.generation = session.generation && record.inventory.isSome &&
        opensSession record.provider provider

/-- The call drops the stored inventory of the session. -/
def forgetsInventory (env : Environment) (ns : NamespaceId) (session : Identity)
    (s : AuthorityRuntime) : Call → Bool
  | .reconcileProvider context _ provider =>
    context.ns = ns && provider.id = session.id &&
      (s.providers[(⟨ns, session.id⟩ : ProviderKey)]?).any fun record =>
        record.provider.identity.generation = session.generation &&
          record.inventory.any (·.expiresAtUnixMs ≤ env.now s.tick)
  | .registerProvider context _ provider | .registerResourceFactsProvider context _ provider =>
    reopensSession s.toCore ns session context provider
  | _ => false

/-! ### What is remembered -/

/-- The record of the session remembers a snapshot generation. -/
def Remembered (ns : NamespaceId) (session : Identity) (generation : Nat)
    (ok : ProviderRecord → Prop) (c : Core) : Prop :=
  ∃ record, c.providers[(⟨ns, session.id⟩ : ProviderKey)]? = some record ∧
    record.AtLeast session generation ok

/-- The updates that a call makes of the record of the session keep what is remembered. -/
def Scope.Recalls (Γ : Scope) (ns : NamespaceId) (session : Identity) (generation : Nat)
    (ok : ProviderRecord → Prop) : Prop :=
  ∀ stored record, Γ.providers ⟨ns, session.id⟩ (some stored) record →
    stored.AtLeast session generation ok → record.AtLeast session generation ok

theorem Effect.remembered (hΓ : Γ.Recalls ns session generation ok)
    (h : Remembered ns session generation ok c) (heffect : Effect Γ c c') :
    Remembered ns session generation ok c' := by
  cases heffect with
  | @provider key record hprovider =>
    obtain ⟨stored, hstored, hatLeast⟩ := h
    by_cases heq : key = ⟨ns, session.id⟩
    · subst heq
      rw [hstored] at hprovider
      refine ⟨record, ?_, hΓ _ _ hprovider hatLeast⟩
      rw [BTreeMap.getElem?_insert, if_pos rfl]
    · refine ⟨stored, ?_, hatLeast⟩
      rw [BTreeMap.getElem?_insert, if_neg heq]
      exact hstored
  | loss hloss => cases hloss <;> exact h
  | _ => exact h

theorem Path.remembered (hΓ : Γ.Recalls ns session generation ok)
    (h : Remembered ns session generation ok c) (hpath : Path Γ c c') :
    Remembered ns session generation ok c' := by
  induction hpath with
  | refl => exact h
  | tail _ heffect ih => exact heffect.remembered hΓ ih

variable {stored record : ProviderRecord} {key : ProviderKey}

theorem KeepsFacts.atLeast (h : KeepsFacts (some stored) record) (hok : ok stored → ok record)
    (hstored : stored.AtLeast session generation ok) : record.AtLeast session generation ok := by
  obtain ⟨_, ⟨⟩, hprovider, hinventory⟩ := h
  unfold ProviderRecord.AtLeast at hstored ⊢
  rw [hprovider, hinventory]
  exact hstored.imp_right fun ⟨hsame, hnewer, h⟩ => ⟨hsame, hnewer, hok h⟩

theorem Observes.atLeast {inventory : ProviderSnapshot}
    (h : Observes ns inventory key (some stored) record)
    (hstored : stored.AtLeast session generation fun _ => True) :
    record.AtLeast session generation fun _ => True := by
  obtain ⟨-, _, ⟨⟩, -, hnewer, rfl⟩ := h
  refine hstored.imp_right fun ⟨hsame, hkept, _⟩ => ⟨hsame, ?_, trivial⟩
  obtain ⟨snapshot, hsnapshot, hle⟩ := Option.any_eq_true _ _ |>.1 hkept
  rw [hsnapshot, Option.any_some, decide_eq_false_iff_not] at hnewer
  rw [Option.any_some]
  exact decide_eq_true (by have := of_decide_eq_true hle; omega)

theorem opensSession_generation {current provider : Provider}
    (h : opensSession current provider = true) :
    current.identity.generation ≤ provider.identity.generation := by
  simp only [opensSession, Bool.or_eq_true, Bool.and_eq_true, decide_eq_true_eq] at h
  omega

/-- A registration that does not reopen the session. -/
theorem OpensOver.atLeast {principal : Principal} {provider : Provider}
    (h : OpensOver ns principal provider key (some stored) record)
    (hstored : stored.AtLeast session generation fun record =>
      provider.identity.generation = session.generation →
        opensSession record.provider provider = false) :
    record.AtLeast session generation fun record =>
      provider.identity.generation = session.generation →
        opensSession record.provider provider = false := by
  obtain ⟨-, rfl, hopens⟩ := h
  have hopens := hopens stored rfl
  have hle := opensSession_generation hopens
  refine .inl (show session.generation < provider.identity.generation from ?_)
  rcases hstored with hlater | ⟨hsame, -, hnot⟩
  · omega
  · refine Nat.lt_of_le_of_ne (hsame ▸ hle) fun heq => ?_
    rw [hnot heq.symm] at hopens
    exact absurd hopens (by decide)

theorem Reviews.atLeast {now : Nat} {provider : Identity}
    (h : Reviews now ns provider key (some stored) record)
    (hstored : stored.AtLeast session generation fun record =>
      record.inventory.any (·.expiresAtUnixMs ≤ now) = false) :
    record.AtLeast session generation fun record =>
      record.inventory.any (·.expiresAtUnixMs ≤ now) = false := by
  obtain ⟨-, _, ⟨⟩, hprovider, hinventory | ⟨hexpired, -⟩⟩ := h
  · exact KeepsFacts.atLeast ⟨stored, rfl, hprovider, hinventory⟩ (hinventory ▸ id) hstored
  · unfold ProviderRecord.AtLeast at hstored ⊢
    rw [hprovider]
    refine hstored.imp_right fun ⟨_, _, hfresh⟩ => ?_
    rw [hfresh] at hexpired
    exact absurd hexpired (by decide)

/-! ### Calls -/

theorem Remembered.mono {ok' : ProviderRecord → Prop} (h : Remembered ns session generation ok c)
    (hok : ∀ record, c.providers[(⟨ns, session.id⟩ : ProviderKey)]? = some record →
      record.provider.identity.generation = session.generation →
      record.inventory.isSome = true → ok record → ok' record) :
    Remembered ns session generation ok' c := by
  obtain ⟨record, hrecord, hatLeast⟩ := h
  refine ⟨record, hrecord, hatLeast.imp_right fun ⟨hsame, hkept, h⟩ => ⟨hsame, hkept, ?_⟩⟩
  obtain ⟨snapshot, hsnapshot, -⟩ := Option.any_eq_true _ _ |>.1 hkept
  exact hok record hrecord hsame (by rw [hsnapshot]; rfl) h

/-- A path whose updates keep what is remembered, given what is known of the record. -/
theorem Remembered.path (h : Remembered ns session generation (fun _ => True) c)
    (hpath : Path Γ c c')
    (hok : ∀ record, c.providers[(⟨ns, session.id⟩ : ProviderKey)]? = some record →
      record.provider.identity.generation = session.generation →
      record.inventory.isSome = true → ok record)
    (hΓ : Γ.Recalls ns session generation ok) :
    Remembered ns session generation (fun _ => True) c' :=
  (hpath.remembered hΓ (h.mono fun record hrecord hsame hsome _ => hok record hrecord hsame hsome)
    ).mono fun _ _ _ _ _ => trivial

/-- What is known of the record of the session when a registration does not reopen it. -/
theorem opensSession_of_reopensSession {context : AuthorityCallContext} {provider : Provider}
    (h : reopensSession c ns session context provider = false)
    (hkey : (⟨ns, session.id⟩ : ProviderKey) = ⟨context.ns, provider.identity.id⟩)
    (hrecord : c.providers[(⟨ns, session.id⟩ : ProviderKey)]? = some record)
    (hsame : record.provider.identity.generation = session.generation)
    (hsome : record.inventory.isSome = true)
    (hgeneration : provider.identity.generation = session.generation) :
    opensSession record.provider provider = false := by
  obtain ⟨hns, hid⟩ := ProviderKey.mk.inj hkey
  have hidentity : provider.identity = session := by
    change (⟨provider.identity.id, provider.identity.generation⟩ : Identity) = session
    rw [← hid, hgeneration]
  subst hns
  simpa [reopensSession, hidentity, hrecord, hsame, hsome] using h

theorem Remembered.step (hc : Coherent s.toCore)
    (h : Remembered ns session generation (fun _ => True) s.toCore) {call : Call}
    (hcall : forgetsInventory env ns session s call = false) :
    Remembered ns session generation (fun _ => True) (Authority.step env s call).toCore := by
  have hpath : Path (call.scope env s) s.toCore (Authority.step env s call).toCore :=
    step_path hc call
  cases call with
  | reconcileProvider context principal provider =>
    by_cases hkey : (⟨ns, session.id⟩ : ProviderKey) = ⟨context.ns, provider.id⟩
    · refine h.path hpath (fun record hrecord hsame _ => ?_) fun _ _ => Reviews.atLeast
      obtain ⟨rfl, hid⟩ := ProviderKey.mk.inj hkey
      simpa [forgetsInventory, ← hid, hrecord, hsame] using hcall
    · exact h.path hpath (fun _ _ _ _ => trivial) fun _ _ hreviews => absurd hreviews.1 hkey
  | registerProvider context principal provider =>
    by_cases hkey : (⟨ns, session.id⟩ : ProviderKey) = ⟨context.ns, provider.identity.id⟩
    · exact h.path hpath (fun _ => opensSession_of_reopensSession hcall hkey)
        fun _ _ => OpensOver.atLeast
    · exact h.path hpath (fun _ _ _ _ => trivial) fun _ _ hopens => absurd hopens.1 hkey
  | registerResourceFactsProvider context principal provider =>
    by_cases hkey : (⟨ns, session.id⟩ : ProviderKey) = ⟨context.ns, provider.identity.id⟩
    · refine h.path hpath (fun _ => opensSession_of_reopensSession hcall hkey) ?_
      rintro stored record (hopens | hkeeps)
      · exact hopens.atLeast
      · obtain ⟨_, ⟨⟩, hprovider, -⟩ := id hkeeps
        exact hkeeps.atLeast (by rw [hprovider]; exact id)
    · refine h.path hpath (fun _ _ _ _ => trivial) ?_
      rintro stored record (hopens | hkeeps)
      · exact absurd hopens.1 hkey
      · exact hkeeps.atLeast id
  | publishInventory =>
    exact h.path hpath (fun _ _ _ _ => trivial) fun _ _ => Observes.atLeast
  | confirmStaleWorkerTermination =>
    exact h.path hpath (fun _ _ _ _ => trivial) fun _ _ hkeeps => KeepsFacts.atLeast hkeeps id
  | _ => exact h.path hpath (fun _ _ _ _ => trivial) fun _ _ => False.elim

/-! ### Accepted inventories -/

/-- An accepted inventory is newer than the stored one, and is stored. -/
theorem does_publishInventory_accepts (env : Environment) (context : AuthorityCallContext)
    (principal : Principal) (inventory : ProviderSnapshot) :
    Does (publishInventory env context principal inventory) c
      (fun accepted c' => accepted = inventory ∧ ∃ record,
        c.providers[(⟨context.ns, inventory.provider.id⟩ : ProviderKey)]? = some record ∧
        record.provider.identity = inventory.provider ∧
        record.inventory.any (inventory.snapshotGeneration ≤ ·.snapshotGeneration) = false ∧
        c'.providers[(⟨context.ns, inventory.provider.id⟩ : ProviderKey)]? = some
          { record with inventory := some inventory, reconciledSnapshotGeneration := none })
      fun _ => True := by
  refine (quiet_validateContext _).holds_bind trivial fun _ =>
    Holds.liftExcept trivial fun _ _ => ?_
  refine holds_providerSession trivial fun s record hs hrecord _ hidentity => ?_
  rw [hs] at hrecord
  refine Holds.rejectIf trivial fun hnew => Does.putProvider ?_
  refine (mute_publishSemanticEventIn _ _ _ _).holds_bind fun _ => Holds.pure ⟨rfl, record, ?_⟩
  refine ⟨hrecord, hidentity, by simpa using hnew, ?_⟩
  rw [BTreeMap.getElem?_insert, if_pos rfl]

/-- What is accepted in a session is newer than what is remembered, and is remembered. -/
theorem acceptedGeneration?_eq_some {call : Call} {accepted : Nat}
    (h : acceptedGeneration? env ns session s call = some accepted) :
    (∀ generation, Remembered ns session generation (fun _ => True) s.toCore →
        generation < accepted) ∧
      Remembered ns session accepted (fun _ => True) (step env s call).toCore := by
  cases call with
  | publishInventory context principal inventory =>
    simp only [acceptedGeneration?] at h
    split_ifs at h with hsession
    obtain ⟨rfl, rfl⟩ := hsession
    have hstep : step env s (.publishInventory context principal inventory) =
        finalState (publishInventory env context principal inventory s) :=
      finalState_effectOf _ _
    have hspec := does_publishInventory_accepts env context principal inventory s rfl
    rw [hstep]
    unfold Ensures at hspec
    cases hresult : publishInventory env context principal inventory s with
    | error e s' => rw [hresult] at h; exact absurd h (by simp)
    | ok a s' =>
      rw [hresult] at h hspec
      obtain ⟨rfl, record, hrecord, hidentity, hnewer, hstored⟩ := hspec
      obtain rfl : a.snapshotGeneration = accepted := Option.some.inj h
      refine ⟨?_, _, hstored, .inr ⟨by rw [hidentity], ?_, trivial⟩⟩
      · rintro generation ⟨stored, hstored', hatLeast⟩
        obtain rfl : stored = record := Option.mem_unique hstored' hrecord
        rcases hatLeast with hlater | ⟨-, hkept, -⟩
        · rw [hidentity] at hlater
          exact absurd hlater (Nat.lt_irrefl _)
        · obtain ⟨snapshot, hsnapshot, hle⟩ := Option.any_eq_true _ _ |>.1 hkept
          rw [hsnapshot, Option.any_some, decide_eq_false_iff_not] at hnewer
          have := of_decide_eq_true hle
          omega
      · rw [Option.any_some]
        exact decide_eq_true (Nat.le_refl _)
  | _ => exact absurd h (by simp [acceptedGeneration?])

/-! ### Runs -/

/-- The generations accepted in a run are above every remembered one, and increase. -/
theorem acceptedGenerations_gt_and_pairwise (hc : Coherent s.toCore) {calls : List Call}
    (h : Along (step env) (fun s call => forgetsInventory env ns session s call = false) s calls) :
    (∀ generation, Remembered ns session generation (fun _ => True) s.toCore →
        ∀ accepted ∈ acceptedGenerations env ns session s calls, generation < accepted) ∧
      (acceptedGenerations env ns session s calls).Pairwise (· < ·) := by
  induction calls generalizing s with
  | nil => exact ⟨fun _ _ _ hmem => absurd hmem List.not_mem_nil, .nil⟩
  | cons call calls ih =>
    obtain ⟨hlater, hpairwise⟩ := ih (hc.step call) h.2
    unfold acceptedGenerations
    cases haccepted : acceptedGeneration? env ns session s call with
    | none => exact ⟨fun generation hg => hlater generation (hg.step hc h.1), hpairwise⟩
    | some accepted =>
      obtain ⟨hnewer, hremembered⟩ := acceptedGeneration?_eq_some haccepted
      refine ⟨fun generation hg next hnext => ?_, List.pairwise_cons.2 ⟨?_, hpairwise⟩⟩
      · rcases List.mem_cons.1 hnext with rfl | hnext
        · exact hnewer generation hg
        · exact hlater generation (hg.step hc h.1) next hnext
      · exact hlater accepted hremembered

/-- While no call forgets the inventory of a session, the snapshot generations accepted in it
increase strictly. -/
theorem acceptedGenerations_increase (env : Environment) (resources : List Resource)
    (nextFenceToken : Nat) (nodeId : String) (nodeEpoch : Nat) (ns : NamespaceId)
    (session : Identity) (calls : List Call)
    (h : Along (step env) (fun s call => forgetsInventory env ns session s call = false)
      (.new (Ledger.withNextFenceToken resources nextFenceToken) nodeId nodeEpoch) calls) :
    (acceptedGenerations env ns session
      (.new (Ledger.withNextFenceToken resources nextFenceToken) nodeId nodeEpoch)
      calls).Pairwise (· < ·) :=
  (acceptedGenerations_gt_and_pairwise (coherent_new _ _ _ _) h).2

/-! ### A replayed inventory -/

/-- The session of a sample provider. -/
def sampleProvider (state : ProviderState) : Provider := ⟨⟨"provider", 1⟩, state, []⟩

/-- An inventory of the sample provider that is current for a minute. -/
def sampleInventory (snapshotGeneration : Nat) : ProviderSnapshot where
  provider := ⟨"provider", 1⟩
  snapshotGeneration := snapshotGeneration
  resources := []
  workers := []
  endpoints := []
  sampledAtUnixMs := 1000
  expiresAtUnixMs := 61000

/-- A world whose clock passes the expiry of the inventories at the eighth reading. -/
def replayEnvironment : Environment :=
  sampleEnvironment (fun n => if n < 7 then 2000 else 62000) (fun _ => .ok ())
    fun _ => .ok ⟨true, "STOPPED"⟩

def sampleRegister : Call :=
  .registerProvider (sampleContext default "register") samplePrincipal (sampleProvider .ready)

def samplePublish (snapshotGeneration : Nat) : Call :=
  .publishInventory (sampleContext default "publish") samplePrincipal
    (sampleInventory snapshotGeneration)

def sampleReconcile : Call :=
  .reconcileProvider (sampleContext default "reconcile") samplePrincipal ⟨"provider", 1⟩

/-- The second inventory expires and is dropped by a reconciliation; then the first one is accepted
again. -/
theorem replayedInventory_accepted :
    acceptedGenerations replayEnvironment default ⟨"provider", 1⟩ (sampleAuthority [])
        [sampleRegister, samplePublish 1, samplePublish 2, sampleReconcile, samplePublish 1] =
      [1, 2, 1] ∧
    ¬ (acceptedGenerations replayEnvironment default ⟨"provider", 1⟩ (sampleAuthority [])
        [sampleRegister, samplePublish 1, samplePublish 2, sampleReconcile,
          samplePublish 1]).Pairwise (· < ·) := by
  have haccepted : acceptedGenerations replayEnvironment default ⟨"provider", 1⟩
      (sampleAuthority [])
      [sampleRegister, samplePublish 1, samplePublish 2, sampleReconcile, samplePublish 1] =
        [1, 2, 1] := by decide +kernel
  rw [haccepted]
  exact ⟨rfl, by decide⟩

theorem acceptedGenerations_increase_replayEnvironment :
    acceptedGenerations replayEnvironment default ⟨"provider", 1⟩ (sampleAuthority [])
        [sampleRegister, samplePublish 1, samplePublish 2] = [1, 2] ∧
    (acceptedGenerations replayEnvironment default ⟨"provider", 1⟩ (sampleAuthority [])
        [sampleRegister, samplePublish 1, samplePublish 2]).Pairwise (· < ·) :=
  ⟨by decide +kernel, acceptedGenerations_increase replayEnvironment _ _ _ _ default
    ⟨"provider", 1⟩ _ ⟨by decide +kernel, by decide +kernel, by decide +kernel, trivial⟩⟩

end Authority

end CyreneKernel
