import CyreneKernel.Authority.Steps
import CyreneKernel.Ledger.Fencing

/-!
# The fence tokens that clients see

A client sees the fence token of a lease when a call returns the lease, and in every snapshot of
its namespace; the grants on endpoints repeat it.  As long as every revocation is journaled, each
token that a client can see has a record in the journal.

## Main results

* `journaled_step`: without failing revocations the visible tokens stay journaled.
* `aboveToken_step`: the ledger never falls back to a token.
* `shows_of_mem_exposes`: what a call returns is visible before or after it.
-/

namespace CyreneKernel

open Lib Relation
open Ledger (ResourceLease SameTokens Wrote)

/-- The journal of the running kernel has a record with this fence token. -/
def Core.Journals (c : Core) (token : Nat) : Prop :=
  ∃ record ∈ c.journal, record.nodeId = c.nodeId ∧ record.fenceToken = some token

namespace Authority

variable {Γ : Scope} {c c' : Core} {env : Environment} {s : AuthorityRuntime} {token : Nat}

/-- The journal has every token that clients can see. -/
def Journaled (c : Core) : Prop := ∀ ⦃token : Nat⦄, c.Shows token → c.Journals token

/-- Every token of the ledger, and every one it will issue, lies above the given one. -/
structure AboveToken (token : Nat) (s : Ledger.State) : Prop where
  next_lt : token < s.nextFenceToken
  lease_lt : ∀ ⦃name : String⦄ ⦃lease : ResourceLease⦄, s.leases.get? name = some lease →
    token < lease.fenceToken

/-- The journal takes the records of every revocation that a call may make. -/
def Scope.Records (Γ : Scope) : Prop :=
  Γ.faulty → ∀ name, ¬ Γ.frees name ∧ ¬ Γ.revokes name

/-! ### The ledger -/

theorem AboveToken.of_sameTokens {s s' : Ledger.State} (h : AboveToken token s)
    (hsame : SameTokens s s') : AboveToken token s' := by
  refine ⟨hsame.next_eq ▸ h.next_lt, fun name lease hlease => ?_⟩
  have hmap := hsame.map_eq name
  rw [hlease, Option.map_some, eq_comm, Option.map_eq_some_iff] at hmap
  obtain ⟨before, hbefore, hfence⟩ := hmap
  exact hfence ▸ h.lease_lt hbefore

variable {call : Call} {lease : ResourceLease}

/-- A new token is at least the counter. -/
theorem next_le_of_wrote {s s' : Ledger.State} (h : Wrote s s' lease) :
    s.nextFenceToken ≤ lease.fenceToken := by
  rcases h.token_eq with ⟨-, htoken⟩ | ⟨before, -, htoken⟩
  · exact htoken.ge
  · rw [htoken]
    exact le_max_left _ _

theorem AboveToken.of_wrote {s s' : Ledger.State} (h : AboveToken token s) (htoken : token < u64Max)
    (hwrote : Wrote s s' lease) : AboveToken token s' := by
  have hlease : token < lease.fenceToken := h.next_lt.trans_le (next_le_of_wrote hwrote)
  refine ⟨?_, fun name stored hstored => ?_⟩
  · rw [hwrote.next_eq, saturatingAdd]
    omega
  · rw [hwrote.get?_eq] at hstored
    split_ifs at hstored
    · exact Option.some.inj hstored ▸ hlease
    · exact h.lease_lt hstored

theorem wrote_revokeLease {s : Ledger.State} (h : s.leases.get? lease.name = some lease) :
    Wrote s (s.revokeLease lease) (s.revoked lease) :=
  ⟨rfl, Ledger.revokeLease_get? s lease, .inr ⟨lease, h, rfl⟩⟩

theorem sameTokens_lapse (c : Core) (now : Nat) : SameTokens c.ledger (c.lapse now).ledger := by
  refine ⟨rfl, fun n => ?_⟩
  rw [Core.lapse, Ledger.expireDueLeases_get?, Option.map_map]
  congr 1
  funext lease
  exact Ledger.fenceToken_expireIfDue now lease

/-- The record of a revocation, when the journal takes it. -/
theorem journals_revoked {records : List RuntimeJournalRecord} {instanceName : Option String}
    {revoked : ResourceLease} {reasonCode : String} {more : List RuntimeJournalRecord}
    (hrecords : records = revocationRecords c instanceName revoked reasonCode ++ more)
    (hnode : c'.nodeId = c.nodeId) (hjournal : c'.journal = c.journal ++ records) :
    c'.Journals revoked.fenceToken := by
  refine ⟨c.record .leaseRevoked instanceName (some revoked) reasonCode none, ?_, hnode.symm, rfl⟩
  rw [hjournal, hrecords]
  simp [revocationRecords]

/-- An effect keeps every token, or writes one new token, which is journaled unless its lease is not
yet indexed. -/
theorem Effect.tokens (h : Effect Γ c c') :
    SameTokens c.ledger c'.ledger ∨ ∃ lease, Wrote c.ledger c'.ledger lease ∧
      (Γ.Records → Coherent c → c.Unindexed lease.name ∨ c'.Journals lease.fenceToken) := by
  cases h with
  | loss hloss =>
    cases hloss with
    | lapse now => exact .inl (sameTokens_lapse c now)
    | record => exact .inl (.refl _)
    | @lose ns name process worker lease _ _ _ outcome hns hpurge hname hprocess hworker hstate
        hleased hlease hfree hrecords =>
      change SameTokens c.ledger (revokeIfRevocable c.ledger lease) ∨
        ∃ written, Wrote c.ledger (revokeIfRevocable c.ledger lease) written ∧ _
      rw [revokeIfRevocable]
      split
      · next hrevocable =>
        refine .inr ⟨_, wrote_revokeLease hlease, fun hΓ _ => .inr ?_⟩
        have hdue := hrecords.complete.resolve_right fun hfaulty => (hΓ hfaulty _).1 hfree
        rw [lossRecords, isRevoking, hrevocable, Bool.true_or, if_pos rfl, revokedLease,
          if_pos hrevocable] at hdue
        exact journals_revoked hdue rfl rfl
      · exact .inl (.refl _)
    | reclaim => exact .inl (.free _ _)
    | expire hlease hstate hidle hrevoke hrecords =>
      refine .inr ⟨_, wrote_revokeLease hlease, fun hΓ _ => .inr ?_⟩
      have hdue := hrecords.complete.resolve_right fun hfaulty => (hΓ hfaulty _).2 hrevoke
      exact journals_revoked hdue rfl rfl
  | @grant request resources hnew =>
    exact .inr ⟨c.ledger.granted request resources,
      ⟨rfl, Ledger.grant_get? c.ledger _ _, .inl ⟨hnew, rfl⟩⟩,
      fun _ hc => .inl (hc.unindexed_of_new hnew)⟩
  | renew expiresAtUnixMs hlease | begin hlease | fail hlease => exact .inl (.put hlease rfl rfl)
  | @discard lease hlease | @release lease hlease =>
    exact .inl ((SameTokens.free _ lease).trans (.put hlease rfl rfl))
  | stop outcome hns hstop hprocess hworker hleased hlease =>
    refine .inl ?_
    unfold stopLease
    split
    · exact .refl _
    · exact .put hlease rfl rfl
  | _ => exact .inl ⟨rfl, fun _ => rfl⟩

theorem Path.aboveToken (htoken : token < u64Max) (h : AboveToken token c.ledger)
    (hpath : Path Γ c c') : AboveToken token c'.ledger := by
  induction hpath with
  | refl => exact h
  | tail _ heffect ih =>
    rcases heffect.tokens with hsame | ⟨lease, hwrote, -⟩
    · exact ih.of_sameTokens hsame
    · exact ih.of_wrote htoken hwrote

/-! ### The journal -/

theorem Effect.journal (h : Effect Γ c c') : c'.nodeId = c.nodeId ∧ c.journal <+: c'.journal := by
  cases h with
  | loss hloss =>
    cases hloss with
    | record | lose | expire => exact ⟨rfl, List.prefix_append _ _⟩
    | _ => exact ⟨rfl, List.prefix_rfl⟩
  | stop | launch => exact ⟨rfl, List.prefix_append _ _⟩
  | _ => exact ⟨rfl, List.prefix_rfl⟩

theorem Path.journal (h : Path Γ c c') : c'.nodeId = c.nodeId ∧ c.journal <+: c'.journal := by
  induction h with
  | refl => exact ⟨rfl, List.prefix_rfl⟩
  | tail _ heffect ih =>
    exact ⟨heffect.journal.1.trans ih.1, ih.2.trans heffect.journal.2⟩

theorem Effect.journals (h : Effect Γ c c') (hjournals : c.Journals token) : c'.Journals token := by
  obtain ⟨record, hmem, hnode, hfence⟩ := hjournals
  exact ⟨record, h.journal.2.subset hmem, hnode.trans h.journal.1.symm, hfence⟩

/-! ### Visible tokens -/

/-- The endpoint grants of a later state were there before. -/
def GrantsWithin (c c' : Core) : Prop :=
  ∀ ⦃object : ObjectRef⦄ ⦃grant : EndpointGrant⦄, c'.endpointGrants[object]? = some grant →
    c.endpointGrants[object]? = some grant

theorem grantsWithin_of_filter {p : ObjectRef → EndpointGrant → Bool}
    (h : c'.endpointGrants = c.endpointGrants.filter p) : GrantsWithin c c' := by
  intro object grant hgrant
  rw [h] at hgrant
  exact (BTreeMap.getElem?_of_filter hgrant).1

theorem shows_of_sameTokens (hsame : SameTokens c.ledger c'.ledger) (hleases : c'.leases = c.leases)
    (hgrants : GrantsWithin c c') (h : c'.Shows token) : c.Shows token := by
  cases h with
  | @lease object lease hleased hlease htoken =>
    have hmap := hsame.map_eq lease.name
    rw [hlease, Option.map_some, eq_comm, Option.map_eq_some_iff] at hmap
    obtain ⟨before, hbefore, hfence⟩ := hmap
    have hname : before.name = lease.name := Index.key_of_get? hbefore
    have hleased' : c.leases[object]? = some before.name := by rw [hname, ← hleases, hleased]
    exact .lease hleased' (by rw [Core.Stores, hname, hbefore]) (hfence.trans htoken)
  | grant hgrant htoken => exact .grant (hgrants hgrant) htoken

/-- A new token becomes visible only on a lease that is indexed. -/
theorem shows_of_wrote (hwrote : Wrote c.ledger c'.ledger lease) (hleases : c'.leases = c.leases)
    (hgrants : GrantsWithin c c') (h : c'.Shows token) :
    c.Shows token ∨ (¬ c.Unindexed lease.name ∧ token = lease.fenceToken) := by
  cases h with
  | @lease object stored hleased hlease htoken =>
    rw [Core.Stores, hwrote.get?_eq] at hlease
    rw [hleases] at hleased
    split_ifs at hlease with hname
    · obtain rfl := Option.some.inj hlease
      exact .inr ⟨fun hunindexed => hunindexed object hleased, htoken.symm⟩
    · exact .inl (.lease hleased hlease htoken)
  | grant hgrant htoken => exact .inl (.grant (hgrants hgrant) htoken)

/-- What becomes visible is journaled. -/
theorem Effect.shows (hΓ : Γ.Records) (hc : Coherent c) (h : Effect Γ c c')
    (hshows : c'.Shows token) : c.Shows token ∨ c'.Journals token := by
  have htokens := h.tokens
  have hframe (hleases : c'.leases = c.leases) (hgrants : GrantsWithin c c') :
      c.Shows token ∨ c'.Journals token := by
    rcases htokens with hsame | ⟨lease, hwrote, hnew⟩
    · exact .inl (shows_of_sameTokens hsame hleases hgrants hshows)
    · refine (shows_of_wrote hwrote hleases hgrants hshows).imp_right fun ⟨hindexed, htoken⟩ => ?_
      exact htoken ▸ (hnew hΓ hc).resolve_left hindexed
  cases h with
  | loss hloss =>
    cases hloss with
    | lose => exact hframe rfl (grantsWithin_of_filter rfl)
    | _ => exact hframe rfl fun _ _ h => h
  | @index object lease hns hname hlease hnew hrecord =>
    cases hshows with
    | @lease object' stored hleased hstored htoken =>
      rw [BTreeMap.getElem?_insert] at hleased
      split_ifs at hleased with heq
      · obtain rfl := stores_unique hlease hstored (Option.some.inj hleased).symm
        obtain ⟨record, hmem, hnode, hfence⟩ := hrecord
        exact .inr ⟨record, hmem, hnode, htoken ▸ hfence⟩
      · exact .inl (.lease hleased hstored htoken)
    | grant hgrant htoken => exact .inl (.grant hgrant htoken)
  | release | purge | publish => exact hframe rfl (grantsWithin_of_filter rfl)
  | @authorize ns endpoint lease grant hns hendpoint hleased hlease hstate hholder hfence =>
    cases hshows with
    | lease hleased' hstored htoken => exact .inl (.lease hleased' hstored htoken)
    | grant hgrant htoken =>
      rw [BTreeMap.getElem?_insert] at hgrant
      split_ifs at hgrant
      · obtain rfl := Option.some.inj hgrant
        exact .inl (.lease hleased hlease (hfence.trans htoken))
      · exact .inl (.grant hgrant htoken)
  | unauthorize =>
    refine hframe rfl fun object grant hgrant => ?_
    rw [BTreeMap.getElem?_erase] at hgrant
    split_ifs at hgrant
    exact hgrant
  | _ => exact hframe rfl fun _ _ h => h

theorem Path.journaled (hΓ : Γ.Records) (hc : Coherent c) (h : Journaled c) (hpath : Path Γ c c') :
    Journaled c' := by
  induction hpath with
  | refl => exact h
  | tail hpath heffect ih =>
    intro token hshows
    rcases heffect.shows hΓ (hc.path hpath) hshows with hbefore | hjournals
    · exact heffect.journals (ih hbefore)
    · exact hjournals

/-! ### What calls return -/

/-- The fence tokens that a call returns. -/
def Call.exposes (env : Environment) (s : AuthorityRuntime) : Call → List Nat
  | acquireLease context principal holder query expiresAtUnixMs =>
    ((value? (Authority.acquireLease env context principal holder query expiresAtUnixMs s)).map
      (·.fenceToken)).toList
  | renewLease context principal lease fenceToken expiresAtUnixMs =>
    ((value? (Authority.renewLease env context principal lease fenceToken expiresAtUnixMs s)).map
      (·.fenceToken)).toList
  | releaseLease context principal lease fenceToken =>
    ((value? (Authority.releaseLease env context principal lease fenceToken s)).map
      (·.fenceToken)).toList
  | authorizeEndpoint context principal grant =>
    ((value? (Authority.authorizeEndpoint env context principal grant s)).map
      (·.fenceToken)).toList
  | snapshot context principal =>
    ((value? (Authority.snapshot env context principal s)).map fun snapshot =>
      snapshot.leases.map (·.fenceToken) ++ snapshot.endpointGrants.map (·.fenceToken)).getD []
  | _ => []

/-- The scope that allows everything. -/
def Scope.any : Scope where
  namespaces _ := True
  purges _ := True
  sessions _ := True
  stops _ _ := True
  starts _ := True
  publishes _ := True
  remembers _ _ _ := True
  advances _ _ _ := True
  revokes _ := True
  frees _ := True
  providers _ _ _ := True
  faulty := True

theorem shows_of_value {α : Type} {m : Action α} {tokenOf : α → Nat}
    (h : Issues .any s.toCore tokenOf m s.toCore)
    (hmem : token ∈ ((value? (m s)).map tokenOf).toList) :
    (finalState (effectOf m s)).toCore.Shows token := by
  obtain ⟨a, ha, rfl⟩ := Option.map_eq_some_iff.1 (Option.mem_toList.1 hmem)
  rw [finalState_effectOf]
  exact (h.value ha).2

/-- What a call returns is visible before or after it. -/
theorem shows_of_mem_exposes (hc : Coherent s.toCore) (h : token ∈ call.exposes env s) :
    s.toCore.Shows token ∨ (step env s call).toCore.Shows token := by
  cases call with
  | acquireLease =>
    exact .inr (shows_of_value (does_acquireLease hc trivial) h)
  | renewLease =>
    exact .inr (shows_of_value does_renewLease h)
  | releaseLease =>
    exact .inr (shows_of_value (does_releaseLease hc trivial (fun _ => trivial)
      (fun _ _ => trivial) fun _ _ _ _ _ _ => trivial) h)
  | authorizeEndpoint =>
    exact .inr (shows_of_value (does_authorizeEndpoint trivial) h)
  | snapshot context principal =>
    simp only [Call.exposes] at h
    cases hvalue : value? (Authority.snapshot env context principal s) with
    | none => simp [hvalue] at h
    | some snapshot =>
      rw [hvalue, Option.map_some, Option.getD_some, List.mem_append] at h
      obtain ⟨-, hleases, hgrants⟩ := (does_snapshot (Γ := .any)).value hvalue
      rcases h with h | h
      · obtain ⟨lease, hlease, rfl⟩ := List.mem_map.1 h
        exact .inl (hleases lease hlease)
      · obtain ⟨grant, hgrant, rfl⟩ := List.mem_map.1 h
        exact .inl (hgrants grant hgrant)
  | _ => exact absurd h List.not_mem_nil

/-! ### Calls -/

/-- The calls that may revoke leases. -/
def Call.mayRevoke : Call → Bool
  | markWorkerLost .. | reconcileProvider .. | enforceLeaseExpiry => true
  | _ => false

theorem records_scope (h : call.mayRevoke = true → ¬ env.Faulty) : (call.scope env s).Records := by
  cases call with
  | markWorkerLost | reconcileProvider | enforceLeaseExpiry =>
    exact fun hfaulty => absurd hfaulty (h rfl)
  | _ => exact fun _ _ => ⟨id, id⟩

/-- The visible tokens stay journaled, unless the journal fails while leases are revoked. -/
theorem journaled_step (hc : Coherent s.toCore) (h : Journaled s.toCore)
    (hcall : call.mayRevoke = true → ¬ env.Faulty) : Journaled (step env s call).toCore :=
  Path.journaled (records_scope hcall) hc h (step_path hc call)

/-- The ledger never falls back to a token. -/
theorem aboveToken_step (hc : Coherent s.toCore) (htoken : token < u64Max)
    (h : AboveToken token s.ledger) : AboveToken token (step env s call).ledger :=
  Path.aboveToken htoken h (step_path hc call)

end Authority

end CyreneKernel
