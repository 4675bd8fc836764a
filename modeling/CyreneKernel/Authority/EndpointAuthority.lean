import CyreneKernel.Authority.Isolation
import CyreneKernel.Authority.WorkerLifecycle

/-!
# Endpoint authority and leases

An endpoint is published by the holder of an active lease, and a grant is authorized for the holder
of another one.  A release and a loss remove the endpoints of the holder, the grants on them and the
grants to the holder together with the lease.  The expiry scan revokes a lease that it matches with
no worker directly and removes nothing.

## Main results

* `endpointAuthority`: without such scans endpoint authority never outlives its lease.
* `strandedGrant_not_live`: a grant outlives the lease of its grantee.
-/

namespace CyreneKernel

open Lib Relation
open Ledger (ResourceLease)

/-- The states of a lease that was neither released nor revoked. -/
def isOpen (state : Ledger.LeaseState) : Bool := state ≠ .released && state ≠ .revoked

namespace Authority

/-- A lease of the namespace, neither released nor revoked, with its holder. -/
structure HoldsLease (c : Core) (ns : NamespaceId) (holder leaseIdentity : Identity)
    (lease : ResourceLease) : Prop where
  leased : c.leases[(⟨ns, leaseIdentity⟩ : ObjectRef)]? = some lease.name
  stored : c.Stores lease
  held : lease.holder = holder
  live : isOpen lease.state = true

/-- No endpoint and no grant of the namespace rests on the lease of a holder. -/
structure Dropped (c : Core) (ns : NamespaceId) (holder leaseIdentity : Identity) : Prop where
  owner_ne : ∀ {identity : Identity} {endpoint : Endpoint},
    c.endpoints[(⟨ns, identity⟩ : ObjectRef)]? = some endpoint → endpoint.owner ≠ holder
  grantee_ne : ∀ {identity : Identity} {grant : EndpointGrant},
    c.endpointGrants[(⟨ns, identity⟩ : ObjectRef)]? = some grant →
    ¬ (grant.grantee = holder ∧ grant.lease = leaseIdentity)

/-- No endpoint and no grant rests on the lease of this name. -/
def Unrelied (c : Core) (leaseName : String) : Prop :=
  ∀ {ns : NamespaceId} {leaseIdentity : Identity} {lease : ResourceLease},
    c.leases[(⟨ns, leaseIdentity⟩ : ObjectRef)]? = some leaseName →
    c.ledger.leases.get? leaseName = some lease → Dropped c ns lease.holder leaseIdentity

variable {Γ : Scope} {c c' : Core} {env : Environment} {s : AuthorityRuntime}
  {ns : NamespaceId} {holder leaseIdentity : Identity} {lease lease' : ResourceLease}

/-- The leases that a call may revoke directly are not relied on. -/
def Scope.RevokesUnrelied (Γ : Scope) (c : Core) : Prop :=
  ∀ ⦃lease : ResourceLease⦄, c.Stores lease → isRevocable lease.state = true →
    Γ.revokes lease.name → Unrelied c lease.name

/-! ### Leases -/

theorem Dropped.log (h : Dropped c ns holder leaseIdentity) (records : List RuntimeJournalRecord) :
    Dropped (c.log records) ns holder leaseIdentity :=
  ⟨h.owner_ne, h.grantee_ne⟩

theorem dropped_purge (ns : NamespaceId) (holder leaseIdentity : Identity) (c : Core) :
    Dropped (purge holder c) ns holder leaseIdentity where
  owner_ne hendpoint := of_decide_eq_true (BTreeMap.getElem?_of_filter hendpoint).2
  grantee_ne hgrant heq :=
    (of_decide_eq_true (BTreeMap.getElem?_of_filter hgrant).2).2 heq.1

section

variable (h : HoldsLease c ns holder leaseIdentity lease) (hleases : c'.leases = c.leases)

include h hleases

/-- Another lease is stored under the name. -/
theorem HoldsLease.replace (hstored : c'.ledger.leases.get? lease.name = some lease')
    (hname : lease'.name = lease.name) (hholder : lease'.holder = lease.holder)
    (hlive : isOpen lease'.state = true) : HoldsLease c' ns holder leaseIdentity lease' where
  leased := by rw [hleases, hname]; exact h.leased
  stored := by unfold Core.Stores; rw [hname]; exact hstored
  held := hholder.trans h.held
  live := hlive

/-- A lease is written; if it is the one that is held it stays open, or nothing rests on it. -/
theorem HoldsLease.write {target target' : ResourceLease} (htarget : c.Stores target)
    (hledger : ∀ n, c'.ledger.leases.get? n =
      if target'.name = n then some target' else c.ledger.leases.get? n)
    (hname : target'.name = target.name) (hholder : target'.holder = target.holder)
    (hsame : target = lease → isOpen target'.state = true ∨ Dropped c' ns holder leaseIdentity) :
    (∃ lease', HoldsLease c' ns holder leaseIdentity lease') ∨
      Dropped c' ns holder leaseIdentity := by
  by_cases heq : target'.name = lease.name
  · obtain rfl := stores_unique h.stored htarget (hname.symm.trans heq)
    exact (hsame rfl).imp_left fun hlive =>
      ⟨target', h.replace hleases (by rw [hledger, if_pos heq]) hname hholder hlive⟩
  · refine .inl ⟨lease, h.replace hleases ?_ rfl rfl h.live⟩
    rw [hledger, if_neg heq]
    exact h.stored

end

theorem isOpen_expireIfDue (now : Nat) (lease : ResourceLease) (h : isOpen lease.state = true) :
    isOpen (lease.expireIfDue now).state = true := by
  rcases Ledger.expireIfDue_cases now lease with heq | ⟨-, -, heq⟩ <;> rw [heq]
  · exact h
  · rfl

/-- A lease that is held stays held through an effect, or nothing rests on it any more. -/
theorem Effect.holdsLease (hc : Coherent c) (hΓ : Γ.RevokesUnrelied c)
    (h : HoldsLease c ns holder leaseIdentity lease) (heffect : Effect Γ c c') :
    (∃ lease', HoldsLease c' ns holder leaseIdentity lease') ∨
      Dropped c' ns holder leaseIdentity := by
  cases heffect with
  | loss hloss =>
    cases hloss with
    | lapse now =>
      refine .inl ⟨lease.expireIfDue now,
        h.replace rfl ?_ (ResourceLease.name_expireIfDue now lease)
        (Ledger.holder_expireIfDue now lease) (isOpen_expireIfDue now lease h.live)⟩
      rw [Core.lapse, Ledger.expireDueLeases_get?, h.stored, Option.map_some]
    | lose outcome hns hpurge hname hprocess hworker hstate hleased hlease =>
      obtain ⟨bound, hb⟩ := hc.bound_of_name hname hprocess hworker
      obtain rfl := hb.lease_eq hleased hlease
      obtain ⟨revoked, hget, hreplaces⟩ := hb.revoked_of_lost hstate
      refine h.write rfl hlease hget hreplaces.name_eq hreplaces.holder_eq fun heq => .inr ?_
      rw [← h.held, ← heq, hb.held]
      exact (dropped_purge _ _ _ _).log _
    | expire hlease hstate hidle hrevoke =>
      refine h.write rfl hlease (Ledger.revokeLease_get? _ _) rfl rfl fun heq => .inr ?_
      subst heq
      have hdropped := hΓ hlease hstate hrevoke h.leased hlease
      rw [h.held] at hdropped
      exact ⟨hdropped.owner_ne, hdropped.grantee_ne⟩
    | _ => exact .inl ⟨lease, h.replace rfl h.stored rfl rfl h.live⟩
  | @grant request resources hnew =>
    refine .inl ⟨lease, h.replace rfl ?_ rfl rfl h.live⟩
    rw [Ledger.grant_get?, if_neg]
    · exact h.stored
    · intro heq
      rw [heq] at hnew
      exact absurd (hnew.symm.trans h.stored) (by simp)
  | @index object target hns hname hlease hnew =>
    refine .inl ⟨lease, ⟨?_, h.stored, h.held, h.live⟩⟩
    rw [BTreeMap.getElem?_insert, if_neg]
    · exact h.leased
    · rintro rfl
      exact hnew _ (by rw [h.leased, hname, hc.lease_name h.leased])
  | renew expiresAtUnixMs hlease hstate =>
    refine h.write rfl hlease (Ledger.put_get? _ _) rfl rfl fun _ => .inl ?_
    rw [hstate]
    rfl
  | begin hlease | fail hlease =>
    exact h.write rfl hlease (Ledger.put_get? _ _) rfl rfl fun _ => .inl rfl
  | discard hlease hstate hunindexed =>
    refine h.write rfl hlease (Ledger.put_get? _ _) rfl rfl fun heq => ?_
    exact absurd (heq ▸ h.leased) (hunindexed _)
  | release hlease =>
    refine h.write rfl hlease (Ledger.put_get? _ _) rfl rfl fun heq => .inr ?_
    rw [← h.held, ← heq]
    exact dropped_purge _ _ _ _
  | stop outcome hns hstop hprocess hworker hleased hlease =>
    unfold stopLease
    split_ifs with hreleased
    · exact .inl ⟨lease, h.replace rfl h.stored rfl rfl h.live⟩
    · refine h.write rfl hlease (Ledger.put_get? _ _) rfl rfl fun _ => .inl ?_
      unfold stoppedLeaseState
      split
      · rfl
      · split <;> rfl
  | _ => exact .inl ⟨lease, h.replace rfl h.stored rfl rfl h.live⟩

/-! ### Endpoints and grants -/

/-- A worker that owns endpoints holds a lease, and is stored on that lease if it is stored. -/
structure OwnsOn (c : Core) (ns : NamespaceId) (owner leaseIdentity : Identity) : Prop where
  holds : ∃ lease, HoldsLease c ns owner leaseIdentity lease
  started : ∃ name, c.workers[(⟨ns, owner⟩ : ObjectRef)]? = some name
  runs : ∀ {process : ManagedProcess} {worker : Worker}, c.processOf ⟨ns, owner⟩ = some process →
    process.semanticWorker = some worker → worker.lease = leaseIdentity

theorem HoldsLease.congr (h : HoldsLease c ns holder leaseIdentity lease)
    (hledger : c'.ledger = c.ledger) (hleases : c'.leases = c.leases) :
    HoldsLease c' ns holder leaseIdentity lease :=
  h.replace hleases (hledger ▸ h.stored) rfl rfl h.live

theorem OwnsOn.congr (h : OwnsOn c ns holder leaseIdentity) (hledger : c'.ledger = c.ledger)
    (hleases : c'.leases = c.leases) (hworkers : c'.workers = c.workers)
    (hinstances : c'.instances = c.instances) : OwnsOn c' ns holder leaseIdentity where
  holds := h.holds.imp fun _ hlease => hlease.congr hledger hleases
  started := hworkers ▸ h.started
  runs hprocess hworker := by
    rw [processOf_congr (by rw [hworkers]) hinstances] at hprocess
    exact h.runs hprocess hworker

/-- The process of a worker that was started before runs on the same lease as before. -/
theorem Effect.processOf_lease (hc : Coherent c) (h : Effect Γ c c') {object : ObjectRef}
    (hstarted : ∃ name, c.workers[object]? = some name) {stored : ManagedProcess}
    {current : Worker} (hstored : c'.processOf object = some stored)
    (hcurrent : stored.semanticWorker = some current) :
    ∃ before earlier, c.processOf object = some before ∧ before.semanticWorker = some earlier ∧
      earlier.lease = current.lease := by
  obtain ⟨name, current', hname, hprocess, hcurrent', hsame⟩ := processOf_eq_some.1 hstored
  obtain rfl := Option.mem_unique hcurrent hcurrent'
  rcases h.sustains_or_starts with hsustains | ⟨started, process, -, hidentity, hstarts⟩
  · obtain ⟨before, hbefore, hinherits⟩ := hsustains.before hprocess
    obtain ⟨earlier, hearlier, hid, hlease⟩ := worker_of_binding hinherits.binding_eq hcurrent
    exact ⟨before, earlier, processOf_eq_some.2 ⟨name, earlier, hsustains.workers ▸ hname, hbefore,
      hearlier, hid.trans hsame⟩, hearlier, hlease⟩
  · obtain ⟨name', hname'⟩ := hstarted
    have hne : started ≠ object := by
      rintro rfl
      exact absurd (hstarts.new.symm.trans hname') (by simp)
    rw [hstarts.workers, BTreeMap.getElem?_insert, if_neg hne] at hname
    rw [hstarts.instances, BTreeMap.getElem?_insert] at hprocess
    split_ifs at hprocess with heq
    · -- the new process has the name of this worker, but not its identity
      obtain rfl := Option.some.inj hprocess
      rw [hcurrent, Option.map_some, hsame, Option.some.injEq] at hidentity
      obtain ⟨ns', identity⟩ := object
      obtain rfl : identity = started.identity := hidentity
      have hns := scopedRuntimeName_inj (heq.trans (hc.worker_name hname))
      exact absurd (hns ▸ rfl) hne
    · exact ⟨stored, current, processOf_eq_some.2 ⟨name, current, hname, hprocess, hcurrent, hsame⟩,
        hcurrent, rfl⟩

/-- An owner keeps its lease through an effect, or owns nothing any more. -/
theorem Effect.ownsOn (hc : Coherent c)
    (hΓ : Γ.RevokesUnrelied c)
    (h : OwnsOn c ns holder leaseIdentity) (heffect : Effect Γ c c') :
    OwnsOn c' ns holder leaseIdentity ∨ Dropped c' ns holder leaseIdentity := by
  obtain ⟨lease, hlease⟩ := h.holds
  rcases heffect.holdsLease hc hΓ hlease with hholds | hdropped
  · refine .inl ⟨hholds, ?_, fun hprocess hworker => ?_⟩
    · obtain ⟨name, hname⟩ := h.started
      exact ⟨name, heffect.continues.workers hname⟩
    · obtain ⟨before, earlier, hbefore, hearlier, hsame⟩ :=
        heffect.processOf_lease hc h.started hprocess hworker
      rw [← hsame]
      exact h.runs hbefore hearlier
  · exact .inr hdropped

/-- Every stored endpoint is owned by a worker, and every stored grant is for a holder, whose lease
was neither released nor revoked; a grant names an endpoint that is stored in its namespace. -/
structure AuthorityLive (c : Core) : Prop where
  keyed : ∀ {object : ObjectRef} {endpoint : Endpoint}, c.endpoints[object]? = some endpoint →
    endpoint.identity = object.identity
  owned : ∀ {object : ObjectRef} {endpoint : Endpoint}, c.endpoints[object]? = some endpoint →
    ∃ leaseIdentity, OwnsOn c object.ns endpoint.owner leaseIdentity
  published : ∀ {object : ObjectRef} {grant : EndpointGrant},
    c.endpointGrants[object]? = some grant →
    ∃ endpoint, c.endpoints[(⟨object.ns, grant.endpoint⟩ : ObjectRef)]? = some endpoint
  granted : ∀ {object : ObjectRef} {grant : EndpointGrant},
    c.endpointGrants[object]? = some grant →
    ∃ lease, HoldsLease c object.ns grant.grantee grant.lease lease

/-- Endpoints and grants are removed, and no grant stays without its endpoint. -/
structure Trims (c c' : Core) : Prop where
  endpoints : FewerEndpoints c c'
  grants : ∀ {object : ObjectRef} {grant : EndpointGrant}, c'.endpointGrants[object]? = some grant →
    c.endpointGrants[object]? = some grant
  paired : ∀ {object : ObjectRef} {grant : EndpointGrant} {endpoint : Endpoint},
    c'.endpointGrants[object]? = some grant →
    c.endpoints[(⟨object.ns, grant.endpoint⟩ : ObjectRef)]? = some endpoint →
    endpoint.identity = grant.endpoint →
    c'.endpoints[(⟨object.ns, grant.endpoint⟩ : ObjectRef)]? = some endpoint

theorem Trims.of_eq (hendpoints : c'.endpoints = c.endpoints)
    (hgrants : c'.endpointGrants = c.endpointGrants) : Trims c c' where
  endpoints := .of_eq hendpoints
  grants h := hgrants ▸ h
  paired _ h _ := hendpoints ▸ h

theorem trims_purge (owner : Identity) (c : Core) : Trims c (purge owner c) where
  endpoints := fewerEndpoints_purge owner c
  grants h := (BTreeMap.getElem?_of_filter h).1
  paired {object grant endpoint} hgrant hendpoint hidentity := by
    refine (BTreeMap.getElem?_filter_of_forall fun stored hstored => ?_).trans hendpoint
    obtain rfl := Option.mem_unique hendpoint hstored
    have hkept := of_decide_eq_true (BTreeMap.getElem?_of_filter hgrant).2
    refine decide_eq_true fun howner => hkept.1 ?_
    exact mem_ownedEndpoints.2 ⟨_, endpoint, hendpoint, howner, hidentity⟩

theorem LossEffect.trims (h : LossEffect Γ c c') : Trims c c' := by
  cases h with
  | @lose ns name process worker lease _ _ _ outcome =>
    have htrims := trims_purge worker.identity (loseOperations worker.identity { c with
      ledger := revokeIfRevocable c.ledger lease
      instances := c.instances.insert name
        (lostProcess process (process.actor.stop outcome).2) })
    exact ⟨htrims.endpoints, htrims.grants, htrims.paired⟩
  | _ => exact .of_eq rfl rfl

theorem AuthorityLive.trim (h : AuthorityLive c) (hc : Coherent c)
    (hΓ : Γ.RevokesUnrelied c) (heffect : Effect Γ c c')
    (htrims : Trims c c') : AuthorityLive c' where
  keyed hendpoint := h.keyed (htrims.endpoints hendpoint)
  owned {object endpoint} hendpoint := by
    obtain ⟨leaseIdentity, howns⟩ := h.owned (htrims.endpoints hendpoint)
    rcases heffect.ownsOn hc hΓ howns with howns' | hdropped
    · exact ⟨leaseIdentity, howns'⟩
    · exact absurd rfl (hdropped.owner_ne hendpoint)
  published {object grant} hgrant := by
    obtain ⟨endpoint, hendpoint⟩ := h.published (htrims.grants hgrant)
    exact ⟨endpoint, htrims.paired hgrant hendpoint (h.keyed hendpoint)⟩
  granted {object grant} hgrant := by
    obtain ⟨lease, hlease⟩ := h.granted (htrims.grants hgrant)
    rcases heffect.holdsLease hc hΓ hlease with hholds | hdropped
    · exact hholds
    · exact absurd ⟨rfl, rfl⟩ (hdropped.grantee_ne hgrant)

theorem AuthorityLive.publish (h : AuthorityLive c) {endpoint : Endpoint}
    (howns : OwnsOn c ns endpoint.owner leaseIdentity) :
    AuthorityLive (Authority.publish ns endpoint c) := by
  have hcases : ∀ {object : ObjectRef} {stored : Endpoint},
      (Authority.publish ns endpoint c).endpoints[object]? = some stored →
      (object = ⟨ns, endpoint.identity⟩ ∧ stored = endpoint) ∨
        c.endpoints[object]? = some stored := by
    intro object stored hstored
    unfold Authority.publish at hstored
    rw [BTreeMap.getElem?_insert] at hstored
    split_ifs at hstored with heq
    · exact .inl ⟨heq.symm, (Option.some.inj hstored).symm⟩
    · exact .inr (BTreeMap.getElem?_of_filter hstored).1
  refine ⟨fun hstored => ?_, fun {object stored} hstored => ?_, fun {object grant} hgrant => ?_,
    fun hgrant => (h.granted (BTreeMap.getElem?_of_filter hgrant).1).imp
      fun _ hlease => hlease.congr rfl rfl⟩
  · rcases hcases hstored with ⟨rfl, rfl⟩ | hold
    · rfl
    · exact h.keyed hold
  · rcases hcases hstored with ⟨rfl, rfl⟩ | hold
    · exact ⟨leaseIdentity, howns.congr rfl rfl rfl rfl⟩
    · exact (h.owned hold).imp fun _ howns => howns.congr rfl rfl rfl rfl
  · obtain ⟨hold, hkept⟩ := BTreeMap.getElem?_of_filter hgrant
    have hkept := of_decide_eq_true hkept
    obtain ⟨stored, hstored⟩ := h.published hold
    unfold Authority.publish
    by_cases heq : (⟨ns, endpoint.identity⟩ : ObjectRef) = ⟨object.ns, grant.endpoint⟩
    · exact ⟨endpoint, by rw [BTreeMap.getElem?_insert, if_pos heq]⟩
    · refine ⟨stored, ?_⟩
      rw [BTreeMap.getElem?_insert, if_neg heq]
      refine (BTreeMap.getElem?_filter_of_forall fun current hcurrent => ?_).trans hstored
      rcases hkept with hns | hid | hsame
      · exact decide_eq_true (.inl hns)
      · refine decide_eq_true (.inr (.inl ?_))
        rw [h.keyed hcurrent]
        exact hid
      · refine decide_eq_true (.inl ?_)
        rintro rfl
        exact heq (by rw [hsame])

theorem AuthorityLive.effect (h : AuthorityLive c) (hc : Coherent c)
    (hΓ : Γ.RevokesUnrelied c) (heffect : Effect Γ c c') :
    AuthorityLive c' := by
  have htrim := h.trim hc hΓ heffect
  cases heffect with
  | loss hloss => exact htrim hloss.trims
  | @release lease =>
    have htrims := trims_purge lease.holder { c with
      ledger := (c.ledger.free lease).put { lease with state := .released } }
    exact htrim ⟨htrims.endpoints, htrims.grants, htrims.paired⟩
  | purge => exact htrim (trims_purge _ c)
  | @publish ns name process worker lease endpoint hns hname hprocess hworker howner hleased hlease
      hstate hholder =>
    obtain ⟨bound, hb⟩ := hc.bound_of_name (howner.symm ▸ hname) hprocess hworker
    refine h.publish ⟨⟨lease, hleased, hlease, hholder.trans howner, ?_⟩, ?_, ?_⟩
    · rw [hstate]
      rfl
    · exact ⟨name, howner ▸ hb.indexed⟩
    · intro stored current hstored hcurrent
      obtain ⟨name', current', hname', hprocess', -, -⟩ := processOf_eq_some.1 hstored
      obtain rfl := Option.some.inj ((howner ▸ hb.indexed).symm.trans hname')
      obtain rfl := Option.mem_unique hprocess hprocess'
      rw [Option.mem_unique hcurrent hworker]
  | @authorize ns endpoint lease grant hns hendpoint hleased hlease hstate hholder =>
    refine ⟨h.keyed,
      fun hstored => (h.owned hstored).imp fun _ howns => howns.congr rfl rfl rfl rfl,
      fun {object stored} hgrant => ?_, fun {object stored} hgrant => ?_⟩ <;>
      rw [BTreeMap.getElem?_insert] at hgrant <;> split_ifs at hgrant with heq
    · obtain rfl := Option.some.inj hgrant
      exact ⟨endpoint, heq ▸ hendpoint⟩
    · exact h.published hgrant
    · obtain rfl := Option.some.inj hgrant
      exact ⟨lease, heq ▸ hleased, hlease, hholder, by rw [hstate]; rfl⟩
    · exact (h.granted hgrant).imp fun _ hlease => hlease.congr rfl rfl
  | @unauthorize object hns =>
    have hold : ∀ {o : ObjectRef} {grant : EndpointGrant},
        (c.endpointGrants.erase object)[o]? = some grant → c.endpointGrants[o]? = some grant := by
      intro o grant hgrant
      rw [BTreeMap.getElem?_erase] at hgrant
      split_ifs at hgrant with heq
      exact hgrant
    exact htrim ⟨.of_eq rfl, hold, fun _ hendpoint _ => hendpoint⟩
  | _ => exact htrim (.of_eq rfl rfl)

/-! ### Scans -/

theorem Dropped.trim (h : Dropped c ns holder leaseIdentity) (htrims : Trims c c') :
    Dropped c' ns holder leaseIdentity where
  owner_ne hendpoint := h.owner_ne (htrims.endpoints hendpoint)
  grantee_ne hgrant := h.grantee_ne (htrims.grants hgrant)

/-- What a scan does not rely on at its start is not relied on later. -/
theorem Scope.RevokesUnrelied.lossEffect (hΓ : Γ.RevokesUnrelied c) (h : LossEffect Γ c c') :
    Γ.RevokesUnrelied c' := by
  intro lease' hlease' hrevocable hrevokes ns leaseIdentity stored hleased hstored
  obtain rfl : stored = lease' := Option.mem_unique hstored hlease'
  obtain ⟨lease, hlease, hfades⟩ := h.ledgerFades.before hstored
  rw [h.sameBindings.leases, hfades.name_eq] at hleased
  rw [hfades.name_eq] at hlease hrevokes
  have hdropped := hΓ hlease (hfades.revocable hrevocable) hrevokes hleased hlease
  rw [hfades.holder_eq]
  exact hdropped.trim h.trims

theorem LossPath.authorityLive (hlive : AuthorityLive c) (hc : Coherent c)
    (hΓ : Γ.RevokesUnrelied c) (h : LossPath Γ c c') :
    AuthorityLive c' ∧ Γ.RevokesUnrelied c' := by
  induction h with
  | refl => exact ⟨hlive, hΓ⟩
  | tail hpath heffect ih =>
    exact ⟨ih.1.effect (LossPath.coherent hpath hc) ih.2 (.loss heffect), ih.2.lossEffect heffect⟩

theorem Path.authorityLive (hlive : AuthorityLive c) (hc : Coherent c)
    (hΓ : ∀ name, ¬ Γ.revokes name) (h : Path Γ c c') : AuthorityLive c' := by
  induction h with
  | refl => exact hlive
  | tail hpath heffect ih =>
    exact ih.effect (hc.path hpath) (fun _ _ _ hrevokes => absurd hrevokes (hΓ _)) heffect

/-- An endpoint or a grant of the namespace rests on the lease. -/
def isReliedOn (c : Core) (object : ObjectRef) (lease : ResourceLease) : Bool :=
  (c.endpoints.toList.any fun entry => entry.1.ns = object.ns && entry.2.owner = lease.holder) ||
    c.endpointGrants.toList.any fun entry => entry.1.ns = object.ns &&
      entry.2.grantee = lease.holder && entry.2.lease = object.identity

/-- The scan at the time `now` revokes, without a worker, a lease that an endpoint or a grant rests
on. -/
def strandsAuthority (c : Core) (now : Nat) : Bool :=
  c.ledger.leases.values.any fun lease =>
    needsActiveExpiry c now lease && isRevocable lease.state && !isMatched c lease &&
      c.leases.toList.any fun entry => entry.2 = lease.name && isReliedOn c entry.1 lease

theorem revokesUnrelied_scanScope {now : Nat} (h : strandsAuthority c now = false) :
    (scanScope env c now).RevokesUnrelied c := by
  rintro target htarget hrevocable ⟨lease, hlease, hneeds, hname, hunmatched⟩ ns leaseIdentity
    stored hleased hstored
  obtain rfl := Option.mem_unique htarget hstored
  obtain rfl := stores_unique hlease htarget hname
  simp only [strandsAuthority, List.any_eq_false, Index.mem_values] at h
  have hrelied := h target htarget
  rw [hneeds, hrevocable, isMatched_eq_false hunmatched, Bool.not_false, Bool.and_true,
    Bool.and_true, Bool.true_and, List.any_eq_true] at hrelied
  have hfree : isReliedOn c ⟨ns, leaseIdentity⟩ target = false := by
    rw [← Bool.not_eq_true]
    refine fun hrelies => hrelied ⟨(⟨ns, leaseIdentity⟩, target.name), ?_, ?_⟩
    · exact Std.ExtTreeMap.mem_toList_iff_getElem?_eq_some.2 hleased
    · rw [decide_eq_true rfl, Bool.true_and]
      exact hrelies
  simp only [isReliedOn, Bool.or_eq_false_iff, BTreeMap.any_toList_eq_false, Bool.and_eq_true,
    decide_eq_true_eq, not_and] at hfree
  exact ⟨fun hendpoint => hfree.1 _ _ hendpoint rfl,
    fun hgrant heq => hfree.2 _ _ hgrant ⟨rfl, heq.1⟩ heq.2⟩

/-! ### Runs -/

/-- The call is a scan that strands endpoint authority. -/
def strandsIn (env : Environment) (s : AuthorityRuntime) : Call → Bool
  | .enforceLeaseExpiry => strandsAuthority s.toCore (env.now s.tick)
  | _ => false

theorem AuthorityLive.step (hlive : AuthorityLive s.toCore) (hc : Coherent s.toCore) {call : Call}
    (h : strandsIn env s call = false) : AuthorityLive (Authority.step env s call).toCore := by
  cases call with
  | enforceLeaseExpiry =>
    change AuthorityLive (finalState (effectOf (Authority.enforceLeaseExpiry env) s)).toCore
    rw [finalState_effectOf]
    exact (LossPath.authorityLive hlive hc (revokesUnrelied_scanScope h)
      (scan_lossPath env s hc)).1
  | _ => exact Path.authorityLive hlive hc (fun _ => id) (step_path hc _)

theorem authorityLive_new (resources : List Resource) (nextFenceToken : Nat) (nodeId : String)
    (nodeEpoch : Nat) :
    AuthorityLive (AuthorityRuntime.new (Ledger.withNextFenceToken resources nextFenceToken) nodeId
      nodeEpoch).toCore where
  keyed h := absurd h (by simp [AuthorityRuntime.new])
  owned h := absurd h (by simp [AuthorityRuntime.new])
  published h := absurd h (by simp [AuthorityRuntime.new])
  granted h := absurd h (by simp [AuthorityRuntime.new])

/-- In a run whose scans strand nothing, endpoint authority never outlives its lease. -/
theorem endpointAuthority (env : Environment) (resources : List Resource) (nextFenceToken : Nat)
    (nodeId : String) (nodeEpoch : Nat) (calls : List Call)
    (h : Along (step env) (fun s call => strandsIn env s call = false)
      (.new (Ledger.withNextFenceToken resources nextFenceToken) nodeId nodeEpoch) calls) :
    AuthorityLive (run (step env)
      (.new (Ledger.withNextFenceToken resources nextFenceToken) nodeId nodeEpoch)
          calls).toCore := by
  refine (run_induction
    (I := fun s : AuthorityRuntime => Coherent s.toCore ∧ AuthorityLive s.toCore)
    ⟨coherent_new _ _ _ _, authorityLive_new _ _ _ _⟩ (fun s call hs hcall => ?_) h).2
  exact ⟨hs.1.step call, hs.2.step hs.1 hcall⟩

/-- A worker publishes an endpoint and authorizes a client that holds a lease of its own; then the
leases are scanned. -/
def strandedGrant : List Call :=
  [sampleAcquire default "a" ⟨"worker", 1⟩ 100,
    .startWorker (sampleContext default "start") samplePrincipal
      (sampleWorker "worker" 1 ⟨"lease-a", 1⟩),
    .publishEndpoint (sampleContext default "publish") samplePrincipal
      (sampleEndpoint "endpoint" ⟨"worker", 1⟩),
    sampleAcquire default "b" ⟨"client", 1⟩ 50,
    .authorizeEndpoint (sampleContext default "authorize") samplePrincipal
      ⟨⟨"grant", 1⟩, ⟨"endpoint", 1⟩, ⟨"client", 1⟩, ⟨"lease-b", 1⟩, 2, 50⟩,
    .enforceLeaseExpiry]

/-- The world of the run; `scanned` is the time of the scan. -/
def strandedEnvironment (scanned : Nat) : Environment :=
  sampleEnvironment (fun n => if n < 27 then 0 else scanned) (fun _ => .ok ())
    fun _ => .ok ⟨true, "cleanup"⟩

/-- The scan revokes the lease of the client and leaves the grant. -/
theorem strandedGrant_not_live :
    let s := run (step (strandedEnvironment 60)) (sampleAuthority ["gpu-0", "gpu-1"]) strandedGrant
    s.endpointGrants[(⟨default, ⟨"grant", 1⟩⟩ : ObjectRef)]? =
        some ⟨⟨"grant", 1⟩, ⟨"endpoint", 1⟩, ⟨"client", 1⟩, ⟨"lease-b", 1⟩, 2, 50⟩ ∧
      s.leases[(⟨default, ⟨"lease-b", 1⟩⟩ : ObjectRef)]? = some "lease-b" ∧
      (s.ledger.leases.get? "lease-b").map (fun lease => (lease.holder, lease.state)) =
        some (⟨"client", 1⟩, .revoked) := by
  decide +kernel

/-- A scan before the leases lapse strands nothing. -/
theorem endpointAuthority_strandedGrant :
    AuthorityLive (run (step (strandedEnvironment 40)) (sampleAuthority ["gpu-0", "gpu-1"])
      strandedGrant).toCore :=
  endpointAuthority (strandedEnvironment 40) (["gpu-0", "gpu-1"].map Ledger.sampleResource) 1 "node"
    1 strandedGrant ⟨rfl, rfl, rfl, rfl, rfl, by decide +kernel, trivial⟩

end Authority

end CyreneKernel
