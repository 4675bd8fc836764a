import CyreneKernel.Authority.Steps
import CyreneKernel.Ledger.Lifecycle

/-!
# Retrying a failed acquisition

A request for a lease is checked, granted and journaled.  When one of the checks rejects it, nothing
of it remains but the binding of its namespace, and the same request meets the same checks again.
When the grant cannot be journaled it is released at once, but the released lease stays in the
ledger under the name that the request derives from its idempotency key, so that every later attempt
finds the name taken.

## Main results

* `accepts_iff`: an acquisition is accepted when it is admissible and the journal takes its record.
* `noEffect_iff`: a failed acquisition has no effect exactly when the journal did not refuse the
  record of an admissible request.
-/

namespace CyreneKernel

open Lib

namespace Authority

/-- The arguments of an acquisition. -/
structure AcquireRequest where
  context : AuthorityCallContext
  principal : Principal
  holder : Identity
  query : ResourceQuery
  expiresAtUnixMs : Nat

namespace AcquireRequest

def submit (env : Environment) (request : AcquireRequest) : Action Lease :=
  acquireLease env request.context request.principal request.holder request.query
    request.expiresAtUnixMs

/-- The name of the lease in the ledger. -/
def ledgerName (request : AcquireRequest) : String :=
  leaseInternalName request.context (leaseName request.context)

/-- The namespace of the request is free, or belongs to its principal. -/
def owns (request : AcquireRequest) (s : AuthorityRuntime) : Bool :=
  (s.namespaceOwners[request.context.ns]?).all (· = request.principal.identity)

/-- The checks of an acquisition that starts at time `t`. -/
def admissible (request : AcquireRequest) (env : Environment) (t : Nat) (s : AuthorityRuntime) :
    Bool :=
  (request.context.validateFor .current).isOk && request.owns s &&
    env.now t < request.expiresAtUnixMs && s.ledger.ready &&
    !s.ledger.leases.contains request.ledgerName && request.query.validate.isOk &&
    env.now (t + 2) < request.expiresAtUnixMs &&
    (s.ledger.candidates request.query).length = request.query.count

end AcquireRequest

variable {env : Environment} {s s' : AuthorityRuntime} {request : AcquireRequest} {t : Nat}

theorem ensures_bindNamespace {context : AuthorityCallContext} {principal : Principal}
    {Q : Unit → AuthorityRuntime → Prop} {E : Rejection → AuthorityRuntime → Prop} :
    Ensures (bindNamespace context principal) s Q E ↔
      ((s.namespaceOwners[context.ns]?).all (· = principal.identity) = false →
        E namespaceDenied s) ∧
      ((s.namespaceOwners[context.ns]?).all (· = principal.identity) = true →
        Q () { s with
          namespaceOwners := s.namespaceOwners.insert context.ns principal.identity }) := by
  rw [bindNamespace, ensures_bind, ensures_get]
  cases howner : s.namespaceOwners[context.ns]? with
  | none => simp
  | some owner =>
    by_cases heq : owner = principal.identity
    · subst heq
      simp [BTreeMap.insert_of_some howner]
    · simp [heq]

/-! ### A request that is granted -/

/-- The ledger has a lease of the name. -/
def Taken (name : String) (ledger : Ledger.State) : Prop := (ledger.leases.get? name).isSome = true

theorem Taken.conform {name : String} {ledger ledger' : Ledger.State} (h : Taken name ledger)
    (hconform : Ledger.LeasesConform ledger ledger') : Taken name ledger' := by
  obtain ⟨lease, hlease⟩ := Option.isSome_iff_exists.1 h
  obtain ⟨lease', hlease', -⟩ := hconform name lease hlease
  exact Option.isSome_iff_exists.2 ⟨lease', hlease'⟩

/-- Releasing a lease leaves every name taken. -/
theorem ensures_daemonBeginRelease {name leaseName : String} {fenceToken : Nat}
    (h : Taken name s.ledger) :
    Ensures (daemonBeginRelease env leaseName fenceToken) s (fun _ s' => Taken name s'.ledger)
      (fun _ s' => Taken name s'.ledger) := by
  simp only [daemonBeginRelease, ask, ledgerCall, ensures_bind, ensures_get, ensures_set,
    ensures_pure, ensures_zoom]
  refine Ledger.beginRelease_ensures.mono ?_ ?_
  · exact fun _ _ hdone =>
      (h.conform (.expireDueLeases _ _)).conform hdone.leasesConform
  · rintro _ _ rfl
    exact h.conform (.expireDueLeases _ _)

theorem ensures_completeRelease {name leaseName : String} {fenceToken : Nat}
    (h : Taken name s.ledger) :
    Ensures (ledgerCall (Ledger.completeRelease leaseName fenceToken)) s
      (fun _ s' => Taken name s'.ledger) (fun _ s' => Taken name s'.ledger) := by
  rw [ledgerCall, ensures_zoom]
  refine Ledger.completeRelease_ensures.mono ?_ ?_
  · exact fun _ _ hdone => h.conform hdone.leasesConform
  · rintro _ _ rfl
    exact h

/-- A grant is kept when the journal takes its record.  Otherwise its name stays taken. -/
theorem ensures_recordAcquired {object : ObjectRef} {lease : Ledger.ResourceLease}
    (h : Taken lease.name s.ledger) :
    Ensures (recordAcquired env object lease) s (fun _ _ => env.append s.tick = .ok ())
      (fun _ s' => env.append s.tick ≠ .ok () ∧ Taken lease.name s'.ledger) := by
  simp only [recordAcquired, recordRuntime, appendRecord, tryAction, ignoreFailure, ask,
    ensures_bind, ensures_attempt, ensures_get, ensures_set, ensures_pure, ensures_liftExcept,
    ensures_modify, ensures_throw]
  refine ⟨fun e happend => ?_, fun u happend => happend⟩
  have hrefused : env.append s.tick ≠ .ok () := by simp [happend]
  have hrollback : ∀ s₁ : AuthorityRuntime, Taken lease.name s₁.ledger →
      Ensures (ledgerCall (Ledger.completeRelease lease.name lease.fenceToken)) s₁
        (fun _ s' => env.append s.tick ≠ .ok () ∧ Taken lease.name s'.ledger)
        (fun _ s' => env.append s.tick ≠ .ok () ∧ Taken lease.name s'.ledger) :=
    fun s₁ h₁ => (ensures_completeRelease h₁).mono (fun _ _ h₂ => ⟨hrefused, h₂⟩)
      fun _ _ h₂ => ⟨hrefused, h₂⟩
  have htaken : Taken lease.name ({ s with tick := s.tick + 1 } : AuthorityRuntime).ledger := h
  exact (ensures_daemonBeginRelease htaken).mono (fun _ => hrollback) fun _ => hrollback

/-! ### A request that is rejected -/

/-- What a rejected request may have changed: the ledger was swept, and the namespace bound. -/
structure Untouched (request : AcquireRequest) (s s' : AuthorityRuntime) : Prop where
  ledger : s'.ledger = s.ledger ∨ ∃ now, s'.ledger = Ledger.expireDueLeases now s.ledger
  owns : request.owns s' = request.owns s

theorem Untouched.admissible (h : Untouched request s s') (w : Environment) (t : Nat) :
    request.admissible w t s' = request.admissible w t s := by
  unfold AcquireRequest.admissible
  rw [h.owns]
  obtain hledger | ⟨now, hledger⟩ := h.ledger
  · rw [hledger]
  · rw [hledger, Index.contains, Ledger.expireDueLeases_get?, Option.isSome_map]
    rfl

theorem Untouched.allocated (h : Untouched request s s') :
    s'.ledger.allocated = s.ledger.allocated := by
  obtain hledger | ⟨now, hledger⟩ := h.ledger <;> rw [hledger]
  rfl

/-- A request that is rejected after its namespace was bound. -/
theorem untouched_of_bound (howns : request.owns s = true)
    (howners : s'.namespaceOwners =
      s.namespaceOwners.insert request.context.ns request.principal.identity)
    (hledger : s'.ledger = s.ledger ∨ ∃ now, s'.ledger = Ledger.expireDueLeases now s.ledger) :
    Untouched request s s' := by
  refine ⟨hledger, ?_⟩
  rw [howns, AcquireRequest.owns, howners, BTreeMap.getElem?_insert, if_pos rfl, Option.all_some]
  exact decide_eq_true rfl

/-- An acquisition returns when it is admissible and its record is journaled.  A request that is not
admissible is rejected and leaves nothing behind, and one whose record is refused leaves its name
behind. -/
theorem ensures_submit (env : Environment) (s : AuthorityRuntime) (request : AcquireRequest) :
    Ensures (request.submit env) s
      (fun _ _ => request.admissible env s.tick s = true ∧ env.append (s.tick + 3) = .ok ())
      (fun _ s' => request.admissible env s.tick s = false ∧ Untouched request s s' ∨
        request.admissible env s.tick s = true ∧ env.append (s.tick + 3) ≠ .ok () ∧
          Taken request.ledgerName s'.ledger) := by
  simp only [AcquireRequest.submit, acquireLease, validateContext, daemonAcquireLease, ledgerCall,
    Ledger.acquireLease, ask, ensures_bind, ensures_liftExcept, ensures_bindNamespace, ensures_get,
    ensures_set, ensures_pure, ensures_rejectIf, ensures_zoom, ensures_modify, Option.any_some,
    decide_eq_true_eq]
  have hcontains : ∀ now name, (Ledger.expireDueLeases now s.ledger).leases.contains name =
      s.ledger.leases.contains name := by
    intro now name
    rw [Index.contains, Ledger.expireDueLeases_get?, Option.isSome_map, Index.contains]
  have hcandidates : ∀ now, (Ledger.expireDueLeases now s.ledger).candidates request.query =
      s.ledger.candidates request.query := fun _ => rfl
  simp only [hcontains, hcandidates]
  -- one case for each check, in the order of the checks
  refine ⟨fun e hinvalid => .inl ⟨?_, .inl rfl, rfl⟩, fun _ hvalid => ?_⟩
  · simp [AcquireRequest.admissible, hinvalid, Except.isOk, Except.toBool]
  refine ⟨fun hdenied => .inl ⟨?_, .inl rfl, rfl⟩, fun howns => ?_⟩
  · simp [AcquireRequest.admissible, AcquireRequest.owns, hdenied]
  refine ⟨fun hexpired => .inl ⟨?_, untouched_of_bound howns rfl (.inl rfl)⟩, fun hexpiry => ?_⟩
  · simp [AcquireRequest.admissible, hexpired]
  refine ⟨fun hdegraded => .inl ⟨?_, untouched_of_bound howns rfl (.inl rfl)⟩, fun hready => ?_⟩
  · simp [AcquireRequest.admissible, Bool.not_eq_true' _ ▸ hdegraded]
  refine ⟨fun hstale => absurd rfl hstale, fun _ => ?_⟩
  refine ⟨fun htaken => .inl ⟨?_, untouched_of_bound howns rfl (.inr ⟨_, rfl⟩)⟩, fun hnew => ?_⟩
  · have htaken : s.ledger.leases.contains request.ledgerName = true := htaken
    simp [AcquireRequest.admissible, htaken]
  refine ⟨fun e hinvalid => .inl ⟨?_, untouched_of_bound howns rfl (.inr ⟨_, rfl⟩)⟩,
    fun _ hquery => ?_⟩
  · simp [AcquireRequest.admissible, hinvalid, Except.isOk, Except.toBool]
  refine ⟨fun hlate => .inl ⟨?_, untouched_of_bound howns rfl (.inr ⟨_, rfl⟩)⟩, fun hearly => ?_⟩
  · simp [AcquireRequest.admissible, hlate]
  refine ⟨fun hshort => .inl ⟨?_, untouched_of_bound howns rfl (.inr ⟨_, rfl⟩)⟩, fun hcount => ?_⟩
  · simp [AcquireRequest.admissible, hshort]
  have hadmissible : request.admissible env s.tick s = true := by
    have hnew : s.ledger.leases.contains request.ledgerName = false := Bool.eq_false_iff.2 hnew
    have hready : s.ledger.ready = true := by simpa using hready
    have howns : request.owns s = true := howns
    simp [AcquireRequest.admissible, hvalid, howns, Nat.not_le.1 hexpiry, hready, hnew, hquery,
      Nat.not_le.1 hearly, not_not.1 hcount, Except.isOk, Except.toBool]
  refine (ensures_recordAcquired ?_).mono (fun _ _ happend => ⟨hadmissible, happend⟩)
    fun _ _ hrefused => .inr ⟨hadmissible, hrefused.1, hrefused.2⟩
  rw [Taken, Ledger.grant_get?]
  exact congrArg Option.isSome (if_pos rfl)

/-! ### Trying again -/

/-- The request is accepted at time `t` of the world `w`. -/
def Accepts (w : Environment) (t : Nat) (s : AuthorityRuntime) (request : AcquireRequest) : Prop :=
  (value? (request.submit w { s with tick := t })).isSome = true

instance (w : Environment) (t : Nat) (s : AuthorityRuntime) (request : AcquireRequest) :
    Decidable (Accepts w t s request) :=
  inferInstanceAs (Decidable (_ = true))

/-- Between the states `s` and `s'` a failed acquisition has had no effect: the request is accepted
later as it would have been, and no resource is allocated that was not. -/
structure NoEffect (request : AcquireRequest) (s s' : AuthorityRuntime) : Prop where
  retry : ∀ w t, Accepts w t s' request ↔ Accepts w t s request
  unallocated : ∀ id ∈ s'.ledger.allocated, id ∈ s.ledger.allocated

theorem accepts_iff {w : Environment} :
    Accepts w t s request ↔ request.admissible w t s = true ∧ w.append (t + 3) = .ok () := by
  have houtcome := ensures_submit w { s with tick := t } request
  have hsame : request.admissible w t { s with tick := t } = request.admissible w t s := rfl
  unfold Accepts
  unfold Ensures at houtcome
  cases hresult : request.submit w { s with tick := t } with
  | ok lease s' =>
    rw [hresult] at houtcome
    exact iff_of_true rfl houtcome
  | error rejection s' =>
    rw [hresult] at houtcome
    refine iff_of_false Bool.false_ne_true ?_
    rintro ⟨hadmissible, happend⟩
    rcases houtcome with ⟨hinadmissible, -⟩ | ⟨-, hrefused, -⟩
    · rw [hsame, hadmissible] at hinadmissible
      exact absurd hinadmissible (by decide)
    · exact hrefused happend

theorem Untouched.noEffect (h : Untouched request s s') : NoEffect request s s' where
  retry w t := by rw [accepts_iff, accepts_iff, h.admissible]
  unallocated _ hmem := h.allocated ▸ hmem

/-- An admissible request whose name was left behind is not accepted any more. -/
theorem not_noEffect_of_taken (hadmissible : request.admissible env t s = true)
    (htaken : Taken request.ledgerName s'.ledger) : ¬ NoEffect request s s' := by
  intro h
  -- the same readings of the clock, and a journal that takes every record
  let w : Environment := { env with append := fun _ => .ok () }
  have hbefore : Accepts w t s request := accepts_iff.2 ⟨hadmissible, rfl⟩
  have hafter : request.admissible w t s' = true := (accepts_iff.1 ((h.retry w t).2 hbefore)).1
  have hnew : s'.ledger.leases.contains request.ledgerName = false := by
    simp only [AcquireRequest.admissible, Bool.and_eq_true, Bool.not_eq_true'] at hafter
    exact hafter.1.1.1.2
  rw [Index.contains, htaken] at hnew
  exact absurd hnew (by decide)

/-- A failed acquisition has no effect exactly when it is not the journal that failed an admissible
request. -/
theorem noEffect_iff (env : Environment) (s s' : AuthorityRuntime) (request : AcquireRequest)
    (rejection : Rejection) (hfail : request.submit env s = .error rejection s') :
    NoEffect request s s' ↔
      (request.admissible env s.tick s = true → env.append (s.tick + 3) = .ok ()) := by
  have houtcome := ensures_submit env s request
  rw [Ensures, hfail] at houtcome
  rcases houtcome with ⟨hinadmissible, huntouched⟩ | ⟨hadmissible, hrefused, htaken⟩
  · refine iff_of_true huntouched.noEffect fun hadmissible => ?_
    rw [hinadmissible] at hadmissible
    exact absurd hadmissible (by decide)
  · refine iff_of_false (not_noEffect_of_taken hadmissible htaken) fun h => ?_
    exact hrefused (h hadmissible)

/-! ### A sample request -/

/-- A request for some of the accelerators of the sample authority. -/
def sampleRequest (count : Nat) : AcquireRequest where
  context := sampleContext default "key"
  principal := samplePrincipal
  holder := ⟨"worker", 1⟩
  query := ⟨"accelerator", count, [], ∅⟩
  expiresAtUnixMs := 5000

/-- A world whose journal refuses the first record. -/
def refusingEnvironment : Environment :=
  sampleEnvironment (fun _ => 1000)
    (fun n => if n = 3 then .error ⟨"journal", "IO_ERROR", "disk full"⟩ else .ok ())
    fun _ => .ok ⟨true, "STOPPED"⟩

/-- The record of a grant is refused.  The request is rejected at every later attempt, which would
be accepted without the first one. -/
theorem refusedRecord_not_noEffect :
    value? ((sampleRequest 1).submit refusingEnvironment (sampleAuthority ["gpu"])) = none ∧
      Accepts refusingEnvironment 10 (sampleAuthority ["gpu"]) (sampleRequest 1) ∧
      ¬ NoEffect (sampleRequest 1) (sampleAuthority ["gpu"])
        (finalState ((sampleRequest 1).submit refusingEnvironment (sampleAuthority ["gpu"]))) := by
  have haccepted : Accepts refusingEnvironment 10 (sampleAuthority ["gpu"]) (sampleRequest 1) := by
    decide +kernel
  refine ⟨by decide +kernel, haccepted, fun h => ?_⟩
  have hrejected : ¬ Accepts refusingEnvironment 10
      (finalState ((sampleRequest 1).submit refusingEnvironment (sampleAuthority ["gpu"])))
      (sampleRequest 1) := by decide +kernel
  exact hrejected ((h.retry refusingEnvironment 10).2 haccepted)

/-- A request for too many accelerators is rejected without effect. -/
theorem noEffect_insufficientResources :
    NoEffect (sampleRequest 2) (sampleAuthority ["gpu"])
      (finalState ((sampleRequest 2).submit refusingEnvironment (sampleAuthority ["gpu"]))) := by
  have hfails : value? ((sampleRequest 2).submit refusingEnvironment (sampleAuthority ["gpu"])) =
      none := by decide +kernel
  cases hresult : (sampleRequest 2).submit refusingEnvironment (sampleAuthority ["gpu"]) with
  | ok lease s' => rw [hresult] at hfails; cases hfails
  | error rejection s' =>
    exact (noEffect_iff refusingEnvironment _ s' _ rejection hresult).2 (by decide +kernel)

end Authority

end CyreneKernel
