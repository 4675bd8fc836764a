import CyreneKernel.Authority.WorkerEffects

/-!
# The effects of the operation and endpoint actions

Operations are created once and then advance; endpoints and grants are stored for holders of
active leases.
-/

namespace CyreneKernel

open Lib Relation
open Ledger (ResourceLease)

namespace Authority

variable {Γ : Scope} {c c₀ : Core} {env : Environment} {context : AuthorityCallContext}
  {principal : Principal} {β : Type} {R : β → Core → Prop} {E : Core → Prop}

/-! ### Operations -/

theorem quiet_publishOperation (operation : Operation) :
    Quiet (publishOperation env context operation) :=
  quiet_publishSemanticEventIn _ _ _ _

/-- Storing and announcing an operation. -/
theorem does_storeOperation {operation : Operation}
    (h : Path Γ c₀ { c with
      semanticOperations :=
        c.semanticOperations.insert (context.objectRef operation.identity) operation }) :
    Does (do
      putOperation context operation
      publishOperation env context operation
      return operation) c (fun _ => Path Γ c₀) (Path Γ c₀) :=
  Does.putOperation ((quiet_publishOperation operation).holds_bind h fun _ => Holds.pure h)

theorem does_createOperation (hns : Γ.namespaces context.ns) {operation : Operation} :
    Follows Γ c (createOperation env context principal operation) c := by
  have h : Path Γ c c := .refl
  refine (quiet_validateContext _).holds_bind h fun _ => ?_
  refine (quiet_bindNamespace _ _).holds_bind h fun _ => ?_
  refine Holds.rejectIf h fun _ => Holds.get fun s hs => ?_
  cases hstored : s.semanticOperations[context.objectRef operation.identity]? with
  | some existing => exact Holds.rejectIf h fun _ => Holds.pure h
  | none =>
    rw [hs] at hstored
    exact Holds.rejectIf h fun _ => does_storeOperation (h.tail (.create hns hstored))

theorem does_reportOperation (hns : Γ.namespaces context.ns) {reported : Operation}
    (hadvance : ∀ current,
      c.semanticOperations[context.objectRef reported.identity]? = some current →
      Γ.advances (context.objectRef reported.identity) current reported) :
    Follows Γ c (reportOperation env context principal reported) c := by
  have h : Path Γ c c := .refl
  refine Does.asOwner h (Holds.get fun s hs => ?_)
  refine Holds.okOr h fun current hcurrent => Holds.rejectIf h fun hsame => ?_
  refine Holds.rejectIf h fun hstate => does_storeOperation ?_
  rw [hs] at hcurrent
  exact h.tail (.advance hns hcurrent (not_not.1 hsame) (by simpa using hstate)
    (hadvance current hcurrent))

/-- A new state of a stored operation. -/
theorem Path.advanceState (h : Path Γ c₀ c) {object : ObjectRef} (hns : Γ.namespaces object.ns)
    {operation : Operation} (hstored : c.semanticOperations[object]? = some operation)
    (state : OperationState) (hstate : operation.state.canTransitionTo state = true)
    (hadvance : Γ.advances object operation { operation with state := state }) :
    Path Γ c₀ { c with
      semanticOperations :=
        c.semanticOperations.insert object { operation with state := state } } :=
  h.tail (.advance hns hstored ⟨rfl, rfl, rfl, rfl, rfl⟩ hstate hadvance)

theorem does_markCancellingOperationLost (h : Path Γ c₀ c) (hns : Γ.namespaces context.ns)
    {identity : Identity} (hadvance : ∀ current next,
      c.semanticOperations[context.objectRef identity]? = some current →
      next = current ∨ current.state = .cancelling ∧ next.state = .lost →
      Γ.advances (context.objectRef identity) current next) :
    Follows Γ c₀ (markCancellingOperationLost env context identity) c := by
  refine Holds.get fun s hs => Holds.okOr h fun current hcurrent => ?_
  subst hs
  let operation : Operation :=
    if current.state = .cancelling then { current with state := .lost } else current
  have h' : Path Γ c₀ { s.toCore with
      semanticOperations :=
        s.semanticOperations.insert (context.objectRef identity) operation } := by
    by_cases hcancelling : current.state = .cancelling
    · rw [show operation = { current with state := .lost } from if_pos hcancelling]
      exact h.advanceState hns hcurrent .lost (by rw [hcancelling]; rfl)
        (hadvance _ _ hcurrent (.inr ⟨hcancelling, rfl⟩))
    · rw [show operation = { current with state := current.state } from if_neg hcancelling]
      exact h.advanceState hns hcurrent _ (by simp [OperationState.canTransitionTo])
        (hadvance _ _ hcurrent (.inl rfl))
  refine Holds.set ?_
  refine Holds.ite (fun _ => ?_) fun _ => Holds.pure h'
  exact (quiet_publishOperation _).holds_bind h' fun _ => Holds.pure h'

/-- The changes of a cancellation: the cancelled operation goes to `Cancelling`, and an operation in
that state may be lost. -/
def Cancels (cancelled object : ObjectRef) (operation next : Operation) : Prop :=
  object = cancelled ∧ next.state = .cancelling ∨
    next = operation ∨ operation.state = .cancelling ∧ next.state = .lost

theorem does_cancelOperation (hns : Γ.namespaces context.ns) {identity : Identity}
    (hadvance : ∀ object current next,
      Cancels (context.objectRef identity) object current next →
      Γ.advances object current next) :
    Follows Γ c (cancelOperation env context principal identity) c := by
  have h : Path Γ c c := .refl
  refine Does.asOwner h (Holds.get fun s hs => ?_)
  refine Holds.okOr h fun current hcurrent => Holds.ite (fun _ => Holds.pure h) fun _ => ?_
  refine Holds.rejectIf h fun hstate => ?_
  subst hs
  have h' := h.advanceState hns hcurrent .cancelling (by simpa using hstate)
    (hadvance _ _ _ (.inl ⟨rfl, rfl⟩))
  refine Holds.set ((quiet_publishOperation _).holds_bind h' fun _ => ?_)
  refine Does.instanceEntries fun entries _ => Does.ask fun t => ?_
  split
  · split
    · exact Holds.pure h'
    · exact does_markCancellingOperationLost h' hns fun _ _ _ h => hadvance _ _ _ (.inr h)
  · exact does_markCancellingOperationLost h' hns fun _ _ _ h => hadvance _ _ _ (.inr h)

/-! ### Endpoints -/

theorem Does.endpointOwner {owner : Identity} {unknown : String} {f : Worker → Action β}
    (hE : E c)
    (hf : ∀ name process worker, c.workerInstanceName? context.ns owner = some name →
      c.instances[name]? = some process → process.semanticWorker = some worker →
      worker.identity = owner → Does (f worker) c R E) :
    Does (endpointOwner context owner unknown >>= f) c R E := by
  unfold Authority.endpointOwner
  simp only [bind_assoc]
  refine Does.workerInstanceName hE fun name hname => Holds.get fun s hs => ?_
  refine Holds.okOr hE fun worker hworker => ?_
  rw [hs, Option.filter_eq_some_iff, Option.bind_eq_some_iff, decide_eq_true_eq] at hworker
  obtain ⟨⟨process, hprocess, hworker⟩, howner⟩ := hworker
  exact hf name process worker hname hprocess hworker howner

theorem does_publishEndpoint {endpoint : Endpoint} (hns : Γ.namespaces context.ns)
    (hpublish : Γ.publishes (context.objectRef endpoint.identity)) :
    Follows Γ c (publishEndpoint env context principal endpoint) c := by
  have h : Path Γ c c := .refl
  refine Does.asOwner h ?_
  refine Does.endpointOwner h fun name process worker hname hprocess hworker howner => ?_
  refine Holds.rejectIf h fun _ => Does.leaseFor h h.lapse fun now lease hleased hlease => ?_
  have h₁ := h.lapse now
  refine (quiet_isLapsed _).holds_bind h₁ fun lapsed => Holds.rejectIf h₁ fun hvalid => ?_
  simp only [not_or, ne_eq, not_not] at hvalid
  refine Holds.get fun s hs => Holds.rejectIf h₁ fun _ => Holds.set (Holds.pure ?_)
  rw [hs]
  exact h₁.tail (.publish hns hname hprocess hworker howner hleased hlease hvalid.2.2.1 hvalid.2.1
    hpublish)

theorem does_authorizeEndpoint (hns : Γ.namespaces context.ns) {grant : EndpointGrant} :
    Issues Γ c (·.fenceToken) (authorizeEndpoint env context principal grant) c := by
  have h : Path Γ c c := .refl
  refine Does.asOwner h (Holds.get fun s hs => ?_)
  refine Holds.okOr h fun endpoint hendpoint => ?_
  rw [hs, Option.filter_eq_some_iff] at hendpoint
  refine Does.endpointOwner h fun _ _ _ _ _ _ _ => Holds.rejectIf h fun _ => ?_
  refine Does.leaseFor h h.lapse fun now lease hleased hlease => ?_
  have h₁ := h.lapse now
  refine Holds.rejectIf h₁ fun _ => Holds.rejectIf h₁ fun hfence => ?_
  refine (quiet_isLapsed _).holds_bind h₁ fun lapsed => Holds.rejectIf h₁ fun hvalid => ?_
  simp only [not_or, ne_eq, not_not] at hvalid hfence
  refine Does.ask fun t => Holds.rejectIf h₁ fun _ => ?_
  refine holds_modify_bind fun s' hs' => Holds.pure ?_
  simp only [hs']
  exact ⟨h₁.tail (.authorize hns hendpoint.1 hleased hlease hvalid.1 hvalid.2.1 hfence),
    .grant ((BTreeMap.getElem?_insert _ _ _ _).trans (if_pos rfl)) rfl⟩

theorem does_revokeEndpoint (hns : Γ.namespaces context.ns) {grant : Identity} :
    Follows Γ c (revokeEndpoint context principal grant) c := by
  have h : Path Γ c c := .refl
  have herase : Follows Γ c (modify fun s : AuthorityRuntime => { s with
      endpointGrants := s.endpointGrants.erase (context.objectRef grant) }) c := by
    refine Holds.modify fun s hs => ?_
    simp only [hs]
    exact h.tail (.unauthorize (show Γ.namespaces (context.objectRef grant).ns from hns))
  refine Does.asOwner h (Holds.get fun s hs => ?_)
  cases s.endpointGrants[context.objectRef grant]? with
  | none => exact herase
  | some stored =>
    refine Holds.okOr h fun endpoint _ => ?_
    exact Does.endpointOwner h fun _ _ _ _ _ _ _ => Holds.rejectIf h fun _ => herase

end Authority

end CyreneKernel
