import CyreneKernel.Authority.Steps

/-!
# The lifecycle of operations

A report, a cancellation and the loss of a worker ask `OperationState.canTransitionTo` before they
write an operation back, and none of them writes its authority fields.  The bookkeeping of worker
starts and stops does not look at what it replaces: `remember_operation` writes under an identity
that is made of the worker's, and a caller may have created an operation there before.

## Main definitions

* `Operation.Advances`: one change of an operation that the contract allows.
* `Call.Changes`: what one call makes of a stored operation.
* `overwritesOperation`: a start or stop replaces an operation that cannot become the written one.

## Main results

* `step_changes`: without such starts and stops a call makes one change that the contract allows; a
  cancellation that is not delivered makes two.
* `operationLifecycle`: every operation follows the contract in every run without them.
* `plantedOperation_not_advances`: a start revives a cancelled operation and takes its owner.
-/

namespace CyreneKernel

open Lib Relation
open Ledger (ResourceLease)

/-- A change of an operation that the contract allows. -/
def Operation.Advances (operation next : Operation) : Prop :=
  operation.SameAuthority next ∧ operation.state.canTransitionTo next.state = true

instance (operation next : Operation) : Decidable (operation.Advances next) :=
  inferInstanceAs (Decidable (_ ∧ _))

/-- The stored operation may not become the other one. -/
def Operation.conflictsWith (stored operation : Operation) : Bool :=
  ! decide (stored.Advances operation)

/-- The states that an operation is never to leave. -/
def OperationState.isTerminal : OperationState → Bool
  | .succeeded | .failed | .cancelled | .lost => true
  | _ => false

theorem OperationState.eq_of_isTerminal {state next : OperationState}
    (hterminal : state.isTerminal = true) (h : state.canTransitionTo next = true) :
    next = state := by
  revert hterminal h
  cases state <;> cases next <;> decide

theorem Operation.SameAuthority.refl (operation : Operation) :
    operation.SameAuthority operation :=
  ⟨rfl, rfl, rfl, rfl, rfl⟩

theorem Operation.SameAuthority.trans {operation next later : Operation}
    (h : operation.SameAuthority next) (h' : next.SameAuthority later) :
    operation.SameAuthority later :=
  ⟨h.1.trans h'.1, h.2.1.trans h'.2.1, h.2.2.1.trans h'.2.2.1, h.2.2.2.1.trans h'.2.2.2.1,
    h.2.2.2.2.trans h'.2.2.2.2⟩

section Advances

variable {operation next : Operation}

variable (h : ReflTransGen Operation.Advances operation next)

include h

theorem sameAuthority_of_advances : operation.SameAuthority next := by
  induction h with
  | refl => exact .refl operation
  | tail _ hstep ih => exact ih.trans hstep.1

/-- An operation in a terminal state stays in it. -/
theorem state_eq_of_advances (hterminal : operation.state.isTerminal = true) :
    next.state = operation.state := by
  induction h with
  | refl => rfl
  | tail _ hstep ih => exact (OperationState.eq_of_isTerminal (ih ▸ hterminal) hstep.2).trans ih

end Advances

namespace Authority

variable {Γ : Scope} {c c' : Core} {env : Environment} {s : AuthorityRuntime}

/-- The stored operations only change as the contract allows. -/
abbrev OperationsAdvance (c c' : Core) : Prop :=
  BTreeMap.Evolves (ReflTransGen Operation.Advances) c.semanticOperations c'.semanticOperations

/-! ### Calls -/

/-- The operation that a call cancels. -/
def Call.cancels : Call → Option ObjectRef
  | cancelOperation context _ identity => some (context.objectRef identity)
  | _ => none

/-- What one call makes of a stored operation.  Its authority fields stay, and its state makes one
step of the contract; only a cancellation may go to `Cancelling` and on to `Lost`, where it reaches
no worker. -/
def Call.Changes (call : Call) (object : ObjectRef) (operation next : Operation) : Prop :=
  operation.SameAuthority next ∧
    (operation.state.canTransitionTo next.state = true ∨
      call.cancels = some object ∧ operation.state.canTransitionTo .cancelling = true ∧
        next.state = .lost)

/-- A relation between an operation before a call and during it that all effects of the call
keep. -/
structure Scope.Keeps (Γ : Scope) (c₀ : Core) (r : ObjectRef → Operation → Operation → Prop) :
    Prop where
  refl : ∀ object operation, r object operation operation
  advance : ∀ {object operation current next}, c₀.semanticOperations[object]? = some operation →
    r object operation current → Γ.advances object current next → current.Advances next →
    r object operation next
  remember : ∀ {object operation current next}, c₀.semanticOperations[object]? = some operation →
    r object operation current → Γ.remembers object (some current) next → r object operation next
  lose : ∀ {object operation current name}, Γ.frees name → r object operation current →
    current.state.canTransitionTo .lost = true →
    r object operation { current with state := .lost }

section Keeps

variable {c₀ : Core} {r : ObjectRef → Operation → Operation → Prop} {object written : ObjectRef}
  {operation next : Operation}

/-- A written operation is related where it replaces a related one. -/
theorem exists_insert (h : ∃ current, c.semanticOperations[object]? = some current ∧
      r object operation current)
    (hwritten : ∀ current, written = object → c.semanticOperations[object]? = some current →
      r object operation current → r object operation next) :
    ∃ current, (c.semanticOperations.insert written next)[object]? = some current ∧
      r object operation current := by
  obtain ⟨current, hcurrent, hr⟩ := h
  rw [BTreeMap.getElem?_insert]
  split_ifs with hobject
  · exact ⟨next, rfl, hwritten current hobject hcurrent hr⟩
  · exact ⟨current, hcurrent, hr⟩

theorem Effect.keeps (hΓ : Γ.Keeps c₀ r) (h : Effect Γ c c')
    (hstored : c₀.semanticOperations[object]? = some operation)
    (hc : ∃ current, c.semanticOperations[object]? = some current ∧ r object operation current) :
    ∃ current, c'.semanticOperations[object]? = some current ∧ r object operation current := by
  cases h with
  | loss hloss =>
    cases hloss with
    | lose _ _ _ _ _ _ _ _ _ hfree =>
      obtain ⟨current, hcurrent, hr⟩ := hc
      refine ⟨_, (Std.ExtTreeMap.getElem?_map).trans (congrArg (Option.map _) hcurrent), ?_⟩
      dsimp only
      split_ifs with hlost
      · rw [Operation.isLostWith, Bool.and_eq_true] at hlost
        exact hΓ.lose hfree hr hlost.2
      · exact hr
    | _ => exact hc
  | create hns hnew =>
    refine exists_insert hc fun current hobject hcurrent => ?_
    rw [hobject, hcurrent] at hnew
    cases hnew
  | advance hns hcurrent hsame hstate hadvance =>
    refine exists_insert hc fun current hobject hcurrent' hr => ?_
    subst hobject
    obtain rfl := Option.mem_unique hcurrent hcurrent'
    exact hΓ.advance hstored hr hadvance ⟨hsame, hstate⟩
  | remember hns hremember =>
    refine exists_insert hc fun current hobject hcurrent hr => ?_
    subst hobject
    rw [hcurrent] at hremember
    exact hΓ.remember hstored hr hremember
  | _ => exact hc

theorem Path.keeps (hΓ : Γ.Keeps c₀ r) (h : Path Γ c₀ c)
    (hstored : c₀.semanticOperations[object]? = some operation) :
    ∃ current, c.semanticOperations[object]? = some current ∧ r object operation current := by
  induction h with
  | refl => exact ⟨operation, hstored, hΓ.refl object operation⟩
  | tail _ heffect ih => exact heffect.keeps hΓ hstored ih

end Keeps

/-! ### Runs -/

/-- The call starts a new worker, or stops the worker of an active lease, while an operation is
stored under the identity of the operation it will write, and cannot become that operation. -/
def overwritesOperation (s : AuthorityRuntime) : Call → Bool
  | .startWorker context principal worker =>
    !s.workers.contains (context.objectRef worker.identity) &&
      (s.semanticOperations[context.objectRef (startOperation principal worker).identity]?).any
        (·.conflictsWith (startOperation principal worker))
  | .stopWorker context _ worker lease _ =>
    (s.leases[context.objectRef lease]?).any fun name =>
      (s.ledger.leases.get? name).any (·.state = .active) &&
        (s.toCore.workerInstanceName? context.ns worker).any fun name =>
          ((s.instances[name]?).bind (·.semanticWorker)).any fun managed =>
            [OperationState.succeeded, .failed].any fun state =>
              let operation := workerOperation "stop" managed state
              (s.semanticOperations[context.objectRef operation.identity]?).any
                (·.conflictsWith operation)
  | _ => false

theorem advances_of_conflictsWith {stored operation : Operation}
    (h : stored.conflictsWith operation = false) : stored.Advances operation := by
  unfold Operation.conflictsWith at h
  simpa using h

/-- What a call writes over a stored operation, other than in a cancellation: it is written over the
operation that was stored before the call, or the call loses operations and writes none. -/
structure Scope.Single (Γ : Scope) (c : Core) : Prop where
  advance : ∀ {object operation next}, Γ.advances object operation next →
    c.semanticOperations[object]? = some operation ∧ ∀ name, ¬ Γ.frees name
  remember : ∀ {object operation next}, Γ.remembers object (some operation) next →
    c.semanticOperations[object]? = some operation ∧ operation.Advances next ∧
      ∀ name, ¬ Γ.frees name

theorem single_scope {call : Call} (h : overwritesOperation s call = false)
    (hcancels : call.cancels = none) : (call.scope env s).Single s.toCore := by
  cases call with
  | startWorker context principal worker =>
    refine ⟨False.elim, ?_⟩
    rintro object stored operation ⟨rfl, hstored, hnew, rfl⟩
    have hnew' : s.workers.contains (context.objectRef worker.identity) = false := by
      rw [Std.ExtTreeMap.contains_eq_isSome_getElem?, hnew, Option.isSome_none]
    simp only [overwritesOperation, hnew', Bool.not_false, Bool.true_and, ← hstored,
      Option.any_some] at h
    exact ⟨hstored.symm, advances_of_conflictsWith h, fun _ => id⟩
  | stopWorker context principal worker lease fenceToken =>
    refine ⟨False.elim, ?_⟩
    rintro object stored operation ⟨rfl, hstored, current, name, process, managed, state, hleased,
      hlease, hactive, hname, hprocess, hworker, -, hstate, rfl⟩
    have hlease' : s.ledger.leases.get? current.name = some current := hlease
    have hleased' : s.leases[context.objectRef lease]? = some current.name := hleased
    simp only [overwritesOperation, hleased', hlease', hactive, hname, hprocess, hworker,
      Option.any_some, Option.bind_some, decide_true, Bool.true_and, List.any_eq_false] at h
    have hstate' : state ∈ [OperationState.succeeded, .failed] := by simpa using hstate
    have hfree := h state hstate'
    rw [← hstored, Option.any_some, Bool.not_eq_true] at hfree
    exact ⟨hstored.symm, advances_of_conflictsWith hfree, fun _ => id⟩
  | reportOperation | cancellationDeadline =>
    exact ⟨fun hadvance => ⟨hadvance, fun _ => id⟩, False.elim⟩
  | cancelOperation => cases hcancels
  | _ => exact ⟨False.elim, False.elim⟩

/-- During a call that cancels nothing, an operation makes at most one step, which is to `Lost` if
the call loses operations. -/
theorem Scope.Single.keeps (hΓ : Γ.Single c) :
    Γ.Keeps c fun _ operation current => operation.SameAuthority current ∧
      (current.state = operation.state ∨ operation.state.canTransitionTo current.state = true ∧
        ∀ name, Γ.frees name → current.state = .lost) where
  refl _ operation := ⟨.refl operation, .inl rfl⟩
  advance hstored hr hadvance hstep := by
    obtain ⟨hcurrent, hfrees⟩ := hΓ.advance hadvance
    obtain rfl := Option.mem_unique hstored hcurrent
    exact ⟨hstep.1, .inr ⟨hstep.2, fun name hfree => absurd hfree (hfrees name)⟩⟩
  remember hstored hr hremember := by
    obtain ⟨hcurrent, hstep, hfrees⟩ := hΓ.remember hremember
    obtain rfl := Option.mem_unique hstored hcurrent
    exact ⟨hstep.1, .inr ⟨hstep.2, fun name hfree => absurd hfree (hfrees name)⟩⟩
  lose hfree hr hlost := by
    refine ⟨hr.1, .inr ⟨?_, fun _ _ => rfl⟩⟩
    rcases hr.2 with hsame | ⟨hstep, hstate⟩
    · rw [← hsame]
      exact hlost
    · rw [← hstate _ hfree]
      exact hstep

/-- During a cancellation, the cancelled operation goes to `Cancelling`, and an operation in that
state may be lost. -/
theorem keeps_cancelOperation (context : AuthorityCallContext) (principal : Principal)
    (identity : Identity) :
    ((Call.cancelOperation context principal identity).scope env s).Keeps s.toCore
      fun object operation current => operation.SameAuthority current ∧
        (current.state = operation.state ∨
          (object = context.objectRef identity ∨ operation.state = .cancelling) ∧
          operation.state.canTransitionTo .cancelling = true ∧
          (current.state = .cancelling ∨ current.state = .lost)) where
  refl _ operation := ⟨.refl operation, .inl rfl⟩
  advance := by
    rintro object operation current next - ⟨hauthority, hr⟩ hcancels ⟨hsame, hstep⟩
    refine ⟨hauthority.trans hsame, ?_⟩
    rcases hcancels with ⟨hobject, hcancelling⟩ | rfl | ⟨hcancelling, hlost⟩
    · rw [hcancelling] at hstep ⊢
      rcases hr with hstate | ⟨-, hfirst, hstate | hstate⟩
      · exact .inr ⟨.inl hobject, hstate ▸ hstep, .inl rfl⟩
      · exact .inr ⟨.inl hobject, hfirst, .inl rfl⟩
      · rw [hstate] at hstep
        cases hstep
    · exact hr
    · rcases hr with hstate | ⟨hobject, hfirst, -⟩
      · have hbefore : operation.state = .cancelling := hstate.symm.trans hcancelling
        exact .inr ⟨.inr hbefore, by rw [hbefore]; rfl, .inr hlost⟩
      · exact .inr ⟨hobject, hfirst, .inr hlost⟩
  remember _ _ hremember := hremember.elim
  lose hfree := hfree.elim

theorem canTransitionTo_self (state : OperationState) :
    state.canTransitionTo state = true := by
  cases state <;> rfl

/-- One call: an operation that is stored stays so, and changes as `Call.Changes` says. -/
theorem step_changes (hc : Coherent s.toCore) {call : Call}
    (h : overwritesOperation s call = false) {object : ObjectRef} {operation : Operation}
    (hstored : s.semanticOperations[object]? = some operation) :
    ∃ next, (step env s call).semanticOperations[object]? = some next ∧
      call.Changes object operation next := by
  cases hcancels : call.cancels with
  | none =>
    obtain ⟨next, hnext, hsame, hstate⟩ :=
      (step_path hc call).keeps (single_scope h hcancels).keeps hstored
    refine ⟨next, hnext, hsame, .inl ?_⟩
    rcases hstate with hstate | ⟨hstep, -⟩
    · rw [hstate]
      exact canTransitionTo_self _
    · exact hstep
  | some cancelled =>
    cases call <;> cases hcancels
    obtain ⟨next, hnext, hsame, hstate⟩ :=
      (step_path hc _).keeps (keeps_cancelOperation _ _ _) hstored
    refine ⟨next, hnext, hsame, ?_⟩
    rcases hstate with hstate | ⟨hobject, hstep, hstate | hstate⟩
    · rw [hstate]
      exact .inl (canTransitionTo_self _)
    · exact .inl (hstate ▸ hstep)
    · rcases hobject with rfl | hcancelling
      · exact .inr ⟨rfl, hstep, hstate⟩
      · exact .inl (by rw [hcancelling, hstate]; rfl)

theorem Call.Changes.advances {call : Call} {object : ObjectRef} {operation next : Operation}
    (h : call.Changes object operation next) : ReflTransGen Operation.Advances operation next := by
  rcases h with ⟨hsame, hstep | ⟨-, hstep, hlost⟩⟩
  · exact .single ⟨hsame, hstep⟩
  · have hcancelling : operation.Advances { operation with state := .cancelling } :=
      ⟨.refl operation, hstep⟩
    exact .tail (.single hcancelling) ⟨hsame, by rw [hlost]; rfl⟩

/-- In a run without starts and stops over conflicting operations, every call leaves a stored
operation stored and makes one change of its state that the contract allows, or, in a cancellation
that is not delivered, the two over `Cancelling` to `Lost`.  So the owner, executor, kind, deadline
and parent of an operation never change in the rest of the run, its states follow the contract, and
a terminal state is never left. -/
theorem operationLifecycle (env : Environment) (resources : List Resource) (nextFenceToken : Nat)
    (nodeId : String) (nodeEpoch : Nat) (calls later : List Call)
    (h : Along (step env) (fun s call => overwritesOperation s call = false)
      (.new (Ledger.withNextFenceToken resources nextFenceToken) nodeId nodeEpoch)
      (calls ++ later)) :
    let s := run (step env)
      (.new (Ledger.withNextFenceToken resources nextFenceToken) nodeId nodeEpoch) calls
    ∀ {object : ObjectRef} {operation : Operation},
      s.semanticOperations[object]? = some operation →
      (∀ call rest, later = call :: rest →
        ∃ next, (step env s call).semanticOperations[object]? = some next ∧
          call.Changes object operation next) ∧
      ∃ next, (run (step env) s later).semanticOperations[object]? = some next ∧
        operation.SameAuthority next ∧
        ReflTransGen (fun state later => OperationState.canTransitionTo state later = true)
          operation.state next.state ∧
        (operation.state.isTerminal = true → next.state = operation.state) := by
  intro s object operation hoperation
  have hc : Coherent s.toCore := (coherent_new resources nextFenceToken nodeId nodeEpoch).run calls
  have hlater := (along_append.1 h).2
  constructor
  · rintro call rest rfl
    exact step_changes hc hlater.1 hoperation
  · have hadvance : Coherent (run (step env) s later).toCore ∧
        OperationsAdvance s.toCore (run (step env) s later).toCore := by
      refine run_induction
        (I := fun t : AuthorityRuntime => Coherent t.toCore ∧ OperationsAdvance s.toCore t.toCore)
        ⟨hc, .refl (fun _ => .refl) _⟩ (fun t call ht hcall => ?_) hlater
      refine ⟨ht.1.step call, ht.2.trans ReflTransGen.trans fun _ _ hstored => ?_⟩
      obtain ⟨next, hnext, hchanges⟩ := step_changes ht.1 hcall hstored
      exact ⟨next, hnext, hchanges.advances⟩
    obtain ⟨next, hnext, hreach⟩ := hadvance.2 hoperation
    exact ⟨next, hnext, sameAuthority_of_advances hreach,
      hreach.lift Operation.state fun _ _ hstep => hstep.2, state_eq_of_advances hreach⟩

/-- An operation that a caller creates under an id of its choice. -/
def plantedOperation (id : String) : Operation := sampleOperation id ⟨"executor", 1⟩

/-- The operation is created and cancelled; its executor is unknown, so that it is lost.  Then a
worker is started. -/
def plantedCalls (id : String) : List Call :=
  [sampleAcquire default "a" ⟨"worker", 1⟩ 100,
    .createOperation (sampleContext default "create") samplePrincipal (plantedOperation id),
    .cancelOperation (sampleContext default "cancel") samplePrincipal ⟨id, 1⟩,
    .startWorker (sampleContext default "start") samplePrincipal
      (sampleWorker "worker" 1 ⟨"lease-a", 1⟩)]

def plantedEnvironment : Environment :=
  sampleEnvironment (fun _ => 0) (fun _ => .ok ()) fun _ => .ok ⟨true, "cleanup"⟩

/-- What is stored under the id, after the first `n` calls. -/
def plantedAt (id : String) (n : Nat) : Option Operation :=
  (run (step plantedEnvironment) (sampleAuthority ["gpu"])
    ((plantedCalls id).take n)).semanticOperations[(⟨default, ⟨id, 1⟩⟩ : ObjectRef)]?

/-- The start of the worker brings a lost operation back to `Running` and replaces its owner and
kind. -/
theorem plantedOperation_not_advances :
    let id := "operation/start/worker"
    (plantedOperation id).validate = .ok () ∧ plantedAt id 2 = some (plantedOperation id) ∧
      plantedAt id 3 = some { plantedOperation id with state := .lost } ∧
      (plantedAt id 4).map (fun operation => (operation.state, operation.owner, operation.kind)) =
        some (.running, ⟨"principal", 1⟩, "worker.start") ∧
      OperationState.lost.canTransitionTo .running = false := by
  decide +kernel

/-- Under another id the cancelled operation is lost over `Cancelling`, and stays what it is. -/
theorem operationLifecycle_plantedOperation :
    (∃ next, plantedAt "job" 3 = some next ∧ next.state = .lost ∧
      Call.Changes (.cancelOperation (sampleContext default "cancel") samplePrincipal ⟨"job", 1⟩)
        ⟨default, ⟨"job", 1⟩⟩ (plantedOperation "job") next) ∧
      ∃ next, plantedAt "job" 4 = some next ∧ (plantedOperation "job").SameAuthority next := by
  have hlost : plantedAt "job" 3 = some { plantedOperation "job" with state := .lost } := by
    decide +kernel
  have hcreated : (run (step plantedEnvironment) (sampleAuthority ["gpu"])
      ((plantedCalls "job").take 2)).semanticOperations[(⟨default, ⟨"job", 1⟩⟩ : ObjectRef)]? =
        some (plantedOperation "job") := by
    decide +kernel
  obtain ⟨hcalls, next, hnext, hsame, -⟩ :=
    operationLifecycle plantedEnvironment (["gpu"].map Ledger.sampleResource) 1 "node" 1
      ((plantedCalls "job").take 2) ((plantedCalls "job").drop 2)
      ⟨rfl, rfl, rfl, by decide +kernel, trivial⟩ hcreated
  obtain ⟨cancelled, hcancelled, hchanges⟩ := hcalls _ _ rfl
  obtain rfl := Option.mem_unique hlost hcancelled
  exact ⟨⟨_, hlost, rfl, hchanges⟩, next, hnext, hsame⟩

end Authority

end CyreneKernel
