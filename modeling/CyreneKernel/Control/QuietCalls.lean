import CyreneKernel.Control.Calls

/-!
# The calls that ask for no lease

Only the beginning of a dispatch records a new intent and acquires a lease.  Everything else that
the controller does makes other calls.

## Main definitions

* `Quiet`: a program that neither records an intent nor acquires a lease.
-/

namespace CyreneKernel.Control

open Lib Program

variable {L T P : Type}

/-- The calls that neither record a new intent nor acquire a lease. -/
def Query.isQuiet : Query P → Bool
  | .create .. | .acquireLeaseOnRoute .. | .acquireLeaseOnHostRoute .. => false
  | _ => true

/-- The program makes quiet calls only. -/
def Quiet {α : Type} (p : ControlProgram P α) : Prop :=
  Obeys ⟨fun _ query => query.isQuiet, fun _ _ _ => ()⟩ p () fun _ _ => True

section Quiet

variable {α β : Type}

theorem Quiet.yields {σ : Type} {H : (query : Query P) → σ → query.Answer → σ → Prop} {s : σ}
    {p : ControlProgram P α} (h : Quiet p) :
    Yields H p s fun log _ _ => ∀ exchange ∈ log, exchange.question.isQuiet := by
  intro log result s' hrun
  induction hrun with
  | done result s => exact fun _ hexchange => absurd hexchange List.not_mem_nil
  | query hanswer hnext ih => exact List.forall_mem_cons.2 ⟨h.1, ih (h.2 _)⟩

theorem quiet_pure (a : α) : Quiet (pure a : ControlProgram P α) := trivial

theorem quiet_ask {query : Query P} (h : query.isQuiet) : Quiet (ask query) :=
  ⟨h, fun _ => trivial⟩

theorem Quiet.bind {p : ControlProgram P α} {f : α → ControlProgram P β} (hp : Quiet p)
    (hf : ∀ a, Quiet (f a)) : Quiet (p >>= f) :=
  obeys_bind.2 (hp.mono fun a _ _ => hf a)

theorem Quiet.bindExcept {ε : Type} {p : ControlProgram P (Except ε α)}
    {f : Except ε α → ControlProgram P β} (hp : Quiet p) (hok : ∀ a, Quiet (f (.ok a)))
    (herror : ∀ e, Quiet (f (.error e))) : Quiet (p >>= f) :=
  hp.bind fun
    | .ok a => hok a
    | .error e => herror e

variable {fabric : FabricPorts L T P} {polls : Nat} {hostRoute : HostRouteSnapshot}
  {route : RouteSnapshot} {node : NodeRef} {request : ExecutionDispatchRequest L P}
  {intent : ExecutionIntentRecord} {lease : Lease} {assignment : RuntimeAssignment P}

theorem quiet_leaveUnknown (message : String) :
    Quiet (leaveUnknown intent message : ControlProgram P (Except DispatchError α)) :=
  (quiet_ask rfl).bind fun _ => quiet_pure _

theorem quiet_recordOutcome (disposition : IntentDisposition) (error : DispatchError)
    (summary : String) :
    Quiet (recordOutcome intent disposition error summary :
      ControlProgram P (Except DispatchError α)) :=
  (quiet_ask rfl).bindExcept (fun _ => quiet_pure _) fun _ => quiet_pure _

theorem quiet_rollbackRelease : Quiet (rollbackRelease hostRoute node request lease) := by
  refine (quiet_ask rfl).bindExcept (fun _ => quiet_pure _) fun error => ?_
  dsimp only
  split
  · exact (quiet_ask rfl).bindExcept (fun _ => quiet_pure _) fun _ => quiet_pure _
  · exact quiet_pure _

theorem quiet_rollbackAfterKnownLease (original : DispatchError) :
    Quiet (rollbackAfterKnownLease hostRoute node request intent lease original) := by
  refine quiet_rollbackRelease.bindExcept (fun _ => ?_) fun _ => ?_
  · exact (quiet_ask rfl).bindExcept (fun _ => quiet_pure _) fun _ => quiet_pure _
  · exact (quiet_ask rfl).bindExcept (fun _ => quiet_pure _) fun _ => quiet_pure _

theorem quiet_deliverAssignment :
    Quiet (deliverAssignment hostRoute route node request intent lease assignment) := by
  refine (quiet_ask rfl).bindExcept (fun intent => ?_)
    fun _ => quiet_rollbackAfterKnownLease ..
  refine (quiet_ask rfl).bindExcept (fun ack => ?_) fun error => ?_
  · dsimp only
    split
    · exact quiet_leaveUnknown ..
    · split
      · exact (quiet_ask rfl).bindExcept (fun _ => quiet_pure _) fun _ => quiet_pure _
      · exact quiet_rollbackAfterKnownLease ..
  · dsimp only
    split
    · exact quiet_recordOutcome ..
    · exact quiet_rollbackAfterKnownLease ..

theorem quiet_awaitRoute (node : NodeRef) (runtime : Identity) :
    ∀ polls, Quiet (awaitRoute node runtime polls : ControlProgram P _)
  | 0 => (quiet_ask rfl).bindExcept (fun _ => quiet_pure _) fun _ => quiet_pure _
  | polls + 1 => by
    refine (quiet_ask rfl).bindExcept (fun _ => quiet_pure _) fun refusal => ?_
    dsimp only
    split
    · exact quiet_awaitRoute node runtime polls
    · exact quiet_pure _

theorem quiet_checkSession {assignment : RuntimeAssignmentBuilder P} :
    Quiet (checkSession assignment route) :=
  (quiet_ask rfl).bindExcept (fun _ => quiet_pure _) fun _ => quiet_pure _

theorem quiet_launchAndDeliver :
    Quiet (launchAndDeliver polls hostRoute node request intent lease assignment) := by
  refine (quiet_ask rfl).bindExcept (fun _ => ?_) fun error => ?_
  · refine (quiet_awaitRoute ..).bind fun route => ?_
    cases route with
    | none => exact quiet_leaveUnknown ..
    | some route =>
      exact quiet_checkSession.bindExcept (fun _ => quiet_deliverAssignment)
        fun _ => quiet_rollbackAfterKnownLease ..
  · dsimp only
    split
    · exact quiet_leaveUnknown ..
    · exact quiet_rollbackAfterKnownLease ..

theorem quiet_useLease {initialRoute : Option RouteSnapshot} :
    Quiet (useLease fabric polls initialRoute hostRoute node request intent lease) := by
  refine (quiet_ask rfl).bindExcept (fun intent => ?_) fun _ => quiet_rollbackAfterKnownLease ..
  dsimp only
  split
  · exact quiet_rollbackAfterKnownLease ..
  · refine (quiet_ask rfl).bind fun assignmentTime => ?_
    split
    · exact quiet_rollbackAfterKnownLease ..
    · cases initialRoute with
      | none => exact quiet_launchAndDeliver
      | some route => exact quiet_deliverAssignment

theorem quiet_findRoute {launched : Bool} : Quiet (findRoute launched node request) := by
  unfold findRoute
  split
  · exact (quiet_ask rfl).bindExcept (fun _ => quiet_pure _) fun _ => quiet_pure _
  · refine (quiet_ask rfl).bindExcept (fun route => ?_) fun _ => quiet_pure _
    exact quiet_checkSession.bindExcept (fun _ => quiet_pure _) fun _ => quiet_pure _

theorem quiet_releaseExecution {request : ExecutionReleaseRequest} :
    Quiet (releaseExecution request : ControlProgram P _) := by
  unfold releaseExecution
  split
  · exact quiet_pure _
  · refine (quiet_ask rfl).bind fun stored => ?_
    split
    · exact quiet_pure _
    · split
      · exact quiet_pure _
      · refine (quiet_ask rfl).bindExcept (fun _ => ?_) fun error => ?_
        · exact (quiet_ask rfl).bindExcept (fun _ => quiet_pure _) fun _ => quiet_pure _
        · dsimp only
          split
          · exact quiet_recordOutcome ..
          · exact quiet_pure _

theorem quiet_redeliverAssignment :
    Quiet (redeliverAssignment route node intent lease assignment) := by
  refine (quiet_ask rfl).bindExcept (fun intent => ?_) fun _ => quiet_pure _
  refine (quiet_ask rfl).bindExcept (fun ack => ?_) fun _ => quiet_leaveUnknown ..
  dsimp only
  split
  · exact quiet_leaveUnknown ..
  · split
    · exact (quiet_ask rfl).bindExcept (fun _ => quiet_pure _) fun _ => quiet_pure _
    · exact quiet_leaveUnknown ..

theorem quiet_reconnectAndRedeliver :
    Quiet (reconnectAndRedeliver polls node request intent lease assignment) := by
  refine (quiet_ask rfl).bindExcept (fun _ => ?_) fun _ => quiet_pure _
  refine (quiet_awaitRoute ..).bind fun route => ?_
  cases route with
  | none => exact quiet_pure _
  | some route =>
    refine (quiet_ask rfl).bindExcept (fun session => ?_) fun _ => quiet_pure _
    dsimp only
    split
    · exact quiet_pure _
    · exact quiet_redeliverAssignment

theorem quiet_reconcileWithLauncher :
    Quiet (reconcileWithLauncher fabric polls request lease) := by
  refine (quiet_ask rfl).bind fun now => ?_
  split
  · exact quiet_pure _
  · refine (quiet_ask rfl).bind fun stored => ?_
    split
    · exact quiet_pure _
    · split
      · exact quiet_pure _
      · split
        · exact quiet_pure _
        · exact (quiet_ask rfl).bindExcept (fun _ => quiet_reconnectAndRedeliver)
            fun _ => quiet_pure _

end Quiet

end CyreneKernel.Control
