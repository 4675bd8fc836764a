import CyreneKernel.Control.Calls

/-!
# Releasing the lease of a launched runtime

Once the launcher accepted a launch there is an instance that uses the resources of the lease.  No
call of the controller ends an instance.  Four answers after the launch make the controller roll
back all the same, and a rollback releases the lease.

## Main definitions

* `launchesInstance`, `releasesLease`, `ReleasesNothingLive`.
* `forcesRollback`: the answers that make the controller roll back.

## Main results

* `releasesNothingLive_iff`: the lease of a launched runtime is kept exactly if no such answer
  comes.
-/

namespace CyreneKernel.Control

open Lib Program

variable {L T P σ : Type} {H : (query : Query P) → σ → query.Answer → σ → Prop} {s : σ}

/-- The launcher accepted a launch. -/
def launchesInstance : Exchange (Query P) Query.Answer → Bool
  | ⟨.launch .., answer⟩ => answer.isOk
  | _ => false

/-- The release of a lease. -/
def releasesLease (exchange : Exchange (Query P) Query.Answer) : Bool :=
  exchange.question matches .releaseLeaseOnRoute .. | .releaseLease ..

/-- No lease is released after an instance was launched. -/
def ReleasesNothingLive (log : ControlLog P) : Prop :=
  ∀ before exchange after, log = before ++ exchange :: after → releasesLease exchange →
    ¬ before.any launchesInstance

/-- A runtime session that cannot be verified or has another scope, an intent that cannot be moved
on to delivery, a delivery that failed for certain, and a rejected assignment. -/
def forcesRollback (request : ExecutionDispatchRequest L P) :
    Exchange (Query P) Query.Answer → Bool
  | ⟨.runtimeSessionOnRoute _, .error _⟩ => true
  | ⟨.runtimeSessionOnRoute _, .ok session⟩ =>
    !(validateWorkloadScope request.assignment session).isOk
  | ⟨.transition _ .assignmentDispatching _, answer⟩ => !answer.isOk
  | ⟨.dispatchAssignmentOnRoute .., .error error⟩ => !error.reconciliationRequired
  | ⟨.dispatchAssignmentOnRoute .., .ok ack⟩ =>
    (AssignmentAckDisposition.ofNumber ack.disposition).any (!·.confirms)
  | _ => false

/-! ### The parts of a dispatch -/

section Parts

variable (request : ExecutionDispatchRequest L P)

/-- A part of a dispatch that neither launches an instance nor gets an answer that forces a
rollback; `releases` tells whether it releases the lease. -/
def Plain (request : ExecutionDispatchRequest L P) (releases : Bool) (log : ControlLog P) : Prop :=
  log.any launchesInstance = false ∧ log.any (forcesRollback request) = false ∧
    log.any releasesLease = releases

variable {log : ControlLog P} (fabric : FabricPorts L T P) (polls : Nat)
  (hostRoute : HostRouteSnapshot) (targetNode : NodeRef) (intent : ExecutionIntentRecord)

theorem Plain.append {request : ExecutionDispatchRequest L P} {releases releases' : Bool}
    {log' : ControlLog P} (h : Plain request releases log) (h' : Plain request releases' log') :
    Plain request (releases || releases') (log ++ log') := by
  obtain ⟨h₁, h₂, h₃⟩ := h
  obtain ⟨h₁', h₂', h₃'⟩ := h'
  simp only [Plain, List.any_append, h₁, h₂, h₃, h₁', h₂', h₃', Bool.or_false, and_self]

theorem yields_leaveUnknown {α : Type} (message : String) :
    Yields H (leaveUnknown intent message : ControlProgram P (Except DispatchError α)) s
      fun log _ _ => Plain request false log := by
  simp only [leaveUnknown, yields_bind, yields_ask, yields_pure]
  exact fun _ _ _ => ⟨rfl, rfl, rfl⟩

theorem yields_recordOutcome {α : Type} {disposition : IntentDisposition}
    (hdisposition : disposition ≠ .assignmentDispatching) (error : DispatchError)
    (summary : String) :
    Yields H (recordOutcome intent disposition error summary :
      ControlProgram P (Except DispatchError α)) s fun log _ _ => Plain request false log := by
  simp only [recordOutcome, yields_bind, yields_ask]
  intro answer s' _
  have hplain : Plain request false [⟨.transition intent disposition none, answer⟩] := by
    cases disposition with
    | assignmentDispatching => exact absurd rfl hdisposition
    | _ => exact ⟨rfl, rfl, rfl⟩
  cases answer with
  | ok next | error failure => exact yields_pure.2 hplain

theorem yields_rollbackRelease (route : HostRouteSnapshot) (node : NodeRef) (lease : Lease) :
    Yields H (rollbackRelease route node request lease) s
      fun log _ _ => Plain request true log := by
  simp only [rollbackRelease, yields_bind, yields_ask]
  rintro (error | _) s' _
  · dsimp only
    split
    · simp only [yields_bind, yields_ask]
      rintro (retryError | _) s'' _
      · exact yields_pure.2 ⟨rfl, rfl, rfl⟩
      · exact yields_pure.2 ⟨rfl, rfl, rfl⟩
    · exact yields_pure.2 ⟨rfl, rfl, rfl⟩
  · exact yields_pure.2 ⟨rfl, rfl, rfl⟩

theorem yields_rollbackAfterKnownLease (route : HostRouteSnapshot) (node : NodeRef)
    (intent : ExecutionIntentRecord) (lease : Lease) (original : DispatchError) :
    Yields H (rollbackAfterKnownLease route node request intent lease original) s
      fun log _ _ => Plain request true log := by
  refine Yields.bind (yields_rollbackRelease request route node lease)
    fun log released s' hlog => ?_
  have hconcat {exchange : Exchange (Query P) Query.Answer}
      (h : Plain request false [exchange]) : Plain request true (log ++ [exchange]) :=
    hlog.append h
  cases released with
  | ok _ | error releaseError =>
    simp only [yields_bind, yields_ask]
    rintro (failure | next) s'' _
    · exact yields_pure.2 (hconcat ⟨rfl, rfl, rfl⟩)
    · exact yields_pure.2 (hconcat ⟨rfl, rfl, rfl⟩)

theorem yields_awaitRoute (node : NodeRef) (runtime : Identity) (polls : Nat) :
    Yields H (awaitRoute node runtime polls : ControlProgram P _) s
      fun log _ _ => Plain request false log := by
  induction polls generalizing s with
  | zero =>
    simp only [awaitRoute, yields_bind, yields_ask]
    rintro (refusal | route) s' _
    · exact yields_pure.2 ⟨rfl, rfl, rfl⟩
    · exact yields_pure.2 ⟨rfl, rfl, rfl⟩
  | succ polls ih =>
    simp only [awaitRoute, yields_bind, yields_ask]
    rintro (refusal | route) s' _
    · dsimp only
      split
      · refine ih.mono fun log _ _ hlog => ?_
        have hasked : Plain request false
            [⟨.snapshotRoute node runtime, (.error refusal : Except Rejection RouteSnapshot)⟩] :=
          ⟨rfl, rfl, rfl⟩
        exact hasked.append hlog
      · exact yields_pure.2 ⟨rfl, rfl, rfl⟩
    · exact yields_pure.2 ⟨rfl, rfl, rfl⟩

/-- A part of a dispatch after the launch: the lease is released exactly if an answer forces a
rollback. -/
def Launched (request : ExecutionDispatchRequest L P) (log : ControlLog P) : Prop :=
  log.any launchesInstance = false ∧ log.any releasesLease = log.any (forcesRollback request)

theorem Plain.launched {request : ExecutionDispatchRequest L P} (h : Plain request false log) :
    Launched request log :=
  ⟨h.1, h.2.2.trans h.2.1.symm⟩

/-- A part without consequences before the rest. -/
theorem Launched.append {request : ExecutionDispatchRequest L P} {log' : ControlLog P}
    (h : Plain request false log) (h' : Launched request log') :
    Launched request (log ++ log') := by
  obtain ⟨h₁, h₂, h₃⟩ := h
  simp only [Launched, List.any_append, h₁, h₂, h₃, Bool.false_or]
  exact h'

/-- An answer that forces a rollback, and the rollback. -/
theorem Launched.rollback {request : ExecutionDispatchRequest L P}
    {exchange : Exchange (Query P) Query.Answer} (hlaunch : launchesInstance exchange = false)
    (hforces : forcesRollback request exchange = true) (h : Plain request true log) :
    Launched request (exchange :: log) := by
  obtain ⟨h₁, h₂, h₃⟩ := h
  simp only [Launched, List.any_cons, hlaunch, hforces, h₁, h₂, h₃, Bool.or_false, Bool.or_true,
    and_self]

theorem yields_deliverAssignment (route : RouteSnapshot) (targetNode : NodeRef)
    (intent : ExecutionIntentRecord) (lease : Lease) (assignment : RuntimeAssignment P) :
    Yields H (deliverAssignment hostRoute route targetNode request intent lease assignment) s
      fun log _ _ => Launched request log := by
  simp only [deliverAssignment, yields_bind, yields_ask]
  rintro (failure | intent') s₁ _
  · exact Yields.mono (yields_rollbackAfterKnownLease request ..)
      fun log _ _ hlog => Launched.rollback rfl rfl hlog
  have hmoved : Plain request false [⟨.transition intent .assignmentDispatching none,
      (.ok intent' : Except PersistFailure ExecutionIntentRecord)⟩] := ⟨rfl, rfl, rfl⟩
  simp only [yields_bind, yields_ask]
  rintro (error | ack) s₂ _
  · dsimp only
    split
    · next hunknown =>
      have hlost : Plain request false [⟨.dispatchAssignmentOnRoute route.runtime assignment,
          (.error error : Except DispatchError AssignmentAck)⟩] :=
        ⟨rfl, by simp [forcesRollback, hunknown], rfl⟩
      exact Yields.mono (yields_recordOutcome request intent' (by decide) ..)
        fun log _ _ hlog => (hmoved.append (hlost.append hlog)).launched
    · next hcertain =>
      refine Yields.mono (yields_rollbackAfterKnownLease request ..) fun log _ _ hlog => ?_
      exact Launched.append hmoved (Launched.rollback rfl (by simp [forcesRollback, hcertain]) hlog)
  · dsimp only
    split
    · next hack =>
      have hunclear : Plain request false [⟨.dispatchAssignmentOnRoute route.runtime assignment,
          (.ok ack : Except DispatchError AssignmentAck)⟩] :=
        ⟨rfl, by simp [forcesRollback, hack], rfl⟩
      exact Yields.mono (yields_leaveUnknown request ..)
        fun log _ _ hlog => (hmoved.append (hunclear.append hlog)).launched
    · next disposition hack =>
      split
      · next hconfirms =>
        have hacknowledged : Plain request false [⟨.dispatchAssignmentOnRoute route.runtime
            assignment, (.ok ack : Except DispatchError AssignmentAck)⟩] :=
          ⟨rfl, by simp [forcesRollback, hack, hconfirms], rfl⟩
        simp only [yields_bind, yields_ask]
        rintro (failure | completed) s₃ _
        · exact yields_pure.2 (hmoved.append (hacknowledged.append ⟨rfl, rfl, rfl⟩)).launched
        · exact yields_pure.2 (hmoved.append (hacknowledged.append ⟨rfl, rfl, rfl⟩)).launched
      · next hconfirms =>
        refine Yields.mono (yields_rollbackAfterKnownLease request ..) fun log _ _ hlog => ?_
        exact Launched.append hmoved
          (Launched.rollback rfl (by simp [forcesRollback, hack, hconfirms]) hlog)

/-- A part of a dispatch that may contain the launch. -/
inductive MayLaunch (request : ExecutionDispatchRequest L P) : ControlLog P → Prop
  | plain {releases : Bool} {log : ControlLog P} (h : Plain request releases log) :
      MayLaunch request log
  | launched {before after : ControlLog P} {exchange : Exchange (Query P) Query.Answer}
      (hbefore : Plain request false before) (hlaunch : launchesInstance exchange = true)
      (hafter : Launched request after) : MayLaunch request (before ++ exchange :: after)

theorem MayLaunch.append {request : ExecutionDispatchRequest L P} {log log' : ControlLog P}
    (h : Plain request false log) (h' : MayLaunch request log') :
    MayLaunch request (log ++ log') := by
  cases h' with
  | plain hplain => exact .plain (h.append hplain)
  | launched hbefore hlaunch hafter =>
    rw [← List.append_assoc]
    exact .launched (h.append hbefore) hlaunch hafter

/-- The check of a session is one call, whose answer forces a rollback if the check fails. -/
theorem yields_checkSession (route : RouteSnapshot) :
    Yields H (checkSession request.assignment route) s fun log result _ =>
      ∃ exchange, log = [exchange] ∧ launchesInstance exchange = false ∧
        releasesLease exchange = false ∧ forcesRollback request exchange = !result.isOk := by
  simp only [checkSession, yields_bind, yields_ask]
  rintro (refusal | session) s' _
  · exact yields_pure.2 ⟨_, rfl, rfl, rfl, rfl⟩
  · exact yields_pure.2 ⟨_, rfl, rfl, rfl, rfl⟩

theorem yields_launchAndDeliver (lease : Lease) (assignment : RuntimeAssignment P) :
    Yields H (launchAndDeliver polls hostRoute targetNode request intent lease assignment) s
      fun log _ _ => MayLaunch request log := by
  simp only [launchAndDeliver, yields_bind, yields_ask]
  rintro (error | _) s₁ _
  · have hrefused : Plain request false [⟨.launch targetNode assignment lease,
        (.error error : Except DispatchError Unit)⟩] := ⟨rfl, rfl, rfl⟩
    dsimp only
    split
    · exact Yields.mono (yields_leaveUnknown request ..)
        fun log _ _ hlog => .plain (hrefused.append hlog)
    · exact Yields.mono (yields_rollbackAfterKnownLease request ..)
        fun log _ _ hlog => .plain (hrefused.append hlog)
  have hlaunched {log : ControlLog P} (h : Launched request log) :
      MayLaunch request ([⟨.launch targetNode assignment lease,
        (.ok () : Except DispatchError Unit)⟩] ++ log) := by
    have hnothing : Plain request false [] := ⟨rfl, rfl, rfl⟩
    exact .launched hnothing rfl h
  refine Yields.mono ?_ fun log _ _ hlog => hlaunched hlog
  refine Yields.bind (yields_awaitRoute request targetNode request.assignment.runtime polls)
    fun log route s₂ hlog => ?_
  refine Yields.mono ?_ fun log' _ _ hlog' => Launched.append hlog hlog'
  cases route with
  | none => exact Yields.mono (yields_leaveUnknown request ..) fun log' _ _ hlog' => hlog'.launched
  | some route =>
    refine Yields.bind (yields_checkSession request route) ?_
    rintro _ (error | _) s₃ ⟨exchange, rfl, hlaunch, hrelease, hforces⟩
    · exact Yields.mono (yields_rollbackAfterKnownLease request ..)
        fun log' _ _ hlog' => Launched.rollback hlaunch hforces hlog'
    · have hverified : Plain request false [exchange] := by
        simp only [Plain, List.any_cons, List.any_nil, Bool.or_false, hlaunch, hrelease, hforces]
        exact ⟨trivial, rfl, trivial⟩
      exact Yields.mono (yields_deliverAssignment request ..)
        fun log' _ _ hlog' => Launched.append hverified hlog'

theorem yields_useLease (lease : Lease) :
    Yields H (useLease fabric polls none hostRoute targetNode request intent lease) s
      fun log _ _ => MayLaunch request log := by
  simp only [useLease, yields_bind, yields_ask]
  intro answer s₁ _
  have hrecorded : Plain request false
      [⟨.transition intent .leaseAcquired (some (targetNode, lease)), answer⟩] := ⟨rfl, rfl, rfl⟩
  refine Yields.mono ?_ fun log _ _ hlog => MayLaunch.append hrecorded hlog
  have hrollback {intent : ExecutionIntentRecord} {original : DispatchError} {s : σ} :
      Yields H (rollbackAfterKnownLease hostRoute targetNode request intent lease original) s
        fun log _ _ => MayLaunch request log :=
    Yields.mono (yields_rollbackAfterKnownLease request ..) fun log _ _ hlog => .plain hlog
  cases answer with
  | error failure => exact hrollback
  | ok intent' =>
    dsimp only
    split
    · exact hrollback
    · simp only [yields_bind, yields_ask]
      intro assignmentTime s₂ _
      have htime : Plain request false [⟨.now, assignmentTime⟩] := ⟨rfl, rfl, rfl⟩
      refine Yields.mono ?_ fun log _ _ hlog => MayLaunch.append htime hlog
      split
      · exact hrollback
      · exact yields_launchAndDeliver request ..

theorem yields_acquireAndUse :
    Yields H (acquireAndUse fabric polls none hostRoute targetNode request intent) s
      fun log _ _ => MayLaunch request log := by
  simp only [acquireAndUse, acquireLease, yields_bind, yields_ask]
  intro answer s₁ _
  have hacquired : Plain request false [⟨.acquireLeaseOnHostRoute hostRoute
      (acquisitionFor fabric targetNode request), answer⟩] := ⟨rfl, rfl, rfl⟩
  refine Yields.mono ?_ fun log _ _ hlog => MayLaunch.append hacquired hlog
  cases answer with
  | error error =>
    refine Yields.mono (yields_recordOutcome request intent ?_ ..) fun log _ _ hlog => .plain hlog
    split <;> decide
  | ok leaseProto =>
    dsimp only
    split
    · exact Yields.mono (yields_leaveUnknown request ..) fun log _ _ hlog => .plain hlog
    · exact yields_useLease request ..

theorem yields_beginIntent (assignmentId payloadDigest : String) (nowUnixMs : Nat) :
    Yields H (beginIntent assignmentId payloadDigest nowUnixMs : ControlProgram P _) s
      fun log _ _ => Plain request false log := by
  unfold beginIntent
  split
  · exact yields_pure.2 ⟨rfl, rfl, rfl⟩
  · simp only [yields_bind, yields_ask]
    rintro (failure | _) s' _
    · dsimp only
      split
      · simp only [yields_bind, yields_ask]
        rintro (_ | existing) s'' _
        · exact yields_pure.2 ⟨rfl, rfl, rfl⟩
        · dsimp only
          split
          · exact yields_pure.2 ⟨rfl, rfl, rfl⟩
          · split <;> exact yields_pure.2 ⟨rfl, rfl, rfl⟩
      · exact yields_pure.2 ⟨rfl, rfl, rfl⟩
    · exact yields_pure.2 ⟨rfl, rfl, rfl⟩

/-- A runtime that is to be launched has no route yet. -/
theorem yields_findRoute :
    Yields H (findRoute true targetNode request) s fun log result _ =>
      Plain request false log ∧ ∀ routes, result = .ok routes → routes.1 = none := by
  simp only [findRoute, if_true, yields_bind, yields_ask]
  rintro (refusal | hostRoute) s' _
  · refine yields_pure.2 ⟨⟨rfl, rfl, rfl⟩, ?_⟩
    rintro _ ⟨⟩
  · refine yields_pure.2 ⟨⟨rfl, rfl, rfl⟩, ?_⟩
    rintro _ ⟨⟩
    rfl

theorem yields_dispatchInner :
    Yields H (dispatchInner fabric polls true request) s
      fun log _ _ => MayLaunch request log := by
  have hnothing : Plain request false [] := ⟨rfl, rfl, rfl⟩
  simp only [dispatchInner, yields_bind, yields_ask]
  intro placementTime s₁ _
  have htime : Plain request false [⟨.now, placementTime⟩] := ⟨rfl, rfl, rfl⟩
  refine Yields.mono ?_ fun log _ _ hlog => MayLaunch.append htime hlog
  split
  · exact yields_pure.2 (.plain hnothing)
  · next targetNode _ =>
    refine Yields.bind (yields_findRoute request targetNode) ?_
    rintro log (error | ⟨initialRoute, hostRoute⟩) s₂ ⟨hlog, hroute⟩
    · exact yields_pure.2 (MayLaunch.append hlog (.plain hnothing))
    obtain rfl : initialRoute = none := hroute _ rfl
    refine Yields.mono ?_ fun log' _ _ hlog' => MayLaunch.append hlog hlog'
    refine Yields.bind (yields_beginIntent request ..) ?_
    rintro log' (error | intent) s₃ hlog'
    · exact yields_pure.2 (MayLaunch.append hlog' (.plain hnothing))
    · exact Yields.mono (yields_acquireAndUse request ..)
        fun log'' _ _ hlog'' => MayLaunch.append hlog' hlog''

end Parts

/-! ### The whole dispatch -/

theorem MayLaunch.nothingLive_iff {request : ExecutionDispatchRequest L P}
    {log : ControlLog P} (h : MayLaunch request log) :
    ReleasesNothingLive log ↔ log.any (forcesRollback request) = false := by
  cases h with
  | plain h =>
    refine iff_of_true (fun before exchange after hsplit _ hlaunched => ?_) h.2.1
    have hlaunch := h.1
    rw [hsplit, List.any_append, hlaunched, Bool.true_or] at hlaunch
    exact absurd hlaunch (by decide)
  | @launched before after exchange hbefore hlaunch hafter =>
    have hforces : forcesRollback request exchange = false := by
      obtain ⟨query, answer⟩ := exchange
      cases query <;> first | rfl | exact absurd hlaunch Bool.false_ne_true
    rw [List.any_append, List.any_cons, hbefore.2.1, hforces, Bool.false_or, Bool.false_or,
      ← hafter.2]
    constructor
    · intro hsafe
      rw [Bool.eq_false_iff, Ne, List.any_eq_true]
      rintro ⟨release, hmem, hreleases⟩
      -- The release comes after the launch.
      obtain ⟨middle, last, rfl⟩ := List.append_of_mem hmem
      refine hsafe (before ++ exchange :: middle) release last ?_ hreleases ?_
      · rw [List.append_assoc, List.cons_append]
      · rw [List.any_append, List.any_cons, hlaunch, Bool.true_or, Bool.or_true]
    · intro hnone before' release after' hsplit hreleases _
      have hexchange : releasesLease exchange = false := by
        obtain ⟨query, answer⟩ := exchange
        cases query <;> first | rfl | exact absurd hlaunch Bool.false_ne_true
      have hreleased : (before ++ exchange :: after).any releasesLease = true := by
        rw [hsplit, List.any_append, List.any_cons, hreleases, Bool.true_or, Bool.or_true]
      rw [List.any_append, List.any_cons, hbefore.2.2, hexchange, hnone] at hreleased
      exact Bool.false_ne_true hreleased

/-- The controller releases no lease under a launched instance exactly if no answer after the launch
forces a rollback. -/
theorem releasesNothingLive_iff (fabric : FabricPorts L T P) (polls : Nat)
    (request : ExecutionDispatchRequest L P) {log : ControlLog P}
    {result : Except DispatchError (DispatchReceipt P)} {s' : σ}
    (h : Runs H (dispatchInner fabric polls true request) s log result s') :
    ReleasesNothingLive log ↔ ∀ exchange ∈ log, ¬ forcesRollback request exchange := by
  rw [(yields_dispatchInner request fabric polls h).nothingLive_iff, Bool.eq_false_iff, Ne,
    List.any_eq_true]
  simp only [not_exists, not_and]

/-- The sample dispatch keeps the lease that its runtime uses. -/
theorem releasesNothingLive_sample :
    (sampleRun sampleScript).1.any launchesInstance = true ∧
      ReleasesNothingLive (sampleRun sampleScript).1 := by
  have hcalm : (sampleRun sampleScript).1.any (forcesRollback sampleDispatch) = false := by
    decide +kernel
  rw [List.any_eq_false] at hcalm
  exact ⟨by decide +kernel,
    (releasesNothingLive_iff sampleFabric 0 sampleDispatch (runs_sampleRun sampleScript)).2 hcalm⟩

/-- The runtime is launched and connects, and rejects the assignment.  Its lease is released while
it lives. -/
theorem releasesLive_rejected : ∃ script, (sampleRun script).1.any launchesInstance = true ∧
    ¬ ReleasesNothingLive (sampleRun script).1 := by
  refine ⟨{ sampleScript with acknowledge := .ok ⟨3, none⟩ }, by decide +kernel, fun hsafe => ?_⟩
  have hlaunch := yields_dispatchInner sampleDispatch sampleFabric 0
    (runs_sampleRun { sampleScript with acknowledge := .ok ⟨3, none⟩ })
  exact absurd (hlaunch.nothingLive_iff.1 hsafe) (by decide +kernel)

end CyreneKernel.Control
