import CyreneKernel.Control.Reports

/-!
# When the report of a dispatch agrees with its intent

The report of a dispatch agrees with the stored intent unless the intent of an earlier dispatch is
open, or the store answers otherwise than it stores: a write that failed after the file was renamed
into place, or one that failed while the controller goes on as if it were stored.

## Main results

* `yields_acquireAndUse_classified`: a dispatch whose intent is recorded.
* `yields_beginIntent_begun`: an intent that is recorded, or not.
* `classified_iff`: when a dispatch is classified.
-/

namespace CyreneKernel.Control

open Lib Program
open FileExecutionIntentStore (Answers)

variable {L T P : Type}

section Dispatch

variable {request : ExecutionDispatchRequest L P} {store store' : FileExecutionIntentStore}
  {intent record : ExecutionIntentRecord} {log log' : ControlLog P}
  {exchange : Exchange (Query P) Query.Answer}
  {result : Except DispatchError (DispatchReceipt P)}

theorem grantedLease_eq_none (h : grants exchange = false) : grantedLease exchange = none := by
  obtain ⟨query, answer⟩ := exchange
  cases query with
  | acquireLeaseOnRoute route acquisition | acquireLeaseOnHostRoute route acquisition =>
    cases answer with
    | ok lease => exact absurd h.symm Bool.false_ne_true
    | error error => rfl
  | _ => rfl

theorem grants_of_isQuiet (h : exchange.question.isQuiet) : grants exchange = false := by
  obtain ⟨query, answer⟩ := exchange
  cases query with
  | acquireLeaseOnRoute | acquireLeaseOnHostRoute => exact absurd h Bool.false_ne_true
  | _ => rfl

/-- Calls before the lease, without a bearing on the report. -/
structure Prelude (log : ControlLog P) : Prop where
  neutral : Neutral log
  grants : log.any grants = false

theorem Prelude.grantedLease_eq_none (h : Prelude log) (hmem : exchange ∈ log) :
    grantedLease exchange = none :=
  Control.grantedLease_eq_none
    (Bool.eq_false_iff.2 (List.any_eq_false.1 h.grants exchange hmem))

theorem Prelude.classified (h : Prelude log) :
    Classified request (log ++ log') result store ↔ Classified request log' result store := by
  have hclosed : Closed request (log ++ log') store ↔ Closed request log' store := by
    simp only [Closed, List.any_append, h.grants, h.neutral.1, Bool.false_or]
  have hreconcilable : Reconcilable request (log ++ log') store ↔
      Reconcilable request log' store := by
    refine exists_congr fun record => and_congr_right fun _ => and_congr_right fun _ =>
      and_congr_right fun _ => ?_
    rw [List.forall_mem_append]
    refine and_iff_right fun exchange hmem granted hgranted => ?_
    rw [h.grantedLease_eq_none hmem] at hgranted
    exact nomatch hgranted
  cases result with
  | ok receipt => rfl
  | error error => rw [Classified, Classified, hclosed, hreconcilable]

variable {error : DispatchError}

/-- A dispatch whose calls have no bearing on the report. -/
theorem Prelude.classified_refusal (h : Prelude log)
    (herror : error.reconciliationRequired = false) :
    Classified request log (.error error) store ↔
      ∀ record, store.load request.assignment.assignmentId = some record →
        ¬ record.disposition.isOpen := by
  rw [Classified, if_neg (by simp [herror]), Closed, h.grants]
  exact and_iff_right fun hgrants => absurd hgrants Bool.false_ne_true

theorem confirmsRelease_of_grants (h : grants exchange = true) :
    confirmsRelease exchange = false := by
  obtain ⟨query, answer⟩ := exchange
  cases query with
  | releaseLeaseOnRoute | releaseLease => exact absurd h Bool.false_ne_true
  | _ => rfl

theorem granted_cons (Holds : NodeRef → Lease → Prop) {node : NodeRef} {lease : Lease}
    (hgranted : grantedLease exchange = some (node, lease))
    (hquiet : ∀ exchange ∈ log, exchange.question.isQuiet) :
    (∀ other ∈ exchange :: log, ∀ granted, grantedLease other = some granted →
      Holds granted.1 granted.2) ↔ Holds node lease := by
  rw [List.forall_mem_cons, hgranted]
  constructor
  · exact fun h => h.1 (node, lease) rfl
  · refine fun hholds => ⟨fun granted heq => Option.some.inj heq ▸ hholds, ?_⟩
    intro other hmem granted heq
    rw [grantedLease_eq_none (grants_of_isQuiet (hquiet other hmem))] at heq
    exact nomatch heq

/-- With a lease, a dispatch is classified by its rest. -/
theorem classified_iff_soundWith {node : NodeRef} {lease : Lease}
    (hgranted : grantedLease exchange = some (node, lease))
    (hquiet : ∀ exchange ∈ log, exchange.question.isQuiet) :
    Classified request (exchange :: log) result store ↔
      SoundWith request node lease log result store := by
  have hgrants : grants exchange = true := by
    by_contra hnot
    rw [grantedLease_eq_none (Bool.eq_false_iff.2 hnot)] at hgranted
    exact nomatch hgranted
  have hrelease : confirmsRelease exchange = false := confirmsRelease_of_grants hgrants
  have hreconcilable : Reconcilable request (exchange :: log) store ↔
      LeftUnknown request node lease store := by
    refine exists_congr fun record => and_congr_right fun _ => and_congr_right fun _ =>
      and_congr_right fun _ => ?_
    exact granted_cons (fun node lease => record.matchesAuthority node lease = true)
      hgranted hquiet
  have hclosed : Closed request (exchange :: log) store ↔ log.any confirmsRelease = true ∧
      ∀ record, store.load request.assignment.assignmentId = some record →
        ¬ record.disposition.isOpen := by
    simp only [Closed, List.any_cons, hgrants, hrelease, Bool.true_or, Bool.false_or, forall_const]
  cases result with
  | ok receipt => rfl
  | error error => rw [Classified, SoundWith, hclosed, hreconcilable]

/-- The exchange of an acquisition and its answer. -/
structure Acquires (node : NodeRef) (exchange : Exchange (Query P) Query.Answer)
    (answer : Except DispatchError Fabric.WireLease) : Prop where
  grants : grants exchange = answer.isOk
  grantedLease : grantedLease exchange = answer.toOption.bind fun lease =>
    (Fabric.semanticLeaseFromProto lease).toOption.map (node, ·)
  neutral : Neutral [exchange]

theorem yields_acquireLease (initialRoute : Option RouteSnapshot) (hostRoute : HostRouteSnapshot)
    (acquisition : LeaseAcquisition) :
    Yields Answers (acquireLease initialRoute hostRoute acquisition : ControlProgram P _) store
      fun log answer store' => store' = store ∧
        ∃ exchange, log = [exchange] ∧ Acquires acquisition.node exchange answer := by
  cases initialRoute with
  | none | some route =>
    refine yields_ask.2 fun answer store' h => ⟨h, _, rfl, ?_⟩
    cases answer with
    | error error => exact ⟨rfl, rfl, rfl, fun _ => rfl⟩
    | ok lease => exact ⟨rfl, rfl, rfl, fun _ => rfl⟩

theorem not_reconcilable (htracks : Tracks request store record)
    (hne : record.disposition ≠ .unknownRequiresReconciliation) :
    ¬ Reconcilable request log store := by
  rintro ⟨record', hload, -, hunknown, -⟩
  exact hne (htracks.eq_of_load hload ▸ hunknown)

/-- A transition to an unknown outcome, without a known lease, that is reported as unknown. -/
theorem classified_unknown {outcome : PersistOutcome} {now : Nat}
    {answer : Except PersistFailure ExecutionIntentRecord}
    (hgranted : grantedLease exchange = none) (hneutral : Neutral [exchange])
    (herror : error.reconciliationRequired = true) (htracks : Tracks request store intent)
    (hopen : intent.disposition.isOpen)
    (h : store.transitionIntent outcome now intent .unknownRequiresReconciliation none =
      (answer, store')) :
    Classified request
        ([exchange] ++ [⟨.transition intent .unknownRequiresReconciliation none, answer⟩])
        (.error error) store' ↔
      Reported ([exchange] ++
        [⟨.transition intent .unknownRequiresReconciliation none, answer⟩]) := by
  rw [hneutral.reported, Classified, if_pos herror]
  rcases htracks.transition htracks.assignmentId htracks.payloadDigest h with
    ⟨next, -, hnext, hmoved, hanswer⟩ | ⟨failure, rfl, hcommitted, hkept⟩
  · refine iff_of_true ⟨next, hnext.load, hnext.payloadDigest, hmoved.disposition, ?_⟩ ?_
    · intro other hmem granted heq
      rcases List.mem_cons.1 hmem with rfl | hmem
      · exact nomatch hgranted.symm.trans heq
      · rw [List.mem_singleton.1 hmem] at heq
        exact nomatch heq
    · rcases hanswer with rfl | ⟨failure, rfl, hcommitted⟩
      · rfl
      · simp [Reported, storedAsReported, hcommitted]
  · refine iff_of_false (not_reconcilable hkept (ne_unknown_of_isOpen hopen)) ?_
    simp [Reported, storedAsReported, hcommitted]

/-- The dispatch ends with an acquisition that failed. -/
theorem yields_recordOutcome_classified (hgrants : grants exchange = false)
    (hneutral : Neutral [exchange]) (htracks : Tracks request store intent)
    (hopen : intent.disposition.isOpen) (summary : String) :
    Yields Answers (recordOutcome intent
        (if error.reconciliationRequired then .unknownRequiresReconciliation else .failed) error
        summary : ControlProgram P (Except DispatchError (DispatchReceipt P))) store
      fun log result store' =>
        Classified request ([exchange] ++ log) result store' ↔ Reported ([exchange] ++ log) := by
  have hgranted := grantedLease_eq_none hgrants
  by_cases herror : error.reconciliationRequired = true
  · rw [if_pos herror]
    simp only [recordOutcome, yields_bind, yields_ask]
    rintro (failure | next) store' ⟨outcome, now, h⟩
    · exact yields_pure.2 (classified_unknown hgranted hneutral rfl htracks hopen h)
    · exact yields_pure.2 (classified_unknown hgranted hneutral herror htracks hopen h)
  · rw [if_neg herror]
    simp only [recordOutcome, yields_bind, yields_ask]
    rintro answer store' ⟨outcome, now, h⟩
    rcases htracks.transition htracks.assignmentId htracks.payloadDigest h with
      ⟨next, -, hnext, hmoved, rfl | ⟨failure, rfl, hcommitted⟩⟩ |
      ⟨failure, rfl, hcommitted, hkept⟩
    · refine yields_pure.2 (iff_of_true ?_ (hneutral.reported.2 rfl))
      have hprelude : Prelude [exchange] := ⟨hneutral, by rw [List.any_cons, hgrants]; rfl⟩
      refine hprelude.classified.2 ((Prelude.classified_refusal ⟨⟨rfl, fun _ => rfl⟩, rfl⟩
        (Bool.eq_false_iff.2 herror)).2 fun record hload => ?_)
      rw [← hnext.eq_of_load hload, hmoved.disposition]
      exact Bool.false_ne_true
    all_goals
      refine yields_pure.2 (iff_of_false ?_ (by simp [Reported, storedAsReported, Except.isOk,
        Except.toBool]))
    · exact not_reconcilable hnext (by simp [hmoved.disposition])
    · exact not_reconcilable hkept (ne_unknown_of_isOpen hopen)

theorem yields_acquireAndUse_classified (fabric : FabricPorts L T P) (polls : Nat)
    (initialRoute : Option RouteSnapshot) (hostRoute : HostRouteSnapshot) (node : NodeRef)
    (htracks : Tracks request store intent) (hpending : intent.disposition = .pending)
    (hevidence : intent.authorityEvidence = none) :
    Yields Answers (acquireAndUse fabric polls initialRoute hostRoute node request intent) store
      fun log result store' => Classified request log result store' ↔ Reported log := by
  have hopen : intent.disposition.isOpen := by rw [hpending]; rfl
  refine Yields.bind (yields_acquireLease initialRoute hostRoute _) ?_
  rintro log (error | wire) _ ⟨rfl, exchange, rfl, hacquires⟩
  · exact yields_recordOutcome_classified hacquires.grants hacquires.neutral htracks hopen _
  · dsimp only
    split
    · rename_i error hdecode
      have hgranted : grantedLease exchange = none := by
        rw [hacquires.grantedLease, Except.toOption, Option.bind_some, hdecode]
        rfl
      simp only [leaveUnknown, yields_bind, yields_ask, yields_pure]
      rintro answer store' ⟨outcome, now, h⟩
      exact classified_unknown hgranted hacquires.neutral rfl htracks hopen h
    · rename_i lease hdecode
      have hgranted : grantedLease exchange = some (node, lease) := by
        rw [hacquires.grantedLease, Except.toOption, Option.bind_some, hdecode]
        rfl
      intro log result store' hrun
      have hquiet := Quiet.yields quiet_useLease hrun
      have hagrees := yields_useLease_agrees fabric polls initialRoute hostRoute htracks hpending
        hevidence hrun
      have hiff : SoundWith request node lease log result store' ↔ Reported log := hagrees
      rw [hacquires.neutral.reported, ← hiff]
      exact classified_iff_soundWith hgranted hquiet

theorem yields_findRoute_prelude (launched : Bool) (node : NodeRef)
    (request : ExecutionDispatchRequest L P) :
    Yields Answers (findRoute launched node request) store
      fun log result store' => store' = store ∧ Prelude log ∧ Final result := by
  have hneutral : Yields Answers (findRoute launched node request) store
      fun log result store' => store' = store ∧ Neutral log ∧ Final result := by
    unfold findRoute
    split
    · simp only [yields_bind, yields_ask]
      rintro (refusal | hostRoute) _ rfl
      · exact yields_pure.2 ⟨rfl, ⟨rfl, fun _ => rfl⟩, by rintro _ ⟨⟩; rfl⟩
      · exact yields_pure.2 ⟨rfl, ⟨rfl, fun _ => rfl⟩, final_ok _⟩
    · simp only [yields_bind, yields_ask]
      rintro (refusal | route) _ rfl
      · exact yields_pure.2 ⟨rfl, ⟨rfl, fun _ => rfl⟩, by rintro _ ⟨⟩; rfl⟩
      · refine Yields.bind (yields_checkSession_neutral request.assignment route) ?_
        rintro log (error | _) _ ⟨rfl, hlog, hfinal⟩
        · exact yields_pure.2 ⟨rfl, Neutral.append ⟨rfl, fun _ => rfl⟩
            (hlog.append ⟨rfl, fun _ => rfl⟩), by rintro _ ⟨⟩; exact hfinal error rfl⟩
        · exact yields_pure.2 ⟨rfl, Neutral.append ⟨rfl, fun _ => rfl⟩
            (hlog.append ⟨rfl, fun _ => rfl⟩), final_ok _⟩
  intro log result store' hrun
  obtain ⟨hstore, hlog, hfinal⟩ := hneutral hrun
  have hquiet := Quiet.yields quiet_findRoute hrun
  refine ⟨hstore, ⟨hlog, List.any_eq_false.2 fun exchange hmem => ?_⟩, hfinal⟩
  rw [grants_of_isQuiet (hquiet exchange hmem)]
  exact Bool.false_ne_true

/-- No dispatch of the assignment is recorded as going on. -/
def Unopened (request : ExecutionDispatchRequest L P) (store : FileExecutionIntentStore) : Prop :=
  ∀ record, store.load request.assignment.assignmentId = some record →
    ¬ record.disposition.isOpen

theorem pending_eq_ok {assignmentId payloadDigest : String} {now : Nat}
    (h : ExecutionIntentRecord.pending assignmentId payloadDigest now = .ok record) :
    record = ⟨assignmentId, payloadDigest, .pending, none, 1, now⟩ ∧ record.validate = .ok () := by
  simp only [ExecutionIntentRecord.pending, except_bind_eq_ok, except_pure_eq_ok] at h
  obtain ⟨_, hvalid, rfl⟩ := h
  exact ⟨rfl, hvalid⟩

theorem Unopened.of_load (hload : store.load request.assignment.assignmentId = some record) :
    Unopened request store ↔ ¬ record.disposition.isOpen := by
  constructor
  · exact fun h => h record hload
  · intro h other hother
    exact Option.mem_unique hload hother ▸ h

theorem Unopened.of_none (hload : store.load request.assignment.assignmentId = none) :
    Unopened request store :=
  fun _ hother => nomatch hload.symm.trans hother

/-- What became of an intent that was to be recorded. -/
def Begun (request : ExecutionDispatchRequest L P) (store : FileExecutionIntentStore)
    (log : ControlLog P) (result : Except DispatchError ExecutionIntentRecord)
    (store' : FileExecutionIntentStore) : Prop :=
  match result with
  | .ok intent => Unopened request store ∧ Prelude log ∧ Tracks request store' intent ∧
      intent.disposition = .pending ∧ intent.authorityEvidence = none
  | .error error => Classified request log (.error error) store' ↔
      Unopened request store ∧ Reported log

/-- A refusal after calls without a bearing on the report. -/
theorem Prelude.refused (h : Prelude log) (herror : error.reconciliationRequired = false) :
    Classified request log (.error error) store ↔ Unopened request store ∧ Reported log :=
  (h.classified_refusal herror).trans (and_iff_left (h.neutral.2 _)).symm

theorem prelude_recordedAlready (record : ExecutionIntentRecord) (assignmentId : String)
    (stored : Option ExecutionIntentRecord) {failure : PersistFailure}
    (h : failure.committed = false) :
    Prelude (P := P) ([⟨.create record, .error failure⟩] ++ [⟨.load assignmentId, stored⟩]) :=
  ⟨⟨rfl, fun _ => by simp [storedAsReported, h]⟩, rfl⟩

theorem IntentDisposition.not_isOpen_iff {disposition : IntentDisposition}
    (h : disposition.mayHaveEffects) :
    ¬ disposition.isOpen ↔ disposition = .unknownRequiresReconciliation := by
  cases disposition with
  | unknownRequiresReconciliation | leaseAcquired | assignmentDispatching => decide
  | _ => exact absurd h Bool.false_ne_true

/-- A dispatch that is told of an intent with effects. -/
theorem Prelude.effects (h : Prelude log) (herror : error.reconciliationRequired = true)
    (hload : store.load request.assignment.assignmentId = some record)
    (hdigest : record.payloadDigest = request.intentPayloadDigest)
    (heffects : record.disposition.mayHaveEffects) :
    Classified request log (.error error) store ↔ Unopened request store ∧ Reported log := by
  rw [Classified, if_pos herror, and_iff_left (show Reported log from h.neutral.2 _),
    Unopened.of_load hload, IntentDisposition.not_isOpen_iff heffects]
  constructor
  · rintro ⟨other, hother, -, hunknown, -⟩
    exact Option.mem_unique hload hother ▸ hunknown
  · refine fun hunknown => ⟨record, hload, hdigest, hunknown, fun exchange hmem granted heq => ?_⟩
    exact nomatch (h.grantedLease_eq_none hmem).symm.trans heq

theorem yields_beginIntent_begun (now : Nat) :
    Yields Answers (beginIntent request.assignment.assignmentId request.intentPayloadDigest now :
        ControlProgram P _) store (Begun request store) := by
  unfold beginIntent
  split
  · exact yields_pure.2 (Prelude.refused ⟨⟨rfl, fun _ => rfl⟩, rfl⟩ rfl)
  rename_i record hpending
  obtain ⟨rfl, hvalid⟩ := pending_eq_ok hpending
  simp only [yields_bind, yields_ask]
  rintro answer store' ⟨outcome, h⟩
  cases hstored : store.load request.assignment.assignmentId with
  | some stored =>
    -- the assignment is recorded already
    obtain ⟨rfl, failure, rfl, hcommitted, hkind⟩ := create_of_load h hvalid hstored
    dsimp only
    rw [if_pos hkind]
    simp only [yields_bind, yields_ask]
    rintro answer _ ⟨rfl, rfl⟩
    have hprelude := fun record => prelude_recordedAlready (P := P) record
      request.assignment.assignmentId (some stored) hcommitted
    rw [hstored]
    dsimp only
    split
    · exact yields_pure.2 ((hprelude _).refused rfl)
    · rename_i hdigest
      split
      · rename_i heffects
        exact yields_pure.2 ((hprelude _).effects rfl hstored (not_not.1 hdigest) heffects)
      · exact yields_pure.2 ((hprelude _).refused rfl)
  | none =>
    rcases load_create h hvalid hstored with ⟨rfl, hload⟩ | ⟨failure, rfl, hkind, hload⟩
    · exact yields_pure.2 ⟨.of_none hstored, ⟨⟨rfl, fun _ => rfl⟩, rfl⟩, ⟨hload, rfl, rfl⟩, rfl,
        rfl⟩
    · dsimp only
      rw [if_neg hkind]
      refine yields_pure.2 ?_
      have herror : ¬ (storeError failure.error false).reconciliationRequired = true :=
        Bool.false_ne_true
      rw [Begun, Classified, if_neg herror, and_iff_right (Unopened.of_none hstored)]
      cases hcommitted : failure.committed with
      | true =>
        rw [hcommitted, if_pos rfl] at hload
        refine iff_of_false (fun hclosed => ?_) (by simp [Reported, storedAsReported, hcommitted])
        exact hclosed.2 _ hload rfl
      | false =>
        rw [hcommitted, if_neg Bool.false_ne_true] at hload
        refine iff_of_true ⟨fun hgrants => ?_, Unopened.of_none hload⟩
          (by simp [Reported, storedAsReported, hcommitted])
        exact absurd hgrants Bool.false_ne_true

/-- The calls before an intent is recorded do not bear on the report of the rest. -/
theorem Prelude.classified_append (h : Prelude log)
    (h' : Classified request log' result store' ↔ Unopened request store ∧ Reported log') :
    Classified request (log ++ log') result store' ↔
      Unopened request store ∧ Reported (log ++ log') := by
  rw [h.classified, h.neutral.reported, h']

theorem yields_dispatchInner_classified (fabric : FabricPorts L T P) (polls : Nat)
    (launched : Bool) :
    Yields Answers (dispatchInner fabric polls launched request) store
      fun log result store' =>
        Classified request log result store' ↔ Unopened request store ∧ Reported log := by
  simp only [dispatchInner, yields_bind, yields_ask]
  rintro placementTime _ rfl
  refine Yields.mono ?_ fun log result store' =>
    Prelude.classified_append ⟨⟨rfl, fun _ => rfl⟩, rfl⟩
  split
  · rename_i error herror
    exact yields_pure.2 (Prelude.refused ⟨⟨rfl, fun _ => rfl⟩, rfl⟩
      (final_admitRequest fabric request placementTime error herror))
  · rename_i node hnode
    refine Yields.bind (yields_findRoute_prelude launched node request) ?_
    rintro log (error | ⟨initialRoute, hostRoute⟩) _ ⟨rfl, hlog, hfinal⟩
    · refine yields_pure.2 (hlog.classified_append ?_)
      exact Prelude.refused ⟨⟨rfl, fun _ => rfl⟩, rfl⟩ (hfinal error rfl)
    · refine Yields.mono ?_ fun log' result store' => hlog.classified_append
      refine Yields.bind (yields_beginIntent_begun placementTime) ?_
      rintro log (error | intent) store' hbegun
      · refine yields_pure.2 ?_
        rw [List.append_nil]
        exact hbegun
      · obtain ⟨hunopened, hprelude, htracks, hpending, hevidence⟩ := hbegun
        refine Yields.mono (yields_acquireAndUse_classified fabric polls initialRoute hostRoute node
          htracks hpending hevidence) fun log' result store'' hiff => ?_
        exact hprelude.classified_append (hiff.trans (and_iff_right hunopened).symm)

/-- The report of a dispatch agrees with the stored intent exactly if no intent of the assignment
was open before, and the store answers as it stores. -/
theorem classified_iff (fabric : FabricPorts L T P) (polls : Nat) (launched : Bool)
    (request : ExecutionDispatchRequest L P)
    (h : Runs Answers (dispatchInner fabric polls launched request) store
      log result store') :
    Classified request log result store' ↔ Unopened request store ∧ Reported log :=
  yields_dispatchInner_classified fabric polls launched h

/-- The sample, with a store that writes all intents. -/
theorem classified_sample : (sampleRun sampleScript).1.any grants = true ∧
    Classified sampleDispatch (sampleRun sampleScript).1 (sampleRun sampleScript).2.1
      (sampleRun sampleScript).2.2 := by
  refine ⟨by decide +kernel,
    (classified_iff sampleFabric 0 true sampleDispatch (runs_sampleRun sampleScript)).2 ⟨?_, ?_⟩⟩
  · exact Unopened.of_none rfl
  · rw [Reported]
    decide +kernel

/-- The directory of the store is not synced after the completed intent was renamed into place. -/
def unsyncedScript : Script :=
  { sampleScript with
    persist disposition := if disposition = .completed then .unsynced "I/O error" else .replaced }

/-- The dispatch asks for reconciliation, and the stored intent is completed. -/
theorem notClassified_unsynced : (sampleRun unsyncedScript).1.any grants = true ∧
    ¬ Classified sampleDispatch (sampleRun unsyncedScript).1 (sampleRun unsyncedScript).2.1
      (sampleRun unsyncedScript).2.2 := by
  refine ⟨by decide +kernel, fun hclassified => ?_⟩
  have hiff := yields_dispatchInner_classified sampleFabric 0 true (runs_sampleRun unsyncedScript)
  have hreported : Reported (sampleRun unsyncedScript).1 := (hiff.1 hclassified).2
  exact absurd hreported (by rw [Reported]; decide +kernel)

end Dispatch

end CyreneKernel.Control
