import CyreneKernel.Control.QuietCalls

/-!
# What a dispatch with a lease reports

A dispatch returns a receipt, an error that is final, or an error that asks for reconciliation.  A
receipt should come with a completed intent, a final error with nothing left over, and the third
with an intent that reconciliation can take up.  The intent is where the last write of the store
left it, and this is not always where the report puts it.  This module follows a dispatch from its
lease to its end.

## Main results

* `yields_useLease_agrees`
-/

namespace CyreneKernel.Control

open Lib Program
open FileExecutionIntentStore (Answers)

variable {L T P : Type}

/-! ### What a write leaves in memory -/

/-- A record after a transition. -/
structure Moved (current : ExecutionIntentRecord) (disposition : IntentDisposition)
    (authority : Option (NodeRef × Lease)) (next : ExecutionIntentRecord) : Prop where
  assignmentId : next.assignmentId = current.assignmentId
  payloadDigest : next.payloadDigest = current.payloadDigest
  disposition : next.disposition = disposition
  revision : next.revision = current.revision + 1
  evidence : next.authorityEvidence = current.authorityEvidence.or
    (authority.map fun (node, lease) => AuthorityEvidence.fromAuthority node lease)

section Memory

variable {store store' : FileExecutionIntentStore} {outcome : PersistOutcome} {now : Nat}
  {current next stored record : ExecutionIntentRecord} {disposition : IntentDisposition}
  {authority : Option (NodeRef × Lease)}

theorem moved_of_transition (h : current.transition disposition authority now = .ok next) :
    Moved current disposition authority next := by
  simp only [ExecutionIntentRecord.transition, except_bind_eq_ok, failIf_eq_ok, exists_const,
    except_pure_eq_ok] at h
  obtain ⟨-, -, -, -, _, -, rfl⟩ := h
  exact ⟨rfl, rfl, rfl, rfl, rfl⟩

variable {answer : Except PersistFailure Unit}

/-- The memory after a replacement of the ledger. -/
theorem records_replace {records previous : IntentRecords}
    (h : store.replace outcome records previous = (answer, store')) :
    (answer = .ok () ∧ store'.records = records) ∨
    ∃ failure, answer = .error failure ∧ failure.error.kind ≠ .alreadyExists ∧
      store'.records = if failure.committed then records else previous := by
  obtain ⟨rfl, rfl⟩ := Prod.mk.inj h
  cases outcome with
  | replaced => exact .inl ⟨rfl, rfl⟩
  | invalidFileName | failed message renamed | unsynced message => exact .inr ⟨_, rfl, nofun, rfl⟩

/-- A write is stored, reported as such or as an error after the rename; or it is an error, and the
memory is as before. -/
theorem load_compareAndSet {expectedRevision : Nat}
    (h : store.compareAndSet outcome expectedRevision record = (answer, store'))
    (hstored : store.load record.assignmentId = some stored)
    (hid : stored.assignmentId = record.assignmentId) :
    (stored.revision = expectedRevision ∧ store'.load record.assignmentId = some record ∧
      (answer = .ok () ∨ ∃ failure, answer = .error failure ∧ failure.committed = true)) ∨
    ∃ failure, answer = .error failure ∧ failure.committed = false ∧
      store'.load record.assignmentId = some stored := by
  unfold FileExecutionIntentStore.compareAndSet at h
  split at h
  · obtain ⟨rfl, rfl⟩ := Prod.mk.inj h
    exact .inr ⟨_, rfl, rfl, hstored⟩
  · cases hreplace : replaceRecord store.records expectedRevision record with
    | error error =>
      rw [hreplace] at h
      obtain ⟨rfl, rfl⟩ := Prod.mk.inj h
      exact .inr ⟨_, rfl, rfl, hstored⟩
    | ok records =>
      have hstored' : store.records[record.assignmentId]? = some stored := hstored
      rw [hreplace, hstored'] at h
      simp only [replaceRecord, except_bind_eq_ok, failIf_eq_ok, foundOr_eq_ok, exists_const,
        except_pure_eq_ok, hstored', Option.some.injEq, exists_eq_left'] at hreplace
      obtain ⟨hrevision, -, rfl⟩ := hreplace
      have hcurrent : stored.revision = expectedRevision :=
        by_contra fun hne => hrevision (.inl hne)
      rcases records_replace h with ⟨hanswer, hrecords⟩ | ⟨failure, hanswer, -, hrecords⟩
      · refine .inl ⟨hcurrent, ?_, .inl hanswer⟩
        rw [FileExecutionIntentStore.load, hrecords, BTreeMap.getElem?_insert, if_pos rfl]
      · cases hcommitted : failure.committed with
        | true =>
          refine .inl ⟨hcurrent, ?_, .inr ⟨failure, hanswer, hcommitted⟩⟩
          rw [FileExecutionIntentStore.load, hrecords, hcommitted, if_pos rfl,
            BTreeMap.getElem?_insert, if_pos rfl]
        | false =>
          refine .inr ⟨failure, hanswer, hcommitted, ?_⟩
          rw [FileExecutionIntentStore.load, hrecords, hcommitted, if_neg Bool.false_ne_true,
            BTreeMap.getElem?_insert, if_pos hid]

/-- A transition is stored, reported as such or as an error after the rename; or it is an error, and
the memory is as before. -/
theorem load_transitionIntent {answer : Except PersistFailure ExecutionIntentRecord}
    (h : store.transitionIntent outcome now current disposition authority = (answer, store'))
    (hstored : store.load current.assignmentId = some stored)
    (hid : stored.assignmentId = current.assignmentId) :
    (∃ next, stored.revision = current.revision ∧
      store'.load current.assignmentId = some next ∧ Moved current disposition authority next ∧
      (answer = .ok next ∨ ∃ failure, answer = .error failure ∧ failure.committed = true)) ∨
    ∃ failure, answer = .error failure ∧ failure.committed = false ∧
      store'.load current.assignmentId = some stored := by
  unfold FileExecutionIntentStore.transitionIntent at h
  cases hnext : current.transition disposition authority now with
  | error error =>
    rw [hnext] at h
    obtain ⟨rfl, rfl⟩ := Prod.mk.inj h
    exact .inr ⟨_, rfl, rfl, hstored⟩
  | ok next =>
    have hmoved := moved_of_transition hnext
    rw [hnext] at h
    dsimp only at h
    obtain ⟨written, store'', hset⟩ :
        ∃ written store'', store.compareAndSet outcome current.revision next = (written, store'') :=
      ⟨_, _, rfl⟩
    rw [← hmoved.assignmentId] at hstored hid ⊢
    rw [hset] at h
    rcases load_compareAndSet hset hstored hid with
      ⟨hrevision, hload, rfl | ⟨failure, rfl, hcommitted⟩⟩ | ⟨failure, rfl, hcommitted, hload⟩
    all_goals obtain ⟨rfl, rfl⟩ := Prod.mk.inj h
    · exact .inl ⟨next, hrevision, hload, hmoved, .inl rfl⟩
    · exact .inl ⟨next, hrevision, hload, hmoved, .inr ⟨failure, rfl, hcommitted⟩⟩
    · exact .inr ⟨failure, rfl, hcommitted, hload⟩

variable (h : store.create outcome record = (answer, store')) (hvalid : record.validate = .ok ())

include h hvalid

/-- A new intent is stored, reported as such or as an error after the rename; or it is an error, and
there is still none. -/
theorem load_create (hnone : store.load record.assignmentId = none) :
    (answer = .ok () ∧ store'.load record.assignmentId = some record) ∨
    ∃ failure, answer = .error failure ∧ failure.error.kind ≠ .alreadyExists ∧
      store'.load record.assignmentId = if failure.committed then some record else none := by
  have hnone' : store.records[record.assignmentId]? = none := hnone
  have hnew : ¬ store.records.contains record.assignmentId = true := by
    rw [Std.ExtTreeMap.contains_eq_isSome_getElem?, hnone']
    exact Bool.false_ne_true
  unfold FileExecutionIntentStore.create at h
  rw [hvalid] at h
  rw [if_neg hnew] at h
  rcases records_replace h with ⟨hanswer, hrecords⟩ | ⟨failure, hanswer, hkind, hrecords⟩
  · refine .inl ⟨hanswer, ?_⟩
    rw [FileExecutionIntentStore.load, hrecords, BTreeMap.getElem?_insert, if_pos rfl]
  · refine .inr ⟨failure, hanswer, hkind, ?_⟩
    rw [FileExecutionIntentStore.load, hrecords]
    split
    · rw [BTreeMap.getElem?_insert, if_pos rfl]
    · rw [BTreeMap.getElem?_erase, if_pos rfl]

/-- The intent of an assignment that has one is not recorded again. -/
theorem create_of_load (hstored : store.load record.assignmentId = some stored) :
    store' = store ∧ ∃ failure, answer = .error failure ∧ failure.committed = false ∧
      failure.error.kind = .alreadyExists := by
  have hstored' : store.records[record.assignmentId]? = some stored := hstored
  have hold : store.records.contains record.assignmentId = true := by
    rw [Std.ExtTreeMap.contains_eq_isSome_getElem?, hstored']
    rfl
  unfold FileExecutionIntentStore.create at h
  rw [hvalid] at h
  rw [if_pos hold] at h
  obtain ⟨rfl, rfl⟩ := Prod.mk.inj h
  exact ⟨rfl, _, rfl, rfl, rfl⟩

end Memory

/-! ### Reports -/

/-- The phases of a dispatch that is going on. -/
def IntentDisposition.isOpen (disposition : IntentDisposition) : Bool :=
  disposition matches .pending | .leaseAcquired | .assignmentDispatching

/-- The lease that the kernel granted on a node; `none` for a lease that cannot be decoded. -/
def grantedLease : Exchange (Query P) Query.Answer → Option (NodeRef × Lease)
  | ⟨.acquireLeaseOnRoute _ acquisition, .ok lease⟩
  | ⟨.acquireLeaseOnHostRoute _ acquisition, .ok lease⟩ =>
    (Fabric.semanticLeaseFromProto lease).toOption.map (acquisition.node, ·)
  | _ => none

/-- The kernel granted a lease. -/
def grants : Exchange (Query P) Query.Answer → Bool
  | ⟨.acquireLeaseOnRoute .., answer⟩ | ⟨.acquireLeaseOnHostRoute .., answer⟩ => answer.isOk
  | _ => false

/-- The kernel confirmed a release. -/
def confirmsRelease : Exchange (Query P) Query.Answer → Bool
  | ⟨.releaseLeaseOnRoute .., answer⟩ | ⟨.releaseLease .., answer⟩ => answer.isOk
  | _ => false

section Reports

variable (request : ExecutionDispatchRequest L P)

/-- The stored intent is completed and names the lease of the receipt. -/
def Completed (receipt : DispatchReceipt P) (store : FileExecutionIntentStore) : Prop :=
  ∃ record, store.load request.assignment.assignmentId = some record ∧
    record.disposition = .completed ∧ record.matchesAuthority receipt.node receipt.lease

variable (log : ControlLog P) (store : FileExecutionIntentStore)

/-- No lease of the dispatch is held, and no intent is in an open phase. -/
def Closed : Prop :=
  (log.any grants → log.any confirmsRelease) ∧
    ∀ record, store.load request.assignment.assignmentId = some record →
      ¬ record.disposition.isOpen

/-- The stored intent is one that reconciliation takes up, with the lease of the dispatch if it is
known. -/
def Reconcilable : Prop :=
  ∃ record, store.load request.assignment.assignmentId = some record ∧
    record.payloadDigest = request.intentPayloadDigest ∧
    record.disposition = .unknownRequiresReconciliation ∧
    ∀ exchange ∈ log, ∀ granted, grantedLease exchange = some granted →
      record.matchesAuthority granted.1 granted.2

/-- The report of a dispatch agrees with the stored intent. -/
def Classified (result : Except DispatchError (DispatchReceipt P))
    (store : FileExecutionIntentStore) : Prop :=
  match result with
  | .ok receipt => Completed request receipt store
  | .error error =>
    if error.reconciliationRequired then Reconcilable request log store
    else Closed request log store

end Reports

/-- The answers of the store that keep the intent in step with the report.  A new intent is not
stored when this failed.  The transition to an unknown outcome is stored, and those to a final
outcome are stored and reported as such.  A transition on the way is stored, or it is not stored and
the lease cannot be released. -/
def storedAsReported (released : Bool) : Exchange (Query P) Query.Answer → Bool
  | ⟨.create _, .error failure⟩ => !failure.committed
  | ⟨.transition _ .unknownRequiresReconciliation _, .error failure⟩ => failure.committed
  | ⟨.transition _ .failed _, answer⟩ | ⟨.transition _ .completed _, answer⟩ => answer.isOk
  | ⟨.transition _ .leaseAcquired _, .error failure⟩
  | ⟨.transition _ .assignmentDispatching _, .error failure⟩ => !failure.committed && !released
  | _ => true

/-- All answers of the store keep the intent in step. -/
def Reported (log : ControlLog P) : Prop :=
  log.all (storedAsReported (log.any confirmsRelease)) = true

/-! ### Errors of the checks -/

/-- A check whose errors do not ask for reconciliation. -/
def Final {α : Type} (check : Except DispatchError α) : Prop :=
  ∀ error, check = .error error → error.reconciliationRequired = false

section Final

variable {α β : Type}

theorem final_ok (a : α) : Final (.ok a) := nofun

theorem Final.bind {check : Except DispatchError α} {f : α → Except DispatchError β}
    (h : Final check) (hf : ∀ a, Final (f a)) : Final (check >>= f) := by
  cases check with
  | ok a => exact hf a
  | error error => exact fun error' heq => h error' (congrArg Except.error (Except.error.inj heq))

theorem final_failIf {condition : Prop} [Decidable condition] {error : DispatchError}
    (h : error.reconciliationRequired = false) : Final (failIf condition error) := by
  intro error' heq
  by_cases hcondition : condition
  · rw [failIf, if_pos hcondition] at heq
    exact Except.error.inj heq ▸ h
  · rw [failIf, if_neg hcondition] at heq
    exact nomatch heq

theorem final_foundOr {value : Option α} {error : DispatchError}
    (h : error.reconciliationRequired = false) : Final (foundOr value error) := by
  cases value with
  | none => exact fun error' heq => Except.error.inj heq ▸ h
  | some a => exact final_ok a

theorem final_mapError {ε : Type} (check : Except ε α) {f : ε → DispatchError}
    (h : ∀ error, (f error).reconciliationRequired = false) : Final (check.mapError f) := by
  cases check with
  | ok a => exact final_ok a
  | error error => exact fun error' heq => Except.error.inj heq ▸ h error

theorem final_validateContext (context : AuthorityCallContext) : Final (validateContext context) :=
  (final_failIf rfl).bind fun _ => final_mapError _ fun _ => rfl

theorem final_validateRequest (request : ExecutionDispatchRequest L P) (nowUnixMs : Nat) :
    Final (validateRequest request nowUnixMs) := by
  refine (final_failIf rfl).bind fun _ => (final_validateContext _).bind fun _ =>
    (final_validateContext _).bind fun _ => (final_failIf rfl).bind fun _ =>
    (final_failIf rfl).bind fun _ => (final_failIf rfl).bind fun _ =>
    (final_foundOr rfl).bind fun _ => final_failIf rfl

theorem final_validateWorkloadScope (assignment : RuntimeAssignmentBuilder P)
    (session : RuntimeSessionView) : Final (validateWorkloadScope assignment session) :=
  (final_foundOr rfl).bind fun _ => (final_failIf rfl).bind fun _ =>
    (final_foundOr rfl).bind fun _ => final_failIf rfl

theorem final_admitRequest (fabric : FabricPorts L T P) (request : ExecutionDispatchRequest L P)
    (nowUnixMs : Nat) : Final (admitRequest fabric request nowUnixMs) :=
  (final_validateRequest _ _).bind fun _ => (final_mapError _ fun _ => rfl).bind fun _ =>
    (final_mapError _ fun _ => rfl).bind fun _ => (final_mapError _ fun _ => rfl).bind fun _ =>
    final_ok _

theorem final_bindLease (fabric : FabricPorts L T P) (request : ExecutionDispatchRequest L P)
    (targetNode : NodeRef) (lease : Lease) (assignmentTime : Nat) :
    Final (bindLease fabric request targetNode lease assignmentTime) :=
  (final_mapError _ fun _ => rfl).bind fun _ => (final_failIf rfl).bind fun _ =>
    (final_mapError _ fun _ => rfl).bind fun _ => final_mapError _ fun _ => rfl

end Final

/-! ### With a lease -/

section KnownLease

variable {request : ExecutionDispatchRequest L P} {node : NodeRef} {lease : Lease}
  {store store' : FileExecutionIntentStore} {stored intent record : ExecutionIntentRecord}
  {log log' : ControlLog P} {result : Except DispatchError (DispatchReceipt P)}

/-- The store holds this intent for the assignment of the request. -/
structure Tracks (request : ExecutionDispatchRequest L P) (store : FileExecutionIntentStore)
    (record : ExecutionIntentRecord) : Prop where
  load : store.load request.assignment.assignmentId = some record
  assignmentId : record.assignmentId = request.assignment.assignmentId
  payloadDigest : record.payloadDigest = request.intentPayloadDigest

/-- The evidence of the intent is this lease on this node. -/
def Names (record : ExecutionIntentRecord) (node : NodeRef) (lease : Lease) : Prop :=
  record.authorityEvidence = some (.fromAuthority node lease)

theorem Names.matchesAuthority (h : Names record node lease) :
    record.matchesAuthority node lease = true := by
  rw [ExecutionIntentRecord.matchesAuthority, h]
  simp [AuthorityEvidence.matches, AuthorityEvidence.fromAuthority]

/-- The intent of the request is in an open phase and names the lease. -/
structure Underway (request : ExecutionDispatchRequest L P) (node : NodeRef) (lease : Lease)
    (store : FileExecutionIntentStore) (intent : ExecutionIntentRecord) : Prop extends
    Tracks request store intent where
  isOpen : intent.disposition.isOpen
  names : Names intent node lease

variable {disposition : IntentDisposition} {authority : Option (NodeRef × Lease)}
  {route : HostRouteSnapshot} {original : DispatchError} {outcome : PersistOutcome} {now : Nat}
  {answer : Except PersistFailure ExecutionIntentRecord}

theorem Moved.names (h : Moved intent disposition authority record)
    (hnames : Names intent node lease) : Names record node lease := by
  rw [Names, h.evidence, hnames]
  rfl

theorem Tracks.eq_of_load (h : Tracks request store stored)
    (hload : store.load request.assignment.assignmentId = some record) : stored = record :=
  Option.mem_unique h.load hload

/-- What a transition does to the intent of a request. -/
theorem Tracks.transition (hstored : Tracks request store stored)
    (hid : intent.assignmentId = request.assignment.assignmentId)
    (hdigest : intent.payloadDigest = request.intentPayloadDigest)
    (h : store.transitionIntent outcome now intent disposition authority = (answer, store')) :
    (∃ next, stored.revision = intent.revision ∧ Tracks request store' next ∧
      Moved intent disposition authority next ∧
      (answer = .ok next ∨ ∃ failure, answer = .error failure ∧ failure.committed = true)) ∨
    ∃ failure, answer = .error failure ∧ failure.committed = false ∧
      Tracks request store' stored := by
  rcases load_transitionIntent h (hid ▸ hstored.load) (hstored.assignmentId.trans hid.symm) with
    ⟨next, hrevision, hload, hmoved, hanswer⟩ | ⟨failure, hanswer, hcommitted, hload⟩
  · refine .inl ⟨next, hrevision, ⟨hid ▸ hload, ?_, ?_⟩, hmoved, hanswer⟩
    · rw [hmoved.assignmentId, hid]
    · rw [hmoved.payloadDigest, hdigest]
  · exact .inr ⟨failure, hanswer, hcommitted, hid ▸ hload, hstored.assignmentId,
      hstored.payloadDigest⟩

section

variable (request : ExecutionDispatchRequest L P) (node : NodeRef) (lease : Lease)

/-- The intent is left to reconciliation, with the lease. -/
def LeftUnknown (store : FileExecutionIntentStore) : Prop :=
  ∃ record, store.load request.assignment.assignmentId = some record ∧
    record.payloadDigest = request.intentPayloadDigest ∧
    record.disposition = .unknownRequiresReconciliation ∧ record.matchesAuthority node lease

/-- The report of the rest of a dispatch that got a lease agrees with the stored intent. -/
def SoundWith (log : ControlLog P) (result : Except DispatchError (DispatchReceipt P))
    (store : FileExecutionIntentStore) : Prop :=
  match result with
  | .ok receipt => Completed request receipt store
  | .error error =>
    if error.reconciliationRequired then LeftUnknown request node lease store
    else log.any confirmsRelease = true ∧
      ∀ record, store.load request.assignment.assignmentId = some record →
        ¬ record.disposition.isOpen

/-- The rest of a dispatch is sound exactly if its answers keep the intent in step. -/
def Agrees (log : ControlLog P) (result : Except DispatchError (DispatchReceipt P))
    (store : FileExecutionIntentStore) : Prop :=
  SoundWith request node lease log result store ↔ Reported log

end

/-- Calls without a bearing on the report. -/
def Neutral (log : ControlLog P) : Prop :=
  log.any confirmsRelease = false ∧ ∀ released, log.all (storedAsReported released) = true

theorem Neutral.append (h : Neutral log) (h' : Neutral log') : Neutral (log ++ log') := by
  refine ⟨?_, fun released => ?_⟩
  · rw [List.any_append, h.1, h'.1, Bool.or_false]
  · rw [List.all_append, h.2, h'.2, Bool.and_true]

theorem Neutral.reported (h : Neutral log) : Reported (log ++ log') ↔ Reported log' := by
  rw [Reported, Reported, List.any_append, h.1, Bool.false_or, List.all_append, h.2, Bool.true_and]

theorem Agrees.append (h : Neutral log) (h' : Agrees request node lease log' result store) :
    Agrees request node lease (log ++ log') result store := by
  have hiff : SoundWith request node lease log' result store ↔ Reported log' := h'
  rw [Agrees, h.reported, ← hiff]
  simp only [SoundWith, List.any_append, h.1, Bool.false_or]

/-- Calls without a bearing on the report, before the rest of a dispatch. -/
theorem yields_neutral_bind {α : Type} {p : ControlProgram P α}
    {k : α → ControlProgram P (Except DispatchError (DispatchReceipt P))}
    (h : Yields Answers p store fun log a store' => store' = store ∧ Neutral log ∧
      Yields Answers (k a) store (Agrees request node lease)) :
    Yields Answers (p >>= k) store (Agrees request node lease) := by
  refine Yields.bind h ?_
  rintro log a _ ⟨rfl, hlog, hrest⟩
  exact Yields.mono hrest fun _ _ _ hagrees => hagrees.append hlog

theorem leftUnknown_of_moved (htracks : Tracks request store record)
    (hmoved : Moved intent disposition authority record)
    (hunknown : disposition = .unknownRequiresReconciliation) (hnames : Names record node lease) :
    LeftUnknown request node lease store :=
  ⟨record, htracks.load, htracks.payloadDigest, hmoved.disposition.trans hunknown,
    hnames.matchesAuthority⟩

theorem not_leftUnknown (htracks : Tracks request store record)
    (hne : record.disposition ≠ .unknownRequiresReconciliation) :
    ¬ LeftUnknown request node lease store := by
  rintro ⟨record', hload, -, hunknown, -⟩
  exact hne (htracks.eq_of_load hload ▸ hunknown)

/-- An open intent is not one that reconciliation takes up. -/
theorem ne_unknown_of_isOpen (h : disposition.isOpen) :
    disposition ≠ .unknownRequiresReconciliation := by
  rintro rfl
  exact Bool.false_ne_true h

/-- A transition to an unknown outcome that is reported as unknown. -/
theorem agrees_unknown {error : DispatchError} (herror : error.reconciliationRequired = true)
    (hintent : Underway request node lease store intent)
    (h : store.transitionIntent outcome now intent .unknownRequiresReconciliation authority =
      (answer, store')) :
    Agrees request node lease
      [⟨.transition intent .unknownRequiresReconciliation authority, answer⟩] (.error error)
      store' := by
  rw [Agrees, SoundWith, if_pos herror]
  rcases hintent.transition hintent.assignmentId hintent.payloadDigest h with
    ⟨next, -, hnext, hmoved, hanswer⟩ | ⟨failure, rfl, hcommitted, hkept⟩
  · refine iff_of_true (leftUnknown_of_moved hnext hmoved rfl (hmoved.names hintent.names)) ?_
    rcases hanswer with rfl | ⟨failure, rfl, hcommitted⟩
    · rfl
    · simp [Reported, storedAsReported, hcommitted]
  · refine iff_of_false (not_leftUnknown hkept (ne_unknown_of_isOpen hintent.isOpen)) ?_
    simp [Reported, storedAsReported, hcommitted]

section

variable (hintent : Underway request node lease store intent)

include hintent

theorem yields_leaveUnknown_agrees (message : String) :
    Yields Answers
      (leaveUnknown intent message : ControlProgram P (Except DispatchError (DispatchReceipt P)))
      store (Agrees request node lease) := by
  simp only [leaveUnknown, yields_bind, yields_ask, yields_pure]
  rintro answer store' ⟨outcome, now, h⟩
  exact agrees_unknown rfl hintent h

theorem yields_recordOutcome_agrees {error : DispatchError}
    (herror : error.reconciliationRequired = true) (summary : String) :
    Yields Answers (recordOutcome intent .unknownRequiresReconciliation error summary :
        ControlProgram P (Except DispatchError (DispatchReceipt P)))
      store (Agrees request node lease) := by
  simp only [recordOutcome, yields_bind, yields_ask]
  rintro (failure | next) store' ⟨outcome, now, h⟩
  · exact yields_pure.2 (agrees_unknown rfl hintent h)
  · exact yields_pure.2 (agrees_unknown herror hintent h)

end

/-! ### Rollbacks -/

theorem yields_rollbackRelease_neutral (route : HostRouteSnapshot) (node : NodeRef)
    (request : ExecutionDispatchRequest L P) (lease : Lease) :
    Yields Answers (rollbackRelease route node request lease) store
      fun log result store' => store' = store ∧ log.any confirmsRelease = result.isOk ∧
        ∀ released, log.all (storedAsReported released) = true := by
  simp only [rollbackRelease, yields_bind, yields_ask]
  rintro (error | _) _ rfl
  · dsimp only
    split
    · simp only [yields_bind, yields_ask]
      rintro (retryError | _) _ rfl
      · exact yields_pure.2 ⟨rfl, rfl, fun _ => rfl⟩
      · exact yields_pure.2 ⟨rfl, rfl, fun _ => rfl⟩
    · exact yields_pure.2 ⟨rfl, rfl, fun _ => rfl⟩
  · exact yields_pure.2 ⟨rfl, rfl, fun _ => rfl⟩

/-- The ends of a rollback of `intent`, while the store holds `stored`. -/
inductive RolledBack (request : ExecutionDispatchRequest L P) (node : NodeRef) (lease : Lease)
    (stored intent : ExecutionIntentRecord) (original : DispatchError) (log : ControlLog P) :
    Except DispatchError (DispatchReceipt P) → FileExecutionIntentStore → Prop
  /-- The lease is released, and the intent has failed. -/
  | failed {store : FileExecutionIntentStore} {record : ExecutionIntentRecord}
      (hreleased : log.any confirmsRelease = true)
      (hlog : ∀ released, log.all (storedAsReported released) = true)
      (htracks : Tracks request store record) (hfailed : record.disposition = .failed) :
      RolledBack request node lease stored intent original log (.error original) store
  /-- The lease is not released, and the intent is left to reconciliation. -/
  | unknown {store : FileExecutionIntentStore} {error : DispatchError}
      (hreleased : log.any confirmsRelease = false)
      (hlog : ∀ released, log.all (storedAsReported released) = true)
      (hrevision : stored.revision = intent.revision)
      (herror : error.reconciliationRequired = true)
      (hunknown : LeftUnknown request node lease store) :
      RolledBack request node lease stored intent original log (.error error) store
  /-- The end of the rollback is not recorded, or reported as not recorded. -/
  | unrecorded {store : FileExecutionIntentStore} {error : DispatchError}
      (hlog : ∀ released, log.all (storedAsReported released) = false)
      (herror : error.reconciliationRequired = true)
      (hunknown : ¬ LeftUnknown request node lease store) :
      RolledBack request node lease stored intent original log (.error error) store

theorem yields_rollback (hstored : Tracks request store stored)
    (hopen : stored.disposition.isOpen)
    (hid : intent.assignmentId = request.assignment.assignmentId)
    (hdigest : intent.payloadDigest = request.intentPayloadDigest)
    (hevidence : intent.authorityEvidence = none ∨ Names intent node lease) :
    Yields Answers (rollbackAfterKnownLease route node request intent lease original) store
      (RolledBack request node lease stored intent original) := by
  refine Yields.bind (yields_rollbackRelease_neutral route node request lease) ?_
  rintro log (releaseError | _) _ ⟨rfl, hreleased, hlog⟩
  · -- The release failed.
    simp only [yields_bind, yields_ask]
    rintro answer store' ⟨outcome, now, h⟩
    rcases hstored.transition hid hdigest h with
      ⟨next, hrevision, hnext, hmoved, hanswer⟩ | ⟨failure, rfl, hcommitted, hkept⟩
    · have hnames : Names next node lease := by
        rcases hevidence with hnone | hnames
        · rw [Names, hmoved.evidence, hnone]
          rfl
        · exact hmoved.names hnames
      have hunknown := leftUnknown_of_moved hnext hmoved rfl hnames
      rcases hanswer with rfl | ⟨failure, rfl, hcommitted⟩
      · refine yields_pure.2 (.unknown ?_ (fun released => ?_) hrevision rfl hunknown)
        · simp [hreleased, confirmsRelease, Except.isOk, Except.toBool]
        · simp [hlog, storedAsReported]
      · refine yields_pure.2 (.unknown ?_ (fun released => ?_) hrevision rfl hunknown)
        · simp [hreleased, confirmsRelease, Except.isOk, Except.toBool]
        · simp [hlog, storedAsReported, hcommitted]
    · refine yields_pure.2 (.unrecorded (fun released => ?_) rfl
        (not_leftUnknown hkept (ne_unknown_of_isOpen hopen)))
      simp [storedAsReported, hcommitted]
  · -- The lease is released.
    simp only [yields_bind, yields_ask]
    rintro answer store' ⟨outcome, now, h⟩
    rcases hstored.transition hid hdigest h with
      ⟨next, hrevision, hnext, hmoved, hanswer⟩ | ⟨failure, rfl, hcommitted, hkept⟩
    · rcases hanswer with rfl | ⟨failure, rfl, hcommitted⟩
      · refine yields_pure.2 (.failed ?_ (fun released => ?_) hnext hmoved.disposition)
        · simp [hreleased, Except.isOk, Except.toBool]
        · simp [hlog, storedAsReported, Except.isOk, Except.toBool]
      · refine yields_pure.2 (.unrecorded (fun released => ?_) rfl (not_leftUnknown hnext ?_))
        · simp [storedAsReported, Except.isOk, Except.toBool]
        · rw [hmoved.disposition]
          decide
    · refine yields_pure.2 (.unrecorded (fun released => ?_) rfl
        (not_leftUnknown hkept (ne_unknown_of_isOpen hopen)))
      simp [storedAsReported, Except.isOk, Except.toBool]

section

variable (h : RolledBack request node lease stored intent original log result store)

include h

/-- A rollback after an error that is final. -/
theorem RolledBack.agrees (horiginal : original.reconciliationRequired = false) :
    Agrees request node lease log result store := by
  cases h with
  | failed hreleased hlog htracks hfailed =>
    refine iff_of_true ?_ (hlog _)
    rw [SoundWith, if_neg (by simp [horiginal])]
    refine ⟨hreleased, fun record hload => ?_⟩
    obtain rfl := Option.mem_unique htracks.load hload
    rw [hfailed]
    exact Bool.false_ne_true
  | unknown hreleased hlog hrevision herror hunknown =>
    refine iff_of_true ?_ (hlog _)
    rwa [SoundWith, if_pos herror]
  | unrecorded hlog herror hunknown =>
    refine iff_of_false ?_ ?_
    · rwa [SoundWith, if_pos herror]
    · rw [Reported, hlog]
      exact Bool.false_ne_true

/-- A rollback because a transition on the way failed. -/
theorem RolledBack.agrees_of_failure (horiginal : original.reconciliationRequired = true)
    {exchange : Exchange (Query P) Query.Answer} {committed : Bool}
    (hrelease : confirmsRelease exchange = false)
    (hexchange : ∀ released, storedAsReported released exchange = (!committed && !released))
    (hcommitted : committed = true → stored.revision ≠ intent.revision) :
    Agrees request node lease (exchange :: log) result store := by
  have hreported : Reported (exchange :: log) ↔
      (!committed && !log.any confirmsRelease) = true ∧
        log.all (storedAsReported (log.any confirmsRelease)) = true := by
    rw [Reported, List.any_cons, hrelease, Bool.false_or, List.all_cons, hexchange,
      Bool.and_eq_true_iff]
  rw [Agrees, hreported]
  cases h with
  | failed hreleased hlog htracks hfailed =>
    refine iff_of_false ?_ ?_
    · rw [SoundWith, if_pos horiginal]
      exact not_leftUnknown htracks (by simp [hfailed])
    · simp [hreleased]
  | unknown hreleased hlog hrevision herror hunknown =>
    have huncommitted : committed = false :=
      Bool.eq_false_iff.2 fun htrue => hcommitted htrue hrevision
    refine iff_of_true ?_ ⟨by simp [hreleased, huncommitted], hlog _⟩
    rwa [SoundWith, if_pos herror]
  | unrecorded hlog herror hunknown =>
    refine iff_of_false ?_ ?_
    · rwa [SoundWith, if_pos herror]
    · simp [hlog]

end

theorem yields_rollback_agrees (horiginal : original.reconciliationRequired = false)
    (hintent : Underway request node lease store intent) :
    Yields Answers (rollbackAfterKnownLease route node request intent lease original) store
      (Agrees request node lease) :=
  Yields.mono (yields_rollback hintent.toTracks hintent.isOpen hintent.assignmentId
    hintent.payloadDigest (.inr hintent.names)) fun _ _ _ h => h.agrees horiginal

/-- A transition on the way, to a disposition that is open: the rest goes on with the new intent, or
the lease is rolled back. -/
theorem yields_move {k : Except PersistFailure ExecutionIntentRecord →
      ControlProgram P (Except DispatchError (DispatchReceipt P))}
    (hfailed : ∀ failure, k (.error failure) =
      rollbackAfterKnownLease route node request intent lease (storeError failure.error true))
    (htracks : Tracks request store intent) (hopen : intent.disposition.isOpen)
    (hevidence : intent.authorityEvidence = none ∧ authority = some (node, lease) ∨
      Names intent node lease)
    (hdisposition : disposition = .leaseAcquired ∨ disposition = .assignmentDispatching)
    (hnext : ∀ {store' intent'}, Underway request node lease store' intent' →
      Yields Answers (k (.ok intent')) store' (Agrees request node lease)) :
    Yields Answers (ask (Query.transition intent disposition authority) >>= k) store
      (Agrees request node lease) := by
  simp only [yields_bind, yields_ask]
  rintro answer store' ⟨outcome, now, h⟩
  have hrollback {failure : PersistFailure} {stored : ExecutionIntentRecord}
      (hstored : Tracks request store' stored) (hopen' : stored.disposition.isOpen)
      (hcommitted : failure.committed = true → stored.revision ≠ intent.revision) :
      Yields Answers (k (.error failure)) store' fun log =>
        Agrees request node lease (⟨.transition intent disposition authority,
          (.error failure : Except PersistFailure ExecutionIntentRecord)⟩ :: log) := by
    rw [hfailed]
    refine Yields.mono (yields_rollback hstored hopen' htracks.assignmentId htracks.payloadDigest
      (hevidence.imp_left And.left)) fun log result store'' hrolled => ?_
    refine hrolled.agrees_of_failure rfl rfl (fun released => ?_) hcommitted
    rcases hdisposition with rfl | rfl <;> rfl
  rcases htracks.transition htracks.assignmentId htracks.payloadDigest h with
    ⟨intent', -, hmovedTracks, hmoved, rfl | ⟨failure, rfl, hcommitted⟩⟩ |
    ⟨failure, rfl, hcommitted, hkept⟩
  · have hopen' : intent'.disposition.isOpen := by
      rw [hmoved.disposition]
      rcases hdisposition with rfl | rfl <;> rfl
    have hnames : Names intent' node lease := by
      rcases hevidence with ⟨hnone, rfl⟩ | hnames
      · rw [Names, hmoved.evidence, hnone]
        rfl
      · exact hmoved.names hnames
    refine Yields.mono (hnext ⟨hmovedTracks, hopen', hnames⟩) fun log _ _ hagrees =>
      Agrees.append ⟨rfl, fun _ => ?_⟩ hagrees
    rcases hdisposition with rfl | rfl <;> rfl
  · refine hrollback hmovedTracks ?_ fun _ => ?_
    · rw [hmoved.disposition]
      rcases hdisposition with rfl | rfl <;> rfl
    · rw [hmoved.revision]
      exact Nat.succ_ne_self _
  · exact hrollback hkept hopen fun htrue => absurd htrue (by simp [hcommitted])

/-! ### The rest of a dispatch -/

/-- The transition to the final outcome of a dispatch. -/
theorem yields_complete {receipt : DispatchReceipt P}
    {k : Except PersistFailure ExecutionIntentRecord →
      ControlProgram P (Except DispatchError (DispatchReceipt P))}
    (hok : ∀ next, k (.ok next) = pure (.ok receipt))
    (hfailed : ∀ failure, k (.error failure) = pure (.error (storeError failure.error true)))
    (hnode : receipt.node = node) (hlease : receipt.lease = lease)
    (hintent : Underway request node lease store intent) :
    Yields Answers (ask (Query.transition intent .completed none) >>= k)
      store (Agrees request node lease) := by
  subst hnode hlease
  simp only [yields_bind, yields_ask]
  rintro answer store' ⟨outcome, now, h⟩
  rcases hintent.transition hintent.assignmentId hintent.payloadDigest h with
    ⟨next, -, hnext, hmoved, rfl | ⟨failure, rfl, hcommitted⟩⟩ | ⟨failure, rfl, hcommitted, hkept⟩
  · have hnames' := hmoved.names hintent.names
    rw [hok, yields_pure]
    exact iff_of_true ⟨next, hnext.load, hmoved.disposition, hnames'.matchesAuthority⟩ rfl
  · rw [hfailed, yields_pure]
    exact iff_of_false (not_leftUnknown hnext (by simp [hmoved.disposition])) Bool.false_ne_true
  · rw [hfailed, yields_pure]
    exact iff_of_false (not_leftUnknown hkept (ne_unknown_of_isOpen hintent.isOpen))
      Bool.false_ne_true

theorem yields_deliverAssignment_agrees (hostRoute : HostRouteSnapshot) (route : RouteSnapshot)
    (assignment : RuntimeAssignment P) (hintent : Underway request node lease store intent) :
    Yields Answers (deliverAssignment hostRoute route node request intent lease assignment) store
      (Agrees request node lease) := by
  refine yields_move (fun _ => rfl) hintent.toTracks hintent.isOpen (.inr hintent.names) (.inr rfl)
    fun hintent => ?_
  refine yields_neutral_bind (yields_ask.2 fun answer _ h => ⟨h, ⟨rfl, fun _ => rfl⟩, ?_⟩)
  cases answer with
  | error error =>
    dsimp only
    split
    · exact yields_recordOutcome_agrees hintent rfl _
    · next hcertain =>
      exact yields_rollback_agrees (Bool.eq_false_iff.2 hcertain) hintent
  | ok ack =>
    dsimp only
    split
    · exact yields_leaveUnknown_agrees hintent _
    · split
      · exact yields_complete (fun _ => rfl) (fun _ => rfl) rfl rfl hintent
      · exact yields_rollback_agrees rfl hintent

theorem yields_awaitRoute_neutral (node : NodeRef) (runtime : Identity) (polls : Nat) :
    Yields Answers (awaitRoute node runtime polls : ControlProgram P _)
      store fun log _ store' => store' = store ∧ Neutral log := by
  induction polls with
  | zero =>
    simp only [awaitRoute, yields_bind, yields_ask]
    rintro (refusal | route) _ rfl
    · exact yields_pure.2 ⟨rfl, rfl, fun _ => rfl⟩
    · exact yields_pure.2 ⟨rfl, rfl, fun _ => rfl⟩
  | succ polls ih =>
    simp only [awaitRoute, yields_bind, yields_ask]
    rintro (refusal | route) _ rfl
    · dsimp only
      split
      · refine Yields.mono ih fun log _ _ h => ⟨h.1, Neutral.append ?_ h.2⟩
        exact ⟨rfl, fun _ => rfl⟩
      · exact yields_pure.2 ⟨rfl, rfl, fun _ => rfl⟩
    · exact yields_pure.2 ⟨rfl, rfl, fun _ => rfl⟩

theorem yields_checkSession_neutral (assignment : RuntimeAssignmentBuilder P)
    (route : RouteSnapshot) :
    Yields Answers (checkSession assignment route) store
      fun log result store' => store' = store ∧ Neutral log ∧ Final result := by
  simp only [checkSession, yields_bind, yields_ask]
  rintro (refusal | session) _ rfl
  · refine yields_pure.2 ⟨rfl, ⟨rfl, fun _ => rfl⟩, ?_⟩
    rintro _ ⟨⟩
    rfl
  · exact yields_pure.2 ⟨rfl, ⟨rfl, fun _ => rfl⟩,
      final_validateWorkloadScope assignment session⟩

theorem yields_launchAndDeliver_agrees (polls : Nat) (hostRoute : HostRouteSnapshot)
    (assignment : RuntimeAssignment P) (hintent : Underway request node lease store intent) :
    Yields Answers (launchAndDeliver polls hostRoute node request intent lease assignment) store
      (Agrees request node lease) := by
  refine yields_neutral_bind (yields_ask.2 fun answer _ h => ⟨h, ⟨rfl, fun _ => rfl⟩, ?_⟩)
  cases answer with
  | error error =>
    dsimp only
    split
    · exact yields_leaveUnknown_agrees hintent _
    · next hcertain =>
      exact yields_rollback_agrees (Bool.eq_false_iff.2 hcertain) hintent
  | ok launched =>
    refine yields_neutral_bind (Yields.mono
      (yields_awaitRoute_neutral node request.assignment.runtime polls)
      fun log route _ h => ⟨h.1, h.2, ?_⟩)
    cases route with
    | none => exact yields_leaveUnknown_agrees hintent _
    | some route =>
      refine yields_neutral_bind (Yields.mono (yields_checkSession_neutral request.assignment route)
        fun log' checked _ h => ⟨h.1, h.2.1, ?_⟩)
      cases checked with
      | error error => exact yields_rollback_agrees (h.2.2 error rfl) hintent
      | ok _ => exact yields_deliverAssignment_agrees hostRoute route assignment hintent

theorem yields_useLease_agrees (fabric : FabricPorts L T P) (polls : Nat)
    (initialRoute : Option RouteSnapshot) (hostRoute : HostRouteSnapshot)
    (htracks : Tracks request store intent) (hpending : intent.disposition = .pending)
    (hevidence : intent.authorityEvidence = none) :
    Yields Answers (useLease fabric polls initialRoute hostRoute node request intent lease) store
      (Agrees request node lease) := by
  refine yields_move (fun _ => rfl) htracks (by rw [hpending]; rfl) (.inl ⟨hevidence, rfl⟩)
    (.inl rfl) fun hintent => ?_
  dsimp only
  split
  · exact yields_rollback_agrees rfl hintent
  · refine yields_neutral_bind (yields_ask.2 fun assignmentTime _ h => ⟨h, ⟨rfl, fun _ => rfl⟩, ?_⟩)
    split
    · next error hbind =>
      exact yields_rollback_agrees (final_bindLease _ _ _ _ _ _ hbind) hintent
    · next assignment _ =>
      cases initialRoute with
      | none => exact yields_launchAndDeliver_agrees polls hostRoute assignment hintent
      | some route =>
        exact yields_deliverAssignment_agrees hostRoute route assignment hintent

end KnownLease

end CyreneKernel.Control
