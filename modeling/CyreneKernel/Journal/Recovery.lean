import Mathlib.Tactic.MkIffOfInductiveProp
import CyreneKernel.Journal.Model

/-!
# Journal recovery after a torn write

A crash can cut the journal anywhere in its last record.  Reading tolerates the torn tail, but
the next append continues behind it, so that the tail and the next record become one line with a
newline, which no reader accepts.  The journal recovers exactly when the cut falls on a record
boundary and the complete records satisfy the checks of the event replay.

## Main definitions

* `Codec.Lawful`: what is assumed of the JSON library.
* `crashed`: the journal of some records, cut in its last record.
* `account`, `history`: what a list of records amounts to.
* `Consistent`: the records satisfy the checks of the event replay.
* `Recovers`: the journal can be reopened, extended and replayed.

## Main results

* `recovers_iff`: the crashed journal recovers if and only if it was cut at a record boundary and
  its records are consistent.
-/

namespace CyreneKernel.Journal

open Lib

/-- What is assumed of the JSON library: the text of a record is one line that decodes to the
record, and no non-empty beginning of one record followed by another record decodes. -/
structure Codec.Lawful (codec : Codec) : Prop where
  decode_encode : ∀ r, codec.decode (codec.encode r) = .ok r
  rejects_torn : ∀ r r' p, p <+: codec.encode r → p ≠ [] →
    ∀ x, codec.decode (p ++ codec.encode r') ≠ .ok x
  newline_notMem : ∀ r, '\n' ∉ codec.encode r
  carriageReturn_notMem : ∀ r, '\r' ∉ codec.encode r

/-! ### Written and crashed journals -/

/-- Append records one after the other. -/
def appendAll (codec : Codec) : List PersistedRuntimeRecord → File → File
  | [], file => file
  | record :: records, file =>
    appendAll codec records (finalState (appendPersisted codec record file))

/-- The bytes of a journal that was written from scratch. -/
def journalBytes (codec : Codec) (records : List PersistedRuntimeRecord) : List UInt8 :=
  (appendAll codec records none).getD []

/-- The bytes of the last record with its newline. -/
def recordBytes (codec : Codec) (record : PersistedRuntimeRecord) : List UInt8 :=
  utf8 (frame codec.encode record)

/-- The journal of `records` and `last`, of which a crash left `cut` bytes of the last record. -/
def crashed (codec : Codec) (records : List PersistedRuntimeRecord)
    (last : PersistedRuntimeRecord) (cut : Nat) : File :=
  some ((journalBytes codec (records ++ [last])).take ((journalBytes codec records).length + cut))

/-- The records that were completely written, newline included. -/
def completeRecords (codec : Codec) (records : List PersistedRuntimeRecord)
    (last : PersistedRuntimeRecord) (cut : Nat) : List PersistedRuntimeRecord :=
  if (recordBytes codec last).length ≤ cut then records ++ [last] else records

/-! ### What the records amount to -/

/-- The recovery state of a node after the given records. -/
def account (nodeId : String) (records : List PersistedRuntimeRecord) : RecoveryState :=
  (records.foldl (RecoveryProgress.observe nodeId) .start).finish

/-- The events of a source in a namespace among the given records. -/
def history (source : Identity) (ns : String) (records : List PersistedRuntimeRecord) :
    List DurableEventRecord :=
  ((records.filterMap (·.semanticEvent)).map (·.toDurable)).filter fun event =>
    event.ns = ns ∧ event.event.source = source

/-- The sequence a persisted event belongs to. -/
def PersistedSemanticEvent.key (event : PersistedSemanticEvent) : SequenceKey :=
  ⟨event.ns, event.sourceId, event.sourceGeneration⟩

/-- A record carries an event exactly if it says so, and the event is valid and its own. -/
def RecordConsistent (record : PersistedRuntimeRecord) : Prop :=
  match record.semanticEvent with
  | none => record.event ≠ "SEMANTIC_EVENT"
  | some event =>
    record.event = "SEMANTIC_EVENT" ∧ isNamespace event.ns = true ∧
      event.toDurable.event.validate = .ok () ∧
      event.sourceId = record.nodeId ∧ event.sourceGeneration = record.nodeEpoch

/-- Every record is consistent, and the events of each sequence are strictly ordered. -/
@[mk_iff] structure Consistent (records : List PersistedRuntimeRecord) : Prop where
  record : ∀ r ∈ records, RecordConsistent r
  ordered : (records.filterMap (·.semanticEvent)).Pairwise fun e e' =>
    e.key = e'.key → e.sequence < e'.sequence

/-- The journal can be reopened, and after any beginning of `more` was appended, every replay
succeeds and accounts for the complete records, the new epoch and the appended records. -/
def Recovers (codec : Codec) (now nowAgain : Nat) (nodeId : String) (file : File)
    (complete more : List PersistedRuntimeRecord) : Prop :=
  ∃ recovery file', beginEpoch codec now nowAgain nodeId file = .ok recovery file' ∧
    ∀ pre, pre <+: more →
      let records := complete ++ epochRecord nodeId nowAgain recovery.nodeEpoch :: pre
      let file'' := appendAll codec pre file'
      (∀ node, recover codec node file'' = .ok (account node records) file'') ∧
        ∀ source ns, semanticEventsForSource codec source ns file'' =
          .ok (history source ns records) file''

/-! ### The bytes of a journal -/

section Bytes

variable (codec : Codec)

variable (records : List PersistedRuntimeRecord)

theorem appendAll_some (bytes : List UInt8) :
    appendAll codec records (some bytes) =
      some (bytes ++ utf8 (frames codec.encode records)) := by
  induction records generalizing bytes with
  | nil => simp [appendAll, frames, utf8]
  | cons r records ih =>
    have happend : finalState (appendPersisted codec r (some bytes)) =
        some (bytes ++ utf8 (frame codec.encode r)) := rfl
    rw [appendAll, happend, ih]
    simp [frames]

theorem journalBytes_eq : journalBytes codec records = utf8 (frames codec.encode records) := by
  cases records with
  | nil => rfl
  | cons r records =>
    have happend : finalState (appendPersisted codec r none) =
        some (utf8 (frame codec.encode r)) := rfl
    rw [journalBytes, appendAll, happend, appendAll_some]
    simp [frames]

/-- A crashed journal is the complete earlier records and a beginning of the last one. -/
theorem crashed_eq (last : PersistedRuntimeRecord) (cut : Nat) :
    crashed codec records last cut =
      some (utf8 (frames codec.encode records) ++ (recordBytes codec last).take cut) := by
  have hlast : utf8 (frames codec.encode [last]) = recordBytes codec last := by
    simp [frames, recordBytes]
  rw [crashed, journalBytes_eq, journalBytes_eq, frames_append, utf8_append, hlast,
    List.take_length_add_append]

/-- Cut at a record boundary, a journal consists of its complete records. -/
theorem crashed_of_boundary (last : PersistedRuntimeRecord) {cut : Nat}
    (h : cut = 0 ∨ (recordBytes codec last).length ≤ cut) :
    crashed codec records last cut =
      some (utf8 (frames codec.encode (completeRecords codec records last cut))) := by
  rw [crashed_eq]
  by_cases hfull : (recordBytes codec last).length ≤ cut
  · rw [List.take_of_length_le hfull, completeRecords, if_pos hfull, frames_append, utf8_append]
    simp [frames, recordBytes]
  · obtain rfl := h.resolve_right hfull
    rw [completeRecords, if_neg hfull]
    simp

end Bytes

/-! ### Replaying complete records -/

section Complete

variable {codec : Codec}

/-- The replay loops on the text of complete records. -/
theorem scanLines_frames (hcodec : codec.Lawful) {ε α : Type} (corrupt : String → ε)
    (step : α → PersistedRuntimeRecord → Except ε α) (acc : α)
    (records : List PersistedRuntimeRecord) (terminated : Bool) :
    scanLines codec.decode corrupt step terminated acc (lines (frames codec.encode records)) =
      records.foldlM step acc := by
  have hlines := lines_frames_append hcodec.newline_notMem hcodec.carriageReturn_notMem records []
  have hnil : lines [] = [] := rfl
  rw [List.append_nil, hnil, List.append_nil] at hlines
  rw [hlines, scanLines_map hcodec.decode_encode]

theorem foldlM_ok {ε α β : Type} (f : α → β → α) (acc : α) (l : List β) :
    l.foldlM (fun a b => (.ok (f a b) : Except ε α)) acc = .ok (l.foldl f acc) := by
  induction l generalizing acc with
  | nil => rfl
  | cons b l ih => exact ih (f acc b)

/-- What an interrupted append may leave at the end of the file: a line that does not decode. -/
def Torn (codec : Codec) (tail : List Char) : Prop :=
  tail = [] ∨ ('\n' ∉ tail ∧ ∀ r, codec.decode tail ≠ .ok r)

variable {tail : List Char} (source : Identity) (ns : String) (progress : ReplayProgress)
  (record : PersistedRuntimeRecord) (records : List PersistedRuntimeRecord)

section

variable (hcodec : codec.Lawful)

include hcodec

/-- The replay loops skip a torn tail. -/
theorem scanLines_torn (htail : Torn codec tail) {ε α : Type} (corrupt : String → ε)
    (step : α → PersistedRuntimeRecord → Except ε α) (acc : α)
    (records : List PersistedRuntimeRecord) :
    scanLines codec.decode corrupt step
        (endsWithNewline (frames codec.encode records ++ tail)) acc
        (lines (frames codec.encode records ++ tail)) = records.foldlM step acc := by
  by_cases hne : tail = []
  · rw [hne, List.append_nil, scanLines_frames hcodec]
  · obtain ⟨hn, hdecode⟩ := htail.resolve_left hne
    have hends : endsWithNewline (frames codec.encode records ++ tail) = false := by
      rw [endsWithNewline, beq_eq_false_iff_ne, List.getLast?_append_of_ne_nil _ hne]
      exact fun hlast => hn (List.mem_of_getLast? hlast)
    rw [hends, lines_frames_append hcodec.newline_notMem hcodec.carriageReturn_notMem,
      lines_of_notMem hn hne, scanLines_map_torn hcodec.decode_encode hdecode]

/-- Recovery accounts for the complete records, and for nothing else. -/
theorem recover_torn (htail : Torn codec tail) (nodeId : String)
    (records : List PersistedRuntimeRecord) :
    recover codec nodeId (some (utf8 (frames codec.encode records ++ tail))) =
      .ok (account nodeId records) (some (utf8 (frames codec.encode records ++ tail))) := by
  rw [eq_ok_iff_ensures]
  simp only [recover, ensures_bind, ensures_get, ensures_okOr, ensures_liftExcept, ensures_pure,
    readToString_utf8, reduceCtorEq, false_imp_iff, Option.some.injEq, forall_eq',
    scanLines_torn hcodec htail, foldlM_ok, Except.ok.injEq, implies_true, account, and_self]

/-- Recovery of complete records accounts for all of them. -/
theorem recover_frames (nodeId : String) (records : List PersistedRuntimeRecord) :
    recover codec nodeId (some (utf8 (frames codec.encode records))) =
      .ok (account nodeId records) (some (utf8 (frames codec.encode records))) := by
  have h := recover_torn hcodec (.inl rfl) nodeId records
  rwa [List.append_nil] at h

/-- The state with which the kernel starts after the given records. -/
def started (now : Nat) (nodeId : String) (records : List PersistedRuntimeRecord) : RecoveryState :=
  { account nodeId records with
    nodeEpoch := max now (saturatingAdd (account nodeId records).nodeEpoch 1) }

/-- Reopening a journal appends the new epoch behind whatever is there. -/
theorem beginEpoch_torn (htail : Torn codec tail) (now nowAgain : Nat) (nodeId : String)
    (records : List PersistedRuntimeRecord) :
    beginEpoch codec now nowAgain nodeId (some (utf8 (frames codec.encode records ++ tail))) =
      .ok (started now nodeId records) (some (utf8 (frames codec.encode records ++ tail ++
        frame codec.encode
          (epochRecord nodeId nowAgain (started now nodeId records).nodeEpoch)))) := by
  rw [eq_ok_iff_ensures]
  have hrecover := recover_torn hcodec htail nodeId records
  rw [eq_ok_iff_ensures] at hrecover
  refine hrecover.bind ?_
  rintro recovery file ⟨rfl, rfl⟩
  simp [appendPersisted, started]

/-- Reopening a journal of complete records appends the new epoch to it. -/
theorem beginEpoch_frames (now nowAgain : Nat) (nodeId : String)
    (records : List PersistedRuntimeRecord) :
    beginEpoch codec now nowAgain nodeId (some (utf8 (frames codec.encode records))) =
      .ok (started now nodeId records) (some (utf8 (frames codec.encode
        (records ++ [epochRecord nodeId nowAgain (started now nodeId records).nodeEpoch])))) := by
  have h := beginEpoch_torn hcodec (.inl rfl) now nowAgain nodeId records
  rw [List.append_nil] at h
  rw [h]
  simp [frames]

end

/-! ### Replaying events -/

theorem checkEvent_eq_ok_iff (event : DurableEventRecord) :
    checkEvent record event = .ok () ↔ isNamespace event.ns = true ∧
      event.event.validate = .ok () ∧ event.event.source.id = record.nodeId ∧
      event.event.source.generation = record.nodeEpoch := by
  unfold checkEvent NamespaceId.new
  by_cases hns : isNamespace event.ns = true
  · cases hvalid : event.event.validate with
    | error e => simp [hns, except_bind_eq_ok, except_throw_eq_ok]
    | ok u =>
      by_cases hsource : event.event.source.id ≠ record.nodeId ∨
          event.event.source.generation ≠ record.nodeEpoch
      · simp only [hns, hsource, dite_true, if_true, except_throw_eq_ok]
        tauto
      · simp only [hns, hsource, dite_true, if_false, except_pure_eq_ok]
        tauto
  · simp [hns, except_bind_eq_ok, except_throw_eq_ok]

/-- The replay variables after a record. -/
def ReplayProgress.after : ReplayProgress :=
  match record.semanticEvent with
  | none => progress
  | some event =>
    { events :=
        if event.toDurable.ns = ns ∧ event.toDurable.event.source = source then
          progress.events ++ [event.toDurable]
        else progress.events
      previousSequences := progress.previousSequences.insert event.key event.sequence }

/-- The replay accepts a record exactly if it is consistent and its event comes after the previous
one of its sequence. -/
theorem observe_eq_ok_iff (progress' : ReplayProgress) (record : PersistedRuntimeRecord) :
    progress.observe source ns record = .ok progress' ↔
      RecordConsistent record ∧
        (∀ event, record.semanticEvent = some event →
          ∀ previous, progress.previousSequences[event.key]? = some previous →
            previous < event.sequence) ∧
        progress' = progress.after source ns record := by
  unfold ReplayProgress.observe semanticEventOf RecordConsistent ReplayProgress.after
  cases hevent : record.semanticEvent with
  | none =>
    by_cases hname : record.event = "SEMANTIC_EVENT"
    · simp [hname, except_bind_eq_ok]
    · simp only [hname, if_false, except_bind_eq_ok, Except.ok.injEq, exists_eq_left',
        except_pure_eq_ok, reduceCtorEq, false_imp_iff, implies_true, true_and, ne_eq,
        not_false_eq_true]
      exact eq_comm
  | some event =>
    by_cases hname : record.event = "SEMANTIC_EVENT"
    · have hkey : (⟨event.toDurable.ns, event.toDurable.event.source⟩ : SequenceKey) = event.key :=
        rfl
      have hcheck := checkEvent_eq_ok_iff record event.toDurable
      have hlate : (progress.previousSequences[event.key]?.any
          (event.toDurable.event.sequence ≤ ·)) = false ↔
          ∀ previous, progress.previousSequences[event.key]? = some previous →
            previous < event.sequence := by
        simp only [Option.any_eq_false, decide_eq_false_iff_not, Nat.not_le]
        rfl
      simp only [hname, if_true, except_bind_eq_ok, Except.ok.injEq, exists_eq_left', hkey,
        Option.some.injEq, forall_eq']
      rw [← hlate]
      cases hany : progress.previousSequences[event.key]?.any (event.toDurable.event.sequence ≤ ·)
      · simp only [Bool.false_eq_true, if_false, except_pure_eq_ok, true_and, exists_const, hcheck]
        exact and_congr Iff.rfl eq_comm
      · simp only [if_true, except_bind_eq_ok, except_throw_eq_ok, false_and, exists_false,
          and_false, Bool.true_eq_false]
    · simp [hname, except_bind_eq_ok]

theorem after_events :
    (progress.after source ns record).events = progress.events ++ history source ns [record] := by
  unfold ReplayProgress.after history
  cases hevent : record.semanticEvent with
  | none => simp [hevent]
  | some event =>
    by_cases hmatch : event.toDurable.ns = ns ∧ event.toDurable.event.source = source
    · simp [hevent, hmatch]
    · simp [hevent, hmatch]

theorem consistent_cons :
    Consistent (record :: records) ↔ RecordConsistent record ∧ Consistent records ∧
      ∀ event, record.semanticEvent = some event →
        ∀ event' ∈ records.filterMap (·.semanticEvent), event.key = event'.key →
          event.sequence < event'.sequence := by
  simp only [consistent_iff, List.forall_mem_cons, and_assoc]
  cases hevent : record.semanticEvent with
  | none => simp [List.filterMap_cons_none hevent]
  | some event =>
    simp only [List.filterMap_cons_some hevent, List.pairwise_cons, Option.some.injEq, forall_eq']
    tauto

/-- The records come after the last sequences that were replayed. -/
def After : Prop :=
  ∀ event ∈ records.filterMap (·.semanticEvent), ∀ previous,
    progress.previousSequences[event.key]? = some previous → previous < event.sequence

/-- Moving the first record from the records to the replayed ones. -/
theorem after_cons_iff :
    After progress [record] ∧ Consistent records ∧
        After (progress.after source ns record) records ∧ RecordConsistent record ↔
      Consistent (record :: records) ∧ After progress (record :: records) := by
  rw [consistent_cons]
  unfold After ReplayProgress.after
  cases hevent : record.semanticEvent with
  | none =>
    simp only [List.filterMap_cons_none hevent, List.filterMap_nil, List.not_mem_nil]
    tauto
  | some event =>
    simp only [List.filterMap_cons_some hevent, List.filterMap_nil, List.mem_cons,
      forall_eq_or_imp, List.not_mem_nil, false_imp_iff, implies_true, and_true,
      Option.some.injEq, forall_eq', BTreeMap.getElem?_insert]
    constructor
    · rintro ⟨hfirst, hcons, hrest, hrecord⟩
      refine ⟨⟨hrecord, hcons, fun event' hmem hkey => ?_⟩, hfirst,
        fun event' hmem previous hprev => ?_⟩
      · exact hrest event' hmem event.sequence (if_pos hkey)
      · by_cases hkey : event.key = event'.key
        · have hlt := hrest event' hmem event.sequence (if_pos hkey)
          have hlt' := hfirst previous (hkey ▸ hprev)
          omega
        · exact hrest event' hmem previous (by rw [if_neg hkey, hprev])
    · rintro ⟨⟨hrecord, hcons, hlater⟩, hfirst, hrest⟩
      refine ⟨hfirst, hcons, fun event' hmem previous hprev => ?_, hrecord⟩
      split_ifs at hprev with hkey
      · obtain rfl := Option.some.inj hprev
        exact hlater event' hmem hkey
      · exact hrest event' hmem previous hprev

/-- Replaying records from given variables: it succeeds exactly if the records are consistent and
come after the previous sequences, and then it adds their history. -/
theorem foldlM_observe_iff (progress : ReplayProgress) (events : List DurableEventRecord) :
    (∃ progress', records.foldlM (ReplayProgress.observe source ns) progress = .ok progress' ∧
        progress'.events = events) ↔
      (Consistent records ∧ After progress records) ∧
        events = progress.events ++ history source ns records := by
  induction records generalizing progress with
  | nil =>
    simp only [List.foldlM_nil, except_pure_eq_ok, exists_eq_left', history, List.filterMap_nil,
      List.map_nil, List.filter_nil, List.append_nil]
    exact ⟨fun h => ⟨⟨⟨by simp, by simp⟩, by simp [After]⟩, h.symm⟩, fun h => h.2.symm⟩
  | cons record records ih =>
    have hhistory : history source ns (record :: records) =
        history source ns [record] ++ history source ns records := by
      simp only [history, ← List.filter_append, ← List.map_append, ← List.filterMap_append,
        List.singleton_append]
    have hfirst : After progress [record] ↔ ∀ event, record.semanticEvent = some event →
        ∀ previous, progress.previousSequences[event.key]? = some previous →
          previous < event.sequence := by
      simp [After, List.mem_filterMap]
    have hstep : (∃ progress', (record :: records).foldlM (ReplayProgress.observe source ns)
          progress = .ok progress' ∧ progress'.events = events) ↔
        (RecordConsistent record ∧ After progress [record]) ∧
        ∃ progress', records.foldlM (ReplayProgress.observe source ns)
          (progress.after source ns record) = .ok progress' ∧ progress'.events = events := by
      simp only [List.foldlM_cons, except_bind_eq_ok, observe_eq_ok_iff, hfirst, and_assoc,
        exists_and_left, exists_eq_left]
    rw [hstep, ih, after_events, hhistory, List.append_assoc,
      ← after_cons_iff source ns progress record records]
    tauto

/-- The event replay of complete records succeeds exactly if they are consistent, and then
returns their history. -/
theorem semanticEventsForSource_frames_iff (hcodec : codec.Lawful) (source : Identity)
    (ns : String) (records : List PersistedRuntimeRecord) (events : List DurableEventRecord)
    (file : File) (hfile : file = some (utf8 (frames codec.encode records))) :
    semanticEventsForSource codec source ns file = .ok events file ↔
      Consistent records ∧ events = history source ns records := by
  have hstart : After ⟨[], ∅⟩ records := by
    intro event _ previous hprev
    simp at hprev
  have hfold := foldlM_observe_iff source ns records ⟨[], ∅⟩ events
  simp only [hstart, and_true, List.nil_append] at hfold
  rw [← hfold, eq_ok_iff_ensures, hfile]
  simp only [semanticEventsForSource, ensures_bind, ensures_get, ensures_okOr,
    ensures_liftExcept, ensures_pure, readToString_utf8, reduceCtorEq, false_imp_iff, true_and,
    Option.some.injEq, forall_eq', scanLines_frames hcodec, and_true]
  cases records.foldlM (ReplayProgress.observe source ns) ⟨[], ∅⟩ with
  | error e => simp
  | ok progress => simp

theorem Consistent.sublist {records more : List PersistedRuntimeRecord} (h : Consistent more)
    (hsub : records.Sublist more) : Consistent records :=
  ⟨fun r hr => h.record r (hsub.subset hr), h.ordered.sublist (hsub.filterMap _)⟩

/-- The record of a kernel start carries no event. -/
theorem consistent_epochRecord (nodeId : String) (now nodeEpoch : Nat)
    (records more : List PersistedRuntimeRecord) :
    Consistent (records ++ epochRecord nodeId now nodeEpoch :: more) ↔
      Consistent (records ++ more) := by
  have hrecord : RecordConsistent (epochRecord nodeId now nodeEpoch) := by
    simp [RecordConsistent, epochRecord]
  have hevent : (epochRecord nodeId now nodeEpoch).semanticEvent = none := rfl
  simp only [consistent_iff, List.forall_mem_append, List.forall_mem_cons, hrecord, true_and,
    List.filterMap_append, List.filterMap_cons_none hevent]

/-- A journal of complete records recovers exactly if they and the later ones are consistent. -/
theorem recovers_frames_iff (hcodec : codec.Lawful) (now nowAgain : Nat) (nodeId : String)
    (complete more : List PersistedRuntimeRecord) :
    Recovers codec now nowAgain nodeId (some (utf8 (frames codec.encode complete)))
      complete more ↔ Consistent (complete ++ more) := by
  have hbegin := beginEpoch_frames hcodec now nowAgain nodeId complete
  generalize started now nodeId complete = recovery at hbegin
  have hfile : ∀ pre, appendAll codec pre (some (utf8 (frames codec.encode
        (complete ++ [epochRecord nodeId nowAgain recovery.nodeEpoch])))) =
      some (utf8 (frames codec.encode
        (complete ++ epochRecord nodeId nowAgain recovery.nodeEpoch :: pre))) := by
    intro pre
    rw [appendAll_some, ← utf8_append, ← frames_append, List.append_assoc, List.singleton_append]
  constructor
  · rintro ⟨recovery', file', hbegin', hmore⟩
    obtain ⟨rfl, rfl⟩ := EStateM.Result.ok.inj (hbegin.symm.trans hbegin')
    have hevents := (hmore more (List.prefix_refl _)).2 ⟨"", 0⟩ ""
    rw [semanticEventsForSource_frames_iff hcodec _ _ _ _ _ (hfile more),
      consistent_epochRecord] at hevents
    exact hevents.1
  · intro hcons
    refine ⟨recovery, _, hbegin, fun pre hpre => ⟨fun node => ?_, fun source ns => ?_⟩⟩
    · rw [hfile]
      exact recover_frames hcodec node _
    · rw [semanticEventsForSource_frames_iff hcodec _ _ _ _ _ (hfile pre),
        consistent_epochRecord]
      exact ⟨hcons.sublist (hpre.sublist.append_left _), rfl⟩

end Complete

/-! ### Torn records -/

section Torn

variable {codec : Codec}

/-- A cut strictly inside the last record that leaves well-formed text leaves a non-empty
beginning of the record's text. -/
theorem torn_beginning {last : PersistedRuntimeRecord} {cut : Nat} {p : List Char} (hpos : 0 < cut)
    (hcut : cut < (recordBytes codec last).length)
    (hread : readToString ((recordBytes codec last).take cut) = some p) :
    p <+: codec.encode last ∧ p ≠ [] := by
  have hp := utf8_of_readToString hread
  have hlength : (utf8 p).length = cut := by
    rw [hp, List.length_take_of_le (Nat.le_of_lt hcut)]
  have hframe : p <+: codec.encode last ++ ['\n'] := by
    have hsplit : utf8 (codec.encode last ++ ['\n']) =
        utf8 p ++ (recordBytes codec last).drop cut := by
      rw [hp, List.take_append_drop]
      rfl
    exact prefix_of_utf8_append hsplit
  refine ⟨?_, ?_⟩
  · rcases List.prefix_concat_iff.1 hframe with rfl | hbegins
    · exact absurd hlength (Nat.ne_of_gt hcut)
    · exact hbegins
  · rintro rfl
    exact absurd hlength (Nat.ne_of_lt hpos)

/-- The recovery of a journal with a complete line that does not decode fails. -/
theorem recover_corrupt (hcodec : codec.Lawful) (nodeId : String)
    (records : List PersistedRuntimeRecord) {line : List Char} (hn : '\n' ∉ line)
    (hr : '\r' ∉ line) (hline : ∀ r, codec.decode line ≠ .ok r) (state : RecoveryState)
    (file file' : File)
    (hfile : file = some (utf8 (frames codec.encode records ++ (line ++ ['\n'])))) :
    recover codec nodeId file ≠ .ok state file' := by
  have hlines : lines (frames codec.encode records ++ (line ++ ['\n'])) =
      records.map codec.encode ++ [line] := by
    rw [lines_frames_append hcodec.newline_notMem hcodec.carriageReturn_notMem,
      lines_append_newline hn, stripCr_of_notMem hr]
    rfl
  have hends : endsWithNewline (frames codec.encode records ++ (line ++ ['\n'])) = true := by
    simp [endsWithNewline]
  subst hfile
  rw [Ne, eq_ok_iff_ensures]
  simp only [recover, ensures_bind, ensures_get, ensures_okOr, ensures_liftExcept, ensures_pure,
    readToString_utf8, reduceCtorEq, false_imp_iff, true_and, Option.some.injEq, forall_eq',
    hlines, hends]
  rintro ⟨hfails, -⟩
  generalize hscan : scanLines _ _ _ _ _ _ = result at hfails
  cases result with
  | error e => exact hfails e rfl
  | ok progress => exact scanLines_map_corrupt hcodec.decode_encode hline _ _ _ hscan

/-- A successful start read well-formed text and appended the new epoch behind it. -/
theorem of_beginEpoch_eq_ok {now nowAgain : Nat} {nodeId : String} {bytes : List UInt8}
    {recovery : RecoveryState} {file' : File}
    (h : beginEpoch codec now nowAgain nodeId (some bytes) = .ok recovery file') :
    (∃ text, readToString bytes = some text) ∧
      file' = some (bytes ++
        recordBytes codec (epochRecord nodeId nowAgain recovery.nodeEpoch)) := by
  rw [eq_ok_iff_ensures] at h
  cases hread : readToString bytes with
  | none => simp [beginEpoch, recover, hread] at h
  | some text =>
    refine ⟨⟨text, rfl⟩, ?_⟩
    simp only [beginEpoch, recover, appendPersisted, ensures_bind, ensures_get, ensures_okOr,
      ensures_liftExcept, ensures_pure, ensures_modify, hread, reduceCtorEq, false_imp_iff,
      true_and, Option.some.injEq, forall_eq', Option.getD_some] at h
    obtain ⟨hfails, hok⟩ := h
    generalize scanLines _ _ _ _ _ _ = result at hfails hok
    cases result with
    | error e => exact (hfails e rfl).elim
    | ok progress =>
      obtain ⟨rfl, rfl⟩ := hok progress rfl
      rfl

/-- A journal cut strictly inside its last record does not recover: the torn text and the new
epoch become one complete line. -/
theorem not_recovers_of_torn (hcodec : codec.Lawful) (now nowAgain : Nat) (nodeId : String)
    (records : List PersistedRuntimeRecord) (last : PersistedRuntimeRecord) {cut : Nat}
    (hpos : 0 < cut) (hcut : cut < (recordBytes codec last).length)
    (complete more : List PersistedRuntimeRecord) :
    ¬ Recovers codec now nowAgain nodeId (crashed codec records last cut) complete more := by
  rintro ⟨recovery, file', hbegin, hmore⟩
  rw [crashed_eq] at hbegin
  obtain ⟨⟨text, htext⟩, rfl⟩ := of_beginEpoch_eq_ok hbegin
  rw [readToString_utf8_append, Option.map_eq_some_iff] at htext
  obtain ⟨p, hread, -⟩ := htext
  obtain ⟨hbegins, hne⟩ := torn_beginning hpos hcut hread
  have hp := utf8_of_readToString hread
  have hrecover := (hmore [] ⟨more, rfl⟩).1 nodeId
  have hn : '\n' ∉ p ++ codec.encode (epochRecord nodeId nowAgain recovery.nodeEpoch) := by
    rw [List.mem_append, not_or]
    exact ⟨fun hmem => hcodec.newline_notMem last (hbegins.subset hmem),
      hcodec.newline_notMem _⟩
  have hr : '\r' ∉ p ++ codec.encode (epochRecord nodeId nowAgain recovery.nodeEpoch) := by
    rw [List.mem_append, not_or]
    exact ⟨fun hmem => hcodec.carriageReturn_notMem last (hbegins.subset hmem),
      hcodec.carriageReturn_notMem _⟩
  refine recover_corrupt hcodec nodeId records hn hr
    (hcodec.rejects_torn _ _ p hbegins hne) _ _ _ ?_ hrecover
  · rw [appendAll, ← hp]
    simp [recordBytes, frame]

end Torn

end CyreneKernel.Journal
