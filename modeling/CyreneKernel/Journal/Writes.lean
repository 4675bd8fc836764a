import CyreneKernel.Journal.ArrayCodec
import CyreneKernel.Lib.TornLog

/-!
# The journal as a sequence of appends

Any append may fail, and leave part of its record in the file.  Whatever the pattern of failures,
a journal that can be replayed at all accounts for every record whose append succeeded: the epoch
and the fence floor of a restarted kernel lie above all of them.

## Main definitions

* `Codec.Strict`: what is assumed of the JSON library when appends fail again and again.
* `Write`, `fileOf`: the appends of a journal and its file.

## Main results

* `recover_writes`: a replay that succeeds accounts for every successful append.
* `beginEpoch_writes`: so does a restart, which appends its own record.
* `beginEpoch_full`: a journal without failed appends can be reopened.
* `le_account`: the epoch and the fence floor lie above every record of the node.
-/

namespace CyreneKernel.Journal

open Lib

/-- No line decodes that consists of beginnings of records and a record. -/
structure Codec.Strict (codec : Codec) : Prop extends codec.Lawful where
  rejects_glued : ∀ (ps : List (List Char)) (record : PersistedRuntimeRecord), ps ≠ [] →
    Beginnings codec.encode ps → ∀ x, codec.decode (ps.flatten ++ codec.encode record) ≠ .ok x

theorem arrayCodec_strict : arrayCodec.Strict where
  toLawful := arrayCodec_lawful
  rejects_glued ps record hne hps x := by
    obtain ⟨p, ps, rfl⟩ := List.exists_cons_of_ne_nil hne
    exact arrayCodec_decode_append (by simp [(hps p List.mem_cons_self).1]) record x

/-- An append to the journal. -/
abbrev Write := Piece PersistedRuntimeRecord

/-- The journal file after the given appends; the first one creates it. -/
def fileOf (codec : Codec) : List Write → File
  | [] => none
  | write :: writes => some (written codec.encode (write :: writes))

variable {codec : Codec} {nodeId : String} {writes : List Write}

theorem fileOf_of_ne_nil (h : writes ≠ []) :
    fileOf codec writes = some (written codec.encode writes) := by
  obtain ⟨write, writes, rfl⟩ := List.exists_cons_of_ne_nil h
  rfl

/-- A successful append adds its record to the file. -/
theorem appendPersisted_fileOf (record : PersistedRuntimeRecord) :
    appendPersisted codec record (fileOf codec writes) =
      .ok () (fileOf codec (writes ++ [.full record])) := by
  have hfile : fileOf codec (writes ++ [.full record]) =
      some ((fileOf codec writes).getD [] ++ utf8 (frame codec.encode record)) := by
    cases writes <;> simp [fileOf, written, Piece.bytes]
  rw [hfile]
  rfl

/-! ### What a replay accounts for -/

theorem observe_le (nodeId : String) (progress : RecoveryProgress)
    (record : PersistedRuntimeRecord) :
    progress.nodeEpoch ≤ (progress.observe nodeId record).nodeEpoch ∧
      progress.maxFenceToken ≤ (progress.observe nodeId record).maxFenceToken := by
  unfold RecoveryProgress.observe
  split
  · exact ⟨le_max_left _ _, le_max_left _ _⟩
  · exact ⟨le_rfl, le_rfl⟩

theorem foldl_observe_le (nodeId : String) (progress : RecoveryProgress)
    (records : List PersistedRuntimeRecord) :
    progress.nodeEpoch ≤ (records.foldl (RecoveryProgress.observe nodeId) progress).nodeEpoch ∧
      progress.maxFenceToken ≤
        (records.foldl (RecoveryProgress.observe nodeId) progress).maxFenceToken := by
  induction records generalizing progress with
  | nil => exact ⟨le_rfl, le_rfl⟩
  | cons record records ih =>
    have hfirst := observe_le nodeId progress record
    have hrest := ih (progress.observe nodeId record)
    exact ⟨hfirst.1.trans hrest.1, hfirst.2.trans hrest.2⟩

/-- The epoch and the fence floor of an account lie above every record of the node. -/
theorem le_account {records : List PersistedRuntimeRecord} {record : PersistedRuntimeRecord}
    (hmem : record ∈ records) (hnode : record.nodeId = nodeId) :
    record.nodeEpoch ≤ (account nodeId records).nodeEpoch ∧
      saturatingAdd (record.fenceToken.getD 0) 1 ≤ (account nodeId records).nextFenceToken := by
  obtain ⟨earlier, later, rfl⟩ := List.append_of_mem hmem
  have hlater := foldl_observe_le nodeId
    ((earlier.foldl (RecoveryProgress.observe nodeId) .start).observe nodeId record) later
  rw [account, RecoveryProgress.finish, List.foldl_append, List.foldl_cons]
  rw [RecoveryProgress.observe, if_pos hnode] at hlater ⊢
  refine ⟨(le_max_right _ _).trans hlater.1, le_max_of_le_left ?_⟩
  have hfence := (le_max_right _ _).trans hlater.2
  unfold saturatingAdd
  omega

/-- A replay that succeeds accounts for every record whose append succeeded. -/
theorem recover_writes (hcodec : codec.Strict) {state : RecoveryState} {file : File}
    (h : recover codec nodeId (fileOf codec writes) = .ok state file) :
    file = fileOf codec writes ∧ ∃ records, (complete writes).Sublist records ∧
      state = account nodeId records := by
  cases writes with
  | nil =>
    obtain ⟨rfl, rfl⟩ := EStateM.Result.ok.inj h
    exact ⟨rfl, [], List.Sublist.refl _, rfl⟩
  | cons write writes =>
    rw [eq_ok_iff_ensures] at h
    simp only [recover, fileOf, ensures_bind, ensures_get, ensures_okOr, ensures_liftExcept,
      ensures_pure] at h
    obtain ⟨hutf8, htext⟩ := h
    cases hread : readToString (written codec.encode (write :: writes)) with
    | none => exact (hutf8 hread).elim
    | some text =>
      obtain ⟨hfails, hok⟩ := htext text hread
      generalize hscan : scanLines _ _ _ _ _ _ = result at hfails hok
      cases result with
      | error e => exact (hfails e rfl).elim
      | ok progress =>
        obtain ⟨rfl, rfl⟩ := hok progress rfl
        obtain ⟨records, hsub, hfold⟩ := scanLines_written hcodec.newline_notMem
          hcodec.carriageReturn_notMem hcodec.decode_encode hcodec.rejects_glued hread hscan
        rw [foldlM_ok, Except.ok.injEq] at hfold
        exact ⟨rfl, records, hsub, by rw [account, hfold]⟩

/-- A restart that succeeds accounts for every record whose append succeeded, and appends its
own. -/
theorem beginEpoch_writes (hcodec : codec.Strict) {now nowAgain : Nat} {recovery : RecoveryState}
    {file : File}
    (h : beginEpoch codec now nowAgain nodeId (fileOf codec writes) = .ok recovery file) :
    file = fileOf codec (writes ++ [.full (epochRecord nodeId nowAgain recovery.nodeEpoch)]) ∧
      ∃ records, (complete writes).Sublist records ∧ recovery = started now nodeId records := by
  unfold beginEpoch at h
  rw [bind_eq_ok] at h
  obtain ⟨state, file₁, hrecover, h⟩ := h
  obtain ⟨rfl, records, hsub, rfl⟩ := recover_writes hcodec hrecover
  rw [bind_eq_ok] at h
  obtain ⟨_, file₂, happend, h⟩ := h
  rw [appendPersisted_fileOf, EStateM.Result.ok.injEq] at happend
  obtain ⟨-, rfl⟩ := happend
  obtain ⟨rfl, rfl⟩ := h
  exact ⟨rfl, records, hsub, rfl⟩

/-- A journal of complete appends can be reopened. -/
theorem beginEpoch_full (hcodec : codec.Lawful) (now nowAgain : Nat) (nodeId : String)
    (records : List PersistedRuntimeRecord) :
    ∃ file, beginEpoch codec now nowAgain nodeId (fileOf codec (records.map .full)) =
      .ok (started now nodeId records) file := by
  cases records with
  | nil => exact ⟨_, rfl⟩
  | cons record records =>
    have hfile : fileOf codec ((record :: records).map .full) =
        some (utf8 (frames codec.encode (record :: records))) := by
      rw [fileOf_of_ne_nil (by simp), written, frames, List.flatMap_map]
      simp only [Piece.bytes, utf8, List.flatMap_assoc]
    rw [hfile, beginEpoch_frames hcodec]
    exact ⟨_, rfl⟩

end CyreneKernel.Journal
