import CyreneKernel.Contract.Namespace
import CyreneKernel.Contract.Resource
import CyreneKernel.Lib.LineLog
import CyreneKernel.Lib.Outcome

/-!
# The durable runtime journal

The journal is a file of newline-terminated JSON records.  A record is appended at the end of the
file, whatever the file ends with.  A restart replays the whole file: `recover` rebuilds the last
epoch, the fence floor and the processes whose termination was never recorded, and
`semanticEventsForSource` rebuilds the event history of a source.  Both skip a last line that
does not decode when the file does not end in a newline.

The JSON text of a record is the business of a library; it is the parameter `Codec`.
-/

namespace CyreneKernel.Journal

open Std (TransOrd TransCmp LawfulEqOrd)
open Lib

/-! ### Records -/

/-- The identity of a sandbox process. -/
structure RuntimeProcessEvidence where
  cgroupName : String
  pid : Nat
  startTimeTicks : Nat
deriving DecidableEq

structure PersistedSemanticEvent where
  ns : String
  sequence : Nat
  sourceId : String
  sourceGeneration : Nat
  subjectId : String
  subjectGeneration : Nat
  kind : String
  observedAtUnixMs : Nat
  schemaId : String
  body : List UInt8
deriving DecidableEq

structure PersistedRuntimeRecord where
  observedAtMillis : Nat
  event : String
  nodeId : String
  nodeEpoch : Nat
  instanceName : Option String
  leaseName : Option String
  fenceToken : Option Nat
  reasonCode : String
  runtimeEvidence : Option RuntimeProcessEvidence
  semanticEvent : Option PersistedSemanticEvent
deriving DecidableEq

/-- The JSON library: the text of a record, and the record or the error text of a line. -/
structure Codec where
  encode : PersistedRuntimeRecord → List Char
  decode : List Char → Except String PersistedRuntimeRecord

/-- The journal file; `none` when it does not exist. -/
abbrev File := Option (List UInt8)

inductive IoErrorKind
  | invalidData
  | other
deriving DecidableEq

structure IoError where
  kind : IoErrorKind
  message : String
deriving DecidableEq

/-! ### Recovery -/

/-- A process that was launched and not recorded as terminated. -/
structure RuntimeProcessRecord where
  instanceName : String
  leaseName : Option String
  fenceToken : Option Nat
  nodeEpoch : Nat
  runtimeEvidence : Option RuntimeProcessEvidence
deriving DecidableEq

structure RecoveryState where
  nodeEpoch : Nat
  nextFenceToken : Nat
  runtimeProcesses : List RuntimeProcessRecord
deriving DecidableEq

/-- The local variables of the recovery loop. -/
structure RecoveryProgress where
  nodeEpoch : Nat
  maxFenceToken : Nat
  runtimeProcesses : BTreeMap String RuntimeProcessRecord

/-- The recovery loop before the first record. -/
def RecoveryProgress.start : RecoveryProgress := ⟨0, 0, ∅⟩

/-- What a lifecycle record does to the open processes. -/
def observeProcess (processes : BTreeMap String RuntimeProcessRecord)
    (record : PersistedRuntimeRecord) (instanceName : String) :
    BTreeMap String RuntimeProcessRecord :=
  if record.event = "INSTANCE_LAUNCHED" then
    processes.insert instanceName
      ⟨instanceName, record.leaseName, record.fenceToken, record.nodeEpoch,
        record.runtimeEvidence⟩
  else if record.event = "INSTANCE_TERMINATED" ∨ record.event = "WATCHDOG_REAPED" then
    match record.leaseName, record.fenceToken with
    | some leaseName, some fenceToken =>
      (processes.erase instanceName).filter fun _ process =>
        process.leaseName != some leaseName || process.fenceToken != some fenceToken
    | _, _ => processes.erase instanceName
  else processes

/-- One record of the recovery loop; records of other nodes are ignored. -/
def RecoveryProgress.observe (nodeId : String) (progress : RecoveryProgress)
    (record : PersistedRuntimeRecord) : RecoveryProgress :=
  if record.nodeId = nodeId then
    { nodeEpoch := max progress.nodeEpoch record.nodeEpoch
      maxFenceToken := max progress.maxFenceToken (record.fenceToken.getD 0)
      runtimeProcesses :=
        match record.instanceName with
        | some instanceName => observeProcess progress.runtimeProcesses record instanceName
        | none => progress.runtimeProcesses }
  else progress

/-- The recovery state after the loop. -/
def RecoveryProgress.finish (progress : RecoveryProgress) : RecoveryState where
  nodeEpoch := progress.nodeEpoch
  nextFenceToken := max (saturatingAdd progress.maxFenceToken 1) 1
  runtimeProcesses := progress.runtimeProcesses.toList.map Prod.snd

section Operations

variable (codec : Codec)

/-- Replay the journal of a node. -/
def recover (nodeId : String) : EStateM IoError File RecoveryState := do
  let file ← get
  match file with
  | none => return ⟨0, 1, []⟩
  | some bytes =>
    let contents ← okOr (readToString bytes)
      ⟨.invalidData, "stream did not contain valid UTF-8"⟩
    let progress ← liftExcept id <|
      scanLines codec.decode (fun e => ⟨.invalidData, s!"invalid runtime journal record: {e}"⟩)
        (fun progress record => .ok (RecoveryProgress.observe nodeId progress record))
        (endsWithNewline contents) RecoveryProgress.start (lines contents)
    return progress.finish

/-- Append a record and its newline at the end of the file. -/
def appendPersisted (record : PersistedRuntimeRecord) : EStateM IoError File Unit :=
  modify fun file => some (file.getD [] ++ utf8 (frame codec.encode record))

/-- The record of a kernel start. -/
def epochRecord (nodeId : String) (observedAtMillis nodeEpoch : Nat) : PersistedRuntimeRecord where
  observedAtMillis := observedAtMillis
  event := "KERNEL_STARTED"
  nodeId := nodeId
  nodeEpoch := nodeEpoch
  instanceName := none
  leaseName := none
  fenceToken := none
  reasonCode := "KERNEL_EPOCH_STARTED"
  runtimeEvidence := none
  semanticEvent := none

/-- Replay the journal and record a new epoch; the clock is read twice. -/
def beginEpoch (now nowAgain : Nat) (nodeId : String) : EStateM IoError File RecoveryState := do
  let recovery ← recover codec nodeId
  let nodeEpoch := max now (saturatingAdd recovery.nodeEpoch 1)
  appendPersisted codec (epochRecord nodeId nowAgain nodeEpoch)
  return { recovery with nodeEpoch := nodeEpoch }

end Operations

/-! ### Event replay -/

/-- The sequence an event belongs to. -/
structure SequenceKey where
  ns : String
  source : Identity
deriving DecidableEq

namespace SequenceKey

instance : Ord SequenceKey := ⟨compareLex (compareOn ns) (compareOn source)⟩

instance : TransOrd SequenceKey :=
  inferInstanceAs (TransCmp (compareLex (compareOn ns) (compareOn source)))

instance : LawfulEqOrd SequenceKey :=
  lawfulEqCmp_compareLex (by rintro ⟨⟩ ⟨⟩ ⟨⟩ ⟨⟩; rfl)

end SequenceKey

def journalError (reasonCode message : String) : ProviderError :=
  ⟨"runtime-journal", reasonCode, message⟩

/-- The event a persisted event stands for. -/
def PersistedSemanticEvent.toDurable (event : PersistedSemanticEvent) : DurableEventRecord where
  ns := event.ns
  event :=
    { sequence := event.sequence
      source := ⟨event.sourceId, event.sourceGeneration⟩
      subject := ⟨event.subjectId, event.subjectGeneration⟩
      kind := event.kind
      observedAtUnixMs := event.observedAtUnixMs
      schemaId := event.schemaId
      body := event.body }

/-- The event of a record, when it has one; the record must carry an event exactly if it is a
`SEMANTIC_EVENT` record. -/
def semanticEventOf (record : PersistedRuntimeRecord) :
    Except ProviderError (Option PersistedSemanticEvent) :=
  match record.semanticEvent with
  | some event =>
    if record.event = "SEMANTIC_EVENT" then .ok (some event)
    else .error (journalError "JOURNAL_CORRUPT"
      "semantic event record has inconsistent record fields")
  | none =>
    if record.event = "SEMANTIC_EVENT" then
      .error (journalError "JOURNAL_CORRUPT"
        "semantic event record has inconsistent record fields")
    else .ok none

/-- The checks of one persisted event against its record. -/
def checkEvent (record : PersistedRuntimeRecord) (event : DurableEventRecord) :
    Except ProviderError Unit := do
  if let .error rejection := NamespaceId.new event.ns then
    throw (journalError "JOURNAL_CORRUPT" rejection.message)
  if let .error error := event.event.validate then
    throw (journalError "JOURNAL_CORRUPT" error.message)
  if event.event.source.id ≠ record.nodeId ∨ event.event.source.generation ≠ record.nodeEpoch then
    throw (journalError "JOURNAL_CORRUPT"
      "semantic event source does not match its journal record")

/-- The local variables of the replay loop. -/
structure ReplayProgress where
  events : List DurableEventRecord
  previousSequences : BTreeMap SequenceKey Nat

/-- One record of the replay loop. -/
def ReplayProgress.observe (source : Identity) (ns : String) (progress : ReplayProgress)
    (record : PersistedRuntimeRecord) : Except ProviderError ReplayProgress := do
  match ← semanticEventOf record with
  | none => return progress
  | some persisted =>
    let event := persisted.toDurable
    checkEvent record event
    let key : SequenceKey := ⟨event.ns, event.event.source⟩
    if progress.previousSequences[key]?.any (event.event.sequence ≤ ·) then
      throw (journalError "JOURNAL_CORRUPT" "semantic event sequence is not strictly ordered")
    return {
      events :=
        if event.ns = ns ∧ event.event.source = source then progress.events ++ [event]
        else progress.events
      previousSequences := progress.previousSequences.insert key event.event.sequence }

/-- The event history of a source in a namespace. -/
def semanticEventsForSource (codec : Codec) (source : Identity) (ns : String) :
    EStateM ProviderError File (List DurableEventRecord) := do
  let file ← get
  match file with
  | none => return []
  | some bytes =>
    let contents ← okOr (readToString bytes)
      (journalError "JOURNAL_READ_FAILED" "stream did not contain valid UTF-8")
    let progress ← liftExcept id <|
      scanLines codec.decode (journalError "JOURNAL_CORRUPT") (ReplayProgress.observe source ns)
        (endsWithNewline contents) ⟨[], ∅⟩ (lines contents)
    return progress.events

end CyreneKernel.Journal
