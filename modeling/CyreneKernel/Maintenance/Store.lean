import CyreneKernel.Lib.Guarded
import CyreneKernel.Maintenance.Holds

/-!
# The files of the maintenance gate

The gate keeps a journal of events and a snapshot of the state.  An operation reads both, repairs
the end of the journal, adopts a catalog, decides, and appends.  Every write may fail, before or
after it took effect, and a process may stop at any call.
-/

namespace CyreneKernel.Maintenance

open Lib Program

export Lib.Program (ask)

/-- The text between two newlines of the journal. -/
inductive Line
  | entry (entry : JournalEntry)
  | malformed
deriving DecidableEq

/-- The journal: its lines, and what is behind the last newline. -/
structure JournalFile where
  lines : List Line := []
  tail : Option Line := none
deriving DecidableEq

structure Disk where
  snapshot : Option PersistedState := none
  journal : Option JournalFile := none
deriving DecidableEq

/-! ### The scan of the journal -/

/-- The state and the last sequence after some records of the journal. -/
abbrev Scan := PersistedState × Option Nat

variable (disk : Disk) (scan : Scan) (state : PersistedState) (entry : JournalEntry)

/-- Apply an entry that the state does not contain yet. -/
def applyNew : Except MaintenanceError PersistedState :=
  if entry.sequence > state.journalSequence then applyEntry state entry else .ok state

def scanEntry : Except MaintenanceError Scan :=
  let state := scan.1
  match scan.2, entry.event with
  | some last, _ => do
    failIf (entry.sequence ≠ saturatingAdd last 1)
      (.stateUnknown "maintenance journal sequence is discontinuous")
    let state ← applyNew state entry
    return (state, some entry.sequence)
  | none, .stateCheckpoint checkpoint => do
    failIf (entry.sequence = 0 ∨ checkpoint.schemaVersion ≠ stateSchemaVersion ∨
        checkpoint.journalSequence ≠ entry.sequence)
      (.stateUnknown "maintenance journal checkpoint is inconsistent")
    let state := if checkpoint.journalSequence > state.journalSequence then checkpoint else state
    return (state, some entry.sequence)
  | none, _ => do
    failIf (entry.sequence ≠ 1) (.stateUnknown
      "maintenance journal does not start at sequence one or a checkpoint")
    let state ← applyNew state entry
    return (state, some entry.sequence)

def scanLine : Line → Except MaintenanceError Scan
  | .entry entry => scanEntry scan entry
  | .malformed => .error (.stateUnknown "malformed maintenance journal record")

/-- What the end of the journal needs before the next append. -/
inductive Repair
  | nothing
  | truncate
  | terminate
deriving DecidableEq

/-- The scan of all records, the last one of which may be incomplete. -/
def scanJournal (journal : JournalFile) : Except MaintenanceError (Scan × Repair) := do
  failIf (journal = {} ∧ state.journalSequence ≠ 0)
    (.stateUnknown "maintenance journal is empty for a nonempty snapshot")
  let scan ← journal.lines.foldlM scanLine (state, none)
  match journal.tail with
  | none => return (scan, .nothing)
  | some (.entry entry) => return (← scanEntry scan entry, .terminate)
  | some .malformed =>
    failIf (scan.1.journalSequence > scan.2.getD 0) (.stateUnknown
      "snapshot is newer than the valid maintenance journal tail")
    return (scan, .truncate)

/-- The checks after the scan. -/
def checkScan : Except MaintenanceError PersistedState :=
  match scan.2 with
  | none => do
    failIf (scan.1.journalSequence ≠ 0)
      (.stateUnknown "maintenance journal contains no valid records")
    return scan.1
  | some last => do
    failIf (scan.1.journalSequence > last) (.stateUnknown
      "maintenance journal is truncated before the durable snapshot")
    return scan.1

def checkSnapshot : Except MaintenanceError Unit :=
  failIf (state.schemaVersion ≠ stateSchemaVersion)
    (.stateUnknown "unsupported maintenance snapshot schema")

/-- The journal that is scanned; without one the store is new. -/
def journalOf (snapshot : Option PersistedState) (journal : Option JournalFile) :
    Except MaintenanceError JournalFile :=
  match journal with
  | some journal => .ok journal
  | none => do
    failIf snapshot.isSome
      (.stateUnknown "journal missing for an existing maintenance snapshot")
    return {}

/-- The state that the files amount to. -/
def Disk.contents : Except MaintenanceError PersistedState := do
  let state := disk.snapshot.getD {}
  checkSnapshot state
  let journal ← journalOf disk.snapshot disk.journal
  let (scan, _) ← scanJournal state journal
  checkScan scan

/-! ### Programs -/

/-- The calls of an operation: files, and the catalog in the memory of the process. -/
inductive Call
  | readState
  | readJournal
  | truncateJournal
  | terminateJournal
  | writeSnapshot (state : PersistedState)
  | appendEntry (entry : JournalEntry)
  | journalLength
  | writeCheckpoint (state : PersistedState)
  | currentCatalog
  | adoptCatalog (catalog : TrustedActivitySourceCatalog)

def Call.Answer : Call → Type
  | .readState => Except MaintenanceError (Option PersistedState)
  | .readJournal => Except MaintenanceError (Option JournalFile)
  | .journalLength => Except MaintenanceError Nat
  | .currentCatalog => TrustedActivitySourceCatalog
  | .adoptCatalog _ => Unit
  | _ => Except MaintenanceError Unit

/-- A program of the gate, which may fail. -/
abbrev Gate (α : Type) := ExceptT MaintenanceError (Program Call Call.Answer) α

/-- The calls that may fail. -/
def readState : Gate (Option PersistedState) := ExceptT.mk (ask Call.readState)

def readJournal : Gate (Option JournalFile) := ExceptT.mk (ask Call.readJournal)

def truncateJournal : Gate Unit := ExceptT.mk (ask Call.truncateJournal)

def terminateJournal : Gate Unit := ExceptT.mk (ask Call.terminateJournal)

def writeSnapshot (state : PersistedState) : Gate Unit :=
  ExceptT.mk (ask (Call.writeSnapshot state))

def appendEntry (entry : JournalEntry) : Gate Unit := ExceptT.mk (ask (Call.appendEntry entry))

def journalLength : Gate Nat := ExceptT.mk (ask Call.journalLength)

def writeCheckpoint (state : PersistedState) : Gate Unit :=
  ExceptT.mk (ask (Call.writeCheckpoint state))

/-- The catalog in the memory of the process. -/
def currentCatalog : Gate TrustedActivitySourceCatalog :=
  monadLift (ask Call.currentCatalog : Program Call Call.Answer TrustedActivitySourceCatalog)

def adoptCatalog (catalog : TrustedActivitySourceCatalog) : Gate Unit :=
  monadLift (ask (Call.adoptCatalog catalog) : Program Call Call.Answer Unit)

/-- A computation without calls. -/
def pureOf {α : Type} (x : Except MaintenanceError α) : Gate α := ExceptT.mk (pure x)

def repairJournal : Repair → Gate Unit
  | .nothing => pure ()
  | .truncate => truncateJournal
  | .terminate => terminateJournal

/-- Replay the journal over the snapshot, after a repair. -/
def loadStateLocked : Gate PersistedState := do
  let snapshot ← readState
  let initial := snapshot.getD {}
  pureOf (checkSnapshot initial)
  let journal ← pureOf (journalOf snapshot (← readJournal))
  let (scan, repair) ← pureOf (scanJournal initial journal)
  repairJournal repair
  let state ← pureOf (checkScan scan)
  if state.journalSequence > initial.journalSequence then
    writeSnapshot state
  return state

def journalCompactionThreshold : Nat := 4 * 1024 * 1024

/-- Append an event to the journal, then apply it. -/
def appendAndApply (event : JournalEvent) : Gate PersistedState := do
  pureOf (failIf (state.journalSequence = u64Max) (.stateUnknown "journal sequence exhausted"))
  let entry : JournalEntry := ⟨state.journalSequence + 1, event⟩
  appendEntry entry
  let after ← pureOf (applyEntry state entry)
  writeSnapshot after
  let length ← journalLength
  if length ≥ journalCompactionThreshold then
    writeCheckpoint after
  return after

/-- Append an event when there is one. -/
def appendOptional : Option JournalEvent → Gate PersistedState
  | none => pure state
  | some event => appendAndApply state event

def refreshCatalogLocked (read : Option CatalogRead) (state : PersistedState) :
    Gate PersistedState := do
  let current ← currentCatalog
  let (catalog, event) ← pureOf (refreshCatalog state current read)
  adoptCatalog catalog
  appendOptional state event

/-- The catalog that a process has after an operation that replaced it. -/
def Operation.replacement : Operation → Option TrustedActivitySourceCatalog
  | .commitCatalog _ catalog _ _ => some catalog
  | _ => none

/-- Carry out a decision. -/
def carryOut (op : Operation) (state : PersistedState) : Decision → Gate Answer
  | .answer answer => pure answer
  | .append event answer => do
    let after ← appendAndApply state event
    match op.replacement with
    | none => pure ()
    | some catalog => adoptCatalog catalog
    return answer after

/-- An operation of a process, from its checks to the release of the lock. -/
def withState (sha256 : String → String) (read : Option CatalogRead) (sample : Sample)
    (op : Operation) : Gate Answer := do
  pureOf op.precheck
  let state ← loadStateLocked
  let state ← refreshCatalogLocked read state
  let catalog ← currentCatalog
  let decision ← pureOf (op.decide sha256 state { sample with catalog := catalog })
  carryOut op state decision

/-! ### Effects -/

/-- What a process sees: the files, and the catalog in its memory. -/
structure Local where
  disk : Disk
  catalog : TrustedActivitySourceCatalog

/-- A write takes effect, or it fails without an effect.  It may also fail after its effect. -/
def Writes (write : Disk → Disk) (answer : Except MaintenanceError Unit) (s s' : Local) : Prop :=
  s' = { s with disk := write s.disk } ∨ (∃ error, answer = .error error) ∧ s' = s

/-- An append at the end of a complete line writes its line, or fails and leaves some part of it.
Nothing is said about an append behind an incomplete line. -/
def Appends (answer : Except MaintenanceError Unit) (journal journal' : Option JournalFile) :
    Prop :=
  let file := journal.getD {}
  file.tail ≠ none ∨ journal' = some { lines := file.lines ++ [.entry entry] } ∨
    (∃ error, answer = .error error) ∧
      (journal' = journal ∨ journal' = some file ∨
        journal' = some { file with tail := some .malformed } ∨
        journal' = some { file with tail := some (.entry entry) })

/-- The journal without its incomplete end. -/
def Disk.truncate : Disk :=
  { disk with journal := disk.journal.map fun file => { file with tail := none } }

/-- The journal with a newline at its end. -/
def Disk.terminate : Disk :=
  { disk with journal := disk.journal.map fun file => { lines := file.lines ++ file.tail.toList } }

/-- The journal that holds nothing but a checkpoint. -/
def checkpointFile : JournalFile where
  lines := [.entry ⟨state.journalSequence, .stateCheckpoint state⟩]

/-- What a call may answer, and what it leaves. -/
def Effect : (call : Call) → Local → call.Answer → Local → Prop
  | .readState, s, answer, s' =>
    s' = s ∧ ∀ snapshot, answer = Except.ok snapshot → snapshot = s.disk.snapshot
  | .readJournal, s, answer, s' =>
    s' = s ∧ ∀ journal, answer = Except.ok journal → journal = s.disk.journal
  | .truncateJournal, s, answer, s' => Writes Disk.truncate answer s s'
  | .terminateJournal, s, answer, s' => Writes Disk.terminate answer s s'
  | .writeSnapshot state, s, answer, s' =>
    Writes (fun disk => { disk with snapshot := some state }) answer s s'
  | .appendEntry entry, s, answer, s' => s'.catalog = s.catalog ∧
    s'.disk.snapshot = s.disk.snapshot ∧ Appends entry answer s.disk.journal s'.disk.journal
  | .journalLength, s, _, s' => s' = s
  | .writeCheckpoint state, s, answer, s' =>
    Writes (fun disk => { disk with journal := some (checkpointFile state) }) answer s s'
  | .currentCatalog, s, answer, s' => s' = s ∧ answer = s.catalog
  | .adoptCatalog catalog, s, _, s' => s' = { s with catalog := catalog }

end CyreneKernel.Maintenance
