import CyreneKernel.Contract.Lease

/-!
# Execution intents and their ledger

The controller records every execution intent before it asks the kernel for a lease, and records the
phases of the execution as transitions of that record.  The records live in memory and in one file,
which every change replaces as a whole: a temporary file is written and synced, renamed over the
ledger, and then the directory is synced.  The replacement may fail before the rename, be reported
as failed although the rename took place, or be lost by a crash because the directory was not
synced.
-/

namespace CyreneKernel.Control

open Lib

/-! ### Records -/

inductive IntentDisposition
  | pending
  | leaseAcquired
  | assignmentDispatching
  | completed
  | released
  | failed
  | unknownRequiresReconciliation
deriving DecidableEq

/-- The name of a disposition in messages. -/
def IntentDisposition.debug : IntentDisposition → String
  | .pending => "Pending"
  | .leaseAcquired => "LeaseAcquired"
  | .assignmentDispatching => "AssignmentDispatching"
  | .completed => "Completed"
  | .released => "Released"
  | .failed => "Failed"
  | .unknownRequiresReconciliation => "UnknownRequiresReconciliation"

/-- The dispositions that name a lease. -/
def IntentDisposition.requiresEvidence (disposition : IntentDisposition) : Bool :=
  disposition matches .leaseAcquired | .assignmentDispatching | .completed | .released

/-- The dispositions of an intent whose lease or runtime may be left over. -/
def IntentDisposition.mayHaveEffects (disposition : IntentDisposition) : Bool :=
  disposition matches .unknownRequiresReconciliation | .leaseAcquired | .assignmentDispatching

structure NodeRef where
  nodeId : String
  nodeEpoch : Nat
deriving DecidableEq

/-- What identifies the lease of an intent at the kernel that granted it. -/
structure AuthorityEvidence where
  nodeId : String
  nodeEpoch : Nat
  leaseId : String
  leaseGeneration : Nat
  holderId : String
  holderGeneration : Nat
  resources : List Identity
  fenceToken : Nat
  expiresAtUnixMs : Option Nat
deriving DecidableEq

namespace AuthorityEvidence

def fromAuthority (node : NodeRef) (lease : Lease) : AuthorityEvidence where
  nodeId := node.nodeId
  nodeEpoch := node.nodeEpoch
  leaseId := lease.identity.id
  leaseGeneration := lease.identity.generation
  holderId := lease.holder.id
  holderGeneration := lease.holder.generation
  resources := lease.resources
  fenceToken := lease.fenceToken
  expiresAtUnixMs := lease.expiresAtUnixMs

/-- The evidence names exactly this lease on this node. -/
def «matches» (evidence : AuthorityEvidence) (node : NodeRef) (lease : Lease) : Bool :=
  evidence.nodeId == node.nodeId && evidence.nodeEpoch == node.nodeEpoch &&
    evidence.leaseId == lease.identity.id &&
    evidence.leaseGeneration == lease.identity.generation &&
    evidence.holderId == lease.holder.id && evidence.holderGeneration == lease.holder.generation &&
    evidence.resources == lease.resources && evidence.fenceToken == lease.fenceToken &&
    evidence.expiresAtUnixMs == lease.expiresAtUnixMs

/-- The identities and the fence of the evidence are present, and no resource occurs twice. -/
def isValid (evidence : AuthorityEvidence) : Bool :=
  !(evidence.nodeId.isEmpty || evidence.nodeEpoch == 0 || evidence.leaseId.isEmpty ||
    evidence.leaseGeneration == 0 || evidence.holderId.isEmpty || evidence.holderGeneration == 0 ||
    evidence.resources.isEmpty ||
    evidence.resources.any (fun resource => resource.id.isEmpty || resource.generation == 0) ||
    !decide evidence.resources.Nodup || evidence.fenceToken == 0)

end AuthorityEvidence

inductive IntentStoreErrorKind
  | alreadyExists
  | notFound
  | revisionConflict
  | invalidRecord
  | persistence
deriving DecidableEq

structure IntentStoreError where
  kind : IntentStoreErrorKind
  message : String
deriving DecidableEq

/-- The text of an error in messages. -/
def IntentStoreError.display (error : IntentStoreError) : String :=
  let kind := match error.kind with
    | .alreadyExists => "AlreadyExists"
    | .notFound => "NotFound"
    | .revisionConflict => "RevisionConflict"
    | .invalidRecord => "InvalidRecord"
    | .persistence => "Persistence"
  kind ++ ": " ++ error.message

structure ExecutionIntentRecord where
  assignmentId : String
  payloadDigest : String
  disposition : IntentDisposition
  authorityEvidence : Option AuthorityEvidence
  revision : Nat
  updatedAtUnixMs : Nat
deriving DecidableEq

def isLowerHexdigit (byte : UInt8) : Bool := isAsciiDigit byte || (97 ≤ byte && byte ≤ 102)

def validateDigest (value : String) : Except IntentStoreError Unit :=
  failIf (¬ ((bytesOf value).take 7 = bytesOf "sha256:" ∧ ((bytesOf value).drop 7).length = 64 ∧
      ((bytesOf value).drop 7).all isLowerHexdigit))
    ⟨.invalidRecord, "intent payload digest must be lowercase sha256:<hex>"⟩

def legalTransition : IntentDisposition → IntentDisposition → Bool
  | .pending, .leaseAcquired | .pending, .failed
  | .pending, .unknownRequiresReconciliation => true
  | .leaseAcquired, .assignmentDispatching | .leaseAcquired, .failed
  | .leaseAcquired, .unknownRequiresReconciliation => true
  | .assignmentDispatching, .completed | .assignmentDispatching, .failed
  | .assignmentDispatching, .unknownRequiresReconciliation => true
  | .completed, .released | .completed, .unknownRequiresReconciliation => true
  | .unknownRequiresReconciliation, .assignmentDispatching => true
  | _, _ => false

namespace ExecutionIntentRecord

def validate (record : ExecutionIntentRecord) : Except IntentStoreError Unit := do
  failIf (record.assignmentId.isEmpty ∨ record.revision = 0 ∨ record.updatedAtUnixMs = 0)
    ⟨.invalidRecord, "intent identity, revision, and update time are required"⟩
  validateDigest record.payloadDigest
  failIf (record.authorityEvidence.any (!·.isValid))
    ⟨.invalidRecord, "persisted Lease observation contains an invalid identity or fence"⟩
  failIf (record.disposition = .pending ∧ record.authorityEvidence.isSome)
    ⟨.invalidRecord, "pending intent cannot contain Lease evidence"⟩
  failIf (record.disposition.requiresEvidence ∧ record.authorityEvidence.isNone)
    ⟨.invalidRecord, "persisted intent state requires Lease evidence"⟩

def pending (assignmentId payloadDigest : String) (nowUnixMs : Nat) :
    Except IntentStoreError ExecutionIntentRecord := do
  let record : ExecutionIntentRecord := ⟨assignmentId, payloadDigest, .pending, none, 1, nowUnixMs⟩
  record.validate
  return record

def transition (record : ExecutionIntentRecord) (disposition : IntentDisposition)
    (authority : Option (NodeRef × Lease)) (nowUnixMs : Nat) :
    Except IntentStoreError ExecutionIntentRecord := do
  failIf (¬ legalTransition record.disposition disposition)
    ⟨.revisionConflict, "illegal intent transition " ++ record.disposition.debug ++ " -> " ++
      disposition.debug⟩
  let supplied := authority.map fun (node, lease) => AuthorityEvidence.fromAuthority node lease
  failIf (record.authorityEvidence.isSome ∧ supplied.isSome ∧ record.authorityEvidence ≠ supplied)
    ⟨.revisionConflict, "intent transition attempted to replace immutable Lease evidence"⟩
  let authorityEvidence := record.authorityEvidence.or supplied
  failIf (disposition.requiresEvidence ∧ authorityEvidence.isNone)
    ⟨.invalidRecord, "intent state requires an authority-returned Lease observation"⟩
  failIf (record.revision + 1 > u64Max) ⟨.invalidRecord, "intent record revision overflowed"⟩
  let next : ExecutionIntentRecord :=
    { record with
      disposition
      authorityEvidence
      revision := record.revision + 1
      updatedAtUnixMs := nowUnixMs }
  next.validate
  return next

def matchesAuthority (record : ExecutionIntentRecord) (node : NodeRef) (lease : Lease) : Bool :=
  record.authorityEvidence.any (·.matches node lease)

end ExecutionIntentRecord

/-! ### The ledger file -/

abbrev IntentRecords := BTreeMap String ExecutionIntentRecord

/-- The ledger file.  After a crash it holds what was synced last or any replacement since. -/
structure Disk where
  /-- What the file held when its directory was synced last; `none` when there was no file. -/
  synced : Option IntentRecords
  /-- The replacements since, in the order of their renames. -/
  renamed : List IntentRecords

namespace Disk

/-- The disk before the first ledger is written. -/
def blank : Disk := ⟨none, []⟩

/-- What a reader finds. -/
def file (disk : Disk) : Option IntentRecords := disk.renamed.getLast?.or disk.synced

/-- What a reader may find after a crash. -/
def versions (disk : Disk) : List (Option IntentRecords) := disk.synced :: disk.renamed.map some

end Disk

/-- What happens when the ledger is replaced. -/
inductive PersistOutcome
  /-- The ledger is replaced, and its directory is synced. -/
  | replaced
  | invalidFileName
  /-- A step up to the rename is reported as failed; `renamed` tells whether the rename took
  place all the same. -/
  | failed (message : String) (renamed : Bool)
  /-- The rename succeeded, and the sync of the directory failed. -/
  | unsynced (message : String)
deriving DecidableEq

/-- A failed replacement.  The callers of the store see `error` only. -/
structure PersistFailure where
  committed : Bool
  error : IntentStoreError
deriving DecidableEq

def persist (outcome : PersistOutcome) (records : IntentRecords) (disk : Disk) :
    Except PersistFailure Unit × Disk :=
  match outcome with
  | .replaced => (.ok (), ⟨some records, []⟩)
  | .invalidFileName =>
    (.error ⟨false, .invalidRecord, "intent ledger file name is invalid"⟩, disk)
  | .failed message renamed =>
    (.error ⟨false, .persistence, message⟩,
      if renamed then { disk with renamed := disk.renamed ++ [records] } else disk)
  | .unsynced message =>
    (.error ⟨true, .persistence, message⟩, { disk with renamed := disk.renamed ++ [records] })

/-- What happens when the ledger is opened. -/
inductive OpenOutcome
  | read
  /-- The existence of the file cannot be told, which counts as absence. -/
  | unseen
  | failed (message : String)
deriving DecidableEq

/-- The records with which the process starts. -/
def openLedger (outcome : OpenOutcome) (file : Option IntentRecords) :
    Except IntentStoreError IntentRecords :=
  match file, outcome with
  | none, _ | some _, .unseen => .ok ∅
  | some _, .failed message => .error ⟨.persistence, message⟩
  | some records, .read => do
    records.toList.forM fun (key, record) => do
      record.validate
      failIf (key ≠ record.assignmentId)
        ⟨.persistence, "intent ledger key does not match its record identity"⟩
    return records

/-! ### The store -/

/-- The memory of the store, and its file. -/
structure FileExecutionIntentStore where
  records : IntentRecords
  disk : Disk

namespace FileExecutionIntentStore

variable (store : FileExecutionIntentStore)

def load (assignmentId : String) : Option ExecutionIntentRecord :=
  store.records[assignmentId]?

/-- Replace the ledger by new records, and go back to `previous` when that failed before the
rename. -/
def replace (outcome : PersistOutcome) (records previous : IntentRecords) :
    Except PersistFailure Unit × FileExecutionIntentStore :=
  match persist outcome records store.disk with
  | (.ok (), disk) => (.ok (), ⟨records, disk⟩)
  | (.error failure, disk) =>
    (.error failure, ⟨if failure.committed then records else previous, disk⟩)

def create (outcome : PersistOutcome) (record : ExecutionIntentRecord) :
    Except PersistFailure Unit × FileExecutionIntentStore :=
  match record.validate with
  | .error error => (.error ⟨false, error⟩, store)
  | .ok () =>
    if store.records.contains record.assignmentId then
      (.error ⟨false, .alreadyExists, "execution intent already has a durable tombstone"⟩, store)
    else
      let records := store.records.insert record.assignmentId record
      store.replace outcome records (records.erase record.assignmentId)

end FileExecutionIntentStore

def replaceRecord (records : IntentRecords) (expectedRevision : Nat)
    (record : ExecutionIntentRecord) : Except IntentStoreError IntentRecords := do
  let existing ← foundOr records[record.assignmentId]?
    ⟨.notFound, "execution intent has no durable pending record"⟩
  failIf (existing.revision ≠ expectedRevision ∨
      record.revision ≠ saturatingAdd expectedRevision 1)
    ⟨.revisionConflict, "execution intent revision changed concurrently"⟩
  failIf (existing.payloadDigest ≠ record.payloadDigest)
    ⟨.revisionConflict, "execution intent payload digest is immutable"⟩
  return records.insert record.assignmentId record

namespace FileExecutionIntentStore

def compareAndSet (store : FileExecutionIntentStore) (outcome : PersistOutcome)
    (expectedRevision : Nat) (record : ExecutionIntentRecord) :
    Except PersistFailure Unit × FileExecutionIntentStore :=
  match record.validate with
  | .error error => (.error ⟨false, error⟩, store)
  | .ok () =>
    let previous := store.records[record.assignmentId]?
    match replaceRecord store.records expectedRevision record with
    | .error error => (.error ⟨false, error⟩, store)
    | .ok records =>
      store.replace outcome records
        (match previous with
        | some previous => records.insert previous.assignmentId previous
        | none => records)

end FileExecutionIntentStore

end CyreneKernel.Control
