import CyreneKernel.Contract.Validation

/-!
# Namespaces, call contexts and events

A namespace scopes the objects of the authority.  Its text is validated when it is built, so a
`NamespaceId` carries the proof that it is well formed.  An `ObjectRef` is an identity in a
namespace, and a call context carries the namespace and the idempotency key of a call.  An event is
published in a namespace.
-/

namespace CyreneKernel

open Std (TransOrd TransCmp ReflCmp LawfulEqOrd)
open Lib

structure Rejection where
  reasonCode : String
  message : String
deriving DecidableEq

structure ContractRevision where
  contractId : String
  major : Nat
  minor : Nat
deriving DecidableEq

namespace ContractRevision

def current : ContractRevision := ⟨"cyrene.kernel.semantic", 1, 0⟩

def validate (revision : ContractRevision) : Except ContractError Unit := do
  validateNamespacedId "contract id" revision.contractId
  if revision.major = 0 then
    throw ⟨"CONTRACT_MAJOR_INVALID", "semantic contract major version must be non-zero"⟩

/-- The revision two compatible revisions agree on: the lower minor of one major. -/
def negotiate (revision offered : ContractRevision) : Option ContractRevision :=
  match revision.validate, offered.validate with
  | .ok _, .ok _ =>
    if revision.contractId = offered.contractId ∧ revision.major = offered.major then
      some ⟨revision.contractId, revision.major, min revision.minor offered.minor⟩
    else none
  | _, _ => none

end ContractRevision

/-! ### Namespaces -/

def isAsciiAlphanumeric (byte : UInt8) : Bool :=
  isAsciiLowercase byte || isAsciiUppercase byte || isAsciiDigit byte

/-- One to 128 ASCII letters, digits, dots, underscores and dashes. -/
def isNamespace (value : String) : Bool :=
  !value.isEmpty && value.utf8ByteSize ≤ 128 &&
    (bytesOf value).all fun byte => isAsciiAlphanumeric byte || isSeparator byte

/-- A validated scope of authority-owned objects. -/
structure NamespaceId where
  asStr : String
  valid : isNamespace asStr = true
deriving DecidableEq

namespace NamespaceId

def new (value : String) : Except Rejection NamespaceId :=
  if h : isNamespace value = true then .ok ⟨value, h⟩
  else .error ⟨"NAMESPACE_INVALID",
    "namespace must contain 1..=128 ASCII alphanumeric, '.', '_' or '-' bytes"⟩

instance : Inhabited NamespaceId := ⟨⟨"default", by decide⟩⟩

instance : Ord NamespaceId := ⟨compareOn asStr⟩

instance : TransOrd NamespaceId := inferInstanceAs (TransCmp (compareOn asStr))

instance : LawfulEqOrd NamespaceId where
  eq_of_compare {a b} h := by
    obtain ⟨a, _⟩ := a
    obtain ⟨b, _⟩ := b
    have hab : compare a b = .eq := h
    obtain rfl := Std.compare_eq_iff_eq.1 hab
    rfl
  compare_self := ReflCmp.compare_self

end NamespaceId

/-- An identity scoped to a namespace. -/
structure ObjectRef where
  ns : NamespaceId
  identity : Identity
deriving DecidableEq

namespace ObjectRef

instance : Ord ObjectRef := ⟨compareLex (compareOn ns) (compareOn identity)⟩

instance : TransOrd ObjectRef :=
  inferInstanceAs (TransCmp (compareLex (compareOn ns) (compareOn identity)))

instance : LawfulEqOrd ObjectRef :=
  lawfulEqCmp_compareLex (by rintro ⟨⟩ ⟨⟩ ⟨⟩ ⟨⟩; rfl)

end ObjectRef

/-! ### Call contexts -/

/-- The metadata of a state-changing call. -/
structure AuthorityCallContext where
  contract : ContractRevision
  ns : NamespaceId
  requestId : String
  idempotencyKey : String

namespace AuthorityCallContext

def validateFor (context : AuthorityCallContext) (localRevision : ContractRevision) :
    Except Rejection Unit := do
  if localRevision.negotiate context.contract ≠ some context.contract then
    throw ⟨"CONTRACT_INCOMPATIBLE",
      "authority call did not use a revision selected by this Kernel"⟩
  if context.requestId.isEmpty && context.idempotencyKey.isEmpty then
    throw ⟨"REQUEST_ID_REQUIRED", "authority call requires request_id or idempotency_key"⟩
  let _ ← NamespaceId.new context.ns.asStr

def objectRef (context : AuthorityCallContext) (identity : Identity) : ObjectRef :=
  ⟨context.ns, identity⟩

def effectiveIdempotencyKey (context : AuthorityCallContext) : String :=
  if context.idempotencyKey.isEmpty then context.requestId else context.idempotencyKey

end AuthorityCallContext

/-! ### Events -/

/-- An immutable fact with a position in the sequence of its source. -/
structure Event where
  sequence : Nat
  source : Identity
  subject : Identity
  kind : String
  observedAtUnixMs : Nat
  schemaId : String
  body : List UInt8
deriving DecidableEq

/-- The checks that an event passes before it is published or replayed. -/
def Event.validate (event : Event) : Except ContractError Unit := do
  if event.sequence = 0 then
    throw ⟨"EVENT_SEQUENCE_INVALID", "event sequence must be non-zero"⟩
  event.source.validate
  event.subject.validate
  validateNamespacedId "event kind" event.kind
  validateTimestamp "event observed time" event.observedAtUnixMs
  validateNamespacedId "event schema id" event.schemaId
  if event.body.length > maxEventBodyBytes then
    throw ⟨"EVENT_BODY_LIMIT_EXCEEDED", "event body exceeds the semantic contract limit"⟩

/-- An event in the namespace it was published in. -/
structure DurableEventRecord where
  ns : String
  event : Event
deriving DecidableEq

/-- How far a reader has come in the sequence of a source. -/
structure EventCursor where
  source : Identity
  sequence : Nat
deriving DecidableEq

/-- Whether the events after a cursor are all there, or lost, or those of another source. -/
inductive ReplayStatus
  | current
  | gap
  | sourceChanged
deriving DecidableEq

namespace EventCursor

/-- A gap means that the event after the cursor is no longer retained. -/
def statusAgainst (cursor : EventCursor) (currentSource : Identity)
    (oldestAvailableSequence : Nat) : ReplayStatus :=
  if cursor.source ≠ currentSource then .sourceChanged
  else if 0 < oldestAvailableSequence ∧
      saturatingAdd cursor.sequence 1 < oldestAvailableSequence then .gap
  else .current

end EventCursor

/-- The answer to a reader: the events after its cursor and the bounds of what is retained. -/
structure EventPage where
  source : Identity
  status : ReplayStatus
  events : List Event
  oldestAvailableSequence : Nat
  latestAvailableSequence : Nat
  nextSequence : Nat

end CyreneKernel
