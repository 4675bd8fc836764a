import CyreneKernel.Lib.Index
import Mathlib.Algebra.Ring.Nat

/-!
# Identities and field validation of the semantic contract

The bounds of the contract, its error type, the validators shared by all contract objects, and
the identity every object carries.  An identity is a caller-chosen text and a generation;
identities are ordered by the text first, as the ordered maps of the authority require.
-/

namespace CyreneKernel

open Std (TransOrd TransCmp LawfulEqOrd)
open Lib

def maxIdBytes : Nat := 256

def maxNamespacedIdBytes : Nat := 128

def maxCapabilities : Nat := 64

def maxProperties : Nat := 64

def maxResourcesPerSnapshot : Nat := 1024

def maxResourcesPerLease : Nat := 256

def maxExecutionRefBytes : Nat := 512

def maxConnectionRefBytes : Nat := 512

def maxEventBodyBytes : Nat := 64 * 1024

def maxTimestampUnixMs : Nat := 253402300799999

/-- The largest 64-bit unsigned value. -/
def u64Max : Nat := 2 ^ 64 - 1

/-- Addition of 64-bit unsigned values that stops at the largest one. -/
def saturatingAdd (a b : Nat) : Nat := min (a + b) u64Max

structure ContractError where
  reasonCode : String
  message : String
deriving DecidableEq

/-- A Unicode control character (general category `Cc`). -/
def isControl (c : Char) : Bool :=
  c.toNat < 0x20 || (0x7f ≤ c.toNat && c.toNat ≤ 0x9f)

variable (byte : UInt8) (field value : String)

/-- The UTF-8 bytes of a text. -/
def bytesOf : List UInt8 := value.toUTF8.data.toList

def isAsciiLowercase : Bool := 97 ≤ byte && byte ≤ 122

def isAsciiUppercase : Bool := 65 ≤ byte && byte ≤ 90

def isAsciiDigit : Bool := 48 ≤ byte && byte ≤ 57

/-- The separators `.`, `-` and `_` of a namespaced identifier. -/
def isSeparator : Bool := byte == 46 || byte == 45 || byte == 95

def validateText (maxBytes : Nat) : Except ContractError Unit :=
  if value.isEmpty || value.utf8ByteSize > maxBytes || value.toList.any isControl then
    .error ⟨"TEXT_INVALID",
      s!"{field} must be non-empty, bounded UTF-8 without control characters"⟩
  else
    .ok ()

/-- The byte loop of `validateNamespacedId`; the flag says that a segment has to start here. -/
def validateSegments (field : String) : List UInt8 → Bool → Except ContractError Unit
  | [], expectSegmentStart =>
    if expectSegmentStart then
      .error ⟨"NAMESPACED_ID_INVALID", s!"{field} cannot end with a separator"⟩
    else .ok ()
  | byte :: rest, expectSegmentStart =>
    if isSeparator byte then
      if expectSegmentStart then
        .error ⟨"NAMESPACED_ID_INVALID", s!"{field} contains an empty identifier segment"⟩
      else validateSegments field rest true
    else if expectSegmentStart then
      if !isAsciiLowercase byte then
        .error ⟨"NAMESPACED_ID_INVALID",
          s!"{field} segments must start with a lower-case letter"⟩
      else validateSegments field rest false
    else if !(isAsciiLowercase byte || isAsciiDigit byte) then
      .error ⟨"NAMESPACED_ID_INVALID", s!"{field} contains an unsupported character"⟩
    else validateSegments field rest expectSegmentStart

def validateNamespacedId : Except ContractError Unit := do
  validateText field value maxNamespacedIdBytes
  validateSegments field (bytesOf value) true

def validateTimestamp (unixMs : Nat) : Except ContractError Unit :=
  if unixMs == 0 || unixMs > maxTimestampUnixMs then
    .error ⟨"TIMESTAMP_INVALID",
      s!"{field} must be a positive Protobuf-compatible Unix millisecond value"⟩
  else .ok ()

def validateProperties (properties : BTreeMap String String) : Except ContractError Unit := do
  if properties.size > maxProperties then
    throw ⟨"PROPERTY_LIMIT_EXCEEDED", "object has too many properties"⟩
  properties.toList.forM fun (key, value) => do
    validateNamespacedId "property key" key
    validateText "property value" value maxIdBytes

/-! ### Identities -/

structure Identity where
  id : String
  generation : Nat
deriving DecidableEq

namespace Identity

instance : Ord Identity := ⟨compareLex (compareOn id) (compareOn generation)⟩

instance : TransOrd Identity :=
  inferInstanceAs (TransCmp (compareLex (compareOn id) (compareOn generation)))

instance : LawfulEqOrd Identity :=
  lawfulEqCmp_compareLex (by rintro ⟨⟩ ⟨⟩ ⟨⟩ ⟨⟩; rfl)

def validate (identity : Identity) : Except ContractError Unit := do
  validateText "identity id" identity.id maxIdBytes
  if identity.generation = 0 then
    throw ⟨"GENERATION_INVALID", "identity generation must be non-zero"⟩

end Identity

end CyreneKernel
