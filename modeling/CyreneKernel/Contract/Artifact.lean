import CyreneKernel.Contract.Validation
import CyreneKernel.Lib.Checks

/-!
# Artifact references

An artifact is named by the digest of its content.  Its reference repeats the digest in a URI, and
has the size and the category of the artifact.
-/

namespace CyreneKernel

open Lib

/-- A character that `trim` removes (Unicode property `White_Space`). -/
def isWhitespace (c : Char) : Bool :=
  (0x09 ≤ c.toNat && c.toNat ≤ 0x0d) || c.toNat == 0x20 || c.toNat == 0x85 || c.toNat == 0xa0 ||
    c.toNat == 0x1680 || (0x2000 ≤ c.toNat && c.toNat ≤ 0x200a) || c.toNat == 0x2028 ||
    c.toNat == 0x2029 || c.toNat == 0x202f || c.toNat == 0x205f || c.toNat == 0x3000

/-- A category of artifacts, which its producer chooses. -/
structure ArtifactKind where
  value : String
deriving DecidableEq

def ArtifactKind.new (value : String) : Except String ArtifactKind := do
  failIf (value.toList.all isWhitespace ∨ (bytesOf value).length > 128 ∨ value.toList.any isControl)
    "artifact kind must be a bounded non-empty identifier"
  return ⟨value⟩

def ArtifactKind.generic : ArtifactKind := ⟨"generic"⟩

/-- A digest in its canonical form. -/
def isDigest (value : String) : Bool :=
  (bytesOf value).take 7 == bytesOf "sha256:" && ((bytesOf value).drop 7).length == 64 &&
    ((bytesOf value).drop 7).all fun byte => isAsciiDigit byte || (97 ≤ byte && byte ≤ 102)

def validateDigest (value : String) : Except String Unit :=
  failIf (isDigest value = false) "digest must be lowercase sha256:<hex>"

structure ArtifactRef where
  uri : String
  digest : String
  sizeBytes : Nat
  kind : ArtifactKind
  manifestDigest : Option String
deriving DecidableEq

def ArtifactRef.validate (artifact : ArtifactRef) : Except String Unit := do
  let _ ← ArtifactKind.new artifact.kind.value
  validateDigest artifact.digest
  failIf (bytesOf artifact.uri ≠
      bytesOf "artifact://sha256/" ++ (bytesOf artifact.digest).drop 7)
    "Artifact URI does not match its canonical digest"
  match artifact.manifestDigest with
  | some manifestDigest => validateDigest manifestDigest
  | none => .ok ()

/-! ### What is known of a valid reference -/

theorem ArtifactKind.new_eq_ok {value : String} {kind : ArtifactKind}
    (h : ArtifactKind.new value = .ok kind) : kind = ⟨value⟩ := by
  simp only [ArtifactKind.new, except_bind_eq_ok, except_pure_eq_ok] at h
  obtain ⟨_, -, rfl⟩ := h
  rfl

theorem validateDigest_eq_ok {value : String} {u : Unit} :
    validateDigest value = .ok u ↔ isDigest value = true := by
  rw [validateDigest, failIf_eq_ok, Bool.not_eq_false]

variable {artifact : ArtifactRef} {u : Unit}

theorem ArtifactRef.kind_of_validate (h : artifact.validate = .ok u) :
    ArtifactKind.new artifact.kind.value = .ok artifact.kind := by
  simp only [ArtifactRef.validate, except_bind_eq_ok] at h
  obtain ⟨kind, hkind, -⟩ := h
  rw [hkind, ArtifactKind.new_eq_ok hkind]

theorem ArtifactRef.manifestDigest_of_validate (h : artifact.validate = .ok u) :
    artifact.manifestDigest ≠ some "" := by
  simp only [ArtifactRef.validate, except_bind_eq_ok] at h
  obtain ⟨-, -, -, -, -, -, hmanifest⟩ := h
  intro hempty
  rw [hempty] at hmanifest
  have hdigest := validateDigest_eq_ok.1 hmanifest
  cases hdigest

end CyreneKernel
