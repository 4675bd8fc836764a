import CyreneKernel.Authority.Model
import CyreneKernel.Lib.Text

/-!
# Runtime names

Outside the default namespace a runtime name spells out namespace, id and generation, the two texts
behind their lengths, and so it determines its object.  In the default namespace it is the bare id:
the generation is lost, and a caller can choose an id that spells out another object.

## Main definitions

* `Collide`: the objects that share a runtime name.

## Main results

* `scopedRuntimeName_eq_iff`: runtime names coincide exactly for equal and for colliding objects.
* `scopedRuntimeName_inj`: one identity has different runtime names in different namespaces.
-/

namespace CyreneKernel

open Lib

variable {kind : String} {ns ns' : NamespaceId} {identity : Identity}

/-- What follows the namespace in a scoped runtime name. -/
def nameSuffix (identity : Identity) : List Char :=
  "-i".toList ++ Nat.toDigits 10 identity.id.utf8ByteSize ++ '-' :: identity.id.toList ++
    "-g".toList ++ Nat.toDigits 10 identity.generation

theorem toList_scopedRuntimeName (hns : ns ≠ default) :
    (scopedRuntimeName kind ⟨ns, identity⟩).toList =
      (kind.toList ++ "-n".toList) ++ (Lib.segment ns.asStr ++ nameSuffix identity) := by
  unfold scopedRuntimeName nameSuffix Lib.segment
  rw [if_neg hns]
  simp [String.toList_append, Nat.repr]

theorem scopedRuntimeName_default : scopedRuntimeName kind ⟨default, identity⟩ = identity.id :=
  if_pos rfl

theorem nameSuffix_inj {identity' : Identity} (h : nameSuffix identity = nameSuffix identity') :
    identity = identity' := by
  have hsegment : ∀ identity : Identity, nameSuffix identity = "-i".toList ++
      (Lib.segment identity.id ++ ("-g".toList ++ Nat.toDigits 10 identity.generation)) := by
    simp [nameSuffix, Lib.segment]
  rw [hsegment, hsegment, List.append_cancel_left_eq] at h
  obtain ⟨hid, hrest⟩ := segment_append_inj h
  rw [List.append_cancel_left_eq] at hrest
  have hgeneration := (toDigits_append_inj delimited_nil delimited_nil
    (congrArg (· ++ []) hrest)).1
  obtain ⟨id, generation⟩ := identity
  obtain ⟨id', generation'⟩ := identity'
  exact congrArg₂ Identity.mk hid hgeneration

/-- Outside the default namespace a runtime name determines its object. -/
theorem eq_of_scopedRuntimeName {identity' : Identity} (hns : ns ≠ default) (hns' : ns' ≠ default)
    (h : scopedRuntimeName kind ⟨ns, identity⟩ = scopedRuntimeName kind ⟨ns', identity'⟩) :
    ns = ns' ∧ identity = identity' := by
  have hlist := congrArg String.toList h
  rw [toList_scopedRuntimeName hns, toList_scopedRuntimeName hns',
    List.append_cancel_left_eq] at hlist
  obtain ⟨hname, hsuffix⟩ := segment_append_inj hlist
  refine ⟨?_, nameSuffix_inj hsuffix⟩
  obtain ⟨asStr, _⟩ := ns
  obtain ⟨asStr', _⟩ := ns'
  obtain rfl : asStr = asStr' := hname
  rfl

theorem scopedRuntimeName_ne_id (hns : ns ≠ default) :
    scopedRuntimeName kind ⟨ns, identity⟩ ≠ identity.id := by
  intro h
  have hlength := congrArg (fun name => name.toList.length) h
  simp only [toList_scopedRuntimeName hns, nameSuffix, List.length_append, List.length_cons]
    at hlength
  omega

/-- One identity has different runtime names in different namespaces. -/
theorem scopedRuntimeName_inj
    (h : scopedRuntimeName kind ⟨ns, identity⟩ = scopedRuntimeName kind ⟨ns', identity⟩) :
    ns = ns' := by
  by_cases hns : ns = default
  · by_cases hns' : ns' = default
    · rw [hns, hns']
    · rw [hns, scopedRuntimeName_default] at h
      exact absurd h.symm (scopedRuntimeName_ne_id hns')
  · by_cases hns' : ns' = default
    · rw [hns', scopedRuntimeName_default] at h
      exact absurd h (scopedRuntimeName_ne_id hns)
    · exact (eq_of_scopedRuntimeName hns hns' h).1

/-- The default namespace gives an object the runtime name of another one: they are generations of
one id there, or the id of one of them spells out the other. -/
def Collide (kind : String) (object object' : ObjectRef) : Prop :=
  object ≠ object' ∧
    (object.ns = default ∧ object'.ns = default ∧ object.identity.id = object'.identity.id ∨
      object.ns = default ∧ object'.ns ≠ default ∧
        object.identity.id = scopedRuntimeName kind object' ∨
      object.ns ≠ default ∧ object'.ns = default ∧
        object'.identity.id = scopedRuntimeName kind object)

instance (kind : String) (object object' : ObjectRef) : Decidable (Collide kind object object') :=
  inferInstanceAs (Decidable (_ ∧ _))

theorem Collide.symm {kind : String} {object object' : ObjectRef}
    (h : Collide kind object object') : Collide kind object' object := by
  obtain ⟨hne, ⟨hns, hns', hid⟩ | hid | hid⟩ := h
  · exact ⟨hne.symm, .inl ⟨hns', hns, hid.symm⟩⟩
  · exact ⟨hne.symm, .inr (.inr ⟨hid.2.1, hid.1, hid.2.2⟩)⟩
  · exact ⟨hne.symm, .inr (.inl ⟨hid.2.1, hid.1, hid.2.2⟩)⟩

/-- Runtime names coincide exactly for equal and for colliding objects. -/
theorem scopedRuntimeName_eq_iff {object object' : ObjectRef} :
    scopedRuntimeName kind object = scopedRuntimeName kind object' ↔
      object = object' ∨ Collide kind object object' := by
  obtain ⟨ns, identity⟩ := object
  obtain ⟨ns', identity'⟩ := object'
  unfold Collide
  by_cases hns : ns = default
  · by_cases hns' : ns' = default
    · subst hns hns'
      simp only [scopedRuntimeName_default, ne_eq, not_true_eq_false, false_and, and_false,
        or_false, true_and]
      refine ⟨fun h => (em _).imp_right fun hne => ⟨hne, h⟩, ?_⟩
      rintro (heq | ⟨-, h⟩)
      · rw [ObjectRef.mk.inj heq |>.2]
      · exact h
    · subst hns
      have hne : (⟨default, identity⟩ : ObjectRef) ≠ ⟨ns', identity'⟩ :=
        fun heq => hns' (ObjectRef.mk.inj heq).1.symm
      simp [scopedRuntimeName_default, hns', hne]
  · by_cases hns' : ns' = default
    · subst hns'
      have hne : (⟨ns, identity⟩ : ObjectRef) ≠ ⟨default, identity'⟩ :=
        fun heq => hns (ObjectRef.mk.inj heq).1
      simp [scopedRuntimeName_default, hns, hne, eq_comm]
    · simp only [hns, hns', false_and, and_false, or_false]
      constructor
      · intro h
        obtain ⟨rfl, rfl⟩ := eq_of_scopedRuntimeName hns hns' h
        rfl
      · rintro heq
        rw [heq]

end CyreneKernel
