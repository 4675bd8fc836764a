import Mathlib.Data.List.Basic
import Std.Data.ExtTreeMap
import Std.Data.ExtTreeSet

/-!
# Ordered maps, and maps indexed by a field of their values

`BTreeMap` and `BTreeSet` are the extensional ordered collections of the standard library at the
order of their key type.  An `Index key` is an ordered map in which every value `v` is stored
under `key v`; the structure carries that law, so that iterating over the values loses nothing.

## Main definitions

* `BTreeMap`, `BTreeSet`.
* `BTreeMap.Evolves`: the entries of a map change along a relation.
* `Index`: a map whose values are stored under a field of their own.

## Main results

* `Index.get?_insert`, `Index.get?_map`: lookups after an update.
* `Index.mem_values`: the values of an index are what its lookups find.
-/

namespace CyreneKernel.Lib

open Std (TransOrd LawfulEqOrd ExtTreeMap ExtTreeSet)

/-- The order of a record by two fields, for a record that has no others. -/
theorem lawfulEqCmp_compareLex {α β γ : Type} [Ord β] [LawfulEqOrd β] [Ord γ] [LawfulEqOrd γ]
    {f : α → β} {g : α → γ} (h : ∀ a b, f a = f b → g a = g b → a = b) :
    Std.LawfulEqCmp (compareLex (compareOn f) (compareOn g)) where
  eq_of_compare {a b} heq := by
    obtain ⟨hf, hg⟩ := Ordering.then_eq_eq.1 heq
    exact h a b (Std.compare_eq_iff_eq.1 hf) (Std.compare_eq_iff_eq.1 hg)
  compare_self := Std.ReflCmp.compare_self

/-- An ordered map. -/
abbrev BTreeMap (α β : Type) [Ord α] := ExtTreeMap α β compare

/-- An ordered set. -/
abbrev BTreeSet (α : Type) [Ord α] := ExtTreeSet α compare

section Collections

variable {α β : Type} [Ord α] [TransOrd α] [LawfulEqOrd α] [DecidableEq α]

theorem BTreeMap.getElem?_insert (m : BTreeMap α β) (k a : α) (v : β) :
    (m.insert k v)[a]? = if k = a then some v else m[a]? := by
  simp only [ExtTreeMap.getElem?_insert, Std.compare_eq_iff_eq]

theorem BTreeMap.getElem?_erase (m : BTreeMap α β) (k a : α) :
    (m.erase k)[a]? = if k = a then none else m[a]? := by
  simp only [ExtTreeMap.getElem?_erase, Std.compare_eq_iff_eq]

variable {k : α} (t : BTreeSet α) (l : List α)

theorem BTreeMap.modify_of_none {m : BTreeMap α β} (f : β → β) (h : m[k]? = none) :
    m.modify k f = m := by
  refine ExtTreeMap.ext_getElem? fun a => ?_
  rw [ExtTreeMap.getElem?_modify]
  simp only [Std.compare_eq_iff_eq]
  split
  · next heq => rw [← heq, h, Option.map_none]
  · rfl

theorem BTreeMap.modify_of_some {m : BTreeMap α β} {v : β} (f : β → β) (h : m[k]? = some v) :
    m.modify k f = m.insert k (f v) := by
  refine ExtTreeMap.ext_getElem? fun a => ?_
  rw [ExtTreeMap.getElem?_modify, BTreeMap.getElem?_insert]
  simp only [Std.compare_eq_iff_eq, h, Option.map_some]

/-- Storing an entry that is there changes nothing. -/
theorem BTreeMap.insert_of_some {m : BTreeMap α β} {v : β} (h : m[k]? = some v) :
    m.insert k v = m := by
  refine ExtTreeMap.ext_getElem? fun a => ?_
  rw [BTreeMap.getElem?_insert]
  split
  · next heq => rw [← heq, h]
  · rfl

omit [DecidableEq α] in
/-- An entry that the filter keeps is still there. -/
theorem BTreeMap.getElem?_filter_of_forall {m : BTreeMap α β} {p : α → β → Bool}
    (h : ∀ v, m[k]? = some v → p k v = true) : (m.filter p)[k]? = m[k]? := by
  rw [ExtTreeMap.getElem?_filter']
  cases hv : m[k]? with
  | none => rfl
  | some v => rw [Option.filter_some, if_pos (h v hv)]

omit [DecidableEq α] in
/-- What the filter leaves was there before. -/
theorem BTreeMap.getElem?_of_filter {m : BTreeMap α β} {p : α → β → Bool} {v : β}
    (h : (m.filter p)[k]? = some v) : m[k]? = some v ∧ p k v = true := by
  rwa [ExtTreeMap.getElem?_filter', Option.filter_eq_some_iff] at h

/-- Every entry stays stored, and its value changes along a relation. -/
def BTreeMap.Evolves (r : β → β → Prop) (m m' : BTreeMap α β) : Prop :=
  ∀ ⦃k : α⦄ ⦃v : β⦄, m[k]? = some v → ∃ v', m'[k]? = some v' ∧ r v v'

section Evolves

variable {r : β → β → Prop} {m m' m'' : BTreeMap α β}

omit [DecidableEq α] [LawfulEqOrd α] in
theorem BTreeMap.Evolves.refl (hr : ∀ v, r v v) (m : BTreeMap α β) : Evolves r m m :=
  fun _ v h => ⟨v, h, hr v⟩

omit [DecidableEq α] [LawfulEqOrd α] in
theorem BTreeMap.Evolves.trans (hr : ∀ {u v w}, r u v → r v w → r u w) (h : Evolves r m m')
    (h' : Evolves r m' m'') : Evolves r m m'' := by
  intro k v hv
  obtain ⟨v', hv', hvv'⟩ := h hv
  obtain ⟨v'', hv'', hv'v''⟩ := h' hv'
  exact ⟨v'', hv'', hr hvv' hv'v''⟩

/-- An entry may be written when what it replaces is related to it. -/
theorem BTreeMap.Evolves.insert (hr : ∀ v, r v v) {k : α} {v : β}
    (h : ∀ {u}, m[k]? = some u → r u v) : Evolves r m (m.insert k v) := by
  intro a u hu
  by_cases heq : k = a
  · subst heq
    exact ⟨v, by rw [BTreeMap.getElem?_insert, if_pos rfl], h hu⟩
  · exact ⟨u, by rw [BTreeMap.getElem?_insert, if_neg heq, hu], hr u⟩

end Evolves

omit [DecidableEq α] in
theorem BTreeMap.any_toList_eq_false {m : BTreeMap α β} {p : α × β → Bool} :
    m.toList.any p = false ↔ ∀ k v, m[k]? = some v → ¬ p (k, v) := by
  simp only [List.any_eq_false, Prod.forall, ExtTreeMap.mem_toList_iff_getElem?_eq_some]

omit [DecidableEq α] in
theorem BTreeSet.mem_insert (t : BTreeSet α) (k a : α) : a ∈ t.insert k ↔ k = a ∨ a ∈ t := by
  simp only [ExtTreeSet.mem_insert, Std.compare_eq_iff_eq]

omit [DecidableEq α] in
theorem BTreeSet.mem_erase (t : BTreeSet α) (k a : α) : a ∈ t.erase k ↔ k ≠ a ∧ a ∈ t := by
  simp only [ExtTreeSet.mem_erase, Std.compare_eq_iff_eq, ne_eq]

/-- Insert the elements of a list one after the other. -/
def BTreeSet.insertList : BTreeSet α := l.foldl (·.insert ·) t

/-- Remove the elements of a list one after the other. -/
def BTreeSet.eraseList : BTreeSet α := l.foldl (·.erase ·) t

omit [DecidableEq α] in
@[simp] theorem BTreeSet.mem_insertList (a : α) : a ∈ BTreeSet.insertList t l ↔ a ∈ l ∨ a ∈ t := by
  induction l generalizing t with
  | nil => simp [BTreeSet.insertList]
  | cons b l ih =>
    have h := ih (t.insert b)
    rw [BTreeSet.mem_insert] at h
    simp only [BTreeSet.insertList, List.foldl_cons, List.mem_cons] at h ⊢
    tauto

omit [DecidableEq α] in
@[simp] theorem BTreeSet.mem_eraseList (a : α) : a ∈ BTreeSet.eraseList t l ↔ a ∉ l ∧ a ∈ t := by
  induction l generalizing t with
  | nil => simp [BTreeSet.eraseList]
  | cons b l ih =>
    have h := ih (t.erase b)
    rw [BTreeSet.mem_erase] at h
    simp only [BTreeSet.eraseList, List.foldl_cons, List.mem_cons, not_or] at h ⊢
    tauto

end Collections

/-- An ordered map in which every value is stored under its own `key`. -/
structure Index {α β : Type} [Ord α] [TransOrd α] [LawfulEqOrd α] (key : β → α) where
  /-- The stored entries. -/
  entries : BTreeMap α β
  /-- Every value is stored under its key. -/
  key_eq : ∀ {k v}, entries[k]? = some v → key v = k

namespace Index

variable {α β : Type} [Ord α] [TransOrd α] [LawfulEqOrd α] {key : β → α}

/-- The index without entries. -/
def empty : Index key := ⟨∅, by simp⟩

variable (ix : Index key)

/-- The value stored under `k`. -/
def get? (k : α) : Option β := ix.entries[k]?

/-- Whether some value is stored under `k`. -/
def contains (k : α) : Bool := (ix.get? k).isSome

/-- Store `v` under its key, replacing what was there. -/
def insert (ix : Index key) (v : β) : Index key where
  entries := ix.entries.insert (key v) v
  key_eq {k w} h := by
    rw [ExtTreeMap.getElem?_insert] at h
    split_ifs at h with hk
    · obtain rfl := Option.some.inj h
      exact Std.compare_eq_iff_eq.1 hk
    · exact ix.key_eq h

/-- Store the values of a list one after the other; a later value replaces an earlier one. -/
def ofList (l : List β) : Index key := l.foldl insert empty

/-- Rewrite every value by a function that keeps its key. -/
def map (ix : Index key) (f : β → β) (hf : ∀ v, key (f v) = key v) : Index key where
  entries := ix.entries.map fun _ v => f v
  key_eq {k w} h := by
    simp only [ExtTreeMap.getElem?_map, Option.map_eq_some_iff] at h
    obtain ⟨v, hv, rfl⟩ := h
    rw [hf, ix.key_eq hv]

/-- The stored values, in the order of their keys. -/
def values : List β := ix.entries.toList.map Prod.snd

theorem key_of_get? {ix : Index key} {k : α} {v : β} (h : ix.get? k = some v) : key v = k :=
  ix.key_eq h

@[ext] theorem ext {ix ix' : Index key} (h : ∀ k, ix.get? k = ix'.get? k) : ix = ix' := by
  obtain ⟨m, hm⟩ := ix
  obtain ⟨m', hm'⟩ := ix'
  obtain rfl : m = m' := ExtTreeMap.ext_getElem? h
  rfl

instance [DecidableEq α] [DecidableEq β] : DecidableEq (Index key) := fun ix ix' =>
  decidable_of_iff (ix.entries = ix'.entries)
    ⟨fun h => ext fun k => by simp only [get?, h], fun h => by rw [h]⟩

/-- Whether the index has no entries. -/
def isEmpty (ix : Index key) : Bool := ix.entries.isEmpty

@[simp] theorem get?_empty (k : α) : (empty : Index key).get? k = none := by
  simp [empty, get?]

@[simp] theorem get?_insert [DecidableEq α] (v : β) (k : α) :
    (ix.insert v).get? k = if key v = k then some v else ix.get? k := by
  simp only [get?, insert, BTreeMap.getElem?_insert]

@[simp] theorem get?_map (f : β → β) (hf : ∀ v, key (f v) = key v) (k : α) :
    (ix.map f hf).get? k = (ix.get? k).map f := by
  simp only [get?, map, ExtTreeMap.getElem?_map]

theorem mem_values {ix : Index key} {v : β} : v ∈ ix.values ↔ ix.get? (key v) = some v := by
  simp only [values, List.mem_map, Prod.exists, exists_eq_right,
    ExtTreeMap.mem_toList_iff_getElem?_eq_some, get?]
  constructor
  · rintro ⟨k, hk⟩
    rwa [ix.key_eq hk]
  · exact fun h => ⟨_, h⟩

/-- Different values have different keys. -/
theorem pairwise_values : ix.values.Pairwise fun v w => key v ≠ key w := by
  rw [values, List.pairwise_map]
  refine ExtTreeMap.distinct_keys_toList.imp_of_mem fun {a b} ha hb hne heq => ?_
  rw [ix.key_eq (ExtTreeMap.mem_toList_iff_getElem?_eq_some.1 ha),
    ix.key_eq (ExtTreeMap.mem_toList_iff_getElem?_eq_some.1 hb)] at heq
  exact hne (Std.compare_eq_iff_eq.2 heq)

end Index

end CyreneKernel.Lib
