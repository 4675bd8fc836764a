import CyreneKernel.Lib.Checks
import CyreneKernel.Lib.Index

/-!
# Reading a map from a list

A list of raw entries is read one after the other into an ordered map.  Reading an entry may fail,
and so does an entry whose key was read before.

## Main definitions

* `collect`: the map of all entries.
* `BTreeMap.insertAll`: the map of values that have a key, where the last one counts.
* `Fresh`: no key of a list occurs twice, or was seen before.

## Main results

* `collect_toList`: a map that was written as a list is read back.
* `BTreeMap.getElem?_insertAll`: the values of a list without repeated keys.
-/

namespace CyreneKernel.Lib

open Std (TransOrd LawfulEqOrd)

variable {α β γ ε : Type} [Ord α] [TransOrd α] [LawfulEqOrd α] [DecidableEq α]

/-- Read one entry into a map. -/
def collectInto (read : γ → Except ε (α × β)) (repeated : ε) (m : BTreeMap α β) (entry : γ) :
    Except ε (BTreeMap α β) := do
  let (key, value) ← read entry
  failIf (m.contains key) repeated
  return m.insert key value

/-- Read a list of entries, no two of them for the same key. -/
def collect (read : γ → Except ε (α × β)) (repeated : ε) (entries : List γ) :
    Except ε (BTreeMap α β) :=
  entries.foldlM (collectInto read repeated) ∅

section Collect

variable {read : γ → Except ε (α × β)} {repeated : ε} {m m' : BTreeMap α β} {entries : List γ}

theorem collectInto_eq_ok {entry : γ} (h : collectInto read repeated m entry = .ok m') {k : α}
    {v : β} : m'[k]? = some v ↔ m[k]? = some v ∨ read entry = .ok (k, v) := by
  simp only [collectInto, except_bind_eq_ok, except_pure_eq_ok, failIf_eq_ok] at h
  obtain ⟨⟨key, value⟩, hread, _, hnew, rfl⟩ := h
  rw [BTreeMap.getElem?_insert, hread]
  by_cases heq : key = k
  · subst heq
    have hnone : m[key]? = none := by
      rwa [Std.ExtTreeMap.contains_eq_isSome_getElem?, Option.not_isSome_iff_eq_none] at hnew
    simp [hnone]
  · simp [heq]

theorem foldlM_collectInto_eq_ok (h : entries.foldlM (collectInto read repeated) m = .ok m')
    {k : α} {v : β} :
    m'[k]? = some v ↔ m[k]? = some v ∨ ∃ entry ∈ entries, read entry = .ok (k, v) := by
  induction entries generalizing m with
  | nil =>
    rw [List.foldlM_nil, except_pure_eq_ok] at h
    simp [h]
  | cons entry entries ih =>
    rw [List.foldlM_cons, except_bind_eq_ok] at h
    obtain ⟨m'', hentry, hrest⟩ := h
    rw [ih hrest, collectInto_eq_ok hentry, or_assoc]
    simp

/-- What a map is written to is read back as the map, if it is read at all. -/
theorem collect_toList {write : α × β → γ}
    (hread : ∀ {entry entry'}, read (write entry) = .ok entry' → entry' = entry)
    (h : collect read repeated (m.toList.map write) = .ok m') : m' = m := by
  refine Std.ExtTreeMap.ext_getElem? fun k => Option.ext fun v => ?_
  rw [foldlM_collectInto_eq_ok h, Std.ExtTreeMap.getElem?_empty,
    ← Std.ExtTreeMap.mem_toList_iff_getElem?_eq_some]
  constructor
  · rintro (h | ⟨_, hentry, hok⟩)
    · cases h
    · obtain ⟨entry, hmem, rfl⟩ := List.mem_map.1 hentry
      exact hread hok ▸ hmem
  · intro hmem
    have hmem := List.mem_map_of_mem (f := write) hmem
    obtain ⟨_, _, hinto⟩ := exists_of_mem_foldlM h hmem
    obtain ⟨entry, hok, -⟩ := except_bind_eq_ok.1 hinto
    exact .inr ⟨_, hmem, hread hok ▸ hok⟩

end Collect

/-! ### Values that have a key -/

section Values

variable {key : β → α}

/-- Insert every value of a list under its key; the last one with a key stays. -/
def BTreeMap.insertAll (key : β → α) (m : BTreeMap α β) (l : List β) : BTreeMap α β :=
  l.foldl (fun m v => m.insert (key v) v) m

omit [LawfulEqOrd α] [DecidableEq α] in
theorem BTreeMap.insertAll_cons (m : BTreeMap α β) (v : β) (l : List β) :
    BTreeMap.insertAll key m (v :: l) = BTreeMap.insertAll key (m.insert (key v) v) l := rfl

theorem BTreeMap.getElem?_insertAll {l : List β} (hnodup : (l.map key).Nodup)
    (m : BTreeMap α β) {k : α} {v : β} :
    (BTreeMap.insertAll key m l)[k]? = some v ↔
      (v ∈ l ∧ key v = k) ∨ (m[k]? = some v ∧ ∀ w ∈ l, key w ≠ k) := by
  induction l generalizing m with
  | nil => simp [BTreeMap.insertAll]
  | cons w l ih =>
    obtain ⟨hfresh, hnodup⟩ := List.nodup_cons.1 hnodup
    rw [BTreeMap.insertAll_cons, ih hnodup, BTreeMap.getElem?_insert]
    by_cases hk : key w = k
    · have hnone : ∀ u ∈ l, key u ≠ k := fun u hu heq =>
        hfresh (List.mem_map.2 ⟨u, hu, heq.trans hk.symm⟩)
      constructor
      · rintro (⟨hv, hkey⟩ | ⟨hw, -⟩)
        · exact absurd hkey (hnone v hv)
        · rw [if_pos hk] at hw
          exact .inl ⟨Option.some.inj hw ▸ List.mem_cons_self, Option.some.inj hw ▸ hk⟩
      · rintro (⟨hv, hkey⟩ | ⟨-, hnot⟩)
        · rcases List.mem_cons.1 hv with rfl | hv
          · exact .inr ⟨if_pos hk, hnone⟩
          · exact absurd hkey (hnone v hv)
        · exact absurd hk (hnot w List.mem_cons_self)
    · rw [if_neg hk]
      simp only [List.mem_cons, forall_eq_or_imp]
      constructor
      · rintro (⟨hv, hkey⟩ | ⟨hm, hnot⟩)
        · exact .inl ⟨.inr hv, hkey⟩
        · exact .inr ⟨hm, hk, hnot⟩
      · rintro (⟨rfl | hv, hkey⟩ | ⟨hm, -, hnot⟩)
        · exact absurd hkey hk
        · exact .inl ⟨hv, hkey⟩
        · exact .inr ⟨hm, hnot⟩

omit [DecidableEq α] in
theorem BTreeMap.size_insertAll {l : List β} (hnodup : (l.map key).Nodup)
    {m : BTreeMap α β} (hfresh : ∀ v ∈ l, key v ∉ m) :
    (BTreeMap.insertAll key m l).size = m.size + l.length := by
  induction l generalizing m with
  | nil => rfl
  | cons w l ih =>
    obtain ⟨hnew, hnodup⟩ := List.nodup_cons.1 hnodup
    have hnot : ¬ m.contains (key w) = true := fun hmem =>
      hfresh w List.mem_cons_self (Std.ExtTreeMap.contains_iff_mem.1 hmem)
    rw [BTreeMap.insertAll_cons, ih hnodup, Std.ExtTreeMap.size_insert, if_neg hnot,
      List.length_cons, Nat.add_right_comm, Nat.add_assoc]
    intro v hv
    rw [Std.ExtTreeMap.mem_insert, Std.compare_eq_iff_eq, not_or]
    exact ⟨fun heq => hnew (List.mem_map.2 ⟨v, hv, heq.symm⟩), hfresh v (List.mem_cons_of_mem _ hv)⟩

end Values

/-! ### Keys that were not seen before -/

section Fresh

variable {α β : Type} {key : β → α} {seen : α → Prop} {b : β} {l : List β}

/-- The keys of a list are distinct, and none of them was seen before. -/
def Fresh (key : β → α) (seen : α → Prop) (l : List β) : Prop :=
  (∀ b ∈ l, ¬ seen (key b)) ∧ (l.map key).Nodup

theorem fresh_cons :
    Fresh key seen (b :: l) ↔ ¬ seen (key b) ∧ Fresh key (fun k => key b = k ∨ seen k) l := by
  simp only [Fresh, List.forall_mem_cons, List.map_cons, List.nodup_cons, List.mem_map, not_exists,
    not_and, not_or, forall_and, eq_comm]
  tauto

theorem fresh_false : Fresh key (fun _ => False) l ↔ (l.map key).Nodup :=
  and_iff_right fun _ _ => id

end Fresh

end CyreneKernel.Lib
