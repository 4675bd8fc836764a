import Mathlib.Data.Multiset.UnionInter

/-!
# Greedy matching

Requests are matched one after the other with slots: a request takes the first slot that is free and
has its key.  No request or slot is matched twice, and as many are matched as the keys allow,
whatever the order.

## Main definitions

* `claim`: the first free slot with a property.
* `assign`: the matching of a list of requests.
* `free`: the slots that are left.

## Main results

* `map_fst_assign`, `assign_perm`: every request and every slot occurs once.
* `coe_matched`: the matched keys are the intersection of the requests and the keys of the slots.
* `assign_complete_iff`: everything is matched when requests and slots have the same keys.
-/

namespace CyreneKernel.Lib

variable {α β : Type}

/-- The slots that are not taken. -/
def free (slots : List (β × Bool)) : List β := (slots.filter (!·.2)).map Prod.fst

/-- The first free slot with a property, and the slots after it was taken. -/
def claim (p : β → Bool) : List (β × Bool) → Option (β × List (β × Bool))
  | [] => none
  | (b, taken) :: slots =>
    if !taken && p b then some (b, (b, true) :: slots)
    else (claim p slots).map fun claimed => (claimed.1, (b, taken) :: claimed.2)

theorem free_cons (b : β) (taken : Bool) (slots : List (β × Bool)) :
    free ((b, taken) :: slots) = if taken then free slots else b :: free slots := by
  cases taken <;> rfl

theorem free_start (bs : List β) : free (bs.map fun b => (b, false)) = bs := by
  induction bs with
  | nil => rfl
  | cons b bs ih => rw [List.map_cons, free_cons, ih]; rfl

/-- A claimed slot has the property, and is the only one that is taken. -/
theorem claim_eq_some {p : β → Bool} {slots slots' : List (β × Bool)} {b : β}
    (h : claim p slots = some (b, slots')) : p b = true ∧ (free slots).Perm (b :: free slots') := by
  induction slots generalizing slots' with
  | nil => exact absurd h (by simp [claim])
  | cons slot slots ih =>
    obtain ⟨b', taken⟩ := slot
    rw [claim] at h
    split_ifs at h with hfree
    · obtain ⟨rfl, rfl⟩ := Prod.mk.inj (Option.some.inj h)
      rw [Bool.and_eq_true, Bool.not_eq_true'] at hfree
      obtain ⟨rfl, hp⟩ := hfree
      exact ⟨hp, .refl _⟩
    · rw [Option.map_eq_some_iff] at h
      obtain ⟨⟨c, rest⟩, hclaim, heq⟩ := h
      obtain ⟨rfl, rfl⟩ := Prod.mk.inj heq
      obtain ⟨hp, hperm⟩ := ih hclaim
      refine ⟨hp, ?_⟩
      rw [free_cons, free_cons]
      split
      · exact hperm
      · exact (hperm.cons b').trans (.swap c b' _)

theorem claim_eq_none {p : β → Bool} {slots : List (β × Bool)} (h : claim p slots = none) :
    ∀ b ∈ free slots, p b = false := by
  induction slots with
  | nil => exact fun b hb => absurd hb List.not_mem_nil
  | cons slot slots ih =>
    obtain ⟨b', taken⟩ := slot
    rw [claim] at h
    split_ifs at h with hfree
    rw [Option.map_eq_none_iff] at h
    intro b hb
    rw [free_cons] at hb
    split_ifs at hb with htaken
    · exact ih h b hb
    · rcases List.mem_cons.1 hb with rfl | hb
      · simpa [htaken] using hfree
      · exact ih h b hb

section Assign

variable [DecidableEq α] (key : β → Option α)

/-- Match requests with slots, each with the first free slot that has its key. -/
def assign : List α → List (β × Bool) → List (α × Option β) × List (β × Bool)
  | [], slots => ([], slots)
  | a :: as, slots =>
    match claim (fun b => key b = some a) slots with
    | some (b, slots') => ((a, some b) :: (assign as slots').1, (assign as slots').2)
    | none => ((a, none) :: (assign as slots).1, (assign as slots).2)

variable (as : List α) (slots : List (β × Bool))

theorem map_fst_assign : (assign key as slots).1.map Prod.fst = as := by
  induction as generalizing slots with
  | nil => rfl
  | cons a as ih =>
    rw [assign]
    cases claim (fun b => decide (key b = some a)) slots with
    | none | some claimed => rw [List.map_cons, ih]

/-- The matched slots and the remaining ones are the slots that were free. -/
theorem assign_perm :
    (free slots).Perm ((assign key as slots).1.filterMap Prod.snd ++
      free (assign key as slots).2) := by
  induction as generalizing slots with
  | nil => exact .refl _
  | cons a as ih =>
    rw [assign]
    cases hclaim : claim (fun b => decide (key b = some a)) slots with
    | none => exact ih slots
    | some claimed => exact (claim_eq_some hclaim).2.trans ((ih claimed.2).cons claimed.1)

variable {key} in
theorem key_of_mem_assign {as : List α} {slots : List (β × Bool)} {a : α} {b : β}
    (h : (a, some b) ∈ (assign key as slots).1) : key b = some a := by
  induction as generalizing slots with
  | nil => exact absurd h List.not_mem_nil
  | cons a' as ih =>
    rw [assign] at h
    cases hclaim : claim (fun b => decide (key b = some a')) slots with
    | none =>
      rw [hclaim] at h
      rcases List.mem_cons.1 h with heq | h
      · exact absurd (Prod.mk.inj heq).2 (by simp)
      · exact ih h
    | some claimed =>
      rw [hclaim] at h
      rcases List.mem_cons.1 h with heq | h
      · obtain ⟨rfl, hb⟩ := Prod.mk.inj heq
        rw [Option.some.inj hb]
        exact of_decide_eq_true (claim_eq_some hclaim).1
      · exact ih h

/-- The matched keys are the intersection of the requests and the keys of the free slots, as
multisets. -/
theorem coe_matched (as : List α) (slots : List (β × Bool)) :
    (((assign key as slots).1.filterMap Prod.snd).map key : Multiset (Option α)) =
      (as.map some : Multiset (Option α)) ∩ ((free slots).map key : Multiset (Option α)) := by
  induction as generalizing slots with
  | nil => simp [assign]
  | cons a as ih =>
    rw [assign, List.map_cons, ← Multiset.cons_coe]
    cases hclaim : claim (fun b => decide (key b = some a)) slots with
    | none =>
      have hnotMem : some a ∉ ((free slots).map key : Multiset (Option α)) := by
        rw [Multiset.mem_coe, List.mem_map]
        rintro ⟨b, hb, hkey⟩
        simpa [hkey] using claim_eq_none hclaim b hb
      rw [Multiset.cons_inter_of_neg _ hnotMem]
      exact ih slots
    | some claimed =>
      obtain ⟨hkey, hperm⟩ := claim_eq_some hclaim
      have hkeys : ((free slots).map key : Multiset (Option α)) =
          some a ::ₘ ((free claimed.2).map key : Multiset (Option α)) := by
        rw [Multiset.cons_coe, ← of_decide_eq_true hkey, ← List.map_cons]
        exact Multiset.coe_eq_coe.2 (hperm.map key)
      rw [hkeys, Multiset.cons_inter_of_pos _ (Multiset.mem_cons_self _ _),
        Multiset.erase_cons_head, ← ih claimed.2, Multiset.cons_coe, ← of_decide_eq_true hkey]
      rfl

/-- All requests and all free slots are matched exactly if they have the same keys. -/
theorem assign_complete_iff (as : List α) (slots : List (β × Bool)) :
    ((∀ p ∈ (assign key as slots).1, p.2.isSome) ∧ free (assign key as slots).2 = []) ↔
      (as.map some).Perm ((free slots).map key) := by
  have hlength : (assign key as slots).1.length = as.length := by
    rw [← List.length_map Prod.fst, map_fst_assign key]
  have hslots := (assign_perm key as slots).length_eq
  have hmatched := coe_matched key as slots
  rw [List.length_append] at hslots
  rw [← List.filterMap_length_eq_length, hlength]
  constructor
  · rintro ⟨hall, hnone⟩
    rw [hnone, List.length_nil, Nat.add_zero] at hslots
    have hkeys : ((free slots).map key : Multiset (Option α)) =
        (((assign key as slots).1.filterMap Prod.snd).map key : Multiset (Option α)) := by
      have hperm := assign_perm key as slots
      rw [hnone, List.append_nil] at hperm
      exact Multiset.coe_eq_coe.2 (hperm.map key)
    rw [← hkeys] at hmatched
    have hle : ((free slots).map key : Multiset (Option α)) ≤ (as.map some : Multiset (Option α)) :=
      hmatched ▸ Multiset.inter_le_left
    refine (Multiset.coe_eq_coe.1 (Multiset.eq_of_le_of_card_le hle ?_)).symm
    simp only [Multiset.coe_card, List.length_map]
    rw [hslots, hall]
  · intro hperm
    rw [Multiset.coe_eq_coe.2 hperm, ← Multiset.inf_eq_inter, inf_idem] at hmatched
    have hcard := congrArg Multiset.card hmatched
    have hperm' := hperm.length_eq
    simp only [Multiset.coe_card, List.length_map] at hcard hperm'
    refine ⟨by omega, List.eq_nil_of_length_eq_zero (by omega)⟩

end Assign

end CyreneKernel.Lib
