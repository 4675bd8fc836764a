import CyreneKernel.Lib.Outcome

/-!
# Guard clauses of pure computations

A pure computation that may fail is mostly a sequence of checks.  `failIf` and `foundOr` are its
guard clauses and its lookups; their `eq_ok` lemmas turn a sequence of them that returned into the
list of checks that it passed.

## Main definitions

* `failIf`, `foundOr`: a check, and a lookup that has to succeed.

## Main results

* `failIf_eq_ok`, `foundOr_eq_ok`: what is known after a check.
* `failIf_eq_error`, `foundOr_eq_error`: which check failed.
* `mapM_eq_ok_iff`: a check of every item of a list.
* `toOption_congr`: two computations that return the same values.
-/

namespace CyreneKernel.Lib

variable {ε α : Type} {p : Prop} [Decidable p] {e : ε}

/-- Fail with `e` when `p` holds. -/
def failIf (p : Prop) [Decidable p] (e : ε) : Except ε Unit := if p then .error e else .ok ()

/-- The value that is there, or the failure `e` when there is none. -/
def foundOr (o : Option α) (e : ε) : Except ε α :=
  match o with
  | some a => .ok a
  | none => .error e

@[simp] theorem failIf_eq_ok {u : Unit} : failIf p e = .ok u ↔ ¬ p := by
  unfold failIf
  split
  · next h => simp [h]
  · next h => simp [h]

variable {a : α} {l : List α} {x : Except ε α}

@[simp] theorem foundOr_eq_ok {o : Option α} : foundOr o e = .ok a ↔ o = some a := by
  cases o <;> simp [foundOr]

/-- A sequence fails when one of its steps does. -/
theorem except_bind_eq_error {β : Type} {f : α → Except ε β} :
    (x >>= f) = .error e ↔ x = .error e ∨ ∃ a, x = .ok a ∧ f a = .error e := by
  cases x <;> simp [bind, Except.bind]

theorem failIf_eq_error {e' : ε} : failIf p e = .error e' ↔ p ∧ e = e' := by
  unfold failIf
  split
  · next h => simp [h]
  · next h => simp [h]

theorem foundOr_eq_error {o : Option α} {e' : ε} : foundOr o e = .error e' ↔ o = none ∧ e = e' := by
  cases o <;> simp [foundOr]

@[simp] theorem mapError_eq_ok {ε' : Type} {f : ε → ε'} : x.mapError f = .ok a ↔ x = .ok a := by
  cases x with
  | ok b =>
    change (Except.ok b : Except ε' α) = .ok a ↔ _
    rw [Except.ok.injEq, Except.ok.injEq]
  | error e =>
    change (Except.error (f e) : Except ε' α) = .ok a ↔ _
    exact iff_of_false (by simp) (by simp)

theorem toOption_eq_some {a : α} : x.toOption = some a ↔ x = .ok a := by
  cases x <;> simp [Except.toOption]

theorem toOption_congr {ε' : Type} {y : Except ε' α} (h : ∀ a, x = .ok a ↔ y = .ok a) :
    x.toOption = y.toOption := by
  cases x with
  | ok a => rw [(h a).1 rfl]; rfl
  | error e =>
    cases y with
    | ok a => exact nomatch (h a).2 rfl
    | error e' => rfl

theorem toOption_eq_none (h : ∀ a, x ≠ .ok a) : x.toOption = none := by
  cases x with
  | ok a => exact absurd rfl (h a)
  | error e => rfl

/-- A computation on every item of a list returns when it does on each of them. -/
theorem mapM_eq_ok_iff {f : α → Except ε α} {P : α → Prop} (hf : ∀ a b, f a = .ok b ↔ P a ∧ b = a)
    {l' : List α} : l.mapM f = .ok l' ↔ (∀ a ∈ l, P a) ∧ l' = l := by
  induction l generalizing l' with
  | nil =>
    rw [List.mapM_nil, except_pure_eq_ok, eq_comm]
    simp
  | cons a l ih =>
    simp only [List.mapM_cons, except_bind_eq_ok, except_pure_eq_ok, hf, ih, List.forall_mem_cons]
    constructor
    · rintro ⟨_, ⟨ha, rfl⟩, _, ⟨hl, rfl⟩, rfl⟩
      exact ⟨⟨ha, hl⟩, rfl⟩
    · rintro ⟨⟨ha, hl⟩, rfl⟩
      exact ⟨a, ⟨ha, rfl⟩, l, ⟨hl, rfl⟩, rfl⟩

/-- What is in the result of a computation on every item comes from one of the items. -/
theorem exists_of_mem_mapM {β : Type} {f : α → Except ε β} {l' : List β} (h : l.mapM f = .ok l')
    {b : β} (hb : b ∈ l') : ∃ a ∈ l, f a = .ok b := by
  induction l generalizing l' with
  | nil =>
    rw [List.mapM_nil, except_pure_eq_ok] at h
    subst h
    cases hb
  | cons a l ih =>
    simp only [List.mapM_cons, except_bind_eq_ok, except_pure_eq_ok] at h
    obtain ⟨b', hb', l'', hl'', rfl⟩ := h
    rcases List.mem_cons.1 hb with rfl | hb
    · exact ⟨a, List.mem_cons_self, hb'⟩
    · obtain ⟨a', ha', h⟩ := ih hl'' hb
      exact ⟨a', List.mem_cons_of_mem _ ha', h⟩

/-- Every item of a loop that returned was passed. -/
theorem exists_of_mem_foldlM {β : Type} {f : β → α → Except ε β} {b result : β}
    (h : l.foldlM f b = .ok result) (ha : a ∈ l) : ∃ b' b'', f b' a = .ok b'' := by
  induction l generalizing b with
  | nil => cases ha
  | cons a' l ih =>
    rw [List.foldlM_cons, except_bind_eq_ok] at h
    obtain ⟨b', hb', hrest⟩ := h
    rcases List.mem_cons.1 ha with rfl | ha
    · exact ⟨b, b', hb'⟩
    · exact ih hrest ha

/-- What is known after a loop of checks. -/
theorem forM_eq_ok {f : α → Except ε Unit} {u : Unit} :
    l.forM f = .ok u ↔ ∀ a ∈ l, f a = .ok () := by
  induction l with
  | nil => simp [List.forM, pure, Except.pure]
  | cons a l ih =>
    rw [List.forM_eq_forM] at ih ⊢
    rw [List.forM_cons, except_bind_eq_ok, List.forall_mem_cons, exists_unit, ih]

end CyreneKernel.Lib
