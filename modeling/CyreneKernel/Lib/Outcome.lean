import Mathlib.Logic.Relation

/-!
# Weakest preconditions of stateful computations that can fail

A computation in `EStateM ε σ α` runs from a state and either returns a value or fails with an
error; both outcomes carry a final state, so a failure keeps whatever was written before it.
This file gives the computations that guard clauses and lookups turn into, the embedding of a
computation on a component of the state, and a weakest-precondition calculus for all of them.

`Ensures m s Q E` says that `m`, run from `s`, ends in `Q` when it returns and in `E` when it
fails.  One `simp` lemma per constructor reduces `Ensures` of a program to a formula about its
starting state; `Ensures.mono` and `Ensures.bind` use the specification of a callee instead.

## Main definitions

* `rejectIf`, `okOr`, `liftExcept`, `attempt`: guard clauses, fallible lookups, pure fallible
  computations, and computations whose failure is ignored.
* `zoom`: a computation on a component of the state.
* `Ensures`: weakest preconditions.

## Main results

* `ensures_bind`, `Ensures.bind`, `Ensures.mono`: sequencing and consequence.
-/

namespace CyreneKernel.Lib

variable {ε ε' σ τ α β : Type}

/-! ### Computations -/

/-- Fail with `e` when `p` holds. -/
def rejectIf (p : Prop) [Decidable p] (e : ε) : EStateM ε σ Unit :=
  if p then throw e else pure ()

/-- The value of an optional lookup, or the failure `e` when there is none. -/
def okOr (o : Option α) (e : ε) : EStateM ε σ α :=
  match o with
  | some a => pure a
  | none => throw e

/-- A pure computation that may fail, with its failure renamed by `wrap`. -/
def liftExcept (wrap : ε' → ε) (x : Except ε' α) : EStateM ε σ α :=
  match x with
  | .ok a => pure a
  | .error e => throw (wrap e)

/-- Run `m` and report its outcome as a value; the state written before a failure is kept. -/
def attempt (m : EStateM ε σ α) : EStateM ε' σ (Except ε α) := fun s =>
  match m s with
  | .ok a s' => .ok (.ok a) s'
  | .error e s' => .ok (.error e) s'

/-- Run `m` on the component of the state read by `view` and written by `put`. -/
def zoom (view : σ → τ) (put : τ → σ → σ) (wrap : ε' → ε) (m : EStateM ε' τ α) :
    EStateM ε σ α := fun s =>
  match m (view s) with
  | .ok a t => .ok a (put t s)
  | .error e t => .error (wrap e) (put t s)

/-- The final state of an outcome. -/
def finalState : EStateM.Result ε σ α → σ
  | .ok _ s => s
  | .error _ s => s

/-- The value of a computation that returned. -/
def value? : EStateM.Result ε σ α → Option α
  | .ok a _ => some a
  | .error _ _ => none

@[simp] theorem finalState_ok (a : α) (s : σ) :
    finalState (.ok a s : EStateM.Result ε σ α) = s := rfl

@[simp] theorem finalState_error (e : ε) (s : σ) :
    finalState (.error e s : EStateM.Result ε σ α) = s := rfl

@[simp] theorem value?_ok (a : α) (s : σ) :
    value? (.ok a s : EStateM.Result ε σ α) = some a := rfl

@[simp] theorem value?_error (e : ε) (s : σ) :
    value? (.error e s : EStateM.Result ε σ α) = none := rfl

theorem okOr_some (a : α) (e : ε) : (okOr (some a) e : EStateM ε σ α) = pure a := rfl

theorem liftExcept_ok (wrap : ε' → ε) (a : α) :
    (liftExcept wrap (.ok a) : EStateM ε σ α) = pure a := rfl

theorem rejectIf_of_not {p : Prop} [Decidable p] (h : ¬ p) (e : ε) :
    (rejectIf p e : EStateM ε σ Unit) = pure () :=
  if_neg h

/-! ### Pure computations that return -/

theorem exists_unit {p : Unit → Prop} : (∃ u, p u) ↔ p () := ⟨fun ⟨_, h⟩ => h, fun h => ⟨(), h⟩⟩

theorem except_bind_eq_ok {x : Except ε α} {f : α → Except ε β} {b : β} :
    (x >>= f) = .ok b ↔ ∃ a, x = .ok a ∧ f a = .ok b := by
  cases x <;> simp [bind, Except.bind]

theorem except_throw_eq_ok {e : ε} {a : α} : (throw e : Except ε α) = .ok a ↔ False := by
  simp [throw, throwThe, MonadExceptOf.throw]

theorem except_pure_eq_ok {a b : α} : (pure a : Except ε α) = .ok b ↔ a = b := by
  simp [pure, Except.pure]

/-! ### Stateful computations that return -/

theorem bind_eq_ok {m : EStateM ε σ α} {f : α → EStateM ε σ β} {b : β} {s s' : σ} :
    (m >>= f) s = .ok b s' ↔ ∃ a s₁, m s = .ok a s₁ ∧ f a s₁ = .ok b s' := by
  change EStateM.bind m f s = .ok b s' ↔ _
  unfold EStateM.bind
  cases m s with
  | ok a s₁ =>
    refine ⟨fun hf => ⟨a, s₁, rfl, hf⟩, ?_⟩
    rintro ⟨_, _, ⟨⟩, hf⟩
    exact hf
  | error e s₁ => exact iff_of_false (fun h => nomatch h) fun ⟨_, _, h, _⟩ => nomatch h

theorem pure_eq_ok {a b : α} {s s' : σ} :
    (pure a : EStateM ε σ α) s = .ok b s' ↔ a = b ∧ s = s' := by
  change EStateM.Result.ok a s = .ok b s' ↔ _
  rw [EStateM.Result.ok.injEq]

theorem rejectIf_eq_ok {p : Prop} [Decidable p] {e : ε} {s s' : σ} :
    (rejectIf p e : EStateM ε σ Unit) s = .ok () s' ↔ ¬ p ∧ s = s' := by
  unfold rejectIf
  split
  · next hp => exact iff_of_false (fun h => nomatch h) fun h => h.1 hp
  · next hp => rw [pure_eq_ok]; simp [hp]

/-! ### Weakest preconditions -/

/-- Run from `s`, the computation `m` ends in `Q` when it returns and in `E` when it fails. -/
def Ensures (m : EStateM ε σ α) (s : σ) (Q : α → σ → Prop) (E : ε → σ → Prop) : Prop :=
  match m s with
  | .ok a s' => Q a s'
  | .error e s' => E e s'

section Rules

variable {s : σ} {Q Q' : α → σ → Prop} {E E' : ε → σ → Prop}

variable {m : EStateM ε σ α}

theorem Ensures.finalState {P : σ → Prop} (h : Ensures m s (fun _ => P) fun _ => P) :
    P (finalState (m s)) := by
  unfold Ensures at h
  split at h
  · next heq => simpa only [heq, finalState_ok] using h
  · next heq => simpa only [heq, finalState_error] using h

theorem eq_ok_iff_ensures {a : α} {t : σ} :
    m s = .ok a t ↔ Ensures m s (fun b s' => b = a ∧ s' = t) (fun _ _ => False) := by
  unfold Ensures
  cases m s <;> simp

theorem exists_ok_iff_ensures :
    (∃ a s', m s = .ok a s' ∧ Q a s') ↔ Ensures m s Q fun _ _ => False := by
  unfold Ensures
  cases m s with
  | ok a s' =>
    refine ⟨?_, fun h => ⟨a, s', rfl, h⟩⟩
    rintro ⟨_, _, ⟨⟩, h⟩
    exact h
  | error e s' => exact iff_of_false (fun ⟨_, _, h, _⟩ => nomatch h) id

/-- The rule of consequence. -/
theorem Ensures.mono (hm : Ensures m s Q E) (hQ : ∀ a s', Q a s' → Q' a s')
    (hE : ∀ e s', E e s' → E' e s') : Ensures m s Q' E' := by
  unfold Ensures at hm ⊢
  split at hm
  · exact hQ _ _ hm
  · exact hE _ _ hm

theorem Ensures.and (hm : Ensures m s Q E) (hm' : Ensures m s Q' E') :
    Ensures m s (fun a s' => Q a s' ∧ Q' a s') fun e s' => E e s' ∧ E' e s' := by
  unfold Ensures at hm hm' ⊢
  split
  · next heq => exact ⟨by simpa only [heq] using hm, by simpa only [heq] using hm'⟩
  · next heq => exact ⟨by simpa only [heq] using hm, by simpa only [heq] using hm'⟩

@[simp] theorem ensures_pure (a : α) : Ensures (pure a : EStateM ε σ α) s Q E ↔ Q a s := Iff.rfl

@[simp] theorem ensures_throw (e : ε) :
    Ensures (throw e : EStateM ε σ α) s Q E ↔ E e s := Iff.rfl

@[simp] theorem ensures_get {Q : σ → σ → Prop} :
    Ensures (get : EStateM ε σ σ) s Q E ↔ Q s s := Iff.rfl

@[simp] theorem ensures_set {Q : PUnit → σ → Prop} (t : σ) :
    Ensures (set t : EStateM ε σ PUnit) s Q E ↔ Q ⟨⟩ t := Iff.rfl

@[simp] theorem ensures_modify {Q : PUnit → σ → Prop} (f : σ → σ) :
    Ensures (modify f : EStateM ε σ PUnit) s Q E ↔ Q ⟨⟩ (f s) := Iff.rfl

@[simp] theorem ensures_bind {Q : β → σ → Prop} (m : EStateM ε σ α) (f : α → EStateM ε σ β) :
    Ensures (m >>= f) s Q E ↔ Ensures m s (fun a s' => Ensures (f a) s' Q E) E := by
  simp only [Ensures, bind, EStateM.bind]
  cases m s <;> rfl

@[simp] theorem ensures_map {Q : β → σ → Prop} (f : α → β) (m : EStateM ε σ α) :
    Ensures (f <$> m) s Q E ↔ Ensures m s (fun a s' => Q (f a) s') E := by
  simp only [Ensures, Functor.map, EStateM.map]
  cases m s <;> rfl

@[simp] theorem ensures_rejectIf {Q : Unit → σ → Prop} (p : Prop) [Decidable p] (e : ε) :
    Ensures (rejectIf p e) s Q E ↔ (p → E e s) ∧ (¬ p → Q () s) := by
  unfold rejectIf
  by_cases hp : p <;> simp [hp]

@[simp] theorem ensures_okOr (o : Option α) (e : ε) :
    Ensures (okOr o e) s Q E ↔ (o = none → E e s) ∧ (∀ a, o = some a → Q a s) := by
  cases o <;> simp [okOr]

@[simp] theorem ensures_liftExcept (wrap : ε' → ε) (x : Except ε' α) :
    Ensures (liftExcept wrap x) s Q E ↔
      (∀ e, x = .error e → E (wrap e) s) ∧ (∀ a, x = .ok a → Q a s) := by
  cases x <;> simp [liftExcept]

@[simp] theorem ensures_attempt {E : ε' → σ → Prop} {Q : Except ε α → σ → Prop}
    (m : EStateM ε σ α) :
    Ensures (attempt m) s Q E ↔
      Ensures m s (fun a s' => Q (.ok a) s') (fun e s' => Q (.error e) s') := by
  simp only [Ensures, attempt]
  cases m s <;> rfl

@[simp] theorem ensures_zoom (view : σ → τ) (put : τ → σ → σ) (wrap : ε' → ε)
    (m : EStateM ε' τ α) :
    Ensures (zoom view put wrap m) s Q E ↔
      Ensures m (view s) (fun a t => Q a (put t s)) (fun e t => E (wrap e) (put t s)) := by
  simp only [Ensures, zoom]
  cases m (view s) <;> rfl

@[simp] theorem ensures_ite (p : Prop) [Decidable p] (m m' : EStateM ε σ α) :
    Ensures (if p then m else m') s Q E ↔ (p → Ensures m s Q E) ∧ (¬ p → Ensures m' s Q E) := by
  by_cases hp : p <;> simp [hp]

/-- Sequencing through the specification of the first computation. -/
theorem Ensures.bind {Q : β → σ → Prop} {P : α → σ → Prop} {f : α → EStateM ε σ β}
    (hm : Ensures m s P E) (hf : ∀ a s', P a s' → Ensures (f a) s' Q E) : Ensures (m >>= f) s Q E :=
  (ensures_bind m f).2 (hm.mono hf fun _ _ h => h)

end Rules

end CyreneKernel.Lib
