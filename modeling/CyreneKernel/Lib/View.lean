import CyreneKernel.Lib.Outcome

/-!
# Weakest preconditions over a view of the state

A computation often works on one part of its state and keeps books beside it: counters, logs,
caches.  `Holds view m c Q E` states what `m` does to the part seen through `view`, from every state
whose view is `c`, whatever the rest of the state is.  A computation is `Silent` when no outcome
of it moves the view, and `Harmless` when it does not fail either; such computations disappear from
a proof.

## Main definitions

* `Holds`: weakest preconditions over a view.
* `Silent`, `Harmless`: computations that do not move the view.

## Main results

* `Holds.bind`, `Holds.mono`: sequencing and consequence.
* `Silent.holds_bind`, `Harmless.holds_bind`: such a computation before another one.
-/

namespace CyreneKernel.Lib

variable {ε ε' σ τ α β : Type} {view : σ → τ}

/-- From every state with view `c`, the computation ends in `Q` when it returns and in `E` when it
fails. -/
def Holds (view : σ → τ) (m : EStateM ε σ α) (c : τ) (Q : α → τ → Prop) (E : τ → Prop) : Prop :=
  ∀ s, view s = c → Ensures m s (fun a s' => Q a (view s')) (fun _ s' => E (view s'))

/-- No outcome of the computation moves the view. -/
def Silent (view : σ → τ) (m : EStateM ε σ α) : Prop := ∀ s, view (finalState (m s)) = view s

/-- The computation returns, and does not move the view. -/
def Harmless (view : σ → τ) (m : EStateM ε σ α) : Prop :=
  ∀ c, Holds view m c (fun _ c' => c' = c) fun _ => False

section Rules

variable {c : τ} {Q Q' : α → τ → Prop} {R : β → τ → Prop} {E E' : τ → Prop}
  {m : EStateM ε σ α} {f : α → EStateM ε σ β}

/-- The rule of consequence. -/
theorem Holds.mono (hm : Holds view m c Q E) (hQ : ∀ a c', Q a c' → Q' a c')
    (hE : ∀ c', E c' → E' c') : Holds view m c Q' E' :=
  fun s hs => (hm s hs).mono (fun a s' => hQ a (view s')) fun _ s' => hE (view s')

/-- Sequencing through the specification of the first computation. -/
theorem Holds.bind (hm : Holds view m c Q E) (hf : ∀ a c', Q a c' → Holds view (f a) c' R E) :
    Holds view (m >>= f) c R E :=
  fun s hs => (hm s hs).bind fun a s' h => hf a (view s') h s' rfl

/-- Two specifications of one computation hold together. -/
theorem Holds.and (hm : Holds view m c Q E) (hm' : Holds view m c Q' E') :
    Holds view m c (fun a c' => Q a c' ∧ Q' a c') fun c' => E c' ∧ E' c' :=
  fun s hs => (hm s hs).and (hm' s hs)

theorem Holds.pure {a : α} (h : Q a c) : Holds view (pure a : EStateM ε σ α) c Q E := by
  rintro s rfl
  exact h

theorem Holds.throw {e : ε} (h : E c) : Holds view (throw e : EStateM ε σ α) c Q E := by
  rintro s rfl
  exact h

theorem Holds.throw_bind {e : ε} (h : E c) :
    Holds view ((MonadExcept.throw e : EStateM ε σ α) >>= f) c R E := by
  rintro s rfl
  exact h

theorem Holds.get {f : σ → EStateM ε σ β} (hf : ∀ s, view s = c → Holds view (f s) c R E) :
    Holds view (get >>= f) c R E :=
  fun s hs => (ensures_bind _ _).2 (hf s hs s hs)

theorem Holds.set {t : σ} {f : PUnit → EStateM ε σ β} (hf : Holds view (f ⟨⟩) (view t) R E) :
    Holds view (set t >>= f) c R E :=
  fun _ _ => (ensures_bind _ _).2 (hf t rfl)

theorem Holds.modify {g : σ → σ} {Q : PUnit → τ → Prop} (h : ∀ s, view s = c → Q ⟨⟩ (view (g s))) :
    Holds view (modify g : EStateM ε σ PUnit) c Q E :=
  h

theorem holds_modify_bind {g : σ → σ} {f : PUnit → EStateM ε σ β}
    (hf : ∀ s, view s = c → Holds view (f ⟨⟩) (view (g s)) R E) :
    Holds view (modify g >>= f) c R E :=
  (Holds.modify hf).bind fun _ _ h => h

theorem Holds.rejectIf {p : Prop} [Decidable p] {e : ε} {f : Unit → EStateM ε σ β} (hE : E c)
    (hf : ¬ p → Holds view (f ()) c R E) : Holds view (rejectIf p e >>= f) c R E := by
  rintro s rfl
  rw [ensures_bind, ensures_rejectIf]
  exact ⟨fun _ => hE, fun hp => hf hp s rfl⟩

theorem Holds.okOr {o : Option α} {e : ε} (hE : E c)
    (hf : ∀ a, o = some a → Holds view (f a) c R E) : Holds view (okOr o e >>= f) c R E := by
  rintro s rfl
  rw [ensures_bind, ensures_okOr]
  exact ⟨fun _ => hE, fun a ha => hf a ha s rfl⟩

theorem Holds.liftExcept {wrap : ε' → ε} {x : Except ε' α} (hE : E c)
    (hf : ∀ a, x = .ok a → Holds view (f a) c R E) :
    Holds view (liftExcept wrap x >>= f) c R E := by
  rintro s rfl
  rw [ensures_bind, ensures_liftExcept]
  exact ⟨fun _ _ => hE, fun a ha => hf a ha s rfl⟩

theorem Holds.attempt {Q : Except ε α → τ → Prop} {E : τ → Prop} {E₀ : τ → Prop}
    (hm : Holds view m c (fun a c' => Q (.ok a) c') E₀) (hE : ∀ e c', E₀ c' → Q (.error e) c') :
    Holds view (attempt m : EStateM ε' σ (Except ε α)) c Q E :=
  fun s hs => (ensures_attempt m).2 ((hm s hs).mono (fun _ _ h => h) fun e s' => hE e (view s'))

theorem Holds.ite {p : Prop} [Decidable p] {m m' : EStateM ε σ α}
    (hm : p → Holds view m c Q E) (hm' : ¬ p → Holds view m' c Q E) :
    Holds view (if p then m else m') c Q E := by
  split
  · next h => exact hm h
  · next h => exact hm' h

/-- What holds of every outcome holds of the final state. -/
theorem Holds.finalState {s : σ} (h : Holds view m (view s) (fun _ c' => E c') E) :
    E (view (finalState (m s))) :=
  Ensures.finalState (h s rfl)

/-- What holds of the outcome holds of the returned value. -/
theorem Holds.value {s : σ} {a : α} (h : Holds view m (view s) Q E) (ha : value? (m s) = some a) :
    Q a (view (Lib.finalState (m s))) := by
  have hm := h s rfl
  unfold Ensures at hm
  split at hm
  · next heq =>
    rw [heq, value?_ok, Option.some.injEq] at ha
    rw [heq, finalState_ok, ← ha]
    exact hm
  · next heq => simp [heq] at ha

theorem Holds.finalState_id {s : σ} {P : σ → Prop} (h : Holds id m s (fun _ => P) P) :
    P (Lib.finalState (m s)) :=
  Holds.finalState h

end Rules

/-! ### Silent computations -/

section Silent

variable {c : τ} {R : β → τ → Prop} {E : τ → Prop} {m : EStateM ε σ α} {f : α → EStateM ε σ β}

theorem silent_iff_ensures :
    Silent view m ↔
      ∀ s, Ensures m s (fun _ s' => view s' = view s) (fun _ s' => view s' = view s) := by
  refine forall_congr' fun s => ?_
  unfold Ensures
  cases m s <;> rfl

theorem silent_iff_holds :
    Silent view m ↔ ∀ c, Holds view m c (fun _ c' => c' = c) (fun c' => c' = c) := by
  rw [silent_iff_ensures]
  constructor
  · rintro h c s rfl
    exact h s
  · exact fun h s => h (view s) s rfl

theorem Silent.holds (h : Silent view m) (c : τ) :
    Holds view m c (fun _ c' => c' = c) (fun c' => c' = c) :=
  silent_iff_holds.1 h c

/-- A silent computation before another one. -/
theorem Silent.holds_bind (hm : Silent view m) (hE : E c) (hf : ∀ a, Holds view (f a) c R E) :
    Holds view (m >>= f) c R E := by
  refine ((hm.holds c).mono (fun _ _ h => h) ?_).bind ?_
  · rintro _ rfl
    exact hE
  · rintro a _ rfl
    exact hf a

/-- A silent computation at the end. -/
theorem Silent.holds_of (hm : Silent view m) {Q : α → τ → Prop} (hE : E c) (hQ : ∀ a, Q a c) :
    Holds view m c Q E := by
  refine (hm.holds c).mono ?_ ?_
  · rintro a _ rfl
    exact hQ a
  · rintro _ rfl
    exact hE

theorem Silent.bind (hm : Silent view m) (hf : ∀ a, Silent view (f a)) :
    Silent view (m >>= f) :=
  silent_iff_holds.2 fun c => hm.holds_bind rfl fun a => (hf a).holds c

theorem Silent.pure (a : α) : Silent view (pure a : EStateM ε σ α) := fun _ => rfl

theorem Silent.throw (e : ε) : Silent view (throw e : EStateM ε σ α) := fun _ => rfl

theorem Silent.get : Silent view (get : EStateM ε σ σ) := fun _ => rfl

theorem Silent.rejectIf (p : Prop) [Decidable p] (e : ε) :
    Silent view (rejectIf p e : EStateM ε σ Unit) := by
  unfold Lib.rejectIf
  split
  · exact .throw e
  · exact .pure ()

theorem Silent.liftExcept (wrap : ε' → ε) (x : Except ε' α) :
    Silent view (liftExcept wrap x : EStateM ε σ α) := by
  cases x with
  | error e => exact .throw (wrap e)
  | ok a => exact .pure a

end Silent

/-! ### Harmless computations -/

section Harmless

variable {c : τ} {R : β → τ → Prop} {E : τ → Prop} {m : EStateM ε σ α} {f : α → EStateM ε σ β}

theorem Harmless.silent (hm : Harmless view m) : Silent view m :=
  silent_iff_holds.2 fun c => (hm c).mono (fun _ _ h => h) fun _ h => h.elim

/-- A harmless computation before another one. -/
theorem Harmless.holds_bind (hm : Harmless view m) (hf : ∀ a, Holds view (f a) c R E) :
    Holds view (m >>= f) c R E := by
  refine ((hm c).mono (fun _ _ h => h) fun _ h => h.elim).bind ?_
  rintro a _ rfl
  exact hf a

theorem Harmless.bind (hm : Harmless view m) (hf : ∀ a, Harmless view (f a)) :
    Harmless view (m >>= f) :=
  fun c => hm.holds_bind fun a => hf a c

theorem Harmless.pure (a : α) : Harmless view (pure a : EStateM ε σ α) := fun _ => Holds.pure rfl

theorem Harmless.get : Harmless view (get : EStateM ε σ σ) := fun _ _ hs => hs

theorem Harmless.modify {g : σ → σ} (h : ∀ s, view (g s) = view s) :
    Harmless view (modify g : EStateM ε σ PUnit) :=
  fun _ s hs => (h s).trans hs

theorem Silent.harmless_attempt (hm : Silent view m) :
    Harmless view (attempt m : EStateM ε' σ (Except ε α)) :=
  fun c => (hm.holds c).attempt fun _ _ h => h

end Harmless

end CyreneKernel.Lib
