import Mathlib.Data.List.Infix
import Mathlib.Logic.Relation

/-!
# Runs of a labelled transition function

A component is a transition function `step : σ → ι → σ` from states and inputs to states.  A run
is the list of its inputs.  `run step s ls` is the state a run reaches, and `Along step C s ls`
says that every input of the run meets the condition `C` in the state it is applied to.

## Main results

* `run_induction`: an invariant preserved by every admissible step holds at the end of every
  admissible run.
* `along_iff_forall_reached`: when, under the invariant, a step is admissible exactly if it
  preserves the invariant, a run is admissible exactly if the invariant holds in every state of
  the run.
* `isChain_filterMap`: an observation that every step moves along a relation shows a path of it.
* `run_relation`: a preorder that relates the ends of every admissible step relates the ends of
  every admissible run.
-/

namespace CyreneKernel.Lib

variable {σ ι : Type} (step : σ → ι → σ)

/-- The state reached by the inputs `ls` from `s`. -/
def run (s : σ) (ls : List ι) : σ := ls.foldl step s

/-- Every input of the run meets `C` in the state it is applied to. -/
def Along (C : σ → ι → Prop) : σ → List ι → Prop
  | _, [] => True
  | s, l :: ls => C s l ∧ Along C (step s l) ls

@[simp] theorem run_nil (s : σ) : run step s [] = s := rfl

@[simp] theorem run_cons (s : σ) (l : ι) (ls : List ι) :
    run step s (l :: ls) = run step (step s l) ls := rfl

theorem run_append (s : σ) (ls ms : List ι) :
    run step s (ls ++ ms) = run step (run step s ls) ms :=
  List.foldl_append

variable {step} {C : σ → ι → Prop} {I : σ → Prop} {R : σ → σ → Prop} {s : σ} {ls : List ι}

theorem along_of_forall (h : ∀ s l, C s l) : ∀ (s : σ) (ls : List ι), Along step C s ls
  | _, [] => trivial
  | s, l :: ls => ⟨h s l, along_of_forall h (step s l) ls⟩

theorem along_append {ms : List ι} :
    Along step C s (ls ++ ms) ↔ Along step C s ls ∧ Along step C (run step s ls) ms := by
  induction ls generalizing s with
  | nil => simp [Along]
  | cons l ls ih => simp only [List.cons_append, Along, ih, run_cons, and_assoc]

/-- An invariant of the admissible steps holds at the end of every admissible run. -/
theorem run_induction (hs : I s) (hstep : ∀ s l, I s → C s l → I (step s l))
    (h : Along step C s ls) : I (run step s ls) := by
  induction ls generalizing s with
  | nil => exact hs
  | cons l ls ih => exact ih (hstep s l hs h.1) h.2

/-- A preorder that contains every step from an invariant state contains every run. -/
theorem run_relation (hrefl : ∀ s, R s s) (htrans : ∀ {s t u}, R s t → R t u → R s u)
    (hs : I s) (hI : ∀ s l, I s → I (step s l)) (hstep : ∀ s l, I s → R s (step s l))
    (ls : List ι) : R s (run step s ls) := by
  induction ls generalizing s with
  | nil => exact hrefl s
  | cons l ls ih => exact htrans (hstep s l hs) (ih (hI s l hs))

/-- When, in every state that meets the invariant, the admissible steps are exactly those that
preserve it, the admissible runs are exactly those whose states all meet it. -/
theorem along_iff_forall_reached (hs : I s) (hstep : ∀ s l, I s → (C s l ↔ I (step s l))) :
    Along step C s ls ↔ ∀ pre, pre <+: ls → I (run step s pre) := by
  induction ls generalizing s with
  | nil => simpa [Along] using hs
  | cons l ls ih =>
    constructor
    · rintro ⟨hC, hrest⟩ pre hpre
      cases pre with
      | nil => exact hs
      | cons l' pre =>
        obtain ⟨rfl, htail⟩ := List.cons_prefix_cons.1 hpre
        exact (ih ((hstep s l' hs).1 hC)).1 hrest pre htail
    · intro h
      have hl : I (step s l) := h [l] (by simp)
      refine ⟨(hstep s l hs).2 hl, (ih hl).2 fun pre hpre => ?_⟩
      exact h (l :: pre) (List.cons_prefix_cons.2 ⟨rfl, hpre⟩)

/-- Consecutive states of a component whose steps keep an observation `f` once it is defined, and
move it along `S`, show a path of `S`. -/
theorem isChain_filterMap {α β : Type} {R : α → α → Prop} {S : β → β → Prop} {f : α → Option β}
    (h : ∀ x y, R x y → ∀ a, f x = some a → ∃ b, f y = some b ∧ S a b) {l : List α}
    (hl : l.IsChain R) : (l.filterMap f).IsChain S := by
  induction hl with
  | nil => exact .nil
  | singleton x => cases hx : f x <;> simp [hx]
  | @cons_cons x y l hxy _ ih =>
    cases hx : f x with
    | none => simpa only [List.filterMap_cons_none hx] using ih
    | some a =>
      obtain ⟨b, hb, hab⟩ := h x y hxy a hx
      rw [List.filterMap_cons_some hb] at ih
      rw [List.filterMap_cons_some hx, List.filterMap_cons_some hb]
      exact .cons_cons hab ih

end CyreneKernel.Lib
