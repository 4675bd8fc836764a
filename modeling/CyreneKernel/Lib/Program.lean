import Mathlib.Logic.Basic

/-!
# Programs that ask their surroundings

A program is a tree: it is done with a result, or it asks a question and goes on with the answer.
Its surroundings are a relation that says which answers a question may get in a state, and which
state it leaves.  A run of a program logs every question with its answer.

## Main definitions

* `Program`, its monad, and `Program.Runs`.
* `Program.Yields`: what holds of the log, the result and the last state of every run.
* `Program.exec`: a run with the answers of an oracle.
* `Protocol`, `Program.Obeys`: the questions a program may ask, whatever the answers are.

## Main results

* `Program.yields_bind`, `Program.yields_ask`, `Program.yields_pure`: the rules for `Yields`.
* `Program.obeys_bind`, `Program.obeys_ask`: the rules for `Obeys`.
-/

namespace CyreneKernel.Lib

/-- A program over the questions `Q`; the answers to a question `q` have the type `A q`. -/
inductive Program (Q : Type) (A : Q → Type) (α : Type) where
  | done (result : α)
  | query (question : Q) (next : A question → Program Q A α)

/-- A question with its answer. -/
structure Exchange (Q : Type) (A : Q → Type) where
  question : Q
  answer : A question

namespace Program

variable {Q : Type} {A : Q → Type} {α β σ : Type}

protected def bind : Program Q A α → (α → Program Q A β) → Program Q A β
  | done result, f => f result
  | query question next, f => query question fun answer => (next answer).bind f

instance : Monad (Program Q A) where
  pure := done
  bind := Program.bind

instance : LawfulMonad (Program Q A) :=
  .mk' _
    (fun p => by
      induction p with
      | done => rfl
      | query question next ih => exact congrArg (query question) (funext ih))
    (fun _ _ => rfl)
    (fun p f g => by
      induction p with
      | done => rfl
      | query question next ih => exact congrArg (query question) (funext ih))

/-- Ask one question. -/
def ask (question : Q) : Program Q A (A question) := query question done

/-- The runs of a program in surroundings that answer along `H`. -/
inductive Runs (H : (q : Q) → σ → A q → σ → Prop) :
    Program Q A α → σ → List (Exchange Q A) → α → σ → Prop
  | done (result : α) (s : σ) : Runs H (.done result) s [] result s
  | query {question : Q} {next : A question → Program Q A α} {s s' s'' : σ} {answer : A question}
      {log : List (Exchange Q A)} {result : α} (hanswer : H question s answer s')
      (hnext : Runs H (next answer) s' log result s'') :
      Runs H (.query question next) s (⟨question, answer⟩ :: log) result s''

variable {H : (q : Q) → σ → A q → σ → Prop} {p : Program Q A α} {f : α → Program Q A β} {s : σ}
  {post post' : List (Exchange Q A) → α → σ → Prop}

/-- The log, the result and the last state of every run are as `post` says. -/
def Yields (H : (q : Q) → σ → A q → σ → Prop) (p : Program Q A α) (s : σ)
    (post : List (Exchange Q A) → α → σ → Prop) : Prop :=
  ∀ ⦃log result s'⦄, Runs H p s log result s' → post log result s'

theorem Yields.mono (h : Yields H p s post)
    (hpost : ∀ log result s', post log result s' → post' log result s') : Yields H p s post' :=
  fun log result s' hrun => hpost log result s' (h hrun)

@[simp] theorem yields_done {a : α} : Yields H (.done a) s post ↔ post [] a s := by
  constructor
  · exact fun h => h (.done a s)
  · rintro h _ _ _ ⟨⟩
    exact h

@[simp] theorem yields_pure {a : α} : Yields H (pure a) s post ↔ post [] a s := yields_done

@[simp] theorem yields_query {question : Q} {next : A question → Program Q A α} :
    Yields H (.query question next) s post ↔ ∀ answer s', H question s answer s' →
      Yields H (next answer) s' fun log => post (⟨question, answer⟩ :: log) := by
  constructor
  · exact fun h answer s' hanswer log result s'' hrun => h (.query hanswer hrun)
  · rintro h _ _ _ ⟨⟩
    next hanswer hnext => exact h _ _ hanswer hnext

@[simp] theorem yields_ask {question : Q}
    {post : List (Exchange Q A) → A question → σ → Prop} :
    Yields H (ask question) s post ↔ ∀ answer s', H question s answer s' →
      post [⟨question, answer⟩] answer s' := by
  simp only [ask, yields_query, yields_done]

@[simp] theorem yields_bind {post : List (Exchange Q A) → β → σ → Prop} :
    Yields H (p >>= f) s post ↔ Yields H p s fun log a s' =>
      Yields H (f a) s' fun log' b s'' => post (log ++ log') b s'' := by
  induction p generalizing s post with
  | done a =>
    change Yields H (f a) s post ↔ _
    simp only [yields_done, List.nil_append]
  | query question next ih =>
    change Yields H (.query question fun answer => next answer >>= f) s post ↔ _
    simp only [yields_query, ih, List.cons_append]

theorem Yields.bind {post' : List (Exchange Q A) → β → σ → Prop} (h : Yields H p s post)
    (hf : ∀ log a s', post log a s' →
      Yields H (f a) s' fun log' b s'' => post' (log ++ log') b s'') :
    Yields H (p >>= f) s post' :=
  yields_bind.2 (h.mono hf)

/-- Run a program with the answers of an oracle. -/
def exec (oracle : (q : Q) → σ → A q × σ) : Program Q A α → σ → List (Exchange Q A) × α × σ
  | done a, s => ([], a, s)
  | query question next, s =>
    let (answer, s') := oracle question s
    let (log, result) := (next answer).exec oracle s'
    (⟨question, answer⟩ :: log, result)

theorem runs_exec {oracle : (q : Q) → σ → A q × σ}
    (h : ∀ q s, H q s (oracle q s).1 (oracle q s).2) (p : Program Q A α) (s : σ) :
    Runs H p s (p.exec oracle s).1 (p.exec oracle s).2.1 (p.exec oracle s).2.2 := by
  induction p generalizing s with
  | done a => exact .done a s
  | query question next ih => exact .query (h question s) (ih _ _)

end Program

/-! ### Protocols -/

/-- A protocol moves through the states `τ` with every question and its answer, and forbids some
questions. -/
structure Protocol (Q : Type) (A : Q → Type) (τ : Type) where
  allows : τ → Q → Prop
  advance : τ → (q : Q) → A q → τ

namespace Program

variable {Q : Type} {A : Q → Type} {α β τ : Type} {Φ : Protocol Q A τ} {p : Program Q A α}
  {f : α → Program Q A β} {t : τ} {post post' : α → τ → Prop}

/-- Whatever the answers are, the program asks what the protocol allows, and ends as `post` says. -/
def Obeys (Φ : Protocol Q A τ) : Program Q A α → τ → (α → τ → Prop) → Prop
  | done a, t, post => post a t
  | query question next, t, post =>
    Φ.allows t question ∧ ∀ answer, (next answer).Obeys Φ (Φ.advance t question answer) post

@[simp] theorem obeys_ask {question : Q} {post : A question → τ → Prop} :
    Obeys Φ (ask question) t post ↔
      Φ.allows t question ∧ ∀ answer, post answer (Φ.advance t question answer) := Iff.rfl

@[simp] theorem obeys_bind {post : β → τ → Prop} :
    Obeys Φ (p >>= f) t post ↔ Obeys Φ p t fun a t' => Obeys Φ (f a) t' post := by
  induction p generalizing t with
  | done a => rfl
  | query question next ih =>
    change (Φ.allows t question ∧ ∀ answer,
      Obeys Φ (next answer >>= f) (Φ.advance t question answer) post) ↔ _
    simp only [ih, Obeys]

theorem Obeys.mono (h : Obeys Φ p t post) (hpost : ∀ a t', post a t' → post' a t') :
    Obeys Φ p t post' := by
  induction p generalizing t with
  | done a => exact hpost a t h
  | query question next ih => exact ⟨h.1, fun answer => ih answer (h.2 answer)⟩

end Program

end CyreneKernel.Lib
