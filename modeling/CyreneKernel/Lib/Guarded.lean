import CyreneKernel.Lib.Program

/-!
# Programs whose questions are guarded

The surroundings of a program decide in each of their states which questions are allowed.  `Safe`
says that a program asks only such questions, and how it ends.  A program that may fail runs in the
exception monad over programs; a failure skips the rest of it.

## Main definitions

* `Program.Safe`: the program asks what is allowed, and ends as `post` says.
* `Program.Reaches`: a program comes to ask a question in a state.
* `Program.Asks`: the questions of a program.
* `Program.onFailure`: a program that is followed by another one when it fails.
* `Program.Returns`, `Program.Ends`: the results of a program that may fail.

## Main results

* `Program.safe_bind`, `Program.safe_ask_bind`, `Program.safe_run_bind`: the rules.
* `Program.Safe.allowed_of_reaches`, `Program.Safe.post_of_runs`: what they mean for runs.
* `Program.Asks.safe`: an invariant of all questions is one of the program.
-/

namespace CyreneKernel.Lib.Program

variable {Q : Type} {A : Q → Type} {α β σ ε : Type}

/-- A program asks `question` in the state `s'` when it started in `s`. -/
inductive Reaches (H : (q : Q) → σ → A q → σ → Prop) : Program Q A α → σ → Q → σ → Prop
  | here {question : Q} {next : A question → Program Q A α} {s : σ} :
      Reaches H (.query question next) s question s
  | later {question question' : Q} {next : A question → Program Q A α} {s s' s'' : σ}
      {answer : A question} (hanswer : H question s answer s')
      (hnext : Reaches H (next answer) s' question' s'') :
      Reaches H (.query question next) s question' s''

/-- Whatever the answers are, the program asks only allowed questions, and ends as `post` says. -/
def Safe (H : (q : Q) → σ → A q → σ → Prop) (allowed : σ → Q → Prop) :
    Program Q A α → σ → (α → σ → Prop) → Prop
  | done a, s, post => post a s
  | query question next, s, post => allowed s question ∧
    ∀ answer s', H question s answer s' → (next answer).Safe H allowed s' post

variable {H : (q : Q) → σ → A q → σ → Prop} {allowed : σ → Q → Prop} {p : Program Q A α}
  {f : α → Program Q A β} {s : σ} {post post' : α → σ → Prop}

theorem safe_ask_bind {question : Q} {f : A question → Program Q A β} {post : β → σ → Prop} :
    Safe H allowed (ask question >>= f) s post ↔ allowed s question ∧
      ∀ answer s', H question s answer s' → Safe H allowed (f answer) s' post := Iff.rfl

@[simp] theorem safe_bind {post : β → σ → Prop} :
    Safe H allowed (p >>= f) s post ↔
      Safe H allowed p s fun a s' => Safe H allowed (f a) s' post := by
  induction p generalizing s with
  | done a => rfl
  | query question next ih =>
    change (allowed s question ∧ ∀ answer s', H question s answer s' →
      Safe H allowed (next answer >>= f) s' post) ↔ _
    simp only [ih, Safe]

section

variable (h : Safe H allowed p s post)

include h

theorem Safe.mono (hpost : ∀ a s', post a s' → post' a s') : Safe H allowed p s post' := by
  induction p generalizing s with
  | done a => exact hpost a s h
  | query question next ih => exact ⟨h.1, fun answer s' hs' => ih answer (h.2 answer s' hs')⟩

theorem Safe.bind {post' : β → σ → Prop} (hf : ∀ a s', post a s' → Safe H allowed (f a) s' post') :
    Safe H allowed (p >>= f) s post' :=
  safe_bind.2 (h.mono hf)

/-- A safe program asks what is allowed when it asks it. -/
theorem Safe.allowed_of_reaches {question : Q} {s' : σ} (hreaches : Reaches H p s question s') :
    allowed s' question := by
  induction hreaches with
  | here => exact h.1
  | later hanswer _ ih => exact ih (h.2 _ _ hanswer)

/-- A safe program ends as `post` says. -/
theorem Safe.post_of_runs {log : List (Exchange Q A)} {a : α} {s' : σ}
    (hruns : Runs H p s log a s') :
    post a s' := by
  induction hruns with
  | done result s => exact h
  | query hanswer _ ih => exact ih (h.2 _ _ hanswer)

end

theorem safe_congr (h : ∀ a s', post a s' ↔ post' a s') :
    Safe H allowed p s post ↔ Safe H allowed p s post' :=
  ⟨fun hp => hp.mono fun a s' => (h a s').1, fun hp => hp.mono fun a s' => (h a s').2⟩

/-- The questions of a run are reached. -/
theorem exists_reaches_of_runs {log : List (Exchange Q A)} {a : α} {s' : σ}
    (hruns : Runs H p s log a s') {question : Q} (hmem : question ∈ log.map (·.question)) :
    ∃ s'', Reaches H p s question s'' := by
  induction hruns with
  | done result s => cases hmem
  | query hanswer hnext ih =>
    rcases List.mem_cons.1 hmem with rfl | hmem
    · exact ⟨_, .here⟩
    · obtain ⟨s'', hreaches⟩ := ih hmem
      exact ⟨s'', .later hanswer hreaches⟩

/-! ### The questions of a program -/

/-- The program asks only questions in `S`, whatever the answers are, and its result is as `post`
says. -/
def Asks (S : Q → Prop) : Program Q A α → (α → Prop) → Prop
  | done a, post => post a
  | query question next, post => S question ∧ ∀ answer, (next answer).Asks S post

section Asks

variable {S : Q → Prop} {result result' : α → Prop}

theorem asks_ask {question : Q} (h : S question) :
    Asks S (ask question : Program Q A _) fun _ => True :=
  ⟨h, fun _ => trivial⟩

theorem Asks.mono (h : Asks S p result) (hresult : ∀ a, result a → result' a) :
    Asks S p result' := by
  induction p with
  | done a => exact hresult a h
  | query question next ih => exact ⟨h.1, fun answer => ih answer (h.2 answer)⟩

theorem Asks.bind {result' : β → Prop} (h : Asks S p result)
    (hf : ∀ a, result a → Asks S (f a) result') : Asks S (p >>= f) result' := by
  induction p with
  | done a => exact hf a h
  | query question next ih => exact ⟨h.1, fun answer => ih answer (h.2 answer)⟩

/-- A program keeps an invariant that every one of its questions keeps. -/
theorem Asks.safe {inv : σ → Prop} (h : Asks S p result)
    (hallowed : ∀ q s, S q → inv s → allowed s q)
    (hkeeps : ∀ q s answer s', S q → inv s → H q s answer s' → inv s') (hs : inv s) :
    Safe H allowed p s fun a s' => result a ∧ inv s' := by
  induction p generalizing s with
  | done a => exact ⟨h, hs⟩
  | query question next ih =>
    exact ⟨hallowed question s h.1 hs, fun answer s' hanswer =>
      ih answer (h.2 answer) (hkeeps question s answer s' h.1 hs hanswer)⟩

end Asks

/-! ### Programs that may fail -/

/-- Run a program; when it fails, run `recover` and fail all the same. -/
def onFailure (recover : Program Q A Unit) (p : ExceptT ε (Program Q A) α) :
    ExceptT ε (Program Q A) α :=
  ExceptT.mk do
    match ← p.run with
    | .ok a => return .ok a
    | .error e =>
      recover
      return .error e

section Fallible

variable {p : ExceptT ε (Program Q A) α} {f : α → ExceptT ε (Program Q A) β}

@[simp] theorem safe_run_lift {p : Program Q A α} {post : Except ε α → σ → Prop} :
    Safe H allowed (monadLift p : ExceptT ε (Program Q A) α).run s post ↔
      Safe H allowed p s fun a => post (.ok a) := by
  change Safe H allowed (p >>= fun a => pure (.ok a)) s post ↔ _
  rw [safe_bind]
  rfl

@[simp] theorem safe_run_bind {post : Except ε β → σ → Prop} :
    Safe H allowed (p >>= f).run s post ↔ Safe H allowed p.run s fun result s' =>
      match result with
      | .ok a => Safe H allowed (f a).run s' post
      | .error e => post (.error e) s' := by
  change Safe H allowed (p.run >>= fun result => _) s post ↔ _
  rw [safe_bind]
  refine safe_congr fun result s' => ?_
  cases result with
  | ok a => exact Iff.rfl
  | error e => exact Iff.rfl

theorem safe_run_onFailure {recover : Program Q A Unit} {post : Except ε α → σ → Prop} :
    Safe H allowed (onFailure recover p).run s post ↔ Safe H allowed p.run s fun result s' =>
      match result with
      | .ok a => post (.ok a) s'
      | .error e => Safe H allowed recover s' fun _ => post (.error e) := by
  change Safe H allowed (p.run >>= _) s post ↔ _
  rw [safe_bind]
  refine safe_congr fun result s' => ?_
  cases result with
  | ok a => exact Iff.rfl
  | error e => exact safe_bind

variable {S : Q → Prop} {result : α → Prop}

/-- The result of a program that did not fail. -/
def Returns (result : α → Prop) : Except ε α → Prop
  | .ok a => result a
  | .error _ => True

theorem Asks.run_bind {result' : β → Prop} (h : Asks S p.run (Returns result))
    (hf : ∀ a, result a → Asks S (f a).run (Returns result')) :
    Asks S (p >>= f).run (Returns result') := by
  refine h.bind fun outcome houtcome => ?_
  cases outcome with
  | ok a => exact hf a houtcome
  | error e => trivial

theorem Asks.run_lift {p : Program Q A α} (h : Asks S p result) :
    Asks S (monadLift p : ExceptT ε (Program Q A) α).run (Returns result) :=
  h.bind fun _ ha => ha

theorem Asks.run_onFailure {recover : Program Q A Unit} (h : Asks S p.run (Returns result))
    (hrecover : Asks S recover fun _ => True) :
    Asks S (onFailure recover p).run (Returns result) := by
  refine h.bind fun outcome houtcome => ?_
  cases outcome with
  | ok a => exact houtcome
  | error e => exact hrecover.bind fun _ _ => trivial

/-- How a program ends: with a result as `post` says, or with a failure in a state as `failed`
says. -/
def Ends (post : α → σ → Prop) (failed : σ → Prop) : Except ε α → σ → Prop
  | .ok a, s => post a s
  | .error _, s => failed s

variable {failed failed' : σ → Prop}

theorem Safe.run_bind {post' : β → σ → Prop} (h : Safe H allowed p.run s (Ends post failed))
    (hf : ∀ a s', post a s' → Safe H allowed (f a).run s' (Ends post' failed)) :
    Safe H allowed (p >>= f).run s (Ends post' failed) := by
  refine safe_run_bind.2 (h.mono fun result s' hresult => ?_)
  cases result with
  | ok a => exact hf a s' hresult
  | error e => exact hresult

theorem Safe.run_lift {p : Program Q A α} (h : Safe H allowed p s post) :
    Safe H allowed (monadLift p : ExceptT ε (Program Q A) α).run s (Ends post failed) :=
  safe_run_lift.2 h

theorem Safe.run_onFailure {recover : Program Q A Unit}
    (h : Safe H allowed p.run s (Ends post failed))
    (hrecover : ∀ s', failed s' → Safe H allowed recover s' fun _ => failed') :
    Safe H allowed (onFailure recover p).run s (Ends post failed') := by
  refine safe_run_onFailure.2 (h.mono fun result s' hresult => ?_)
  cases result with
  | ok a => exact hresult
  | error e => exact hrecover s' hresult

theorem Safe.run_mono (h : Safe H allowed p.run s (Ends post failed))
    (hpost : ∀ a s', post a s' → post' a s') (hfailed : ∀ s', failed s' → failed' s') :
    Safe H allowed p.run s (Ends post' failed') := by
  refine h.mono fun result s' hresult => ?_
  cases result with
  | ok a => exact hpost a s' hresult
  | error e => exact hfailed s' hresult

end Fallible

end CyreneKernel.Lib.Program
