import CyreneKernel.Ledger.Exclusive

/-!
# Fence tokens over whole runs

A fence token is issued when a lease is granted and when it is revoked.  While the 64-bit counter
does not saturate, the issued tokens are the consecutive numbers from the floor of the ledger on.
The token of a lease never decreases, so a token that was replaced once is stale for ever, and a
call that presents it is rejected after the expiry sweep.

## Main definitions

* `issued`, `issuedTokens`: the token that a call leaves in its lease, and those of a run.
* `Call.presents`: the lease name and token a fenced call presents.
* `BelowNext`, `TokensBounded`: the counter is above every stored token; no token overflows.

## Main results

* `issuedTokens_eq_range'`: the issued tokens are consecutive.
* `exec_stale`: a call that presents a stale token is rejected.
* `fencing`: both over whole runs.
-/

namespace CyreneKernel.Ledger

open Lib

/-- The name of the lease into which a call writes a new token: grants and revocations do. -/
def Call.issues : Call → Option String
  | acquireLease _ _ request => some request.leaseName
  | revoke _ leaseName _ => some leaseName
  | _ => none

/-- The token that a successful grant or revocation leaves in the stored lease. -/
def issued (s : State) (c : Call) : Option Nat :=
  match c.issues, c.exec s with
  | some leaseName, .ok _ s' => (s'.leases.get? leaseName).map ResourceLease.fenceToken
  | _, _ => none

/-- The tokens issued along a run, in order. -/
def issuedTokens : State → List Call → List Nat
  | _, [] => []
  | s, c :: calls => (issued s c).toList ++ issuedTokens (step s c) calls

/-- The lease name and the fence token that a fenced call presents. -/
def Call.presents : Call → Option (String × Nat)
  | renewLease _ leaseName fenceToken _ => some (leaseName, fenceToken)
  | beginRelease _ leaseName fenceToken => some (leaseName, fenceToken)
  | completeRelease leaseName fenceToken => some (leaseName, fenceToken)
  | failRelease leaseName fenceToken => some (leaseName, fenceToken)
  | revoke _ leaseName fenceToken => some (leaseName, fenceToken)
  | completeRevocation leaseName fenceToken => some (leaseName, fenceToken)
  | _ => none

/-! ### Outcomes of a call -/

/-- A call returns a reply and is done, or fails and only swept. -/
theorem exec_cases (s : State) (c : Call) :
    (∃ r s', c.exec s = .ok r s' ∧ Done (c.sweep s) c r s') ∨
      ∃ e, c.exec s = .error e (c.sweep s) := by
  have h := exec_ensures s c
  unfold Ensures at h
  split at h
  · next r s' heq => exact .inl ⟨r, s', heq, h⟩
  · next e s' heq => exact .inr ⟨e, by rw [heq, h]⟩

/-- The sweep keeps the counter. -/
theorem sweep_nextFenceToken (c : Call) (s : State) :
    (c.sweep s).nextFenceToken = s.nextFenceToken := by
  cases c <;> rfl

/-- The sweep keeps every token. -/
theorem sweep_get? (c : Call) (s : State) (n : String) :
    ((c.sweep s).leases.get? n).map ResourceLease.fenceToken =
      (s.leases.get? n).map ResourceLease.fenceToken := by
  have hexpire : ∀ now, ((expireDueLeases now s).leases.get? n).map ResourceLease.fenceToken =
      (s.leases.get? n).map ResourceLease.fenceToken := by
    intro now
    rw [expireDueLeases_get?, Option.map_map]
    congr 1
    funext lease
    exact fenceToken_expireIfDue now lease
  cases c <;> first | exact hexpire _ | rfl

/-! ### What a successful call does to the tokens -/

/-- The lease `lease` was written under its name, and the counter moved past its token. -/
structure Wrote (s s' : State) (lease : ResourceLease) : Prop where
  next_eq : s'.nextFenceToken = saturatingAdd lease.fenceToken 1
  get?_eq : ∀ n, s'.leases.get? n = if lease.name = n then some lease else s.leases.get? n
  /-- The token is the counter, or the one a revocation draws. -/
  token_eq : (s.leases.get? lease.name = none ∧ lease.fenceToken = s.nextFenceToken) ∨
    ∃ lease₀, s.leases.get? lease.name = some lease₀ ∧
      lease.fenceToken = s.revokedFence lease₀

/-- The counter and every stored token are the same in both states. -/
structure SameTokens (s s' : State) : Prop where
  next_eq : s'.nextFenceToken = s.nextFenceToken
  map_eq : ∀ n, (s'.leases.get? n).map ResourceLease.fenceToken =
    (s.leases.get? n).map ResourceLease.fenceToken

theorem SameTokens.refl (s : State) : SameTokens s s := ⟨rfl, fun _ => rfl⟩

variable {s s' : State} {lease : ResourceLease} {c : Call}

theorem SameTokens.trans {s'' : State} (h : SameTokens s s') (h' : SameTokens s' s'') :
    SameTokens s s'' :=
  ⟨h'.next_eq.trans h.next_eq, fun n => (h'.map_eq n).trans (h.map_eq n)⟩

theorem SameTokens.free (s : State) (lease : ResourceLease) : SameTokens s (s.free lease) :=
  ⟨rfl, fun _ => rfl⟩

theorem sameTokens_sweep (c : Call) (s : State) : SameTokens s (c.sweep s) :=
  ⟨sweep_nextFenceToken c s, sweep_get? c s⟩

/-- Rewriting a lease without its token keeps the tokens. -/
theorem SameTokens.put {lease' : ResourceLease} (h : s.leases.get? lease.name = some lease)
    (hname : lease'.name = lease.name) (hfence : lease'.fenceToken = lease.fenceToken) :
    SameTokens s (s.put lease') := by
  refine ⟨rfl, fun n => ?_⟩
  rw [put_get?, hname]
  split_ifs with hn
  · rw [← hn, h, Option.map_some, Option.map_some, hfence]
  · rfl

/-- A successful call writes a fresh token exactly if it is a grant or a revocation. -/
theorem Done.tokens {r : Reply} (h : Done s c r s') :
    (c.issues = none ∧ SameTokens s s') ∨
      ∃ lease, c.issues = some lease.name ∧ r = .lease lease ∧ Wrote s s' lease := by
  cases h with
  | acquireLease hnew _ _ =>
    exact .inr ⟨_, rfl, rfl, rfl, grant_get? s _ _, .inl ⟨hnew, rfl⟩⟩
  | getLease _ => exact .inl ⟨rfl, .refl s⟩
  | renewLease h _ _ | beginRelease h _ => exact .inl ⟨rfl, .put h rfl rfl⟩
  | beginReleaseAgain _ _ => exact .inl ⟨rfl, .refl s⟩
  | completeRelease h _ =>
    exact .inl ⟨rfl, (SameTokens.free s _).trans (.put h rfl rfl)⟩
  | completeReleaseAgain _ _ => exact .inl ⟨rfl, .refl s⟩
  | failRelease h _ => exact .inl ⟨rfl, .put h rfl rfl⟩
  | revoke h _ => exact .inr ⟨s.revoked _, rfl, rfl, rfl, revokeLease_get? s _, .inr ⟨_, h, rfl⟩⟩
  | completeRevocation _ _ => exact .inl ⟨rfl, .free s _⟩
  | leases => exact .inl ⟨rfl, .refl s⟩
  | refreshInventory | quarantine => exact .inl ⟨rfl, rfl, fun _ => rfl⟩

/-- A call keeps the tokens, or writes one fresh token after the sweep and issues it. -/
theorem step_tokens (s : State) (c : Call) :
    (issued s c = none ∧ SameTokens s (step s c)) ∨
      ∃ lease, issued s c = some lease.fenceToken ∧ Wrote (c.sweep s) (step s c) lease := by
  rcases exec_cases s c with ⟨r, s', hexec, hdone⟩ | ⟨e, hexec⟩
  · have hstep : step s c = s' := by rw [step, hexec, finalState_ok]
    rw [hstep, issued, hexec]
    rcases hdone.tokens with ⟨hissues, hsame⟩ | ⟨lease, hissues, -, hwrote⟩
    · exact .inl ⟨by simp [hissues], (sameTokens_sweep c s).trans hsame⟩
    · exact .inr ⟨lease, by simp [hissues, hwrote.get?_eq], hwrote⟩
  · refine .inl ⟨?_, ?_⟩
    · simp [issued, hexec]
    · rw [step, hexec, finalState_error]
      exact sameTokens_sweep c s

/-- A successful grant or revocation returns the lease that it leaves under its name. -/
theorem exec_issues {n : String} {r : Reply} (hissues : c.issues = some n)
    (hexec : c.exec s = .ok r s') :
    ∃ lease, r = .lease lease ∧ s'.leases.get? n = some lease ∧
      issued s c = some lease.fenceToken := by
  rcases exec_cases s c with ⟨r', s'', hexec', hdone⟩ | ⟨e, hexec'⟩
  · obtain ⟨rfl, rfl⟩ := EStateM.Result.ok.inj (hexec.symm.trans hexec')
    rcases hdone.tokens with ⟨hnone, -⟩ | ⟨lease, hname, rfl, hwrote⟩
    · exact nomatch hissues.symm.trans hnone
    · obtain rfl := Option.some.inj (hissues.symm.trans hname)
      have hstored := hwrote.get?_eq lease.name
      rw [if_pos rfl] at hstored
      exact ⟨lease, rfl, hstored, by simp [issued, hissues, hexec, hstored]⟩
  · exact nomatch hexec.symm.trans hexec'

/-! ### Issued tokens are consecutive -/

/-- The counter fits in 64 bits and is above every stored token. -/
structure BelowNext (s : State) : Prop where
  next_le : s.nextFenceToken ≤ u64Max
  lt_next : ∀ n l, s.leases.get? n = some l → l.fenceToken < s.nextFenceToken

theorem saturatingAdd_one_of_lt {a : Nat} (h : a < u64Max) : saturatingAdd a 1 = a + 1 := by
  unfold saturatingAdd
  omega

theorem BelowNext.of_sameTokens (hs : BelowNext s) (h : SameTokens s s') : BelowNext s' := by
  refine ⟨h.next_eq ▸ hs.next_le, fun n l hl => ?_⟩
  have hmap := h.map_eq n
  rw [hl, Option.map_some, eq_comm, Option.map_eq_some_iff] at hmap
  obtain ⟨l₀, hl₀, hfence⟩ := hmap
  rw [h.next_eq, ← hfence]
  exact hs.lt_next n l₀ hl₀

/-- Below the counter, every written token is the counter. -/
theorem BelowNext.token_eq (hs : BelowNext s) (h : Wrote s s' lease) :
    lease.fenceToken = s.nextFenceToken := by
  rcases h.token_eq with ⟨-, htoken⟩ | ⟨lease₀, hlease₀, htoken⟩
  · exact htoken
  · have hlt := hs.lt_next _ _ hlease₀
    have hle := hs.next_le
    rw [htoken, State.revokedFence, saturatingAdd_one_of_lt (by omega)]
    omega

/-- While the counter does not saturate, it stays above every token. -/
theorem BelowNext.of_wrote (hs : BelowNext s) (h : Wrote s s' lease)
    (hlt : s.nextFenceToken < u64Max) :
    BelowNext s' ∧ s'.nextFenceToken = s.nextFenceToken + 1 := by
  have htoken := hs.token_eq h
  have hnext : s'.nextFenceToken = s.nextFenceToken + 1 := by
    rw [h.next_eq, htoken, saturatingAdd_one_of_lt hlt]
  refine ⟨⟨by omega, fun n l hl => ?_⟩, hnext⟩
  rw [h.get?_eq] at hl
  split_ifs at hl
  · obtain rfl := Option.some.inj hl
    omega
  · have := hs.lt_next n l hl
    omega

/-- While the counter does not overflow, the tokens issued along a run are consecutive. -/
theorem issuedTokens_eq_range' (s : State) (calls : List Call) (hs : BelowNext s)
    (hcount : s.nextFenceToken + (issuedTokens s calls).length ≤ 2 ^ 64) :
    issuedTokens s calls = List.range' s.nextFenceToken (issuedTokens s calls).length := by
  induction calls generalizing s with
  | nil => rfl
  | cons c calls ih =>
    rw [issuedTokens] at hcount ⊢
    rcases step_tokens s c with ⟨hissued, hsame⟩ | ⟨lease, hissued, hwrote⟩
    · have hnext := hsame.next_eq
      rw [hissued] at hcount ⊢
      rw [← hnext] at hcount ⊢
      exact ih (step s c) (hs.of_sameTokens hsame) hcount
    · have hsweep := hs.of_sameTokens (sameTokens_sweep c s)
      have htoken : lease.fenceToken = s.nextFenceToken := by
        rw [hsweep.token_eq hwrote, sweep_nextFenceToken]
      rw [hissued] at hcount ⊢
      simp only [Option.toList_some, List.singleton_append, List.length_cons, htoken,
        List.range'_succ] at hcount ⊢
      congr 1
      -- Either this was the last token, or the counter did not saturate.
      cases hrest : issuedTokens (step s c) calls with
      | nil => rfl
      | cons t ts =>
        have hlen : 0 < (issuedTokens (step s c) calls).length := by simp [hrest]
        have hlt : (c.sweep s).nextFenceToken < u64Max := by
          rw [sweep_nextFenceToken, u64Max]
          omega
        obtain ⟨hbelow, hnext⟩ := hsweep.of_wrote hwrote hlt
        rw [sweep_nextFenceToken] at hnext
        rw [← hrest, ← hnext]
        exact ih (step s c) hbelow (by omega)

/-! ### A replaced token is stale for ever -/

/-- The counter and every stored token fit in 64 bits. -/
structure TokensBounded (s : State) : Prop where
  next_le : s.nextFenceToken ≤ u64Max
  token_le : ∀ n l, s.leases.get? n = some l → l.fenceToken ≤ u64Max

/-- Every stored lease is still stored, with a token at least as large. -/
def TokensLe (s s' : State) : Prop :=
  ∀ n l, s.leases.get? n = some l → ∃ l', s'.leases.get? n = some l' ∧ l.fenceToken ≤ l'.fenceToken

theorem TokensLe.refl (s : State) : TokensLe s s := fun _ l h => ⟨l, h, le_rfl⟩

theorem TokensLe.trans {t u : State} (h : TokensLe s t) (h' : TokensLe t u) : TokensLe s u := by
  intro n l hl
  obtain ⟨l', hl', hle⟩ := h n l hl
  obtain ⟨l'', hl'', hle'⟩ := h' n l' hl'
  exact ⟨l'', hl'', hle.trans hle'⟩

theorem SameTokens.tokensLe (h : SameTokens s s') : TokensLe s s' := by
  intro n l hl
  have hmap := h.map_eq n
  rw [hl, Option.map_some, Option.map_eq_some_iff] at hmap
  obtain ⟨l', hl', hfence⟩ := hmap
  exact ⟨l', hl', hfence.ge⟩

theorem TokensBounded.of_sameTokens (hs : TokensBounded s) (h : SameTokens s s') :
    TokensBounded s' := by
  refine ⟨h.next_eq ▸ hs.next_le, fun n l hl => ?_⟩
  have hmap := h.map_eq n
  rw [hl, Option.map_some, eq_comm, Option.map_eq_some_iff] at hmap
  obtain ⟨l₀, hl₀, hfence⟩ := hmap
  exact hfence ▸ hs.token_le n l₀ hl₀

theorem saturatingAdd_le (a b : Nat) : saturatingAdd a b ≤ u64Max := by
  unfold saturatingAdd
  omega

section

variable (hs : TokensBounded s)

include hs

theorem TokensBounded.token_le_of_wrote (h : Wrote s s' lease) : lease.fenceToken ≤ u64Max := by
  have hle := hs.next_le
  rcases h.token_eq with ⟨-, htoken⟩ | ⟨lease₀, -, htoken⟩
  · omega
  · have := saturatingAdd_le lease₀.fenceToken 1
    rw [htoken, State.revokedFence]
    omega

theorem TokensBounded.of_wrote (h : Wrote s s' lease) : TokensBounded s' := by
  refine ⟨h.next_eq ▸ saturatingAdd_le _ _, fun n l hl => ?_⟩
  rw [h.get?_eq] at hl
  split_ifs at hl
  · obtain rfl := Option.some.inj hl
    exact hs.token_le_of_wrote h
  · exact hs.token_le n l hl

/-- A written token is at least the one it replaces. -/
theorem TokensBounded.tokensLe_of_wrote (h : Wrote s s' lease) : TokensLe s s' := by
  intro n l hl
  rw [h.get?_eq]
  split_ifs with hn
  · refine ⟨lease, rfl, ?_⟩
    subst hn
    rcases h.token_eq with ⟨hnone, -⟩ | ⟨lease₀, hlease₀, htoken⟩
    · simp [hl] at hnone
    · obtain rfl := Option.mem_unique hl hlease₀
      have hle := hs.token_le _ _ hl
      have hsucc : l.fenceToken ≤ saturatingAdd l.fenceToken 1 := by
        unfold saturatingAdd
        omega
      rw [htoken, State.revokedFence]
      omega
  · exact ⟨l, hl, le_rfl⟩

theorem TokensBounded.step (c : Call) : TokensBounded (step s c) ∧ TokensLe s (step s c) := by
  rcases step_tokens s c with ⟨-, hsame⟩ | ⟨lease, -, hwrote⟩
  · exact ⟨hs.of_sameTokens hsame, hsame.tokensLe⟩
  · have hsweep := sameTokens_sweep c s
    have hbounded := hs.of_sameTokens hsweep
    exact ⟨hbounded.of_wrote hwrote, hsweep.tokensLe.trans (hbounded.tokensLe_of_wrote hwrote)⟩

/-- Tokens never decrease along a run. -/
theorem tokensLe_run (calls : List Call) : TokensLe s (run step s calls) :=
  run_relation TokensLe.refl (fun h h' => h.trans h') hs (fun _ c h => (h.step c).1)
    (fun _ c h => (h.step c).2) calls

theorem tokensBounded_run (calls : List Call) : TokensBounded (run step s calls) :=
  run_induction (C := fun _ _ => True) hs (fun _ c h _ => (h.step c).1)
    (along_of_forall (fun _ _ => trivial) s calls)

end

/-- A successful fenced call presented the token of the lease in the swept state. -/
theorem Done.presents {r : Reply} (h : Done s c r s') {n : String} {t : Nat}
    (hp : c.presents = some (n, t)) :
    ∃ lease, s.leases.get? n = some lease ∧ lease.fenceToken = t := by
  cases h <;> simp only [Call.presents, Option.some.injEq, Prod.mk.injEq, reduceCtorEq] at hp
  all_goals
    obtain ⟨rfl, rfl⟩ := hp
    exact ⟨_, by assumption, rfl⟩

/-- A call that presents a token other than the stored one is rejected after the sweep. -/
theorem exec_stale {n : String} {t : Nat} (hp : c.presents = some (n, t))
    (hstale : ∀ lease, s.leases.get? n = some lease → lease.fenceToken ≠ t) :
    ∃ e, c.exec s = .error e (c.sweep s) := by
  rcases exec_cases s c with ⟨r, s', -, hdone⟩ | herror
  · obtain ⟨lease, hlease, rfl⟩ := hdone.presents hp
    have hmap := sweep_get? c s n
    rw [hlease, Option.map_some, eq_comm, Option.map_eq_some_iff] at hmap
    obtain ⟨lease₀, hlease₀, hfence⟩ := hmap
    exact absurd hfence (hstale lease₀ hlease₀)
  · exact herror

/-- The sweep of a call is the expiry sweep at one of its clock readings, or nothing. -/
theorem sweep_eq (c : Call) (s : State) :
    c.sweep s = s ∨ ∃ now ∈ c.readings, c.sweep s = expireDueLeases now s := by
  cases c <;> first | exact .inl rfl | exact .inr ⟨_, by simp [Call.readings], rfl⟩

theorem belowNext_withNextFenceToken (resources : List Resource) {fence : Nat}
    (h : fence ≤ u64Max) : BelowNext (withNextFenceToken resources fence) := by
  refine ⟨?_, fun n l hl => ?_⟩
  · simp only [withNextFenceToken, u64Max] at h ⊢
    omega
  · simp [withNextFenceToken] at hl

/-- **Fencing over whole runs.**  In a run from the fence floor `fence` that issues fewer than
`2 ^ 64 - fence` tokens, the issued tokens strictly increase from `max fence 1` on and no two are
equal.  Every grant and every revocation that succeeds stores the lease that it returns, with the
token that it issues.  Once the token of a lease has changed, every later fenced call that presents
the old one is rejected, and the state it leaves is the state before it up to the expiry sweep. -/
theorem fencing (resources : List Resource) (fence : Nat) (calls : List Call)
    (hcount : (issuedTokens (withNextFenceToken resources fence) calls).length < 2 ^ 64 - fence) :
    let s := withNextFenceToken resources fence
    (issuedTokens s calls).Pairwise (· < ·) ∧
      (∀ t ∈ issuedTokens s calls, max fence 1 ≤ t) ∧
      (issuedTokens s calls).Nodup ∧
      (∀ before call after, calls = before ++ call :: after → ∀ n reply s', call.issues = some n →
        call.exec (run step s before) = .ok reply s' →
        ∃ lease, reply = .lease lease ∧ s'.leases.get? n = some lease ∧
          issued (run step s before) call = some lease.fenceToken) ∧
      ∀ before changing waiting after call, calls = before ++ changing ++ waiting ++ call :: after →
        ∀ n old new, (run step s before).leases.get? n = some old →
          (run step s (before ++ changing)).leases.get? n = some new →
          new.fenceToken ≠ old.fenceToken → call.presents = some (n, old.fenceToken) →
          ∃ e s', call.exec (run step s (before ++ changing ++ waiting)) = .error e s' ∧
            (s' = run step s (before ++ changing ++ waiting) ∨
              ∃ now ∈ call.readings, s' = expireDueLeases now
                (run step s (before ++ changing ++ waiting))) := by
  intro s
  have hfence : fence ≤ u64Max := by
    unfold u64Max
    omega
  have hbelow := belowNext_withNextFenceToken resources hfence
  have htokens := issuedTokens_eq_range' s calls hbelow (by
    simp only [s, withNextFenceToken] at hcount ⊢
    omega)
  refine ⟨?_, ?_, ?_, fun _ _ _ _ _ _ _ => exec_issues, ?_⟩
  · rw [htokens]
    exact List.pairwise_lt_range'
  · intro t ht
    rw [htokens, List.mem_range'_1] at ht
    exact ht.1
  · rw [htokens]
    exact List.nodup_range'
  · rintro before changing waiting after call - n old new hold hnew hne hp
    have hbounded : TokensBounded s :=
      ⟨hbelow.next_le, fun n l hl => by simp [s, withNextFenceToken] at hl⟩
    have hchange := tokensLe_run (tokensBounded_run hbounded before) changing
    rw [← run_append] at hchange
    have hwait := tokensLe_run (tokensBounded_run hbounded (before ++ changing)) waiting
    rw [← run_append] at hwait
    obtain ⟨new', hnew', hle⟩ := hchange n old hold
    obtain rfl := Option.mem_unique hnew hnew'
    obtain ⟨last, hlast, hle'⟩ := hwait n new hnew
    obtain ⟨e, he⟩ := exec_stale (s := run step s (before ++ changing ++ waiting)) hp
      fun lease hlease => by
        obtain rfl := Option.mem_unique hlast hlease
        omega
    exact ⟨e, _, he, sweep_eq call _⟩

/-- The lease `a` is granted and revoked, and then released with the token of the grant. -/
def staleRelease : List Call :=
  repeatedRevocation.take 2 ++ [.beginRelease 7 "a" 1]

/-- The revocation replaces the token 1 by 2, and the release that presents 1 is rejected. -/
theorem fencing_staleRelease :
    let s := withNextFenceToken [sampleResource "gpu"] 1
    issuedTokens s staleRelease = [1, 2] ∧
      ∃ e s', (Call.beginRelease 7 "a" 1).exec (run step s (repeatedRevocation.take 2)) =
        .error e s' := by
  have hissued : issuedTokens (withNextFenceToken [sampleResource "gpu"] 1) staleRelease = [1, 2] :=
    by decide +kernel
  obtain ⟨-, -, -, -, hstale⟩ := fencing [sampleResource "gpu"] 1 staleRelease (by simp [hissued])
  obtain ⟨old, hold, htoken⟩ := Option.map_eq_some_iff.1 (show ((run step (withNextFenceToken
    [sampleResource "gpu"] 1) (repeatedRevocation.take 1)).leases.get? "a").map
      ResourceLease.fenceToken = some 1 by decide +kernel)
  obtain ⟨new, hnew, htoken'⟩ := Option.map_eq_some_iff.1 (show ((run step (withNextFenceToken
    [sampleResource "gpu"] 1) (repeatedRevocation.take 2)).leases.get? "a").map
      ResourceLease.fenceToken = some 2 by decide +kernel)
  obtain ⟨e, s', he, -⟩ := hstale (repeatedRevocation.take 1) [.revoke 6 "a" 1] [] [] _ rfl "a" old
    new hold hnew (by omega) (by rw [htoken]; rfl)
  exact ⟨hissued, e, s', he⟩

end CyreneKernel.Ledger
