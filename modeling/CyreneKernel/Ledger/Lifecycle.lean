import CyreneKernel.Ledger.Calls

/-!
# The lifecycle of a lease

The states a lease takes in the ledger, compared with the transition table of the contract.  A
call takes a lease through at most two states: the one the expiry sweep leaves it in, and the one
the call itself leaves it in.

The ledger takes two transitions the table does not list.  `revoke` is admitted on an expired
lease, whose fence it has to advance, and `beginRelease` retries the cleanup of a failed release
under the same fence.  Every other change is a listed transition.

## Main definitions

* `history`: the ledger states of a run, sweeps included.
* `Conforms`: the transition table with the two added transitions.

## Main results

* `leaseStates_isChain`: over every run, the states of a lease are a path of `Conforms`.
-/

namespace CyreneKernel.Ledger

open Lib

/-- The ledger states of a run, with the swept state between the ends of every call. -/
def history : State → List Call → List State
  | s, [] => [s]
  | s, c :: calls => s :: c.sweep s :: history (step s c) calls

/-- The states the lease `n` takes in a list of ledger states. -/
def leaseStates (n : String) (states : List State) : List CyreneKernel.LeaseState :=
  states.filterMap fun s => (s.leases.get? n).map fun l => l.state.toSemantic

/-- A listed transition, the revocation of an expired lease, or the retry of a failed release. -/
def Conforms (state next : CyreneKernel.LeaseState) : Prop :=
  state.canTransitionTo next ∨ (state = .expired ∧ next = .revoked) ∨
    (state = .failed ∧ next = .releasing)

instance (state next : CyreneKernel.LeaseState) : Decidable (Conforms state next) :=
  inferInstanceAs (Decidable (_ ∨ _ ∨ _))

theorem Conforms.refl (state : CyreneKernel.LeaseState) : Conforms state state := by
  cases state <;> decide

/-- Every stored lease is still stored, in a state it may move to. -/
def LeasesConform (s s' : State) : Prop :=
  ∀ n l, s.leases.get? n = some l →
    ∃ l', s'.leases.get? n = some l' ∧ Conforms l.state.toSemantic l'.state.toSemantic

theorem LeasesConform.refl (s : State) : LeasesConform s s := fun _ l h => ⟨l, h, .refl _⟩

theorem LeasesConform.expireDueLeases (now : Nat) (s : State) :
    LeasesConform s (expireDueLeases now s) := by
  intro n l hl
  refine ⟨l.expireIfDue now, by rw [expireDueLeases_get?, hl, Option.map_some], ?_⟩
  unfold ResourceLease.expireIfDue ResourceLease.isDue
  split_ifs with hdue
  · obtain ⟨hactive, -⟩ := Bool.and_eq_true_iff.1 hdue
    rw [beq_iff_eq.1 hactive]
    exact (by decide : Conforms LeaseState.active.toSemantic LeaseState.expired.toSemantic)
  · exact .refl _

/-- Writing one lease moves only that lease. -/
theorem LeasesConform.of_write {s s' : State} {lease lease' : ResourceLease}
    {state : LeaseState} (next : LeaseState) (hlease : s.leases.get? lease.name = some lease)
    (hget : ∀ n, s'.leases.get? n = if lease.name = n then some lease' else s.leases.get? n)
    (hstate : lease.state = state) (hnext : lease'.state = next)
    (hconf : Conforms state.toSemantic next.toSemantic) : LeasesConform s s' := by
  intro n l hl
  rw [hget]
  split_ifs with hn
  · subst hn
    obtain rfl := Option.mem_unique hlease hl
    exact ⟨lease', rfl, by rw [hstate, hnext]; exact hconf⟩
  · exact ⟨l, hl, .refl _⟩

/-- What a successful call does to the state of each lease. -/
theorem Done.leasesConform {s s' : State} {c : Call} {r : Reply} (h : Done s c r s') :
    LeasesConform s s' := by
  cases h with
  | acquireLease hnew _ _ =>
    intro n l hl
    rw [grant_get?]
    split_ifs with hn
    · simp [← hn, hnew] at hl
    · exact ⟨l, hl, .refl _⟩
  | getLease _ => exact .refl s
  | renewLease h hstate _ => exact .of_write .active h (put_get? s _) hstate hstate (.refl _)
  | beginRelease h hstate =>
    rcases hstate with hstate | hstate
    · exact .of_write .releasing h (put_get? s _) hstate rfl (by decide)
    · exact .of_write .releasing h (put_get? s _) hstate rfl (by decide)
  | beginReleaseAgain _ _ => exact .refl s
  | completeRelease h hstate =>
    exact .of_write .released h (put_get? (s.free _) _) hstate rfl (by decide)
  | completeReleaseAgain _ _ => exact .refl s
  | failRelease h hstate =>
    rcases hstate with hstate | hstate
    · exact .of_write .failed h (put_get? s _) hstate rfl (by decide)
    · exact .of_write .failed h (put_get? s _) hstate rfl (by decide)
  | revoke h hstate =>
    rcases hstate with hstate | hstate | hstate
    · exact .of_write .revoked h (revokeLease_get? s _) hstate rfl (by decide)
    · exact .of_write .revoked h (revokeLease_get? s _) hstate rfl (by decide)
    · exact .of_write .revoked h (revokeLease_get? s _) hstate rfl (by decide)
  | completeRevocation _ _ => exact fun _ l h => ⟨l, h, .refl _⟩
  | leases => exact .refl s
  | refreshInventory | quarantine => exact fun _ l h => ⟨l, h, .refl _⟩

theorem leasesConform_sweep (c : Call) (s : State) : LeasesConform s (c.sweep s) := by
  cases c <;> first | exact .expireDueLeases _ s | exact .refl s

/-- After its sweep, a call moves every lease along one transition. -/
theorem leasesConform_step (c : Call) (s : State) : LeasesConform (c.sweep s) (step s c) := by
  rcases step_cases s c with hrejected | ⟨r, hdone⟩
  · rw [hrejected]
    exact .refl _
  · exact hdone.leasesConform

theorem history_head (s : State) (calls : List Call) :
    ∃ rest, history s calls = s :: rest := by
  cases calls with
  | nil => exact ⟨[], rfl⟩
  | cons c calls => exact ⟨_, rfl⟩

theorem history_isChain (s : State) (calls : List Call) :
    (history s calls).IsChain LeasesConform := by
  induction calls generalizing s with
  | nil => exact .singleton s
  | cons c calls ih =>
    obtain ⟨rest, hrest⟩ := history_head (step s c) calls
    have htail := ih (step s c)
    rw [history]
    rw [hrest] at htail ⊢
    exact .cons_cons (leasesConform_sweep c s) (.cons_cons (leasesConform_step c s) htail)

/-- **Lease lifecycle.**  Over every run of the ledger, the states a lease takes are a path of the
contract's transitions, the revocation of an expired lease and the retry of a failed release;
released and revoked leases are never left. -/
theorem leaseStates_isChain (resources : List Resource) (fence : Nat) (calls : List Call)
    (n : String) :
    (leaseStates n (history (withNextFenceToken resources fence) calls)).IsChain Conforms ∧
      ∀ next, (Conforms .released next → next = .released) ∧
        (Conforms .revoked next → next = .revoked) := by
  refine ⟨?_, fun next => by cases next <;> decide⟩
  refine isChain_filterMap (fun s s' hconf state hstate => ?_) (history_isChain _ calls)
  obtain ⟨l, hl, rfl⟩ := Option.map_eq_some_iff.1 hstate
  obtain ⟨l', hl', hmove⟩ := hconf n l hl
  exact ⟨_, by rw [hl', Option.map_some], hmove⟩

/-- An expired lease is revoked: the path active, expired, revoked leaves the table. -/
theorem leaseStates_expired_revoked :
    ¬ (leaseStates "a" (history (withNextFenceToken [sampleResource "gpu"] 1)
      [.acquireLease 5 5 { sampleRequest "a" with expiresAtUnixMs := some 10 },
        .revoke 20 "a" 1])).IsChain (fun state next => state.canTransitionTo next) := by
  decide +kernel

end CyreneKernel.Ledger
