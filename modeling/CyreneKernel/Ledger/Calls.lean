import CyreneKernel.Ledger.Model
import CyreneKernel.Lib.Runs

/-!
# Calls of the lease manager and what they can do

A `Call` is one operation of the manager with its arguments and the clock readings it takes.
`Call.exec` runs it, and `step` is the transition function of the ledger: a call first sweeps the
due leases (`Call.sweep`, the identity for the calls that do not), and then either is rejected,
leaving the swept state, or succeeds.

`Done c s r s'` lists, with its guards, everything a successful call `c` can do to the swept
state `s`.  Every property of the ledger in this development is proved from this relation.

## Main definitions

* `Call`, `Reply`, `Call.exec`, `Call.sweep`, `step`.
* `Done`: the successful outcomes.

## Main results

* `exec_ensures`: an operation sweeps and is then rejected without effect, or is `Done`.
* `step_cases`: the same for the transition function.
-/

namespace CyreneKernel.Ledger

open Lib

/-- An operation of the manager with its arguments and clock readings. -/
inductive Call
  | acquireLease (now nowAgain : Nat) (request : ResourceRequest)
  | getLease (now : Nat) (leaseName : String)
  | renewLease (now : Nat) (leaseName : String) (fenceToken expiresAtUnixMs : Nat)
  | beginRelease (now : Nat) (leaseName : String) (fenceToken : Nat)
  | completeRelease (leaseName : String) (fenceToken : Nat)
  | failRelease (leaseName : String) (fenceToken : Nat)
  | revoke (now : Nat) (leaseName : String) (fenceToken : Nat)
  | completeRevocation (leaseName : String) (fenceToken : Nat)
  | leases (now : Nat)
  | refreshInventory (snapshot : InventorySnapshot)
  | quarantine (resourceId reasonCode : String)

/-- What a successful call returns. -/
inductive Reply
  | lease (lease : ResourceLease)
  | leases (leases : List ResourceLease)
  | unit

/-- Run a call. -/
def Call.exec : Call → EStateM ProviderError State Reply
  | acquireLease now nowAgain request => .lease <$> Ledger.acquireLease now nowAgain request
  | getLease now leaseName => .lease <$> Ledger.getLease now leaseName
  | renewLease now leaseName fenceToken expiresAtUnixMs =>
    .lease <$> Ledger.renewLease now leaseName fenceToken expiresAtUnixMs
  | beginRelease now leaseName fenceToken =>
    .lease <$> Ledger.beginRelease now leaseName fenceToken
  | completeRelease leaseName fenceToken => .lease <$> Ledger.completeRelease leaseName fenceToken
  | failRelease leaseName fenceToken => .lease <$> Ledger.failRelease leaseName fenceToken
  | revoke now leaseName fenceToken => .lease <$> Ledger.revoke now leaseName fenceToken
  | completeRevocation leaseName fenceToken =>
    .lease <$> Ledger.completeRevocation leaseName fenceToken
  | leases now => .leases <$> Ledger.leases now
  | refreshInventory snapshot => (fun _ => .unit) <$> Ledger.refreshInventory snapshot
  | quarantine resourceId reasonCode =>
    (fun _ => .unit) <$> Ledger.quarantine resourceId reasonCode

/-- The transition function of the ledger. -/
def step (s : State) (c : Call) : State := finalState (c.exec s)

/-- The clock readings a call takes, in order. -/
def Call.readings : Call → List Nat
  | acquireLease now nowAgain _ => [now, nowAgain]
  | getLease now _ | renewLease now _ _ _ | beginRelease now _ _ | revoke now _ _ | leases now =>
    [now]
  | _ => []

/-- The clock never runs backwards during the calls. -/
def Clocked (calls : List Call) : Prop := (calls.flatMap Call.readings).Pairwise (· ≤ ·)

instance (calls : List Call) : Decidable (Clocked calls) :=
  inferInstanceAs (Decidable (List.Pairwise _ _))

/-- The expiry sweep a call starts with. -/
def Call.sweep : Call → State → State
  | acquireLease now _ _ | getLease now _ | renewLease now _ _ _ | beginRelease now _ _
  | revoke now _ _ | leases now => expireDueLeases now
  | _ => id

/-- The successful outcomes of a call from the swept state `s`. -/
inductive Done (s : State) : Call → Reply → State → Prop
  | acquireLease {now nowAgain : Nat} {request : ResourceRequest}
      (hnew : s.leases.get? request.leaseName = none)
      (hexpiry : ¬ request.expiresAtUnixMs.any (· ≤ nowAgain))
      (hcount : (s.candidates request.query).length = request.query.count) :
      Done s (.acquireLease now nowAgain request)
        (.lease (s.granted request (s.candidates request.query)))
        (s.grant request (s.candidates request.query))
  | getLease {now : Nat} {lease : ResourceLease} (h : s.leases.get? lease.name = some lease) :
      Done s (.getLease now lease.name) (.lease lease) s
  | renewLease {now expiresAtUnixMs : Nat} {lease : ResourceLease}
      (h : s.leases.get? lease.name = some lease) (hstate : lease.state = .active)
      (hexpiry : now < expiresAtUnixMs) :
      Done s (.renewLease now lease.name lease.fenceToken expiresAtUnixMs)
        (.lease { lease with expiresAtUnixMs := some expiresAtUnixMs })
        (s.put { lease with expiresAtUnixMs := some expiresAtUnixMs })
  | beginRelease {now : Nat} {lease : ResourceLease} (h : s.leases.get? lease.name = some lease)
      (hstate : lease.state = .active ∨ lease.state = .failed) :
      Done s (.beginRelease now lease.name lease.fenceToken)
        (.lease { lease with state := .releasing }) (s.put { lease with state := .releasing })
  | beginReleaseAgain {now : Nat} {lease : ResourceLease}
      (h : s.leases.get? lease.name = some lease)
      (hstate : lease.state = .releasing ∨ lease.state = .released) :
      Done s (.beginRelease now lease.name lease.fenceToken) (.lease lease) s
  | completeRelease {lease : ResourceLease} (h : s.leases.get? lease.name = some lease)
      (hstate : lease.state = .releasing) :
      Done s (.completeRelease lease.name lease.fenceToken)
        (.lease { lease with state := .released })
        ((s.free lease).put { lease with state := .released })
  | completeReleaseAgain {lease : ResourceLease} (h : s.leases.get? lease.name = some lease)
      (hstate : lease.state = .released) :
      Done s (.completeRelease lease.name lease.fenceToken) (.lease lease) s
  | failRelease {lease : ResourceLease} (h : s.leases.get? lease.name = some lease)
      (hstate : lease.state = .releasing ∨ lease.state = .failed) :
      Done s (.failRelease lease.name lease.fenceToken)
        (.lease { lease with state := .failed }) (s.put { lease with state := .failed })
  | revoke {now : Nat} {lease : ResourceLease} (h : s.leases.get? lease.name = some lease)
      (hstate : lease.state = .active ∨ lease.state = .releasing ∨ lease.state = .expired) :
      Done s (.revoke now lease.name lease.fenceToken) (.lease (s.revoked lease))
        (s.revokeLease lease)
  | completeRevocation {lease : ResourceLease} (h : s.leases.get? lease.name = some lease)
      (hstate : lease.state = .revoked) :
      Done s (.completeRevocation lease.name lease.fenceToken) (.lease lease) (s.free lease)
  | leases {now : Nat} : Done s (.leases now) (.leases s.leases.values) s
  | refreshInventory {snapshot : InventorySnapshot} {resources quarantined} :
      Done s (.refreshInventory snapshot) .unit
        { s with
          resources := resources
          quarantined := quarantined
          generation := snapshot.generation }
  | quarantine {resourceId reasonCode : String} {resources quarantined} :
      Done s (.quarantine resourceId reasonCode) .unit
        { s with resources := resources, quarantined := quarantined }

/-! ### The effect of the elementary updates on leases -/

section

variable (now : Nat) (lease : ResourceLease)

include now lease

theorem expireIfDue_cases :
    lease.expireIfDue now = lease ∨
      lease.state = .active ∧ lease.expiresAtUnixMs.any (· ≤ now) = true ∧
        lease.expireIfDue now = { lease with state := .expired } := by
  unfold ResourceLease.expireIfDue
  split
  · next hdue =>
    rw [ResourceLease.isDue, Bool.and_eq_true, beq_iff_eq] at hdue
    exact .inr ⟨hdue.1, hdue.2, rfl⟩
  · exact .inl rfl

theorem resourceIds_expireIfDue : (lease.expireIfDue now).resourceIds = lease.resourceIds := by
  rcases expireIfDue_cases now lease with h | ⟨-, -, h⟩
  · rw [h]
  · rw [h, ResourceLease.resourceIds, ResourceLease.resourceIds]

theorem holder_expireIfDue : (lease.expireIfDue now).holder = lease.holder := by
  rcases expireIfDue_cases now lease with h | ⟨-, -, h⟩ <;> rw [h]

theorem fenceToken_expireIfDue : (lease.expireIfDue now).fenceToken = lease.fenceToken := by
  rcases expireIfDue_cases now lease with h | ⟨-, -, h⟩ <;> rw [h]

end

@[simp] theorem expireDueLeases_get? (now : Nat) (s : State) (n : String) :
    (expireDueLeases now s).leases.get? n = (s.leases.get? n).map (·.expireIfDue now) := by
  simp only [expireDueLeases, Index.get?_map]

@[simp] theorem put_get? (s : State) (lease : ResourceLease) (n : String) :
    (s.put lease).leases.get? n = if lease.name = n then some lease else s.leases.get? n := by
  simp only [State.put, Index.get?_insert]

theorem put_self {s : State} {lease : ResourceLease}
    (h : s.leases.get? lease.name = some lease) : s.put lease = s := by
  have hleases : s.leases.insert lease = s.leases := by
    refine Index.ext fun n => ?_
    rw [Index.get?_insert]
    split
    · next hn => rw [← hn, h]
    · rfl
  rw [State.put, hleases]

theorem put_put (s : State) {lease lease' : ResourceLease} (h : lease'.name = lease.name) :
    (s.put lease).put lease' = s.put lease' := by
  have hleases : (s.leases.insert lease).insert lease' = s.leases.insert lease' := by
    refine Index.ext fun n => ?_
    simp only [Index.get?_insert, h]
    split <;> rfl
  simp only [State.put, hleases]

@[simp] theorem revokeLease_get? (s : State) (lease : ResourceLease) (n : String) :
    (s.revokeLease lease).leases.get? n =
      if (s.revoked lease).name = n then some (s.revoked lease) else s.leases.get? n := by
  simp only [State.revokeLease, Index.get?_insert]

@[simp] theorem grant_get? (s : State) (request : ResourceRequest) (resources : List Resource)
    (n : String) :
    (s.grant request resources).leases.get? n =
      if request.leaseName = n then some (s.granted request resources) else s.leases.get? n := by
  simp only [State.grant, Index.get?_insert, State.granted]

/-! ### Every call is rejected or done -/

/-- The call is rejected in the swept state, or it is done and answered. -/
abbrev Settles {α : Type} (x : EStateM ProviderError State α) (s swept : State) (call : Call)
    (reply : α → Reply) : Prop :=
  Ensures x s (fun a s' => Done swept call (reply a) s') fun _ s' => s' = swept

section Outcomes

variable {s : State} {now : Nat} {leaseName : String} {fenceToken : Nat}
  {Q : ResourceLease → State → Prop} {E : ProviderError → State → Prop}

/-- A fenced lookup leaves the ledger alone and finds a lease under its own name and token. -/
theorem fenced_ensures (hE : ∀ e, E e s)
    (hQ : ∀ lease, s.leases.get? lease.name = some lease → leaseName = lease.name →
      fenceToken = lease.fenceToken → Q lease s) :
    Ensures (fenced leaseName fenceToken) s Q E := by
  simp only [fenced, lookup, ensures_bind, ensures_get, ensures_okOr, ensures_rejectIf,
    ensures_pure, hE, implies_true, true_and, ne_eq, not_not]
  intro lease hlease hfence
  have hname : lease.name = leaseName := Index.key_of_get? hlease
  exact hQ lease (by rw [hname, hlease]) hname.symm hfence.symm

theorem lookup_stored {lease : ResourceLease} (h : s.leases.get? leaseName = some lease) :
    Ensures (lookup leaseName) s Q E ↔ Q lease s := by
  simp [lookup, h]

/-- A fenced lookup of a stored lease under its own token. -/
theorem fenced_stored {lease : ResourceLease} (h : s.leases.get? leaseName = some lease)
    (htoken : lease.fenceToken = fenceToken) :
    Ensures (fenced leaseName fenceToken) s Q E ↔ Q lease s := by
  simp [fenced, lookup_stored h, htoken]

theorem acquireLease_ensures (nowAgain : Nat) (request : ResourceRequest) :
    Settles (acquireLease now nowAgain request) s (expireDueLeases now s)
      (.acquireLease now nowAgain request) .lease := by
  simp only [acquireLease, ensures_bind, ensures_modify, ensures_get, ensures_rejectIf,
    ensures_liftExcept, ensures_set, ensures_pure, implies_true, true_and, ne_eq, not_not]
  intro _ hnew _ _ hexpiry hcount
  have hnone : (expireDueLeases now s).leases.get? request.leaseName = none := by
    simpa [Index.contains] using hnew
  exact .acquireLease hnone hexpiry hcount

theorem getLease_ensures :
    Settles (getLease now leaseName) s (expireDueLeases now s)
      (.getLease now leaseName) .lease := by
  simp only [getLease, lookup, ensures_bind, ensures_modify, ensures_get, ensures_okOr,
    implies_true, true_and]
  intro lease hlease
  obtain rfl := Index.key_of_get? hlease
  exact .getLease hlease

theorem renewLease_ensures (expiresAtUnixMs : Nat) :
    Settles (renewLease now leaseName fenceToken expiresAtUnixMs) s (expireDueLeases now s)
      (.renewLease now leaseName fenceToken expiresAtUnixMs) .lease := by
  simp only [renewLease, ensures_bind, ensures_modify, ensures_rejectIf, implies_true, true_and,
    Nat.not_le]
  intro hexpiry
  refine fenced_ensures (fun _ => rfl) ?_
  rintro lease hlease rfl rfl
  simp only [putLease, ensures_bind, ensures_modify, ensures_pure, implies_true, true_and, ne_eq,
    not_not]
  intro hstate _
  exact .renewLease hlease hstate hexpiry

theorem beginRelease_ensures :
    Settles (beginRelease now leaseName fenceToken) s (expireDueLeases now s)
      (.beginRelease now leaseName fenceToken) .lease := by
  simp only [beginRelease, ensures_bind, ensures_modify]
  refine fenced_ensures (fun _ => rfl) ?_
  rintro lease hlease rfl rfl
  split
  · next hstate => exact .beginRelease hlease (.inl hstate)
  · next hstate => exact .beginRelease hlease (.inr hstate)
  · next hstate => exact .beginReleaseAgain hlease (.inl hstate)
  · next hstate => exact .beginReleaseAgain hlease (.inr hstate)
  · rfl

theorem completeRelease_ensures :
    Settles (completeRelease leaseName fenceToken) s s (.completeRelease leaseName fenceToken)
      .lease := by
  simp only [completeRelease, ensures_bind]
  refine fenced_ensures (fun _ => rfl) ?_
  rintro lease hlease rfl rfl
  simp only [putLease, ensures_ite, ensures_pure, ensures_bind, ensures_rejectIf, ensures_modify,
    implies_true, true_and, ne_eq, not_not]
  exact ⟨.completeReleaseAgain hlease, fun _ => .completeRelease hlease⟩

theorem failRelease_ensures :
    Settles (failRelease leaseName fenceToken) s s (.failRelease leaseName fenceToken) .lease := by
  simp only [failRelease, ensures_bind]
  refine fenced_ensures (fun _ => rfl) ?_
  rintro lease hlease rfl rfl
  simp only [putLease, ensures_bind, ensures_rejectIf, ensures_modify, ensures_pure,
    implies_true, true_and]
  intro hstate
  exact .failRelease hlease (by tauto)

theorem revoke_ensures :
    Settles (revoke now leaseName fenceToken) s (expireDueLeases now s)
      (.revoke now leaseName fenceToken) .lease := by
  simp only [revoke, ensures_bind, ensures_modify]
  refine fenced_ensures (fun _ => rfl) ?_
  rintro lease hlease rfl rfl
  simp only [ensures_rejectIf, ensures_get, ensures_set, ensures_pure, implies_true, true_and]
  intro hstate
  exact .revoke hlease (by tauto)

theorem completeRevocation_ensures :
    Settles (completeRevocation leaseName fenceToken) s s (.completeRevocation leaseName fenceToken)
      .lease := by
  simp only [completeRevocation, ensures_bind]
  refine fenced_ensures (fun _ => rfl) ?_
  rintro lease hlease rfl rfl
  simp only [ensures_rejectIf, ensures_modify, ensures_pure, implies_true, true_and, ne_eq,
    not_not]
  exact .completeRevocation hlease

theorem refreshInventory_ensures (snapshot : InventorySnapshot) :
    Settles (refreshInventory snapshot) s s (.refreshInventory snapshot) fun _ => .unit := by
  simp only [refreshInventory, ensures_bind, ensures_get, ensures_rejectIf, ensures_set,
    implies_true, true_and]
  intro _ _ _
  exact .refreshInventory

theorem quarantine_ensures (resourceId reasonCode : String) :
    Settles (quarantine resourceId reasonCode) s s (.quarantine resourceId reasonCode)
      fun _ => .unit := by
  simp only [quarantine, ensures_bind, ensures_get, ensures_okOr, ensures_set, implies_true,
    true_and]
  intro _ _
  exact .quarantine

end Outcomes

/-- A call sweeps the due leases, and is then rejected without further effect or done. -/
theorem exec_ensures (s : State) (c : Call) :
    Ensures c.exec s (fun r s' => Done (c.sweep s) c r s') (fun _ s' => s' = c.sweep s) := by
  cases c <;> simp only [Call.exec, ensures_map, Call.sweep, id]
  case acquireLease => exact acquireLease_ensures _ _
  case getLease => exact getLease_ensures
  case renewLease => exact renewLease_ensures _
  case beginRelease => exact beginRelease_ensures
  case completeRelease => exact completeRelease_ensures
  case failRelease => exact failRelease_ensures
  case revoke => exact revoke_ensures
  case completeRevocation => exact completeRevocation_ensures
  case leases => exact .leases
  case refreshInventory => exact refreshInventory_ensures _
  case quarantine => exact quarantine_ensures _ _

/-- The ledger after a call is the swept state, or what a successful call makes of it. -/
theorem step_cases (s : State) (c : Call) :
    step s c = c.sweep s ∨ ∃ r, Done (c.sweep s) c r (step s c) := by
  have h := exec_ensures s c
  unfold Ensures at h
  unfold step
  split at h
  · next r s' heq => exact .inr ⟨r, by simpa only [heq, finalState_ok] using h⟩
  · next e s' heq => exact .inl (by simpa only [heq, finalState_error] using h)

/-! ### A sample inventory -/

/-- A ready resource of class `accelerator` without capabilities. -/
def sampleResource (id : String) : Resource where
  identity := ⟨id, 1⟩
  provider := ⟨"provider", 1⟩
  resourceClass := "accelerator"
  capabilities := []
  capacity := ∅
  attributes := ∅
  state := .ready
  reasonCode := "ready"
  summary := "healthy"
  links := []

/-- A request for one accelerator. -/
def sampleRequest (leaseName : String) : ResourceRequest where
  leaseName := leaseName
  expectedInventoryGeneration := 1
  holder := ⟨"worker/sample", 1⟩
  query := ⟨"accelerator", 1, [], ∅⟩
  expiresAtUnixMs := none
  limits := ⟨none, none, none⟩

end CyreneKernel.Ledger
