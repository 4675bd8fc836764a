import CyreneKernel.Authority.Calls
import CyreneKernel.Ledger.Calls
import CyreneKernel.Lib.View

/-!
# Rules for the actions of the authority

What an action does to the canonical objects, seen through `AuthorityRuntime.toCore`.  Guards, clock
readings and events are silent; the lookups, the journal records and the elementary updates have one
rule each, which the specification of every action is put together from.

## Main definitions

* `Does`, `Quiet`, `Mute`: the judgements of `CyreneKernel.Lib.View` at the canonical objects.
* `Core.lapse`: the expiry sweep of the ledger.
-/

namespace CyreneKernel

open Lib
open Ledger (ResourceLease)

/-- The objects after the expiry sweep of the ledger. -/
def Core.lapse (now : Nat) (c : Core) : Core :=
  { c with ledger := Ledger.expireDueLeases now c.ledger }

/-- The journal refuses a record at some time. -/
def Environment.Faulty (env : Environment) : Prop := ∃ n, env.append n ≠ .ok ()

namespace Authority

/-- What an action does to the canonical objects. -/
abbrev Does {α : Type} (m : Action α) (c : Core) (Q : α → Core → Prop) (E : Core → Prop) : Prop :=
  Holds AuthorityRuntime.toCore m c Q E

/-- The action leaves the canonical objects alone. -/
abbrev Quiet {α : Type} (m : Action α) : Prop := Silent AuthorityRuntime.toCore m

/-- The action leaves the canonical objects alone and does not fail. -/
abbrev Mute {α : Type} (m : Action α) : Prop := Harmless AuthorityRuntime.toCore m

section Rules

variable {α β : Type} {c : Core} {R : β → Core → Prop} {E : Core → Prop} {env : Environment}

/-! ### The outside world -/

theorem Does.ask {answer : Nat → α} {f : α → Action β} (hf : ∀ t, Does (f (answer t)) c R E) :
    Does (ask answer >>= f) c R E := by
  rintro s rfl
  exact hf s.tick _ rfl

variable {m : Action α} {f : Unit → Action β} (ns : NamespaceId)
  {lease : Option ResourceLease}

/-- A rule about the canonical objects, at a state. -/
theorem holds_of_does {s : AuthorityRuntime} {Q : α → Core → Prop} (h : Does m s.toCore Q E) :
    Holds id m s (fun a s' => Q a s'.toCore) fun s' => E s'.toCore := by
  rintro _ rfl
  exact h _ rfl

/-- An answer of the outside world, at a known time. -/
theorem holds_ask {answer : Nat → α} {f : α → Action β} {s : AuthorityRuntime}
    {R : β → AuthorityRuntime → Prop} {E : AuthorityRuntime → Prop}
    (hf : Holds id (f (answer s.tick)) { s with tick := s.tick + 1 } R E) :
    Holds id (ask answer >>= f) s R E := by
  rintro _ rfl
  exact hf _ rfl

theorem mute_ask (answer : Nat → α) : Mute (ask answer) := fun _ _ hs => hs

theorem quiet_ask (answer : Nat → α) : Quiet (ask answer) := (mute_ask answer).silent

theorem Does.tryAction {Q : Except Rejection α → Core → Prop} {E₀ : Core → Prop}
    (hm : Does m c (fun a c' => Q (.ok a) c') E₀) (hE : ∀ e c', E₀ c' → Q (.error e) c') :
    Does (tryAction m) c Q E :=
  hm.attempt hE

theorem Does.ignoreFailure {Q : Unit → Core → Prop} (hm : Does m c (fun _ c' => Q () c') (Q ())) :
    Does (ignoreFailure m) c Q E :=
  (Does.tryAction (Q := fun _ => Q ()) hm fun _ _ h => h).bind fun _ _ h => .pure h

theorem mute_tryAction (hm : Quiet m) : Mute (tryAction m) := hm.harmless_attempt

/-- A call of the ledger changes the ledger as the ledger says. -/
theorem does_ledgerCall {m : EStateM ProviderError Ledger.State α} {Q : α → Core → Prop}
    (hm : Ensures m c.ledger (fun a ledger => Q a { c with ledger := ledger })
      (fun _ ledger => E { c with ledger := ledger })) :
    Does (ledgerCall m) c Q E := by
  rintro s rfl
  exact (ensures_zoom _ _ _ m).2 hm

/-- A call of the ledger, and what follows it. -/
theorem does_ledgerCall_bind {m : EStateM ProviderError Ledger.State α} {f : α → Action β}
    (hm : Ensures m c.ledger (fun a ledger => Does (f a) { c with ledger := ledger } R E)
      (fun _ ledger => E { c with ledger := ledger })) :
    Does (ledgerCall m >>= f) c R E :=
  (does_ledgerCall hm).bind fun _ _ h => h

/-! ### Guards -/

theorem quiet_validateContext (context : AuthorityCallContext) : Quiet (validateContext context) :=
  .liftExcept _ _

theorem quiet_requireNamespaceOwner (context : AuthorityCallContext) (principal : Principal) :
    Quiet (requireNamespaceOwner context principal) :=
  Silent.get.bind fun _ => .rejectIf _ _

theorem quiet_bindNamespace (context : AuthorityCallContext) (principal : Principal) :
    Quiet (bindNamespace context principal) := by
  rw [Quiet, silent_iff_ensures]
  intro s
  simp only [bindNamespace, ensures_bind, ensures_get]
  split
  · exact rfl
  · exact silent_iff_ensures.1 (.rejectIf _ _) s

/-- The guards of a call that is made for the owner of its namespace. -/
theorem Does.asOwner {context : AuthorityCallContext} {principal : Principal} (hE : E c)
    (hf : Does (f ()) c R E) :
    Does (validateContext context >>= fun _ => requireNamespaceOwner context principal >>= f)
      c R E :=
  (quiet_validateContext _).holds_bind hE fun _ =>
    (quiet_requireNamespaceOwner _ _).holds_bind hE fun _ => hf

/-! ### The journal and the events -/

variable {event : RuntimeJournalEvent} {instanceName : Option String} {reasonCode : String}
  {context : AuthorityCallContext}

/-- A record is appended, unless the journal refuses it. -/
theorem Does.appendRecord {lease : Option ResourceLease}
    {evidence : Option Journal.RuntimeProcessEvidence} {f : Unit → Action β}
    (hE : env.Faulty → E c)
    (hf : Does (f ()) (c.log [c.record event instanceName lease reasonCode evidence]) R E) :
    Does (appendRecord env event instanceName lease reasonCode evidence >>= f) c R E := by
  unfold CyreneKernel.appendRecord
  simp only [bind_assoc]
  refine Does.ask fun t => ?_
  cases happend : env.append t with
  | error e => exact Holds.throw_bind (hE ⟨t, by simp [happend]⟩)
  | ok _ =>
    rw [liftExcept_ok, pure_bind]
    refine holds_modify_bind ?_
    rintro s rfl
    exact hf

theorem Does.recordRuntime (hE : env.Faulty → E c)
    (hf : Does (f ()) (c.log [c.record event instanceName lease reasonCode none]) R E) :
    Does (recordRuntime env event instanceName lease reasonCode >>= f) c R E :=
  Does.appendRecord hE hf

/-- A record whose failure is reported. -/
theorem Does.tryAppendRecord {evidence : Option Journal.RuntimeProcessEvidence}
    {f : Except Rejection Unit → Action β}
    (hE : env.Faulty → ∀ rejection, Does (f (.error rejection)) c R E)
    (hf : Does (f (.ok ())) (c.log [c.record event instanceName lease reasonCode evidence]) R E) :
    Does (CyreneKernel.tryAction
      (CyreneKernel.appendRecord env event instanceName lease reasonCode evidence) >>=
          f) c R E := by
  have happend : Does
      (CyreneKernel.appendRecord env event instanceName lease reasonCode evidence) c
      (fun _ c' => c' = c.log [c.record event instanceName lease reasonCode evidence])
      (fun c' => env.Faulty ∧ c' = c) := by
    rw [← bind_pure (CyreneKernel.appendRecord env _ _ _ _ _)]
    exact Does.appendRecord (fun h => ⟨h, rfl⟩) (Holds.pure rfl)
  refine (Does.tryAction (Q := fun outcome c' =>
    (∃ rejection, outcome = .error rejection ∧ env.Faulty ∧ c' = c) ∨
      outcome = .ok () ∧ c' = c.log [c.record event instanceName lease reasonCode evidence])
    (happend.mono (fun _ _ h => .inr ⟨rfl, h⟩) fun _ h => h) ?_).bind ?_
  · rintro e c' ⟨hfaulty, rfl⟩
    exact .inl ⟨e, rfl, hfaulty, rfl⟩
  · rintro _ _ (⟨rejection, rfl, hfaulty, rfl⟩ | ⟨rfl, rfl⟩)
    · exact hE hfaulty rejection
    · exact hf

/-- A record whose failure is ignored. -/
theorem Does.ignoreRecord (hE : env.Faulty → Does (f ()) c R E)
    (hf : Does (f ()) (c.log [c.record event instanceName lease reasonCode none]) R E) :
    Does (CyreneKernel.ignoreFailure
      (CyreneKernel.recordRuntime env event instanceName lease reasonCode) >>= f) c R E := by
  unfold CyreneKernel.ignoreFailure
  simp only [bind_assoc, pure_bind]
  exact Does.tryAppendRecord (fun h _ => hE h) hf

theorem quiet_eventHistoryFor (source : Identity) : Quiet (eventHistoryFor env ns source) := by
  refine (quiet_ask _).bind fun _ => (Silent.liftExcept _ _).bind fun durable => ?_
  cases durable with
  | some records => exact .liftExcept _ _
  | none => exact Silent.get.bind fun _ => .pure _

theorem mute_openHistory (source : Identity) : Mute (openHistory env ns source) := by
  refine Harmless.get.bind fun s => ?_
  cases s.semanticEvents[ns]? with
  | some history => exact .pure _
  | none =>
    refine (mute_tryAction (quiet_eventHistoryFor ns source)).bind fun history => ?_
    cases history <;> exact .pure _

theorem mute_putHistory (history : NamespaceEventHistory) : Mute (putHistory ns history) :=
  .modify fun _ => rfl

theorem mute_publishSemanticEventIn (subject : Identity) (kind schemaId : String) :
    Mute (publishSemanticEventIn env ns subject kind schemaId) := by
  refine Harmless.get.bind fun s => (mute_openHistory ns _).bind fun history => ?_
  cases history with
  | none => exact .pure _
  | some history =>
    refine (mute_putHistory ns history).bind fun _ => ?_
    dsimp only
    split
    · refine (mute_ask _).bind fun _ => ?_
      split
      · exact .pure _
      · refine (mute_ask _).bind fun outcome => ?_
        cases outcome <;> exact mute_putHistory ns _
    · exact .pure _

theorem quiet_publishSemanticEventIn (subject : Identity) (kind schemaId : String) :
    Quiet (publishSemanticEventIn env ns subject kind schemaId) :=
  (mute_publishSemanticEventIn ns subject kind schemaId).silent

/-! ### Lookups -/

/-- A lookup of a lease sweeps the ledger and finds the lease under the name it is indexed by. -/
theorem Does.leaseFor {identity : Identity} {f : ResourceLease → Action β} (hE : E c)
    (hlapse : ∀ now, E (c.lapse now))
    (hf : ∀ now lease, c.leases[context.objectRef identity]? = some lease.name →
      (c.lapse now).ledger.leases.get? lease.name = some lease →
      Does (f lease) (c.lapse now) R E) : Does (leaseFor env context identity >>= f) c R E := by
  unfold CyreneKernel.leaseFor
  rw [bind_assoc]
  refine Holds.get fun s hs => ?_
  subst hs
  rw [bind_assoc]
  refine Holds.okOr hE fun name hname => ?_
  rw [bind_assoc]
  refine Does.ask fun t => does_ledgerCall_bind (Ledger.getLease_ensures.mono ?_ ?_)
  · rintro lease ledger hdone
    cases hdone with
    | getLease hlease => exact hf _ lease hname hlease
  · rintro _ ledger rfl
    exact hlapse _

theorem quiet_isLapsed (lease : ResourceLease) : Quiet (isLapsed env lease) := by
  unfold isLapsed
  cases lease.expiresAtUnixMs with
  | none => exact .pure _
  | some expiry => exact (quiet_ask _).bind fun _ => .pure _

theorem Does.workerInstanceName {identity : Identity} {f : String → Action β} (hE : E c)
    (hf : ∀ name, c.workerInstanceName? context.ns identity = some name → Does (f name) c R E) :
    Does (workerInstanceName context identity >>= f) c R E := by
  unfold CyreneKernel.workerInstanceName
  rw [bind_assoc]
  refine Holds.get fun s hs => Holds.okOr hE fun name hname => hf name ?_
  rwa [← hs]

/-- An iteration of the processes visits each of them. -/
theorem Does.instanceEntries {f : List (String × ManagedProcess) → Action β}
    (hf : ∀ entries : List (String × ManagedProcess),
      (∀ name process, (name, process) ∈ entries ↔ c.instances[name]? = some process) →
      Does (f entries) c R E) :
    Does (instanceEntries env >>= f) c R E := by
  unfold CyreneKernel.instanceEntries
  rw [bind_assoc]
  refine Does.ask fun t => ?_
  rw [bind_assoc]
  refine Holds.get fun s hs => ?_
  subst hs
  rw [pure_bind]
  refine hf _ fun name process => ?_
  simp only [List.mem_filterMap, (env.order_perm t _).mem_iff, Option.map_eq_some_iff,
    Prod.mk.injEq]
  constructor
  · rintro ⟨name', -, process', h, rfl, rfl⟩
    exact h
  · intro h
    refine ⟨name, ?_, process, h, rfl, rfl⟩
    rw [Std.ExtTreeMap.mem_keys]
    exact Std.ExtTreeMap.mem_iff_isSome_getElem?.2 (by rw [h]; rfl)

/-! ### Calls of the ledger -/

/-- The states of a lease whose release may begin, or has begun. -/
def isReleasable (state : Ledger.LeaseState) : Bool :=
  state = .active || state = .failed || state = .releasing || state = .released

/-- A lease whose release has begun. -/
def begun (lease : ResourceLease) : ResourceLease :=
  if lease.state = .active ∨ lease.state = .failed then { lease with state := .releasing }
  else lease

theorem begun_cases {lease : ResourceLease} (h : isReleasable lease.state = true) :
    (begun lease = { lease with state := .releasing } ∧ lease.state ≠ .released) ∨
      (begun lease = lease ∧ lease.state = .released) := by
  obtain ⟨name, generation, state, holder, allocations, inventory, fence, expires, limits⟩ := lease
  revert h
  cases state <;> simp [isReleasable, begun]

theorem Does.daemonAcquireLease {request : Ledger.ResourceRequest}
    {f : ResourceLease → Action β} (hE : E c) (hlapse : ∀ now, E (c.lapse now))
    (hf : ∀ now resources, (c.lapse now).ledger.leases.get? request.leaseName = none →
      Does (f ((c.lapse now).ledger.granted request resources))
        { c with ledger := (c.lapse now).ledger.grant request resources } R E) :
    Does (daemonAcquireLease env request >>= f) c R E := by
  unfold Authority.daemonAcquireLease
  simp only [bind_assoc]
  refine Holds.get fun s _ => Holds.rejectIf hE fun _ => ?_
  refine Does.ask fun t => Does.ask fun t' => does_ledgerCall_bind ?_
  refine (Ledger.acquireLease_ensures (env.now t') request).mono ?_ ?_
  · rintro lease ledger hdone
    cases hdone with
    | acquireLease hnew _ _ => exact hf _ _ hnew
  · rintro _ ledger rfl
    exact hlapse _

/-- The start of a release. -/
theorem Does.daemonBeginRelease {leaseName : String} {fenceToken : Nat}
    {f : ResourceLease → Action β} (hlapse : ∀ now, E (c.lapse now))
    (hf : ∀ now lease, (c.lapse now).ledger.leases.get? lease.name = some lease →
      lease.name = leaseName → lease.fenceToken = fenceToken → isReleasable lease.state = true →
      Does (f (begun lease))
        { c.lapse now with ledger := (c.lapse now).ledger.put (begun lease) } R E) :
    Does (daemonBeginRelease env leaseName fenceToken >>= f) c R E := by
  unfold Authority.daemonBeginRelease
  rw [bind_assoc]
  refine Does.ask fun t => does_ledgerCall_bind (Ledger.beginRelease_ensures.mono ?_ ?_)
  · rintro lease ledger hdone
    cases hdone with
    | @beginRelease _ lease hstored hstate =>
      have hbegun : begun lease = { lease with state := .releasing } := if_pos hstate
      have hf := hf (env.now t) lease hstored rfl rfl (by rcases hstate with h | h <;>
        rw [h] <;> rfl)
      rwa [hbegun] at hf
    | beginReleaseAgain hstored hstate =>
      have hbegun : begun lease = lease :=
        if_neg (by rcases hstate with h | h <;> rw [h] <;> decide)
      have hf := hf (env.now t) lease hstored rfl rfl (by rcases hstate with h | h <;>
        rw [h] <;> rfl)
      rwa [hbegun, Ledger.put_self (s := (c.lapse (env.now t)).ledger) hstored] at hf
  · rintro _ ledger rfl
    exact hlapse _

/-- A failed release; the failure of the call itself is ignored. -/
theorem Does.failRelease {lease : ResourceLease} {f : Unit → Action β}
    (hlease : c.ledger.leases.get? lease.name = some lease)
    (hfail : lease.state = .releasing →
      Does (f ()) { c with ledger := c.ledger.put { lease with state := .failed } } R E)
    (hreleased : lease.state = .released → Does (f ()) c R E)
    (hstate : lease.state = .releasing ∨ lease.state = .released) :
    Does (CyreneKernel.ignoreFailure
      (ledgerCall (Ledger.failRelease lease.name lease.fenceToken)) >>= f) c R E := by
  refine (Does.ignoreFailure (does_ledgerCall ?_)).bind fun _ _ h => h
  simp only [Ledger.failRelease, Ledger.putLease, ensures_bind, Ledger.fenced_stored hlease rfl,
    ensures_rejectIf, ensures_pure, ensures_modify]
  rcases hstate with h | h
  · simpa [h] using hfail h
  · simpa [h] using hreleased h

theorem Does.completeRelease {lease : ResourceLease} {f : ResourceLease → Action β}
    (hlease : c.ledger.leases.get? lease.name = some lease)
    (hreleasing : lease.state = .releasing → Does (f { lease with state := .released }) { c with
      ledger := (c.ledger.free lease).put { lease with state := .released } } R E)
    (hreleased : lease.state = .released → Does (f lease) c R E)
    (hstate : lease.state = .releasing ∨ lease.state = .released) :
    Does (ledgerCall (Ledger.completeRelease lease.name lease.fenceToken) >>= f) c R E := by
  refine does_ledgerCall_bind ?_
  simp only [Ledger.completeRelease, Ledger.putLease, ensures_bind, Ledger.fenced_stored hlease rfl,
    ensures_rejectIf, ensures_pure, ensures_modify, ensures_ite]
  rcases hstate with h | h
  · simpa [h] using hreleasing h
  · simpa [h] using hreleased h

/-! ### Updates -/

theorem Does.putInstance {name : String} {process : ManagedProcess}
    (hf : Does (f ()) { c with instances := c.instances.insert name process } R E) :
    Does (putInstance name process >>= f) c R E := by
  refine holds_modify_bind ?_
  rintro s rfl
  exact hf

theorem Does.purgeEndpointAuthority {worker : Identity} {f : List Identity → Action β}
    (hf : Does (f (ownedEndpoints c worker)) (purge worker c) R E) :
    Does (purgeEndpointAuthority worker >>= f) c R E := by
  unfold Authority.purgeEndpointAuthority
  rw [bind_assoc]
  refine Holds.get fun s hs => ?_
  subst hs
  rw [bind_assoc]
  refine Holds.set ?_
  rw [pure_bind]
  exact hf

theorem Does.putOperation {operation : Operation} (hf : Does (f ()) { c with
      semanticOperations :=
        c.semanticOperations.insert (context.objectRef operation.identity) operation } R E) :
    Does (putOperation context operation >>= f) c R E := by
  refine holds_modify_bind ?_
  rintro s rfl
  exact hf

end Rules

end Authority

end CyreneKernel
