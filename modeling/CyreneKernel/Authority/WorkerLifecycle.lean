import CyreneKernel.Authority.Steps

/-!
# The lifecycle of workers

A heartbeat and a loss ask `WorkerState.canTransitionTo` before they assign a state; stopping a
process assigns `Draining` and then `Stopped` or `Failed` to its worker, whatever state it is in.
What protects the workers is the lease: `stop_worker` wants an active one, and the worker of an
active lease has not ended.  A release takes failed, releasing and released leases as well, and
drags the worker of such a lease out of the state it ended in.

## Main definitions

* `ManagedProcess.Conforms`: the states assigned to a worker follow the contract.
* `releasesEnded`: a call releases a lease whose worker has ended.

## Main results

* `workerLifecycle`: without such releases every assigned state follows the contract.
* `retriedRelease_not_conforms`: the retry of a failed release stops a failed worker.
-/

namespace CyreneKernel

open Lib Relation
open Ledger (ResourceLease)

/-- The states that a worker is never to leave. -/
def WorkerState.hasEnded : WorkerState → Bool
  | .stopped | .failed | .lost => true
  | _ => false

/-- The states assigned to a worker, from the first to the current one, follow the contract. -/
structure ManagedProcess.Conforms (process : ManagedProcess) : Prop where
  chain : process.history.IsChain fun next state => state.canTransitionTo next = true
  current : process.history.head? = process.semanticWorker.map (·.state)

/-! ### Assigning a state -/

namespace ManagedProcess

variable {process process' : ManagedProcess} {worker : Worker}

theorem Conforms.congr (h : process.Conforms) (hhistory : process'.history = process.history)
    (hworker : process'.semanticWorker = process.semanticWorker) : process'.Conforms where
  chain := by rw [hhistory]; exact h.chain
  current := by rw [hhistory, hworker]; exact h.current

/-- A state that the contract allows may be assigned. -/
theorem Conforms.withState (h : process.Conforms) (hworker : process.semanticWorker = some worker)
    {state : WorkerState} (hstate : worker.state.canTransitionTo state = true) :
    (process.withState state).Conforms where
  chain := by
    refine List.isChain_cons.2 ⟨fun current hcurrent => ?_, h.chain⟩
    rw [h.current, hworker] at hcurrent
    obtain rfl := Option.some.inj hcurrent
    exact hstate
  current := by simp [ManagedProcess.withState, hworker]

end ManagedProcess

theorem WorkerState.canTransitionTo_draining {state : WorkerState} (h : state.hasEnded = false) :
    state.canTransitionTo .draining = true := by
  revert h
  cases state <;> decide

namespace Authority

variable {Γ : Scope} {c c' : Core} {env : Environment} {s : AuthorityRuntime}
  {process process' : ManagedProcess} {worker : Worker}

/-- A process whose worker has not ended may be stopped. -/
theorem conforms_stoppedProcess (h : process.Conforms)
    (hworker : process.semanticWorker = some worker) (hstate : worker.state.hasEnded = false)
    (outcome : Except ProviderError CleanupReport) :
    (stoppedProcess process outcome).Conforms := by
  let draining : ManagedProcess :=
    { process.withState .draining with actor := (process.actor.stop outcome).2 }
  have hdraining : draining.Conforms :=
    (h.withState hworker (WorkerState.canTransitionTo_draining hstate)).congr rfl rfl
  unfold stoppedProcess
  split
  · exact hdraining
  · refine hdraining.withState (withState_semanticWorker hworker .draining) ?_
    split <;> rfl

/-! ### Every assigned state -/

/-- Every process conforms. -/
def AllConform (c : Core) : Prop :=
  ∀ (name : String) (process : ManagedProcess), c.instances[name]? = some process →
    process.Conforms

theorem AllConform.insert (h : AllConform c) {name : String}
    (hinstances : c'.instances = c.instances.insert name process) (hprocess : process.Conforms) :
    AllConform c' := by
  intro n p hp
  rw [hinstances, BTreeMap.getElem?_insert] at hp
  split_ifs at hp with heq
  · exact Option.some.inj hp ▸ hprocess
  · exact h n p hp

/-- The workers that a call may stop have not ended. -/
def Scope.SparesEnded (Γ : Scope) : Prop :=
  ∀ {lease : ResourceLease} {worker : Worker}, Γ.stops lease worker →
    compatible worker.state lease.state = true → worker.state.hasEnded = false

theorem Effect.allConform (hΓ : Γ.SparesEnded) (hc : Coherent c) (h : AllConform c)
    (heffect : Effect Γ c c') : AllConform c' := by
  cases heffect with
  | loss hloss =>
    cases hloss with
    | lose outcome hns hpurge hname hprocess hworker hstate =>
      exact h.insert rfl (((h _ _ hprocess).withState hworker hstate).congr rfl rfl)
    | _ => exact h
  | @stop object name process worker lease _ _ outcome hns hstop hprocess hworker hleased hlease
      hfence =>
    have hb := (hc.bound_of_lease hprocess hworker hleased hlease hfence).1
    exact h.insert rfl
      (conforms_stoppedProcess (h _ _ hprocess) hworker (hΓ hstop hb.fits) outcome)
  | @launch ns process worker lease _ hns hnew hworker hstarting hhistory =>
    refine h.insert rfl ⟨?_, ?_⟩
    · rw [hhistory]
      exact .singleton _
    · rw [hhistory, hworker]
      rfl
  | run actor heartbeatAt hns hname hprocess hworker hstate =>
    exact h.insert rfl (((h _ _ hprocess).withState hworker hstate).congr rfl rfl)
  | session hsession hprocess hworker hlease hactor hhistory =>
    exact h.insert rfl ((h _ _ hprocess).congr hhistory hworker)
  | _ => exact h

theorem Path.allConform (hΓ : Γ.SparesEnded) (hc : Coherent c) (h : AllConform c)
    (hpath : Path Γ c c') : AllConform c' := by
  induction hpath with
  | refl => exact h
  | tail hpath heffect ih => exact heffect.allConform hΓ (hc.path hpath) ih

/-! ### Histories only grow -/

/-- Every process continues one of the same worker, or belongs to a worker that is new. -/
structure Continues (c c' : Core) : Prop where
  workers : ∀ {object : ObjectRef} {name : String}, c.workers[object]? = some name →
    c'.workers[object]? = some name
  instances : ∀ {name : String} {process : ManagedProcess} {worker : Worker},
    c'.instances[name]? = some process → process.semanticWorker = some worker →
    (∃ before stored, c.instances[name]? = some before ∧ before.semanticWorker = some stored ∧
      stored.identity = worker.identity ∧ before.history <:+ process.history) ∨
    ∃ ns, c.workers[(⟨ns, worker.identity⟩ : ObjectRef)]? = none ∧
      c'.workers[(⟨ns, worker.identity⟩ : ObjectRef)]? = some name

theorem Continues.of_eq (hworkers : c'.workers = c.workers)
    (hinstances : c'.instances = c.instances) : Continues c c' where
  workers h := by rw [hworkers]; exact h
  instances hprocess hworker :=
    .inl ⟨_, _, by rw [← hinstances]; exact hprocess, hworker, rfl, List.suffix_refl _⟩

theorem Continues.trans {c'' : Core} (h : Continues c c') (h' : Continues c' c'') :
    Continues c c'' where
  workers hworker := h'.workers (h.workers hworker)
  instances {name process worker} hprocess hworker := by
    rcases h'.instances hprocess hworker with
      ⟨before, stored, hbefore, hstored, hidentity, hsuffix⟩ | ⟨ns, hnone, hsome⟩
    · rcases h.instances hbefore hstored with
        ⟨before', stored', hbefore', hstored', hidentity', hsuffix'⟩ | ⟨ns, hnone, hsome⟩
      · exact .inl ⟨before', stored', hbefore', hstored', hidentity'.trans hidentity,
          hsuffix'.trans hsuffix⟩
      · rw [hidentity] at hnone hsome
        exact .inr ⟨ns, hnone, h'.workers hsome⟩
    · refine .inr ⟨ns, ?_, hsome⟩
      cases hworkers : c.workers[(⟨ns, worker.identity⟩ : ObjectRef)]? with
      | none => rfl
      | some other => exact absurd (hnone.symm.trans (h.workers hworkers)) (by simp)

theorem Effect.continues (h : Effect Γ c c') : Continues c c' := by
  rcases h.sustains_or_starts with hsustains | ⟨object, process, -, hidentity, hstarts⟩
  · refine ⟨fun h => hsustains.workers ▸ h, fun {n p w} hp hw => .inl ?_⟩
    obtain ⟨before, hbefore, hinherits⟩ := hsustains.before hp
    obtain ⟨stored, hstored, hidentity, -⟩ := worker_of_binding hinherits.binding_eq hw
    exact ⟨before, stored, hbefore, hstored, hidentity, hinherits.history⟩
  · refine ⟨fun {o name} h => ?_, fun {n p w} hp hw => ?_⟩
    · rw [hstarts.workers, BTreeMap.getElem?_insert, if_neg]
      · exact h
      · rintro rfl
        exact absurd (hstarts.new.symm.trans h) (by simp)
    · rw [hstarts.instances, BTreeMap.getElem?_insert] at hp
      split_ifs at hp with heq
      · obtain rfl := Option.some.inj hp
        rw [hw, Option.map_some, Option.some.injEq] at hidentity
        refine .inr ⟨object.ns, ?_⟩
        rw [hidentity, hstarts.workers, BTreeMap.getElem?_insert, if_pos rfl, heq]
        exact ⟨hstarts.new, rfl⟩
      · exact .inl ⟨p, w, hp, hw, rfl, List.suffix_refl _⟩

theorem Path.continues (h : Path Γ c c') : Continues c c' := by
  induction h with
  | refl => exact .of_eq rfl rfl
  | tail _ heffect ih => exact ih.trans heffect.continues

/-- A worker that is stored before and after has kept its history. -/
theorem Continues.suffix (h : Continues c c') (hc : Coherent c) (hc' : Coherent c')
    {name : String} {before : ManagedProcess} {stored : Worker}
    (hbefore : c.instances[name]? = some before) (hstored : before.semanticWorker = some stored)
    (hprocess : c'.instances[name]? = some process)
    (hworker : process.semanticWorker = some worker)
    (hidentity : stored.identity = worker.identity) : before.history <:+ process.history := by
  rcases h.instances hprocess hworker with ⟨before', stored', hbefore', -, -, hsuffix⟩ |
    ⟨ns, hnone, hsome⟩
  · obtain rfl := Option.mem_unique hbefore hbefore'
    exact hsuffix
  · -- the name tells the namespace, in which the worker was indexed before
    obtain ⟨ns', stored', lease, hb⟩ := hc.bound hbefore
    obtain rfl := Option.mem_unique hstored hb.worker_eq
    have hindexed := h.workers hb.indexed
    rw [hidentity] at hindexed
    have hns : ns' = ns :=
      scopedRuntimeName_inj ((hc'.worker_name hindexed).symm.trans (hc'.worker_name hsome))
    rw [← hidentity, ← hns, hb.indexed] at hnone
    exact absurd hnone (by simp)

/-! ### Runs -/

/-- The call releases a lease, by its current fence token, whose worker has ended. -/
def releasesEnded (s : AuthorityRuntime) : Call → Bool
  | .releaseLease context _ lease fenceToken =>
    (s.leases[context.objectRef lease]?).any fun name =>
      (s.ledger.leases.get? name).any (·.fenceToken = fenceToken) &&
        s.instances.toList.any fun entry =>
          entry.2.lease = some ⟨name, fenceToken⟩ &&
            entry.2.semanticWorker.any (·.state.hasEnded)
  | _ => false

theorem releasesEnded_of_releaseStops {context : AuthorityCallContext} {principal : Principal}
    {leaseIdentity : Identity} {fenceToken : Nat} {lease : ResourceLease}
    (h : ReleaseStops s.toCore (context.objectRef leaseIdentity) fenceToken lease worker)
    (hended : worker.state.hasEnded = true) :
    releasesEnded s (.releaseLease context principal leaseIdentity fenceToken) = true := by
  obtain ⟨hleased, hlease, hfence, name, process, hprocess, hworker, href⟩ := h
  have hmem : (name, process) ∈ s.instances.toList :=
    Std.ExtTreeMap.mem_toList_iff_getElem?_eq_some.2 hprocess
  unfold Core.Stores at hlease
  simp only [releasesEnded, hleased, hlease, hfence, Option.any_some, decide_true, Bool.true_and,
    List.any_eq_true]
  exact ⟨(name, process), hmem, by simp [href, hworker, hended]⟩

/-- A worker on an active lease has not ended. -/
theorem hasEnded_of_active {state : WorkerState} (h : compatible state .active = true) :
    state.hasEnded = false := by
  revert h
  cases state <;> decide

theorem sparesEnded_scope {call : Call} (h : releasesEnded s call = false) :
    (call.scope env s).SparesEnded := by
  cases call with
  | releaseLease =>
    intro stored worker hstop _
    by_contra hended
    rw [releasesEnded_of_releaseStops hstop (Bool.not_eq_false _ ▸ hended)] at h
    exact absurd h (by decide)
  | stopWorker context principal worker lease fenceToken =>
    intro stored worker hstop hfits
    rw [show stored.state = .active from hstop] at hfits
    exact hasEnded_of_active hfits
  | _ => exact fun hstop => hstop.elim

theorem eq_of_canTransitionTo_of_hasEnded {state next : WorkerState}
    (hended : state.hasEnded = true) (h : state.canTransitionTo next = true) : next = state := by
  revert hended h
  cases state <;> cases next <;> decide

/-- An assigned state that has ended is the last one. -/
theorem head?_of_hasEnded {assigned history : List WorkerState} {state : WorkerState}
    (h : (assigned ++ state :: history).IsChain fun next state =>
      state.canTransitionTo next = true)
    (hended : state.hasEnded = true) : (assigned ++ state :: history).head? = some state := by
  induction assigned with
  | nil => rfl
  | cons next assigned ih =>
    rw [List.cons_append, List.isChain_cons] at h
    rw [List.cons_append, List.head?_cons,
      eq_of_canTransitionTo_of_hasEnded hended (h.1 state (ih h.2))]

theorem AllConform.step (h : AllConform s.toCore) (hc : Coherent s.toCore) {call : Call}
    (hcall : releasesEnded s call = false) : AllConform (Authority.step env s call).toCore :=
  Path.allConform (sparesEnded_scope hcall) hc h (step_path hc call)

/-- In a run without releases of leases whose worker has ended, every state that was ever assigned
to a stored worker follows the contract; the history that shows it is never cut, and a worker that
has ended stays as it is. -/
theorem workerLifecycle (env : Environment) (resources : List Resource) (nextFenceToken : Nat)
    (nodeId : String) (nodeEpoch : Nat) (calls : List Call) (call : Call)
    (h : Along (step env) (fun s call => releasesEnded s call = false)
      (.new (Ledger.withNextFenceToken resources nextFenceToken) nodeId nodeEpoch)
      (calls ++ [call])) :
    let s := run (step env)
      (.new (Ledger.withNextFenceToken resources nextFenceToken) nodeId nodeEpoch) calls
    ∀ {name : String} {process : ManagedProcess} {worker : Worker},
      (step env s call).instances[name]? = some process →
      process.semanticWorker = some worker →
      process.Conforms ∧ ∀ {before : ManagedProcess} {stored : Worker},
        s.instances[name]? = some before → before.semanticWorker = some stored →
        stored.identity = worker.identity →
        before.history <:+ process.history ∧
          (stored.state.hasEnded = true → worker.state = stored.state) := by
  intro s name process worker hprocess hworker
  obtain ⟨hcalls, hcall, -⟩ := along_append.1 h
  obtain ⟨hc, hconform⟩ : Coherent s.toCore ∧ AllConform s.toCore := by
    refine run_induction (I := fun s : AuthorityRuntime => Coherent s.toCore ∧ AllConform s.toCore)
      ⟨coherent_new _ _ _ _, fun n p hp => absurd hp (by simp [AuthorityRuntime.new])⟩ ?_ hcalls
    exact fun _ call h hcall => ⟨h.1.step call, h.2.step h.1 hcall⟩
  have hprocessConforms := hconform.step hc hcall name process hprocess
  refine ⟨hprocessConforms, fun {before stored} hbefore hstored hidentity => ?_⟩
  have hsuffix := (Path.continues (step_path hc call)).suffix hc (hc.step call) hbefore hstored
    hprocess hworker hidentity
  refine ⟨hsuffix, fun hended => ?_⟩
  obtain ⟨assigned, hassigned⟩ := hsuffix
  have hcurrent := (hconform name before hbefore).current
  rw [hstored, Option.map_some, List.head?_eq_some_iff] at hcurrent
  obtain ⟨earlier, hearlier⟩ := hcurrent
  have hchain := hprocessConforms.chain
  have hhead := hprocessConforms.current
  rw [← hassigned, hearlier] at hchain hhead
  rw [head?_of_hasEnded hchain hended, hworker, Option.map_some] at hhead
  exact (Option.some.inj hhead).symm

/-- A worker is started and stopped, and its lease is released again after the cleanup was reported
as incomplete. -/
def retriedRelease : List Call :=
  [sampleAcquire default "a" ⟨"worker", 1⟩ 100,
    .startWorker (sampleContext default "start") samplePrincipal
      (sampleWorker "worker" 1 ⟨"lease-a", 1⟩),
    .stopWorker (sampleContext default "stop") samplePrincipal ⟨"worker", 1⟩ ⟨"lease-a", 1⟩ 1,
    .releaseLease (sampleContext default "release") samplePrincipal ⟨"lease-a", 1⟩ 1]

/-- Only the second cleanup, of the release, is complete. -/
def retriedReleaseEnvironment : Environment :=
  sampleEnvironment (fun _ => 0) (fun _ => .ok ()) fun n => .ok ⟨25 ≤ n, "cleanup"⟩

/-- The states that were assigned to the worker of an instance, the latest first. -/
def assignedStates (s : AuthorityRuntime) (name : String) : Option (List WorkerState) :=
  s.instances[name]?.map (·.history)

/-- The release takes the failed lease once more, and its worker from `Failed` over `Draining` to
`Stopped`. -/
theorem retriedRelease_not_conforms :
    let states := fun n => assignedStates
      (run (step retriedReleaseEnvironment) (sampleAuthority ["gpu"]) (retriedRelease.take n))
      "worker"
    states 3 = some [.failed, .draining, .starting] ∧
      states 4 = some [.stopped, .draining, .failed, .draining, .starting] ∧
      WorkerState.failed.canTransitionTo .draining = false ∧
      WorkerState.failed.canTransitionTo .stopped = false := by
  decide +kernel

/-- The run up to the stop meets the condition, and the worker reaches `Failed` as the contract
allows. -/
theorem workerLifecycle_retriedRelease :
    ∃ process worker,
      (run (step retriedReleaseEnvironment) (sampleAuthority ["gpu"])
        (retriedRelease.take 3)).instances["worker"]? = some process ∧
      process.semanticWorker = some worker ∧ worker.state = .failed ∧ process.Conforms := by
  have hfailed : (((run (step retriedReleaseEnvironment) (sampleAuthority ["gpu"])
      (retriedRelease.take 3)).instances["worker"]?).bind (·.semanticWorker)).map (·.state) =
        some .failed := by
    decide +kernel
  obtain ⟨worker, hworker, hstate⟩ := Option.map_eq_some_iff.1 hfailed
  obtain ⟨process, hprocess, hworker⟩ := Option.bind_eq_some_iff.1 hworker
  refine ⟨process, worker, hprocess, hworker, hstate, ?_⟩
  exact (workerLifecycle retriedReleaseEnvironment (["gpu"].map Ledger.sampleResource) 1 "node" 1
    (retriedRelease.take 2)
    (.stopWorker (sampleContext default "stop") samplePrincipal ⟨"worker", 1⟩ ⟨"lease-a", 1⟩ 1)
    ⟨rfl, rfl, rfl, trivial⟩ hprocess hworker).1

end Authority

end CyreneKernel
