import CyreneKernel.Authority.Steps

/-!
# The processes of the workers

`start_worker` asks by the object whether a worker is managed, and stores the process under the
runtime name of the worker.  As long as no worker is started whose runtime name belongs to another
one, every process stays with the worker it was started for.

## Main results

* `runtimeNames_identify`: without such starts every worker keeps its process.
* `regeneratedWorker_not_identified`: in the default namespace a new generation of a worker takes
  the place of the old one.
-/

namespace CyreneKernel

open Lib Relation

namespace Authority

variable {Γ : Scope} {c c' c'' : Core} {env : Environment} {s : AuthorityRuntime}
  {process process' : ManagedProcess} {name : String}

/-- No two workers have one runtime name, and under the runtime name of a worker is its process. -/
structure Identifies (c : Core) : Prop where
  injective : ∀ ⦃object object' : ObjectRef⦄ ⦃name : String⦄, c.workers[object]? = some name →
    c.workers[object']? = some name → object = object'
  resolves : ∀ ⦃object : ObjectRef⦄ ⦃name : String⦄, c.workers[object]? = some name →
    c.workerInstanceName? object.ns object.identity = some name ∧
      ∃ process worker lease, Bound c name process object.ns worker lease ∧
        worker.identity = object.identity

/-- Every process is still there, for the same worker on the same lease. -/
def Keeps (c c' : Core) : Prop :=
  ∀ ⦃name : String⦄ ⦃process : ManagedProcess⦄, c.instances[name]? = some process →
    ∃ process', c'.instances[name]? = some process' ∧ process'.lease = process.lease ∧
      process'.semanticWorker.map (·.identity) = process.semanticWorker.map (·.identity)

/-! ### Processes that stay -/

theorem Keeps.of_eq (h : c'.instances = c.instances) : Keeps c c' :=
  fun _ process hprocess => ⟨process, by rw [h]; exact hprocess, rfl, rfl⟩

theorem Keeps.trans (h : Keeps c c') (h' : Keeps c' c'') : Keeps c c'' := by
  intro name process hprocess
  obtain ⟨process', hprocess', hlease, hidentity⟩ := h hprocess
  obtain ⟨process'', hprocess'', hlease', hidentity'⟩ := h' hprocess'
  exact ⟨process'', hprocess'', hlease'.trans hlease, hidentity'.trans hidentity⟩

/-- A process is changed, or one is stored under a name that is free. -/
theorem Keeps.insert (hinstances : c'.instances = c.instances.insert name process')
    (h : ∀ process, c.instances[name]? = some process → process'.lease = process.lease ∧
      process'.semanticWorker.map (·.identity) = process.semanticWorker.map (·.identity)) :
    Keeps c c' := by
  intro n p hp
  by_cases heq : name = n
  · subst heq
    exact ⟨process', by rw [hinstances, BTreeMap.getElem?_insert, if_pos rfl], h p hp⟩
  · exact ⟨p, by rw [hinstances, BTreeMap.getElem?_insert, if_neg heq, hp], rfl, rfl⟩

theorem Sustains.keeps (h : Sustains c c') : Keeps c c' := by
  intro name process hprocess
  obtain ⟨process', hprocess', hbinding, -⟩ := h.after hprocess
  have hidentity := congrArg (fun binding => binding.2.map Prod.fst) hbinding
  simp only [ManagedProcess.binding, Option.map_map] at hidentity
  exact ⟨process', hprocess', congrArg Prod.fst hbinding, hidentity⟩

/-! ### Workers that do not collide -/

/-- No two workers collide, and every worker has a process. -/
structure Separate (c : Core) : Prop where
  apart : ∀ ⦃object object' : ObjectRef⦄ ⦃name name' : String⦄, c.workers[object]? = some name →
    c.workers[object']? = some name' → ¬ Collide "worker" object object'
  present : ∀ ⦃object : ObjectRef⦄ ⦃name : String⦄, c.workers[object]? = some name →
    ∃ process, c.instances[name]? = some process

theorem Separate.injective (h : Separate c) (hc : Coherent c) {object object' : ObjectRef}
    (hname : c.workers[object]? = some name) (hname' : c.workers[object']? = some name) :
    object = object' := by
  have heq := (hc.worker_name hname).symm.trans (hc.worker_name hname')
  rcases scopedRuntimeName_eq_iff.1 heq with heq | hcollide
  · exact heq
  · exact absurd hcollide (h.apart hname hname')

theorem Separate.identifies (h : Separate c) (hc : Coherent c) : Identifies c where
  injective _ _ _ hname hname' := h.injective hc hname hname'
  resolves := by
    intro object name hname
    refine ⟨by rw [Core.workerInstanceName?, hname, Option.some_or], ?_⟩
    obtain ⟨process, hprocess⟩ := h.present hname
    obtain ⟨ns, worker, lease, hb⟩ := hc.bound hprocess
    obtain rfl := h.injective hc hname hb.indexed
    exact ⟨process, worker, lease, hb, rfl⟩

/-- The workers of a path: those from before it, and the ones it may start. -/
def Scope.Knows (Γ : Scope) (start c : Core) : Prop :=
  ∀ ⦃object : ObjectRef⦄ ⦃name : String⦄, c.workers[object]? = some name →
    start.workers[object]? = some name ∨ Γ.starts object

/-- A path may start one worker, which does not collide with those that are there. -/
structure Scope.StartsApart (Γ : Scope) (start : Core) : Prop where
  unique : ∀ ⦃object object' : ObjectRef⦄, Γ.starts object → Γ.starts object' → object = object'
  apart : ∀ ⦃object object' : ObjectRef⦄ ⦃name : String⦄, Γ.starts object →
    start.workers[object']? = some name → ¬ Collide "worker" object object'

/-! ### Effects -/

variable {start : Core} {object : ObjectRef}

theorem Separate.sustained (h : Separate c) (hsustains : Sustains c c') : Separate c' where
  apart object object' name name' hname hname' :=
    h.apart (hsustains.workers ▸ hname) (hsustains.workers ▸ hname')
  present object name hname := by
    obtain ⟨process, hprocess⟩ := h.present (hsustains.workers ▸ hname)
    obtain ⟨process', hprocess', -⟩ := hsustains.after hprocess
    exact ⟨process', hprocess'⟩

/-- The worker that a path starts does not collide with any other. -/
theorem Scope.StartsApart.not_collide (hΓ : Γ.StartsApart start) (hknows : Γ.Knows start c)
    (hstart : Γ.starts object) (hnew : c.workers[object]? = none) {object' : ObjectRef}
    (hname : c.workers[object']? = some name) : ¬ Collide "worker" object object' := by
  rcases hknows hname with hbefore | hstart'
  · exact hΓ.apart hstart hbefore
  · rw [hΓ.unique hstart hstart', hname] at hnew
    exact nomatch hnew

/-- No worker collides with the one that is called so. -/
def Uncollided (c : Core) (object : ObjectRef) : Prop :=
  ∀ ⦃object' : ObjectRef⦄ ⦃name : String⦄, c.workers[object']? = some name →
    ¬ Collide "worker" object object'

theorem Starts.separate (hstarts : Starts object process c c') (h : Separate c)
    (hapart : Uncollided c object) : Separate c' where
  apart := by
    intro a b name name' ha hb
    rw [hstarts.workers, BTreeMap.getElem?_insert] at ha hb
    split_ifs at ha hb with heq heq' heq'
    · subst heq heq'
      exact fun hcollide => hcollide.1 rfl
    · exact heq ▸ hapart hb
    · exact fun hcollide => hapart ha (heq' ▸ hcollide.symm)
    · exact h.apart ha hb
  present := by
    intro a name ha
    rw [hstarts.workers, BTreeMap.getElem?_insert] at ha
    rw [hstarts.instances, BTreeMap.getElem?_insert]
    split_ifs with hname
    · exact ⟨process, rfl⟩
    · split_ifs at ha with heq
      · exact absurd (Option.some.inj ha) hname
      · exact h.present ha

theorem Starts.keeps (hstarts : Starts object process c c') (hc : Coherent c)
    (hapart : Uncollided c object) : Keeps c c' := by
  refine .insert hstarts.instances fun before hbefore => ?_
  -- a process under the runtime name would belong to the worker, which is new
  obtain ⟨ns, worker, lease, hb⟩ := hc.bound hbefore
  rcases scopedRuntimeName_eq_iff.1 (hc.worker_name hb.indexed) with heq | hcollide
  · rw [heq] at hstarts
    exact absurd (hstarts.new.symm.trans hb.indexed) (by simp)
  · exact absurd hcollide (hapart hb.indexed)

/-- What a path keeps: no two workers collide, and it has started only what it may. -/
structure Tame (Γ : Scope) (start c : Core) : Prop where
  coherent : Coherent c
  separate : Separate c
  knows : Γ.Knows start c

theorem Effect.tame (hΓ : Γ.StartsApart start) (h : Tame Γ start c) (heffect : Effect Γ c c') :
    Tame Γ start c' ∧ Keeps c c' := by
  have hc' := h.coherent.effect heffect
  rcases heffect.sustains_or_starts with hsustains | ⟨object, process, hstart, -, hstarts⟩
  · exact ⟨⟨hc', h.separate.sustained hsustains, fun a name hname =>
      h.knows (hsustains.workers ▸ hname)⟩, hsustains.keeps⟩
  · have hapart : Uncollided c object := fun _ _ => hΓ.not_collide h.knows hstart hstarts.new
    refine ⟨⟨hc', hstarts.separate h.separate hapart, fun a name hname => ?_⟩,
      hstarts.keeps h.coherent hapart⟩
    rw [hstarts.workers, BTreeMap.getElem?_insert] at hname
    split_ifs at hname with heq
    · exact .inr (heq ▸ hstart)
    · exact h.knows hname

theorem Path.tame (hΓ : Γ.StartsApart start) (hc : Coherent start) (h : Separate start)
    (hpath : Path Γ start c) : Tame Γ start c ∧ Keeps start c := by
  induction hpath with
  | refl => exact ⟨⟨hc, h, fun _ _ hname => .inl hname⟩, .of_eq rfl⟩
  | tail _ heffect ih =>
    obtain ⟨htame, hkeeps⟩ := heffect.tame hΓ ih.1
    exact ⟨htame, ih.2.trans hkeeps⟩

/-! ### Runs -/

/-- The call starts a worker whose runtime name belongs to another worker. -/
def startsColliding (s : AuthorityRuntime) : Call → Bool
  | .startWorker context _ worker => s.workers.toList.any fun entry =>
      Collide "worker" (context.objectRef worker.identity) entry.1
  | _ => false

theorem startsApart_scope {call : Call} (h : startsColliding s call = false) :
    (call.scope env s).StartsApart s.toCore := by
  cases call with
  | startWorker =>
    refine ⟨fun _ _ hstart hstart' => hstart.trans hstart'.symm, ?_⟩
    rintro _ object' name rfl hname hcollide
    exact BTreeMap.any_toList_eq_false.1 h _ _ hname (decide_eq_true hcollide)
  | _ => exact ⟨fun _ _ hstart => hstart.elim, fun _ _ _ hstart => hstart.elim⟩

/-- In a run that starts no worker under the runtime name of another one, every worker resolves to
its own process, and no process is replaced by that of another worker. -/
theorem runtimeNames_identify (env : Environment) (resources : List Resource)
    (nextFenceToken : Nat) (nodeId : String) (nodeEpoch : Nat) (calls more : List Call)
    (h : Along (step env) (fun s call => startsColliding s call = false)
      (.new (Ledger.withNextFenceToken resources nextFenceToken) nodeId nodeEpoch)
      (calls ++ more)) :
    let s := run (step env)
      (.new (Ledger.withNextFenceToken resources nextFenceToken) nodeId nodeEpoch) calls
    Identifies s.toCore ∧ Keeps s.toCore (run (step env) s more).toCore := by
  intro s
  have hstep : ∀ (s : AuthorityRuntime) (call : Call), Coherent s.toCore ∧ Separate s.toCore →
      startsColliding s call = false →
      (Coherent (step env s call).toCore ∧ Separate (step env s call).toCore) ∧
        Keeps s.toCore (step env s call).toCore := by
    intro s call ⟨hc, hseparate⟩ hcall
    have hpath : Path (call.scope env s) s.toCore (step env s call).toCore := step_path hc call
    obtain ⟨htame, hkeeps⟩ := hpath.tame (startsApart_scope hcall) hc hseparate
    exact ⟨⟨htame.coherent, htame.separate⟩, hkeeps⟩
  obtain ⟨hcalls, hmore⟩ := along_append.1 h
  have hs : Coherent s.toCore ∧ Separate s.toCore := by
    refine run_induction (I := fun s : AuthorityRuntime => Coherent s.toCore ∧ Separate s.toCore)
      ⟨coherent_new _ _ _ _, fun _ _ _ _ hname => ?_, fun _ _ hname => ?_⟩
      (fun s call hs hcall => (hstep s call hs hcall).1) hcalls
    · exact absurd hname (by simp [AuthorityRuntime.new])
    · exact absurd hname (by simp [AuthorityRuntime.new])
  refine ⟨hs.2.identifies hs.1, ?_⟩
  refine (run_induction (I := fun s' : AuthorityRuntime =>
      (Coherent s'.toCore ∧ Separate s'.toCore) ∧ Keeps s.toCore s'.toCore)
    ⟨hs, .of_eq rfl⟩ (fun s' call hs' hcall => ?_) hmore).2
  obtain ⟨hinv, hkeeps⟩ := hstep s' call hs'.1 hcall
  exact ⟨hinv, hs'.2.trans hkeeps⟩

/-- The namespace of a second tenant. -/
def tenantNamespace : NamespaceId := ⟨"tenant", by decide⟩

/-- A worker and a new generation of it are started. -/
def regeneratedWorker (ns : NamespaceId) : List Call :=
  [sampleAcquire ns "a" ⟨"worker", 1⟩ 100,
    .startWorker (sampleContext ns "start-a") samplePrincipal
      (sampleWorker "worker" 1 ⟨"lease-a", 1⟩),
    sampleAcquire ns "b" ⟨"worker", 2⟩ 100,
    .startWorker (sampleContext ns "start-b") samplePrincipal
      (sampleWorker "worker" 2 ⟨"lease-b", 1⟩)]

def regeneratedWorkerEnvironment : Environment :=
  sampleEnvironment (fun _ => 0) (fun _ => .ok ()) fun _ => .ok ⟨true, "cleanup"⟩

/-- In the default namespace both generations are stored under the bare id, and only the process of
the second one is left; the id of a worker there may also spell out a worker of the tenant. -/
theorem regeneratedWorker_not_identified :
    let s := run (step regeneratedWorkerEnvironment) (sampleAuthority ["gpu-0", "gpu-1"])
      (regeneratedWorker default)
    ¬ Identifies s.toCore ∧
      (s.workers[(⟨default, ⟨"worker", 1⟩⟩ : ObjectRef)]? = some "worker" ∧
        s.workers[(⟨default, ⟨"worker", 2⟩⟩ : ObjectRef)]? = some "worker" ∧
        ((s.instances["worker"]?).bind (·.semanticWorker)).map (·.identity) =
          some ⟨"worker", 2⟩) ∧
      Identity.validate ⟨"worker-n6-tenant-i6-worker-g1", 1⟩ = .ok () ∧
      scopedRuntimeName "worker" ⟨default, ⟨"worker-n6-tenant-i6-worker-g1", 1⟩⟩ =
        scopedRuntimeName "worker" ⟨tenantNamespace, ⟨"worker", 1⟩⟩ := by
  intro s
  have hstored : s.workers[(⟨default, ⟨"worker", 1⟩⟩ : ObjectRef)]? = some "worker" ∧
      s.workers[(⟨default, ⟨"worker", 2⟩⟩ : ObjectRef)]? = some "worker" ∧
      ((s.instances["worker"]?).bind (·.semanticWorker)).map (·.identity) =
        some ⟨"worker", 2⟩ := by
    decide +kernel
  refine ⟨fun h => ?_, hstored, by decide +kernel⟩
  exact absurd (h.injective hstored.1 hstored.2.1) (by decide)

/-- In the namespace of the tenant both generations keep their processes. -/
theorem runtimeNames_identify_regeneratedWorker :
    let s := run (step regeneratedWorkerEnvironment) (sampleAuthority ["gpu-0", "gpu-1"])
      (regeneratedWorker tenantNamespace)
    Identifies s.toCore ∧ s.workers.toList.length = 2 :=
  ⟨(runtimeNames_identify regeneratedWorkerEnvironment
    (["gpu-0", "gpu-1"].map Ledger.sampleResource) 1 "node" 1
    (regeneratedWorker tenantNamespace) []
    ⟨rfl, by decide +kernel, rfl, by decide +kernel, trivial⟩).1, by decide +kernel⟩

end Authority

end CyreneKernel
