import CyreneKernel.Control.QuietCalls

/-!
# One lease for an assignment

The calls of a controller run side by side, and every call may be cut off by the end of the process.
The process ends by itself or by a crash, which leaves the ledger in any of the versions since its
directory was synced last.  A new process opens the ledger and goes on.

## Main definitions

* `Deployment`, `Deployment.Step`: the ledger, the process and the log of all its calls.
* `AcquiresOnce`: the log has at most one acquisition of a lease for an assignment, after its intent
  was recorded.

## Main results

* `acquiresOnce`: this holds as long as no process mistakes a ledger for a missing one.
-/

namespace CyreneKernel.Control

open Lib Program
open FileExecutionIntentStore (Answers)

variable {L T P : Type}

/-! ### What the store keeps -/

/-- The intent of an assignment is in memory and in every version of the file. -/
structure Stored (store : FileExecutionIntentStore) (assignmentId : String) : Prop where
  memory : assignmentId ∈ store.records
  file : ∀ version ∈ store.disk.versions, ∃ records, version = some records ∧ assignmentId ∈ records

variable {store : FileExecutionIntentStore} {assignmentId : String}

theorem Stored.replace (h : Stored store assignmentId) {outcome : PersistOutcome}
    {records previous : IntentRecords} (hrecords : assignmentId ∈ records)
    (hprevious : assignmentId ∈ previous) :
    Stored (store.replace outcome records previous).2 assignmentId := by
  have happend : ∀ version ∈ (⟨store.disk.synced, store.disk.renamed ++ [records]⟩ : Disk).versions,
      ∃ records, version = some records ∧ assignmentId ∈ records := by
    intro version hversion
    simp only [Disk.versions, List.map_append, List.map_cons, List.map_nil, ← List.cons_append,
      List.mem_append, List.mem_singleton] at hversion
    rcases hversion with hversion | rfl
    · exact h.file version hversion
    · exact ⟨records, rfl, hrecords⟩
  cases outcome with
  | replaced =>
    refine ⟨hrecords, fun version hversion => ?_⟩
    obtain rfl : version = some records := by
      simpa [FileExecutionIntentStore.replace, persist, Disk.versions] using hversion
    exact ⟨records, rfl, hrecords⟩
  | invalidFileName => exact ⟨hprevious, h.file⟩
  | failed message renamed =>
    cases renamed with
    | false => exact ⟨hprevious, h.file⟩
    | true => exact ⟨hprevious, happend⟩
  | unsynced message => exact ⟨hrecords, happend⟩

theorem mem_insert_of_mem {records : IntentRecords} {key : String} (h : assignmentId ∈ records)
    (record : ExecutionIntentRecord) : assignmentId ∈ records.insert key record :=
  Std.ExtTreeMap.mem_insert.2 (.inr h)

theorem Stored.create (h : Stored store assignmentId) (outcome : PersistOutcome)
    (record : ExecutionIntentRecord) : Stored (store.create outcome record).2 assignmentId := by
  unfold FileExecutionIntentStore.create
  split
  · exact h
  · split
    · exact h
    · next hnew =>
      have hne : compare record.assignmentId assignmentId ≠ .eq := by
        intro heq
        rw [Std.compare_eq_iff_eq] at heq
        exact hnew (by rw [heq, ← Std.ExtTreeMap.mem_iff_contains]; exact h.memory)
      have hinsert : assignmentId ∈ store.records.insert record.assignmentId record :=
        mem_insert_of_mem h.memory record
      exact h.replace hinsert (Std.ExtTreeMap.mem_erase.2 ⟨hne, hinsert⟩)

theorem Stored.compareAndSet (h : Stored store assignmentId) (outcome : PersistOutcome)
    (expectedRevision : Nat) (record : ExecutionIntentRecord) :
    Stored (store.compareAndSet outcome expectedRevision record).2 assignmentId := by
  unfold FileExecutionIntentStore.compareAndSet
  split
  · exact h
  · split
    · exact h
    · next records hreplace =>
      simp only [replaceRecord, except_bind_eq_ok, failIf_eq_ok, exists_const,
        except_pure_eq_ok] at hreplace
      obtain ⟨existing, -, -, -, rfl⟩ := hreplace
      have hinsert : assignmentId ∈ store.records.insert record.assignmentId record :=
        mem_insert_of_mem h.memory record
      refine h.replace hinsert ?_
      split
      · exact mem_insert_of_mem hinsert _
      · exact hinsert

theorem Stored.answers {store' : FileExecutionIntentStore} (h : Stored store assignmentId)
    {query : Query P} {answer : query.Answer}
    (hanswer : Answers query store answer store') :
    Stored store' assignmentId := by
  cases query with
  | load => exact hanswer.2 ▸ h
  | create record =>
    obtain ⟨outcome, hcreate⟩ := hanswer
    have hstored := h.create outcome record
    rwa [hcreate] at hstored
  | transition current disposition authority =>
    obtain ⟨outcome, now, htransition⟩ := hanswer
    have hstored : Stored (store.transitionIntent outcome now current disposition authority).2
        assignmentId := by
      unfold FileExecutionIntentStore.transitionIntent
      split
      · exact h
      · next next _ =>
        have hset := h.compareAndSet outcome current.revision next
        split <;> next heq => rwa [heq] at hset
    rwa [htransition] at hstored
  | _ => exact hanswer ▸ h

/-- An intent that could be recorded was not recorded before, and is stored. -/
theorem stored_of_create {store' : FileExecutionIntentStore} {outcome : PersistOutcome}
    {record : ExecutionIntentRecord} (h : store.create outcome record = (.ok (), store')) :
    record.assignmentId ∉ store.records ∧ Stored store' record.assignmentId := by
  unfold FileExecutionIntentStore.create at h
  split at h
  · simp at h
  · split at h
    · simp at h
    · next hnew =>
      refine ⟨hnew, ?_⟩
      have hmem : record.assignmentId ∈ store.records.insert record.assignmentId record :=
        Std.ExtTreeMap.mem_insert_self
      cases outcome with
      | replaced =>
        obtain rfl := (Prod.mk.inj h).2.symm
        refine ⟨hmem, fun version hversion => ⟨_, List.mem_singleton.1 hversion, hmem⟩⟩
      | _ => simp [FileExecutionIntentStore.replace, persist] at h

/-! ### Tickets -/

/-- A call may acquire a lease once, for an intent that it recorded itself.  The state tells whether
it may. -/
def ticketProtocol (assignmentId : String) : Protocol (Query P) Query.Answer Bool where
  allows
    | ticket, .acquireLeaseOnRoute .. | ticket, .acquireLeaseOnHostRoute .. => ticket = true
    | _, .create record => record.assignmentId = assignmentId
    | _, _ => True
  advance
    | _, .create _, answer => answer.isOk
    | _, .acquireLeaseOnRoute .., _ | _, .acquireLeaseOnHostRoute .., _ => false
    | ticket, _, _ => ticket

section Tickets

variable {assignmentId : String} {ticket : Bool} {α : Type} {p : ControlProgram P α}

theorem Quiet.obeys (h : Quiet p) :
    Obeys (ticketProtocol assignmentId) p ticket fun _ t => t = ticket := by
  induction p with
  | done a => rfl
  | query question next ih =>
    have hallows := h.1
    cases question <;> first
      | exact ⟨trivial, fun answer => ih answer (h.2 answer)⟩
      | exact absurd hallows (by simp [Query.isQuiet])

theorem obeys_beginIntent (payloadDigest : String) (nowUnixMs : Nat) :
    Obeys (ticketProtocol assignmentId)
      (beginIntent assignmentId payloadDigest nowUnixMs : ControlProgram P _) false
      fun result ticket => ∀ intent, result = .ok intent → ticket = true := by
  unfold beginIntent
  split
  · exact nofun
  · next record hpending =>
    have hid : record.assignmentId = assignmentId := by
      simp only [ExecutionIntentRecord.pending, except_bind_eq_ok, except_pure_eq_ok] at hpending
      obtain ⟨_, -, rfl⟩ := hpending
      rfl
    refine obeys_bind.2 (obeys_ask.2 ⟨hid, fun answer => ?_⟩)
    cases answer with
    | ok _ => exact fun _ _ => rfl
    | error failure =>
      dsimp only
      split
      · rw [obeys_bind, obeys_ask]
        refine ⟨trivial, fun existing => ?_⟩
        cases existing with
        | none => exact nofun
        | some existing =>
          dsimp only
          split
          · exact nofun
          · split <;> exact nofun
      · exact nofun

theorem obeys_acquireLease (initialRoute : Option RouteSnapshot) (hostRoute : HostRouteSnapshot)
    (acquisition : LeaseAcquisition) :
    Obeys (ticketProtocol assignmentId)
      (acquireLease initialRoute hostRoute acquisition : ControlProgram P _) true
      fun _ _ => True := by
  cases initialRoute with
  | none | some route => exact ⟨rfl, fun _ => trivial⟩

theorem obeys_acquireAndUse (fabric : FabricPorts L T P) (polls : Nat)
    (initialRoute : Option RouteSnapshot) (hostRoute : HostRouteSnapshot) (targetNode : NodeRef)
    (request : ExecutionDispatchRequest L P) (intent : ExecutionIntentRecord) :
    Obeys (ticketProtocol assignmentId)
      (acquireAndUse fabric polls initialRoute hostRoute targetNode request intent) true
      fun _ _ => True := by
  refine obeys_bind.2 ((obeys_acquireLease ..).mono fun acquired ticket _ => ?_)
  refine Obeys.mono (Quiet.obeys ?_) fun _ _ _ => trivial
  cases acquired with
  | error error => exact quiet_recordOutcome ..
  | ok leaseProto =>
    dsimp only
    split
    · exact quiet_leaveUnknown ..
    · exact quiet_useLease

theorem obeys_dispatchInner (fabric : FabricPorts L T P) (polls : Nat) (launched : Bool)
    (request : ExecutionDispatchRequest L P) :
    Obeys (ticketProtocol request.assignment.assignmentId)
      (dispatchInner fabric polls launched request) false fun _ _ => True := by
  refine obeys_bind.2 (obeys_ask.2 ⟨trivial, fun placementTime => ?_⟩)
  split
  · trivial
  · next targetNode _ =>
    refine obeys_bind.2 (quiet_findRoute.obeys.mono ?_)
    rintro (error | ⟨initialRoute, hostRoute⟩) _ rfl
    · trivial
    · refine obeys_bind.2 ((obeys_beginIntent ..).mono ?_)
      rintro (error | intent) ticket hticket
      · trivial
      · obtain rfl := hticket intent rfl
        exact obeys_acquireAndUse ..

end Tickets

/-! ### Deployments -/

/-- A call of the controller. -/
inductive ControllerCall (L P : Type)
  | dispatch (polls : Nat) (launched : Bool) (request : ExecutionDispatchRequest L P)
  | release (request : ExecutionReleaseRequest)
  | reconcile (polls : Nat) (request : ExecutionDispatchRequest L P) (lease : Lease)

/-- What is left of a call, for an assignment. -/
structure Task (P : Type) where
  assignmentId : String
  program : ControlProgram P Unit

def ControllerCall.task (fabric : FabricPorts L T P) : ControllerCall L P → Task P
  | dispatch polls launched request =>
    ⟨request.assignment.assignmentId,
      do let _ ← dispatchInner fabric polls launched request⟩
  | release request => ⟨request.assignmentId, do let _ ← releaseExecution request⟩
  | reconcile polls request lease =>
    ⟨request.assignment.assignmentId,
      do let _ ← reconcileWithLauncher fabric polls request lease⟩

/-- The controller over many lives of its process.  Its log has every call to another party with
the assignment for which it was made. -/
structure Deployment (P : Type) where
  store : FileExecutionIntentStore
  running : Bool
  tasks : List (Task P)
  log : List (String × Exchange (Query P) Query.Answer)

namespace Deployment

/-- Before the first process. -/
def initial : Deployment P := ⟨⟨∅, .blank⟩, false, [], []⟩

/-- One step; `opens` are the ways in which a ledger may be opened. -/
inductive Step (fabric : FabricPorts L T P) (opens : Option IntentRecords → OpenOutcome → Prop) :
    Deployment P → Deployment P → Prop
  | call {d : Deployment P} (call : ControllerCall L P) (hrunning : d.running = true) :
      Step fabric opens d { d with tasks := call.task fabric :: d.tasks }
  | answer {d : Deployment P} {before after : List (Task P)} {assignmentId : String}
      {query : Query P} {next : query.Answer → ControlProgram P Unit} {answer : query.Answer}
      {store : FileExecutionIntentStore}
      (htasks : d.tasks = before ++ ⟨assignmentId, .query query next⟩ :: after)
      (hanswer : Answers query d.store answer store) :
      Step fabric opens d
        { d with
          store
          tasks := before ++ ⟨assignmentId, next answer⟩ :: after
          log := d.log ++ [(assignmentId, ⟨query, answer⟩)] }
  /-- The process ends, and the file system goes on. -/
  | exit (d : Deployment P) :
      Step fabric opens d { d with store := ⟨∅, d.store.disk⟩, running := false, tasks := [] }
  /-- The machine stops, and the ledger is found in one of its versions. -/
  | crash (d : Deployment P) {version : Option IntentRecords}
      (hversion : version ∈ d.store.disk.versions) :
      Step fabric opens d { d with store := ⟨∅, version, []⟩, running := false, tasks := [] }
  | start {d : Deployment P} {outcome : OpenOutcome} {records : IntentRecords}
      (hdown : d.running = false) (hopens : opens d.store.disk.file outcome)
      (hopen : openLedger outcome d.store.disk.file = .ok records) :
      Step fabric opens d { d with store := ⟨records, d.store.disk⟩, running := true }

end Deployment

/-- A ledger is not taken for a missing one. -/
def Sighted (file : Option IntentRecords) (outcome : OpenOutcome) : Prop :=
  outcome = .unseen → file = none

/-- The acquisition of a lease. -/
def acquiresLease (exchange : Exchange (Query P) Query.Answer) : Bool :=
  exchange.question matches .acquireLeaseOnRoute .. | .acquireLeaseOnHostRoute ..

/-- The successful recording of the intent of an assignment. -/
def recordsIntent (assignmentId : String) : Exchange (Query P) Query.Answer → Bool
  | ⟨.create record, answer⟩ => record.assignmentId == assignmentId && answer.isOk
  | _ => false

/-- At most one acquisition for an assignment, after its intent was recorded. -/
structure AcquiresOnce (log : List (String × Exchange (Query P) Query.Answer)) : Prop where
  once : ∀ assignmentId,
    (log.filter fun entry => entry.1 == assignmentId && acquiresLease entry.2).length ≤ 1
  recorded : ∀ {before after entry}, log = before ++ entry :: after → acquiresLease entry.2 →
    ∃ earlier ∈ before, recordsIntent entry.1 earlier.2

/-! ### The invariant -/

section Invariant

variable {log : List (String × Exchange (Query P) Query.Answer)} {assignmentId : String}

/-- The log allows an acquisition for the assignment: its intent was recorded, and no lease was
acquired for it. -/
structure Due (log : List (String × Exchange (Query P) Query.Answer)) (assignmentId : String) :
    Prop where
  recorded : ∃ earlier ∈ log, recordsIntent assignmentId earlier.2
  fresh : ∀ entry ∈ log, acquiresLease entry.2 → entry.1 ≠ assignmentId

theorem AcquiresOnce.concat (h : AcquiresOnce log)
    {entry : String × Exchange (Query P) Query.Answer}
    (hdue : acquiresLease entry.2 → Due log entry.1) : AcquiresOnce (log ++ [entry]) := by
  constructor
  · intro assignmentId
    rw [List.filter_append, List.length_append]
    by_cases hentry : (entry.1 == assignmentId && acquiresLease entry.2) = true
    · obtain ⟨heq, hacquires⟩ := Bool.and_eq_true_iff.1 hentry
      rw [beq_iff_eq] at heq
      have hnone : log.filter (fun entry => entry.1 == assignmentId &&
          acquiresLease entry.2) = [] := by
        rw [List.filter_eq_nil_iff]
        intro earlier hearlier htrue
        obtain ⟨heq', hacquires'⟩ := Bool.and_eq_true_iff.1 htrue
        exact (hdue hacquires).fresh earlier hearlier hacquires'
          ((beq_iff_eq.1 heq').trans heq.symm)
      rw [hnone, List.length_nil, Nat.zero_add]
      exact List.length_filter_le _ [entry]
    · rw [List.filter_singleton, Bool.cond_eq_ite, if_neg hentry, List.length_nil, Nat.add_zero]
      exact h.once assignmentId
  · intro before after last hsplit hacquires
    rcases List.eq_nil_or_concat after with rfl | ⟨init, tail, rfl⟩
    · obtain ⟨rfl, heq⟩ := List.append_inj' hsplit rfl
      obtain rfl := List.singleton_inj.1 heq
      exact (hdue hacquires).recorded
    · rw [List.concat_eq_append, ← List.cons_append, ← List.append_assoc] at hsplit
      obtain ⟨heq, -⟩ := List.append_inj' hsplit rfl
      exact h.recorded heq hacquires

/-- The intent of an assignment is in every version of the file, and in the memory of a running
process. -/
structure Kept (d : Deployment P) (assignmentId : String) : Prop where
  memory : d.running = true → assignmentId ∈ d.store.records
  file : ∀ version ∈ d.store.disk.versions,
    ∃ records, version = some records ∧ assignmentId ∈ records

/-- The rest of a call keeps to the protocol, with a ticket or without. -/
def Task.Guarded (task : Task P) (ticket : Bool) : Prop :=
  Obeys (ticketProtocol task.assignmentId) task.program ticket fun _ _ => True

/-- A call without a ticket, or with one that is covered by the ledger and the log. -/
def Covered (d : Deployment P) (task : Task P) : Prop :=
  task.Guarded false ∨ task.Guarded true ∧ Kept d task.assignmentId ∧ Due d.log task.assignmentId

/-- At most one of two calls for an assignment has a ticket. -/
def Apart (task other : Task P) : Prop :=
  task.assignmentId = other.assignmentId → task.Guarded false ∨ other.Guarded false

structure Disciplined (d : Deployment P) : Prop where
  down : d.running = false → d.tasks = []
  kept : ∀ entry ∈ d.log, acquiresLease entry.2 → Kept d entry.1
  log : AcquiresOnce d.log
  covered : ∀ task ∈ d.tasks, Covered d task
  apart : d.tasks.Pairwise Apart

theorem ControllerCall.guarded_task (fabric : FabricPorts L T P) (call : ControllerCall L P) :
    (call.task fabric).Guarded false := by
  have hquiet {assignmentId : String} {α : Type} {p : ControlProgram P α} (hp : Quiet p) :
      Task.Guarded ⟨assignmentId, do let _ ← p⟩ false :=
    obeys_bind.2 (hp.obeys.mono fun _ _ _ => trivial)
  cases call with
  | dispatch polls launched request =>
    exact obeys_bind.2 ((obeys_dispatchInner ..).mono fun _ _ _ => trivial)
  | release request => exact hquiet quiet_releaseExecution
  | reconcile polls request lease => exact hquiet quiet_reconcileWithLauncher

/-- What the process reads is one of the versions. -/
theorem Disk.file_mem_versions (disk : Disk) : disk.file ∈ disk.versions := by
  obtain ⟨synced, renamed⟩ := disk
  rcases List.eq_nil_or_concat renamed with rfl | ⟨init, last, rfl⟩
  · exact List.mem_singleton.2 rfl
  · simp [Disk.file, Disk.versions]

theorem openLedger_eq_some {outcome : OpenOutcome} {file records : IntentRecords}
    (hsighted : Sighted (some file) outcome)
    (h : openLedger outcome (some file) = .ok records) : records = file := by
  cases outcome with
  | read =>
    simp only [openLedger, except_bind_eq_ok, except_pure_eq_ok] at h
    obtain ⟨_, -, rfl⟩ := h
    rfl
  | unseen => exact absurd (hsighted rfl) (by simp)
  | failed message => simp [openLedger] at h

section Answer

variable {d : Deployment P} {task : Task P} {query : Query P} {answer : query.Answer}
  {store : FileExecutionIntentStore} {tasks : List (Task P)}

/-- The deployment after an answer. -/
def Deployment.answered (d : Deployment P) (store : FileExecutionIntentStore)
    (tasks : List (Task P)) (assignmentId : String) (query : Query P) (answer : query.Answer) :
    Deployment P :=
  ⟨store, d.running, tasks, d.log ++ [(assignmentId, ⟨query, answer⟩)]⟩

theorem Kept.answered (h : Kept d assignmentId) (hrunning : d.running = true)
    (hanswer : Answers query d.store answer store) {label : String} :
    Kept (d.answered store tasks label query answer) assignmentId := by
  have hstored := Stored.answers ⟨h.memory hrunning, h.file⟩ hanswer
  exact ⟨fun _ => hstored.memory, hstored.file⟩

theorem Due.concat (h : Due log assignmentId) {entry : String × Exchange (Query P) Query.Answer}
    (hentry : acquiresLease entry.2 → entry.1 ≠ assignmentId) :
    Due (log ++ [entry]) assignmentId := by
  obtain ⟨earlier, hearlier, hrecords⟩ := h.recorded
  refine ⟨⟨earlier, List.mem_append_left _ hearlier, hrecords⟩, fun other hother => ?_⟩
  rcases List.mem_append.1 hother with hother | hother
  · exact h.fresh other hother
  · obtain rfl := List.mem_singleton.1 hother
    exact hentry

/-- A call with a ticket is not one whose intent could be recorded now. -/
theorem Covered.guarded_of_notMem (h : Covered d task) (hrunning : d.running = true)
    (hnew : task.assignmentId ∉ d.store.records) : task.Guarded false := by
  rcases h with hguarded | ⟨-, hkept, -⟩
  · exact hguarded
  · exact absurd (hkept.memory hrunning) hnew

/-- The other calls stay covered. -/
theorem Covered.answered (h : Covered d task) (hrunning : d.running = true)
    {next : query.Answer → ControlProgram P Unit}
    (hapart : Apart task ⟨assignmentId, .query query next⟩)
    (hanswer : Answers query d.store answer store) :
    Covered (d.answered store tasks assignmentId query answer) task := by
  rcases h with hguarded | ⟨hguarded, hkept, hdue⟩
  · exact .inl hguarded
  · by_cases hacquires : acquiresLease (⟨query, answer⟩ : Exchange _ _) ∧
        assignmentId = task.assignmentId
    · -- Only one of two calls for the assignment has a ticket, and the other one uses it now.
      obtain ⟨hacquires, heq⟩ := hacquires
      rcases hapart heq.symm with hother | hother
      · exact .inl hother
      · have hallows := hother.1
        cases query <;> simp [acquiresLease, ticketProtocol] at hacquires hallows
    · exact .inr ⟨hguarded, hkept.answered hrunning hanswer,
        hdue.concat fun hacquires' heq => hacquires ⟨hacquires', heq⟩⟩

/-- What an answer leaves of the call that asked. -/
structure Continues (d d' : Deployment P) (assignmentId : String) (query : Query P)
    (next : query.Answer → ControlProgram P Unit) (answer : query.Answer) : Prop where
  covered : Covered d' ⟨assignmentId, next answer⟩
  apart : ∀ {other}, Covered d other → Apart other ⟨assignmentId, .query query next⟩ →
    Apart other ⟨assignmentId, next answer⟩
  due : acquiresLease (⟨query, answer⟩ : Exchange _ _) →
    Kept d assignmentId ∧ Due d.log assignmentId

variable {next : query.Answer → ControlProgram P Unit}

theorem continues_of_isQuiet (hrunning : d.running = true)
    (h : Covered d ⟨assignmentId, .query query next⟩) (hquiet : query.isQuiet)
    (hanswer : Answers query d.store answer store) :
    Continues d (d.answered store tasks assignmentId query answer) assignmentId query next
      answer := by
  have hacquires : ¬ acquiresLease (⟨query, answer⟩ : Exchange _ _) := by
    cases query <;> first
      | exact Bool.false_ne_true
      | exact absurd hquiet Bool.false_ne_true
  have hguarded {ticket : Bool} (hguarded : Task.Guarded ⟨assignmentId, .query query next⟩ ticket) :
      Task.Guarded ⟨assignmentId, next answer⟩ ticket := by
    cases query <;> first
      | exact hguarded.2 answer
      | exact absurd hquiet Bool.false_ne_true
  refine ⟨?_, fun _ hapart heq => (hapart heq).imp_right hguarded, fun h => absurd h hacquires⟩
  rcases h with h | ⟨h, hkept, hdue⟩
  · exact .inl (hguarded h)
  · exact .inr ⟨hguarded h, hkept.answered hrunning hanswer,
      hdue.concat fun h => absurd h hacquires⟩

theorem continues_of_create {record : ExecutionIntentRecord} (hd : Disciplined d)
    (hrunning : d.running = true) {next : Except PersistFailure Unit → ControlProgram P Unit}
    {answer : Except PersistFailure Unit}
    (h : Covered d ⟨assignmentId, .query (.create record) next⟩)
    (hanswer : Answers (P := P) (.create record) d.store answer store) :
    Continues d (d.answered store tasks assignmentId (.create record) answer) assignmentId
      (.create record) next answer := by
  have hobeys : record.assignmentId = assignmentId ∧
      Task.Guarded ⟨assignmentId, next answer⟩ answer.isOk := by
    rcases h with h | ⟨h, -, -⟩
    · exact ⟨h.1, h.2 answer⟩
    · exact ⟨h.1, h.2 answer⟩
  obtain ⟨rfl, hguarded⟩ := hobeys
  cases answer with
  | error failure => exact ⟨.inl hguarded, fun _ _ _ => .inr hguarded, nofun⟩
  | ok recorded =>
    obtain ⟨outcome, hcreate⟩ := hanswer
    obtain ⟨hnew, hstored⟩ := stored_of_create hcreate
    refine ⟨.inr ⟨hguarded, ⟨fun _ => hstored.memory, hstored.file⟩, ?_, ?_⟩, ?_, nofun⟩
    · exact ⟨_, List.mem_append_right _ (List.mem_singleton.2 rfl),
        Bool.and_eq_true_iff.2 ⟨beq_iff_eq.2 rfl, rfl⟩⟩
    · intro entry hentry hacquires heq
      rcases List.mem_append.1 hentry with hentry | hentry
      · have hmem := (hd.kept entry hentry hacquires).memory hrunning
        rw [heq] at hmem
        exact hnew hmem
      · obtain rfl := List.mem_singleton.1 hentry
        exact Bool.false_ne_true hacquires
    · intro other hother _ heq
      exact .inl (hother.guarded_of_notMem hrunning (heq ▸ hnew))

theorem continues_of_acquires (h : Covered d ⟨assignmentId, .query query next⟩)
    (hacquires : acquiresLease (⟨query, answer⟩ : Exchange _ _)) :
    Continues d (d.answered store tasks assignmentId query answer) assignmentId query next
      answer := by
  have hticket : ¬ Task.Guarded ⟨assignmentId, .query query next⟩ false := by
    intro hguarded
    have hallows := hguarded.1
    cases query <;> simp [acquiresLease, ticketProtocol] at hacquires hallows
  obtain ⟨hguarded, hkept, hdue⟩ := h.resolve_left hticket
  have hnext : Task.Guarded ⟨assignmentId, next answer⟩ false := by
    cases query <;> first
      | exact absurd hacquires Bool.false_ne_true
      | exact hguarded.2 answer
  exact ⟨.inl hnext, fun _ _ _ => .inr hnext, fun _ => ⟨hkept, hdue⟩⟩

theorem Disciplined.answered (hd : Disciplined d) {before after : List (Task P)}
    (htasks : d.tasks = before ++ ⟨assignmentId, .query query next⟩ :: after)
    (hanswer : Answers query d.store answer store) :
    Disciplined (d.answered store (before ++ ⟨assignmentId, next answer⟩ :: after) assignmentId
      query answer) := by
  have hrunning : d.running = true := by
    by_contra hdown
    rw [hd.down (Bool.eq_false_iff.2 hdown)] at htasks
    exact List.append_ne_nil_of_right_ne_nil before (List.cons_ne_nil _ after) htasks.symm
  have hcovered := hd.covered
  have hpairwise := hd.apart
  rw [htasks] at hcovered hpairwise
  rw [List.forall_mem_append, List.forall_mem_cons] at hcovered
  rw [List.pairwise_append, List.pairwise_cons] at hpairwise
  obtain ⟨hbefore, hasking, hafter⟩ := hcovered
  obtain ⟨hpairsBefore, ⟨hcallAfter, hpairsAfter⟩, hcross⟩ := hpairwise
  have hcallBefore := fun other hother => hcross other hother _ (List.mem_cons_self ..)
  have hcontinues : Continues d (d.answered store (before ++ ⟨assignmentId, next answer⟩ :: after)
      assignmentId query answer) assignmentId query next answer := by
    cases query with
    | create record => exact continues_of_create hd hrunning hasking hanswer
    | acquireLeaseOnRoute | acquireLeaseOnHostRoute => exact continues_of_acquires hasking rfl
    | _ => exact continues_of_isQuiet hrunning hasking rfl hanswer
  have hsymm {task other : Task P} (h : Apart task other) : Apart other task :=
    fun heq => (h heq.symm).symm
  refine ⟨fun hdown => absurd hdown (by simp [Deployment.answered, hrunning]), ?_,
    hd.log.concat fun hacquires => (hcontinues.due hacquires).2, ?_, ?_⟩
  · intro entry hentry hacquires
    rcases List.mem_append.1 hentry with hentry | hentry
    · exact (hd.kept entry hentry hacquires).answered hrunning hanswer
    · obtain rfl := List.mem_singleton.1 hentry
      exact (hcontinues.due hacquires).1.answered hrunning hanswer
  · simp only [Deployment.answered, List.forall_mem_append, List.forall_mem_cons]
    refine ⟨fun other hother => ?_, hcontinues.covered, fun other hother => ?_⟩
    · exact (hbefore other hother).answered hrunning (hcallBefore other hother) hanswer
    · exact (hafter other hother).answered hrunning (hsymm (hcallAfter other hother)) hanswer
  · simp only [Deployment.answered, List.pairwise_append, List.pairwise_cons]
    refine ⟨hpairsBefore, ⟨fun other hother => ?_, hpairsAfter⟩, fun other hother last hlast => ?_⟩
    · exact hsymm (hcontinues.apart (hafter other hother) (hsymm (hcallAfter other hother)))
    · rcases List.mem_cons.1 hlast with rfl | hlast
      · exact hcontinues.apart (hbefore other hother) (hcallBefore other hother)
      · exact hcross other hother last (List.mem_cons_of_mem _ hlast)

end Answer

theorem Disciplined.step {fabric : FabricPorts L T P} {d d' : Deployment P} (hd : Disciplined d)
    (h : Deployment.Step fabric Sighted d d') : Disciplined d' := by
  cases h with
  | call call hrunning =>
    refine ⟨fun hdown => absurd hdown (by simp [hrunning]),
      fun entry hentry hacquires => ?_, hd.log, ?_, ?_⟩
    · exact ⟨(hd.kept entry hentry hacquires).memory, (hd.kept entry hentry hacquires).file⟩
    · rw [List.forall_mem_cons]
      refine ⟨.inl (call.guarded_task fabric), fun task htask => ?_⟩
      exact (hd.covered task htask).imp_right fun ⟨hguarded, hkept, hdue⟩ =>
        ⟨hguarded, ⟨hkept.memory, hkept.file⟩, hdue⟩
    · exact List.pairwise_cons.2 ⟨fun _ _ _ => .inl (call.guarded_task fabric), hd.apart⟩
  | answer htasks hanswer => exact hd.answered htasks hanswer
  | exit =>
    refine ⟨fun _ => rfl, fun entry hentry hacquires => ?_, hd.log, nofun, .nil⟩
    exact ⟨nofun, (hd.kept entry hentry hacquires).file⟩
  | crash hversion =>
    refine ⟨fun _ => rfl, fun entry hentry hacquires => ?_, hd.log, nofun, .nil⟩
    refine ⟨nofun, fun version hmem => ?_⟩
    obtain rfl := List.mem_singleton.1 hmem
    exact (hd.kept entry hentry hacquires).file version hversion
  | start hdown hsighted hopen =>
    refine ⟨nofun, fun entry hentry hacquires => ?_, hd.log, ?_, ?_⟩
    · have hkept := hd.kept entry hentry hacquires
      obtain ⟨file, hfile, hmem⟩ := hkept.file _ (Disk.file_mem_versions _)
      rw [hfile] at hsighted hopen
      obtain rfl := openLedger_eq_some hsighted hopen
      exact ⟨fun _ => hmem, hkept.file⟩
    · rw [hd.down hdown]
      nofun
    · rw [hd.down hdown]
      exact .nil

theorem disciplined_initial : Disciplined (.initial : Deployment P) where
  down _ := rfl
  kept _ hentry := absurd hentry List.not_mem_nil
  log := ⟨fun _ => Nat.zero_le _, fun hsplit => absurd hsplit.symm (by simp [Deployment.initial])⟩
  covered _ htask := absurd htask List.not_mem_nil
  apart := .nil

end Invariant

/-- As long as no process takes its ledger for a missing one, at most one lease is acquired for an
assignment, and only after its intent was recorded. -/
theorem acquiresOnce (fabric : FabricPorts L T P) {d : Deployment P}
    (h : Relation.ReflTransGen (Deployment.Step fabric Sighted) .initial d) :
    AcquiresOnce d.log := by
  have hd : Disciplined d := by
    induction h with
    | refl => exact disciplined_initial
    | tail _ hstep ih => exact ih.step hstep
  exact hd.log

/-! ### Calls that run to their end -/

namespace Deployment

variable {fabric : FabricPorts L T P} {opens : Option IntentRecords → OpenOutcome → Prop}

/-- A call that is answered by a script, from its beginning to its end. -/
def perform (d : Deployment P) (fabric : FabricPorts L T P) (script : Script)
    (call : ControllerCall L P) : Deployment P :=
  let task := call.task fabric
  let finished := task.program.exec script.oracle d.store
  { d with
    store := finished.2.2
    tasks := ⟨task.assignmentId, .done finished.2.1⟩ :: d.tasks
    log := d.log ++ finished.1.map (task.assignmentId, ·) }

theorem reaches_of_runs {assignmentId : String} {program : ControlProgram P Unit}
    {rest : List (Task P)} {store store' : FileExecutionIntentStore} {running : Bool}
    {log : List (String × Exchange (Query P) Query.Answer)}
    {exchanges : List (Exchange (Query P) Query.Answer)} {result : Unit}
    (h : Runs Answers program store exchanges result store') :
    Relation.ReflTransGen (Step fabric opens)
      ⟨store, running, ⟨assignmentId, program⟩ :: rest, log⟩
      ⟨store', running, ⟨assignmentId, .done result⟩ :: rest,
        log ++ exchanges.map (assignmentId, ·)⟩ := by
  induction h generalizing log with
  | done result store =>
    rw [List.map_nil, List.append_nil]
  | @query question next store _ _ answer _ _ hanswer _ ih =>
    let d : Deployment P := ⟨store, running, ⟨assignmentId, .query question next⟩ :: rest, log⟩
    have htasks : d.tasks = [] ++ ⟨assignmentId, .query question next⟩ :: rest := rfl
    have hrest := @ih (log ++ [(assignmentId, ⟨question, answer⟩)])
    rw [List.append_assoc] at hrest
    exact .head (.answer htasks hanswer) hrest

theorem reaches_perform (d : Deployment P) (script : Script) (call : ControllerCall L P)
    (hrunning : d.running = true) :
    Relation.ReflTransGen (Step fabric opens) d (d.perform fabric script call) :=
  .head (.call call hrunning) (reaches_of_runs (script.runs _ _))

/-- The end of the process, and a new one that opens the ledger. -/
def reopened (d : Deployment P) (records : IntentRecords) : Deployment P :=
  { d with store := ⟨records, d.store.disk⟩, running := true, tasks := [] }

theorem reaches_reopened (d : Deployment P) {outcome : OpenOutcome} {records : IntentRecords}
    (hopens : opens d.store.disk.file outcome)
    (hopen : openLedger outcome d.store.disk.file = .ok records) :
    Relation.ReflTransGen (Step fabric opens) d (d.reopened records) :=
  .head (.exit d) (.single (.start rfl hopens hopen))

end Deployment

/-- The first process, after one dispatch. -/
def dispatchedOnce : Deployment Unit :=
  (Deployment.initial.reopened ∅).perform sampleFabric sampleScript
    (.dispatch 0 true sampleDispatch)

theorem reaches_dispatchedOnce (opens : Option IntentRecords → OpenOutcome → Prop)
    (hopens : opens none .read) :
    Relation.ReflTransGen (Deployment.Step sampleFabric opens) .initial dispatchedOnce :=
  (Deployment.initial.reaches_reopened hopens rfl).trans (Deployment.reaches_perform _ _ _ rfl)

/-- The next process reads the ledger back, and the assignment is dispatched again. -/
def dispatchedAgain : Deployment Unit :=
  (dispatchedOnce.reopened (dispatchedOnce.store.disk.file.getD ∅)).perform
    sampleFabric sampleScript
    (.dispatch 0 true sampleDispatch)

theorem reaches_dispatchedAgain :
    Relation.ReflTransGen (Deployment.Step sampleFabric Sighted) .initial dispatchedAgain := by
  have hsighted (file : Option IntentRecords) : Sighted file .read := nofun
  have hread : openLedger .read dispatchedOnce.store.disk.file =
      .ok (dispatchedOnce.store.disk.file.getD ∅) := by
    have hok : (openLedger .read dispatchedOnce.store.disk.file).isOk = true := by decide +kernel
    revert hok
    cases dispatchedOnce.store.disk.file with
    | none => exact fun _ => rfl
    | some file =>
      cases hopen : openLedger .read (some file) with
      | error e => exact fun hok => absurd hok Bool.false_ne_true
      | ok records =>
        intro _
        rw [openLedger_eq_some (hsighted _) hopen]
        rfl
  exact ((reaches_dispatchedOnce Sighted (hsighted _)).trans
    (dispatchedOnce.reaches_reopened (hsighted _) hread)).trans
      (Deployment.reaches_perform _ _ _ rfl)

/-- Both processes ask for the assignment, and only one of them acquires a lease. -/
theorem acquiresOnce_dispatchedAgain :
    (dispatchedAgain.log.filter fun entry => acquiresLease entry.2).length = 1 ∧
      dispatchedOnce.log.length < dispatchedAgain.log.length ∧ AcquiresOnce dispatchedAgain.log :=
  ⟨by decide +kernel, by decide +kernel, acquiresOnce sampleFabric reaches_dispatchedAgain⟩

/-- A second process that cannot tell whether there is a ledger acquires a second lease. -/
theorem acquiresTwice_unseen : ∃ d, Relation.ReflTransGen
    (Deployment.Step sampleFabric fun _ _ => True) .initial d ∧ ¬ AcquiresOnce d.log := by
  refine ⟨(dispatchedOnce.reopened ∅).perform sampleFabric sampleScript
    (.dispatch 0 true sampleDispatch), ?_, fun h => ?_⟩
  · have hunseen : openLedger .unseen dispatchedOnce.store.disk.file = .ok ∅ := by
      cases dispatchedOnce.store.disk.file <;> rfl
    exact ((reaches_dispatchedOnce _ trivial).trans
      (Deployment.reaches_reopened dispatchedOnce trivial hunseen)).trans
      (Deployment.reaches_perform _ _ _ rfl)
  · exact absurd (h.once "assignment-1") (by decide +kernel)

end CyreneKernel.Control
