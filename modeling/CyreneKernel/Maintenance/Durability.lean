import CyreneKernel.Maintenance.Processes

/-!
# Recovery of the maintenance journal

A history of operations is recorded together with the entries that were written completely.
Wherever an operation failed or its process died, the files load as the state that these entries
lead to, one after the other from the beginning of the history.

## Main results

* `journal_recovers`: what is loaded after any history, and what an operation may lose.
-/

namespace CyreneKernel.Maintenance

open Lib Lib.Program

/-- A history: the world it leaves, and the entries that were written completely. -/
inductive Recorded (sha256 : String → String) : World → List JournalEntry → Prop
  | new (catalogs : Nat → TrustedActivitySourceCatalog) :
      Recorded sha256 { catalogs := catalogs } []
  | start {w : World} {es : List JournalEntry} (h : Recorded sha256 w es) (process : Nat)
      (catalog : TrustedActivitySourceCatalog) :
      Recorded sha256 { w with catalogs := Function.update w.catalogs process catalog } es
  | finish {w : World} {es : List JournalEntry} {process : Nat} {read : Option CatalogRead}
      {sample : Sample} {op : Operation} {log : List (Exchange Call Call.Answer)}
      {result : Except MaintenanceError Answer} {l : Logged} (h : Recorded sha256 w es)
      (hruns : Runs LoggedEffect (withState sha256 read sample op).run
        ⟨⟨w.disk, w.catalogs process⟩, []⟩ log result l) :
      Recorded sha256 ⟨l.disk, Function.update w.catalogs process l.catalog⟩
        (es ++ written l.appends)
  | die {w : World} {es : List JournalEntry} {process : Nat} {read : Option CatalogRead}
      {sample : Sample} {op : Operation} {call : Call} {l : Logged} (h : Recorded sha256 w es)
      (hreaches : Reaches LoggedEffect (withState sha256 read sample op).run
        ⟨⟨w.disk, w.catalogs process⟩, []⟩ call l) :
      Recorded sha256 { w with disk := l.disk } (es ++ written l.appends)

theorem Recorded.exists_represents {sha256 : String → String} {w : World}
    {es : List JournalEntry} (h : Recorded sha256 w es) :
    ∃ s, Replays {} es s ∧ Represents w.disk s := by
  induction h with
  | new => exact ⟨{}, .nil _, represents_new⟩
  | start _ _ _ ih => exact ih
  | @finish w es process read sample op log result l _ hruns ih =>
    obtain ⟨s, hs, hrepresents⟩ := ih
    have hends := (keeps_withState sha256 read sample op rfl hrepresents).post_of_runs hruns
    have hamounts :
        Amounts (Traces op (op.plan sha256 read sample (w.catalogs process) s).events s) l := by
      cases result with
      | ok answer => exact hends.1
      | error error => exact hends
    obtain ⟨t, ht, hrepresents'⟩ := hamounts
    exact ⟨t, hs.append ht.replays, hrepresents'⟩
  | @die w es process read sample op call l _ hreaches ih =>
    obtain ⟨s, hs, hrepresents⟩ := ih
    obtain ⟨t, ht, hrepresents'⟩ :=
      (keeps_withState sha256 read sample op rfl hrepresents).allowed_of_reaches hreaches
    exact ⟨t, hs.append ht.replays, hrepresents'⟩

theorem exec_bind {α β : Type} (p : Program Call Call.Answer α)
    (f : α → Program Call Call.Answer β) (l : Local) : ((p >>= f).exec success l).2 =
      ((f (p.exec success l).2.1).exec success (p.exec success l).2.2).2 := by
  induction p generalizing l with
  | done a => rfl
  | query call next ih => exact ih _ _

theorem exec_run_bind {α β : Type} {p : Gate α} {f : α → Gate β} {l l' : Local} {a : α}
    (h : (p.run.exec success l).2 = (.ok a, l')) :
    ((p >>= f).run.exec success l).2 = ((f a).run.exec success l').2 := by
  refine (exec_bind p.run _ l).trans ?_
  rw [h]
  rfl

theorem exec_repairJournal (repair : Repair) (l : Local) :
    ∃ l', ((repairJournal repair).run.exec success l).2 = (.ok (), l') := by
  cases repair <;> exact ⟨_, rfl⟩

/-- A load whose calls succeed returns the state, and leaves files at whose end records can be
appended. -/
theorem exec_loadStateLocked {s : PersistedState} {l : Local} (h : Represents l.disk s) :
    ∃ l', (loadStateLocked.run.exec success l).2 = (.ok s, l') ∧ Ready s l' := by
  have hruns := runs_exec effect_success loadStateLocked.run l
  obtain ⟨appends, hlogged⟩ := exists_logged_of_runs hruns []
  have hkeeps : Keeps (fun _ t => t = s) loadStateLocked ⟨l, []⟩ _ := keeps_loadStateLocked rfl h
  have hends := hkeeps.post_of_runs hlogged
  have hpure {α : Type} {x : Except MaintenanceError α} {a : α} (hx : x = .ok a) (l : Local) :
      ((pureOf x).run.exec success l).2 = (.ok a, l) := by
    rw [hx]
    rfl
  have hok : (loadStateLocked.run.exec success l).2.1 = .ok s := by
    obtain ⟨l', hrepair⟩ := exec_repairJournal (l.disk.journal.getD {}).repair l
    rw [loadStateLocked, exec_run_bind rfl, exec_run_bind (hpure h.checkSnapshot_eq_ok l),
      exec_run_bind rfl, exec_run_bind (hpure h.journalOf_eq_ok l),
      exec_run_bind (hpure h.scanJournal_eq_ok l), exec_run_bind hrepair,
      exec_run_bind (hpure (Represents.checkScan_eq_ok s) l')]
    split <;> rfl
  rw [hok] at hends
  exact ⟨_, Prod.ext hok rfl, hends.2.2.2⟩

/-- Where an operation on a state stopped, or its process died: the appended events are a beginning
of the planned ones, at most the last of them is incomplete, and the files load as the state that
the complete ones lead to. -/
structure StopsAt (plan : Plan) (s : PersistedState) (l : Logged) : Prop where
  planned : eventsOf l.appends <+: plan.events
  whole : ∀ p ∈ l.appends.dropLast, p.2 = true
  loads : ∃ t, Replays s (written l.appends) t ∧ l.disk.contents = .ok t

/-- An operation that returned: all its planned events are complete, and it gave the answer that the
plan computes from the state after them. -/
structure Returned (plan : Plan) (answer : Answer) (l : Logged) : Prop where
  planned : eventsOf l.appends = plan.events
  complete : ∀ p ∈ l.appends, p.2 = true
  answered : plan.answer = .ok answer

theorem stopsAt_of_amounts {op : Operation} {plan : Plan} {s : PersistedState} {l : Logged}
    (h : Amounts (Traces op plan.events s) l) : StopsAt plan s l := by
  obtain ⟨t, ht, hrepresents⟩ := h
  exact ⟨ht.planned, ht.whole, t, ht.replays, contents_of_represents hrepresents⟩

/-- After any history, with failures of any calls and processes that died at any of them, the files
load as the state that the entries written completely lead to, and the load leaves them ready for
appends.  From there every operation stops at a beginning of its plan, wherever it stops; and one
that returns has written all of its plan, so that what it answered is loaded after it. -/
theorem journal_recovers (sha256 : String → String) {w : World} {es : List JournalEntry}
    (h : Recorded sha256 w es) :
    ∃ s, Replays {} es s ∧ w.disk.contents = .ok s ∧
    (∀ catalog, ∃ l, (loadStateLocked.run.exec success ⟨w.disk, catalog⟩).2 = (.ok s, l) ∧
      l.disk.contents = .ok s ∧ (l.disk.journal.getD {}).tail = none) ∧
    ∀ process read sample op,
      let plan := op.plan sha256 read sample (w.catalogs process) s
      let program := (withState sha256 read sample op).run
      let before : Logged := ⟨⟨w.disk, w.catalogs process⟩, []⟩
      (∀ call l, Reaches LoggedEffect program before call l → StopsAt plan s l) ∧
      ∀ log result l, Runs LoggedEffect program before log result l →
        StopsAt plan s l ∧ ∀ answer, result = .ok answer → Returned plan answer l := by
  obtain ⟨s, hs, hrepresents⟩ := h.exists_represents
  refine ⟨s, hs, contents_of_represents hrepresents, fun catalog => ?_, ?_⟩
  · obtain ⟨l, hl, hready⟩ := exec_loadStateLocked (l := ⟨w.disk, catalog⟩) hrepresents
    exact ⟨l, hl, contents_of_represents hready.represents, hready.tail⟩
  · intro process read sample op plan program before
    have hkeeps := keeps_withState (w := before) sha256 read sample op rfl hrepresents
    refine ⟨fun call l hreaches => stopsAt_of_amounts (hkeeps.allowed_of_reaches hreaches), ?_⟩
    intro log result l hruns
    have hends := hkeeps.post_of_runs hruns
    cases result with
    | error error => exact ⟨stopsAt_of_amounts hends, fun answer hanswer => by cases hanswer⟩
    | ok answer =>
      obtain ⟨hamounts, hcomplete, hplanned, hanswered⟩ := hends
      refine ⟨stopsAt_of_amounts hamounts, ?_⟩
      rintro _ ⟨⟩
      exact ⟨hplanned, hcomplete, hanswered⟩

/-! ### A torn append -/

/-- An append that fails and leaves a part of its record. -/
def torn : (call : Call) → Local → call.Answer × Local
  | .appendEntry _, l =>
    let file := l.disk.journal.getD {}
    (.error (.storage "append"),
      { l with disk := { l.disk with journal := some { file with tail := some .malformed } } })
  | call, l => success call l

/-- A snapshot that is not renamed into place. -/
def unsaved : (call : Call) → Local → call.Answer × Local
  | .writeSnapshot _, l => (.error (.storage "rename"), l)
  | call, l => success call l

theorem effect_torn (call : Call) (l : Local) :
    Effect call l (torn call l).1 (torn call l).2 := by
  cases call with
  | appendEntry entry => exact ⟨rfl, rfl, .inr (.inr ⟨⟨_, rfl⟩, .inr (.inr (.inl rfl))⟩)⟩
  | _ => exact effect_success _ l

theorem effect_unsaved (call : Call) (l : Local) :
    Effect call l (unsaved call l).1 (unsaved call l).2 := by
  cases call with
  | writeSnapshot state => exact .inr ⟨⟨_, rfl⟩, rfl⟩
  | _ => exact effect_success _ l

/-- Answers that also record the appends. -/
def logged (oracle : (call : Call) → Local → call.Answer × Local) (call : Call) (w : Logged) :
    call.Answer × Logged :=
  let (answer, l) := oracle call w.toLocal
  (answer, ⟨l, w.appends ++ call.appends w.disk l.disk⟩)

theorem loggedEffect_logged {oracle : (call : Call) → Local → call.Answer × Local}
    (h : ∀ call l, Effect call l (oracle call l).1 (oracle call l).2) (call : Call) (w : Logged) :
    LoggedEffect call w (logged oracle call w).1 (logged oracle call w).2 :=
  ⟨h call w.toLocal, rfl⟩

/-- A heartbeat of the first process, with the given answers to its calls. -/
def heartbeat (oracle : (call : Call) → Local → call.Answer × Local) (w : World) :
    Except MaintenanceError Answer × Logged :=
  ((withState id none w.sample (.heartbeat "agent")).run.exec (logged oracle)
    ⟨⟨w.disk, w.catalogs 0⟩, []⟩).2

/-- The world after it. -/
def World.afterHeartbeat (w : World) (oracle : (call : Call) → Local → call.Answer × Local) :
    World :=
  ⟨(heartbeat oracle w).2.disk, Function.update w.catalogs 0 (heartbeat oracle w).2.catalog⟩

theorem Recorded.heartbeat {w : World} {es : List JournalEntry} (h : Recorded id w es)
    {oracle : (call : Call) → Local → call.Answer × Local}
    (heffect : ∀ call l, Effect call l (oracle call l).1 (oracle call l).2) :
    Recorded id (w.afterHeartbeat oracle) (es ++ written (heartbeat oracle w).2.appends) :=
  .finish h (runs_exec (loggedEffect_logged heffect) _ _)

/-- The world after a heartbeat, one that was torn, and one whose snapshot was not saved. -/
def tornWorld : World :=
  ((sampleWorld.afterHeartbeat success).afterHeartbeat torn).afterHeartbeat unsaved

/-- The first heartbeat adopts the catalog and returns.  The second one fails and leaves a part of
its record, which counts for nothing.  The third one fails as well, behind its record, and is kept:
the snapshot is older than what is loaded. -/
theorem journal_recovers_tornWorld :
    (heartbeat success sampleWorld).1 = .ok .done ∧
    ((sampleWorld.afterHeartbeat success).afterHeartbeat torn).disk.journal.map (·.tail) =
      some (some .malformed) ∧
    tornWorld.disk.snapshot.map (·.journalSequence) = some 2 ∧
    ∃ es s, es.map (·.event) = [.catalogConfigured 1, .sourceHeartbeat "agent" 0,
        .sourceHeartbeat "agent" 0] ∧
      Replays {} es s ∧ tornWorld.disk.contents = .ok s ∧
      StopsAt ((Operation.heartbeat "agent").plan id none tornWorld.sample (tornWorld.catalogs 0) s)
        s (heartbeat torn tornWorld).2 := by
  refine ⟨by decide +kernel, by decide +kernel, by decide +kernel, ?_⟩
  have hrecorded := (((Recorded.new sampleWorld.catalogs).heartbeat effect_success).heartbeat
    effect_torn).heartbeat effect_unsaved
  obtain ⟨s, hs, hcontents, -, hoperations⟩ := journal_recovers id hrecorded
  have hruns := runs_exec (loggedEffect_logged effect_torn)
    (withState id none tornWorld.sample (.heartbeat "agent")).run
    ⟨⟨tornWorld.disk, tornWorld.catalogs 0⟩, []⟩
  exact ⟨_, s, by decide +kernel, hs, hcontents, ((hoperations 0 none _ _).2 _ _ _ hruns).1⟩

end CyreneKernel.Maintenance
