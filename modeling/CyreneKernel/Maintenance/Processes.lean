import CyreneKernel.Maintenance.Events
import CyreneKernel.Maintenance.Replay
import Mathlib.Logic.Function.Basic

/-!
# Processes that share the gate

Any number of processes work on one state directory.  The lock file admits one operation at a
time, so a history is a sequence of operations.  An operation returns, with or without an error,
or its process dies at one of its calls.

## Main definitions

* `Step`: the steps of the processes.
* `Moves`: what a step does to the state that the files amount to.
* `Operation.plan`: the events that an operation appends, and its answer, when no call fails.

## Main results

* `keeps_withState`: an operation appends a beginning of its plan, wherever it stops, and all of it
  when it returns.
* `exists_moves_of_step`: every step is a move.
* `exists_of_steps`: what every move keeps holds between the ends of a history.
-/

namespace CyreneKernel.Maintenance

open Lib Lib.Program Relation

/-! ### Plans -/

/-- The state after one more event. -/
def PersistedState.commit (s : PersistedState) (event : JournalEvent) :
    Except MaintenanceError PersistedState :=
  applyEntry s ⟨s.journalSequence + 1, event⟩

/-- The state after one more event, if there is one. -/
def PersistedState.commitOptional (s : PersistedState) :
    Option JournalEvent → Except MaintenanceError PersistedState
  | none => .ok s
  | some event => s.commit event

/-- What an operation is for: some events, one after the other, and an answer. -/
structure Plan where
  events : List JournalEvent
  answer : Except MaintenanceError Answer

/-- A decision to append answers from the state after its event. -/
def Decision.plan (s : PersistedState) : Decision → Plan
  | .answer result => ⟨[], .ok result⟩
  | .append event result => ⟨[event], (s.commit event).map result⟩

/-- The catalog that an operation decides with, the event that adopts it, and the state after it. -/
def Operation.refreshed (read : Option CatalogRead) (current : TrustedActivitySourceCatalog)
    (s : PersistedState) (op : Operation) :
    Except MaintenanceError (TrustedActivitySourceCatalog × Option JournalEvent × PersistedState) :=
  do
  op.precheck
  let (catalog, event) ← refreshCatalog s current read
  return (catalog, event, ← s.commitOptional event)

/-- An operation as one transaction on a state.  It may adopt a catalog before it decides, and what
it adopted stays when the decision is a refusal. -/
def Operation.plan (sha256 : String → String) (read : Option CatalogRead) (sample : Sample)
    (current : TrustedActivitySourceCatalog) (s : PersistedState) (op : Operation) : Plan :=
  match op.refreshed read current s with
  | .error error => ⟨[], .error error⟩
  | .ok (catalog, event, m) =>
    match op.decide sha256 m { sample with catalog := catalog } with
    | .error error => ⟨event.toList, .error error⟩
    | .ok decision => ⟨event.toList ++ (decision.plan m).events, (decision.plan m).answer⟩

section Plans

variable {sha256 : String → String} {read : Option CatalogRead} {sample : Sample}
  {current catalog : TrustedActivitySourceCatalog} {s m : PersistedState} {op : Operation}
  {event : Option JournalEvent} {decision : Decision}

theorem refreshed_eq_ok (hprecheck : op.precheck = .ok ())
    (hrefresh : refreshCatalog s current read = .ok (catalog, event))
    (hcommit : s.commitOptional event = .ok m) :
    op.refreshed read current s = .ok (catalog, event, m) := by
  simp only [Operation.refreshed, except_bind_eq_ok, except_pure_eq_ok]
  exact ⟨(), hprecheck, _, hrefresh, m, hcommit, rfl⟩

variable (h : op.refreshed read current s = .ok (catalog, event, m))

include h

theorem events_prefix_plan : event.toList <+: (op.plan sha256 read sample current s).events := by
  rw [Operation.plan, h]
  dsimp only
  split
  · exact List.prefix_rfl
  · exact List.prefix_append _ _

theorem plan_of_decide
    (hdecide : op.decide sha256 m { sample with catalog := catalog } = .ok decision) :
    op.plan sha256 read sample current s =
      ⟨event.toList ++ (decision.plan m).events, (decision.plan m).answer⟩ := by
  rw [Operation.plan, h]
  dsimp only
  rw [hdecide]

end Plans

/-! ### Moves -/

/-- A state with one more event. -/
def Applies (s : PersistedState) (event : JournalEvent) (t : PersistedState) : Prop :=
  s.commit event = .ok t

/-- A state with another catalog. -/
def Adopts (s m : PersistedState) : Prop :=
  ∃ generation sequence eligible, m = { s with
    installCatalogGeneration := generation
    journalSequence := sequence
    coreBootstrapEligible := eligible }

/-- A step may adopt a catalog, and then append one event of its operation. -/
def Moves (label : Option Operation) (s t : PersistedState) : Prop :=
  ∃ m, Adopts s m ∧
    (t = m ∨ ∃ op event, label = some op ∧ Emits m op event ∧ Applies m event t)

theorem Moves.refl (label : Option Operation) (s : PersistedState) : Moves label s s :=
  ⟨s, ⟨_, _, _, rfl⟩, .inl rfl⟩

theorem Applies.adopts {s t : PersistedState} {generation : Nat}
    (h : Applies s (.catalogConfigured generation) t) : Adopts s t := by
  obtain ⟨-, u, hu, rfl⟩ := applyEntry_eq_ok.1 h
  cases hu
  exact ⟨_, _, _, rfl⟩

theorem exists_applies {s : PersistedState} (event : JournalEvent)
    (h : ∀ eligible, ∃ t, applyEvent { s with coreBootstrapEligible := eligible } event = .ok t)
    (hlt : s.journalSequence < u64Max) : ∃ t, Applies s event t := by
  obtain ⟨t, ht⟩ := h (s.coreBootstrapEligible && event.isCatalogConfigured)
  exact ⟨_, applyEntry_eq_ok.2 ⟨by simp [saturatingAdd]; omega, t, ht, rfl⟩⟩

/-- The entries of the complete appends. -/
def written (appends : List (JournalEntry × Bool)) : List JournalEntry :=
  (appends.filter (·.2)).map (·.1)

theorem written_append (appends appends' : List (JournalEntry × Bool)) :
    written (appends ++ appends') = written appends ++ written appends' := by
  simp [written]

/-- The events of the appends, complete or not. -/
def eventsOf (appends : List (JournalEntry × Bool)) : List JournalEvent :=
  appends.map (·.1.event)

/-- Where an operation may stop: at a move that its complete appends lead to.  Only its last append
may be incomplete, and the appends are a beginning of the planned events. -/
structure Traces (op : Operation) (events : List JournalEvent) (s : PersistedState)
    (appends : List (JournalEntry × Bool)) (t : PersistedState) : Prop where
  moves : Moves (some op) s t
  replays : Replays s (written appends) t
  whole : ∀ p ∈ appends.dropLast, p.2 = true
  planned : eventsOf appends <+: events

theorem Traces.refl (op : Operation) (events : List JournalEvent) (s : PersistedState) :
    Traces op events s [] s :=
  ⟨.refl _ s, .nil s, by simp, List.nil_prefix⟩

/-- An append behind complete ones, itself complete or not. -/
theorem Traces.append {op : Operation} {events : List JournalEvent} {s m t : PersistedState}
    {event : JournalEvent} {appends : List (JournalEntry × Bool)} (h : Traces op events s appends m)
    (hall : ∀ p ∈ appends, p.2 = true) (happly : Applies m event t)
    (hmove : Moves (some op) s t) (hplanned : eventsOf appends ++ [event] <+: events) :
    Traces op events s (appends ++ [(⟨m.journalSequence + 1, event⟩, true)]) t ∧
      Traces op events s (appends ++ [(⟨m.journalSequence + 1, event⟩, false)]) m := by
  have hevents (complete : Bool) :
      eventsOf (appends ++ [(⟨m.journalSequence + 1, event⟩, complete)]) <+: events := by
    rw [eventsOf, List.map_append]
    exact hplanned
  refine ⟨⟨hmove, ?_, by simpa using hall, hevents true⟩, h.moves, ?_, by simpa using hall,
    hevents false⟩
  · rw [written_append]
    exact h.replays.snoc happly rfl
  · rw [written_append]
    exact (List.append_nil _).symm ▸ h.replays

/-! ### Operations -/

section Operations

variable {op : Operation} {states : List (JournalEntry × Bool) → PersistedState → Prop}
  {events : List JournalEvent} {s : PersistedState} {w : Logged}

theorem keeps_currentCatalog (hs : states w.appends s) (hw : Ready s w.toLocal) :
    Keeps states currentCatalog w fun catalog w' => catalog = w.catalog ∧ w' = w := by
  refine ⟨⟨s, hs, hw.represents⟩, fun answer w' heffect => ?_⟩
  exact ⟨heffect.1.2, eq_of_same heffect.1.1 heffect.2⟩

theorem keeps_adoptCatalog {catalog : TrustedActivitySourceCatalog} (hs : states w.appends s)
    (hw : Ready s w.toLocal) :
    Keeps states (adoptCatalog catalog) w fun _ w' =>
      w'.appends = w.appends ∧ w'.catalog = catalog ∧ Ready s w'.toLocal := by
  refine ⟨⟨s, hs, hw.represents⟩, fun answer w' heffect => ?_⟩
  obtain ⟨hadopted, happends⟩ := heffect
  have hlocal : w'.toLocal = { w.toLocal with catalog := catalog } := hadopted
  refine ⟨happends.trans (List.append_nil _), ?_, ?_⟩
  · rw [hlocal]
  · exact hlocal ▸ ⟨hw.represents, hw.snapshot, hw.tail⟩

theorem event_of_refreshCatalog {current catalog : TrustedActivitySourceCatalog}
    {read : Option CatalogRead} {event : JournalEvent}
    (h : refreshCatalog s current read = .ok (catalog, some event)) :
    ∃ generation, event = .catalogConfigured generation := by
  have hadopted {c : TrustedActivitySourceCatalog} (h : (do
      if s.installCatalogGeneration ≠ c.generation then ensureCatalogAdoptionAllowed s
      return (c, adoptionEvent s c)) = Except.ok (catalog, some event)) :
      ∃ generation, event = .catalogConfigured generation := by
    split_ifs at h with hne
    · simp only [except_bind_eq_ok, adoptionEvent, if_pos hne] at h
      obtain ⟨-, -, h⟩ := h
      cases h
      exact ⟨_, rfl⟩
    · rw [adoptionEvent, if_neg hne] at h
      cases h
  unfold refreshCatalog at h
  split at h
  · obtain ⟨-, -, h⟩ := except_bind_eq_ok.1 h
    exact hadopted h
  · cases h
  · split_ifs at h
    cases h
  · simp only [except_bind_eq_ok] at h
    obtain ⟨-, -, -, -, -, -, h⟩ := h
    exact hadopted h

/-- After the catalog was refreshed: the adopted catalog is in memory, the files amount to the state
`m` that its event led to, and nothing else was appended. -/
structure Refreshed (read : Option CatalogRead) (op : Operation) (events : List JournalEvent)
    (s : PersistedState) (w : Logged) (m : PersistedState) (w' : Logged) : Prop where
  ready : Ready m w'.toLocal
  adopts : Adopts s m
  traces : Traces op events s w'.appends m
  complete : ∀ p ∈ w'.appends, p.2 = true
  committed : ∃ event, refreshCatalog s w.catalog read = .ok (w'.catalog, event) ∧
    s.commitOptional event = .ok m ∧ eventsOf w'.appends = event.toList

theorem keeps_refreshCatalogLocked (read : Option CatalogRead) (hempty : w.appends = [])
    (hw : Ready s w.toLocal)
    (hplan : ∀ catalog event m, refreshCatalog s w.catalog read = .ok (catalog, event) →
      s.commitOptional event = .ok m → event.toList <+: events) :
    Keeps (Traces op events s) (refreshCatalogLocked read s) w fun m w' =>
      Refreshed read op events s w m w' := by
  have hs : Traces op events s w.appends s := hempty ▸ .refl op events s
  refine (keeps_currentCatalog hs hw).run_bind fun current w₁ hw₁ => ?_
  obtain ⟨rfl, rfl⟩ := hw₁
  refine keeps_pureOf_bind ⟨s, hs, hw.represents⟩ fun result hresult => ?_
  obtain ⟨catalog, event⟩ := result
  refine (keeps_adoptCatalog hs hw).run_bind fun _ w₂ hw₂ => ?_
  obtain ⟨hsame, rfl, hw₂⟩ := hw₂
  have hnone : w₂.appends = [] := hsame.trans hempty
  have hs₂ : Traces op events s w₂.appends s := hsame ▸ hs
  have hall : ∀ p ∈ w₂.appends, p.2 = true := by simp [hnone]
  cases event with
  | none =>
    exact ⟨hw₂, ⟨_, _, _, rfl⟩, hs₂, hall, none, hresult, rfl, by simp [eventsOf, hnone]⟩
  | some event =>
    obtain ⟨generation, rfl⟩ := event_of_refreshCatalog hresult
    refine (keeps_appendAndApply hs₂ hw₂ fun hlt => ?_).run_mono ?_ fun _ h => h
    · obtain ⟨t, ht⟩ := exists_applies (.catalogConfigured generation) (fun _ => ⟨_, rfl⟩) hlt
      refine ⟨t, ht, hs₂.append hall ht ⟨t, Applies.adopts ht, .inl rfl⟩ ?_⟩
      rw [hnone]
      exact hplan _ _ t hresult ht
    · rintro m w' ⟨hm, happends, hcatalog, happly, hw'⟩
      refine ⟨hw', Applies.adopts happly, hm, by rw [happends]; simpa using hall,
        some _, ?_, happly, ?_⟩
      · rw [hcatalog]
        exact hresult
      · rw [happends, hnone]
        rfl

/-- An operation leaves the files at a move of its own, wherever it stops, and its appends are a
beginning of its plan.  When it returns, it appended all of its plan and gives the planned
answer. -/
theorem keeps_withState (sha256 : String → String) (read : Option CatalogRead) (sample : Sample)
    (op : Operation) (hempty : w.appends = []) (h : Represents w.disk s) :
    let plan := op.plan sha256 read sample w.catalog s
    Keeps (Traces op plan.events s) (withState sha256 read sample op) w fun answer w' =>
      Amounts (Traces op plan.events s) w' ∧ (∀ p ∈ w'.appends, p.2 = true) ∧
        eventsOf w'.appends = plan.events ∧ plan.answer = .ok answer := by
  intro plan
  have hs : Traces op plan.events s w.appends s := hempty ▸ .refl op _ s
  refine keeps_pureOf_bind ⟨s, hs, h⟩ fun _ hprecheck => ?_
  refine (keeps_loadStateLocked hs h).run_bind fun loaded w₁ hload => ?_
  obtain ⟨hloaded, hsame, hcatalog, hw₁⟩ := hload
  subst loaded
  have hplan : ∀ catalog event m, refreshCatalog s w₁.catalog read = .ok (catalog, event) →
      s.commitOptional event = .ok m → event.toList <+: plan.events := by
    rw [hcatalog]
    exact fun catalog event m hrefresh hcommit =>
      events_prefix_plan (refreshed_eq_ok hprecheck hrefresh hcommit)
  refine (keeps_refreshCatalogLocked read (hsame.trans hempty) hw₁ hplan).run_bind
    fun m w₂ hrefreshed => ?_
  obtain ⟨hw₂, hm, hms, hall, event, hrefresh, hcommit, hevents⟩ := hrefreshed
  refine (keeps_currentCatalog hms hw₂).run_bind fun catalog w₃ hw₃ => ?_
  obtain ⟨rfl, rfl⟩ := hw₃
  refine keeps_pureOf_bind ⟨m, hms, hw₂.represents⟩ fun decision hdecision => ?_
  have hplanned : plan = ⟨event.toList ++ (decision.plan m).events, (decision.plan m).answer⟩ :=
    plan_of_decide (refreshed_eq_ok hprecheck (hcatalog ▸ hrefresh) hcommit) hdecision
  cases decision with
  | answer answer =>
    refine ⟨⟨m, hms, hw₂.represents⟩, hall, ?_, by rw [hplanned]; rfl⟩
    rw [hplanned, hevents]
    exact (List.append_nil _).symm
  | append event answer =>
    have hemits := emits_of_decide hdecision
    refine (keeps_appendAndApply hms hw₂ fun hlt => ?_).run_bind fun t w₄ hw₄ => ?_
    · obtain ⟨t, ht⟩ := exists_applies event hemits.exists_applyEvent hlt
      refine ⟨t, ht, hms.append hall ht ⟨m, hm, .inr ⟨op, event, rfl, hemits, ht⟩⟩ ?_⟩
      rw [hplanned, hevents]
      exact List.prefix_rfl
    · obtain ⟨ht, happends, -, happly, hw₄⟩ := hw₄
      have hall : ∀ p ∈ w₄.appends, p.2 = true := by rw [happends]; simpa using hall
      have hevents' : eventsOf w₄.appends = plan.events := by
        rw [happends, hplanned, ← hevents, eventsOf, List.map_append]
        rfl
      have hanswer : plan.answer = .ok (answer t) := by
        rw [hplanned]
        exact congrArg (Except.map answer) happly
      cases op.replacement with
      | none => exact ⟨⟨t, ht, hw₄.represents⟩, hall, hevents', hanswer⟩
      | some catalog =>
        refine (keeps_adoptCatalog ht hw₄).run_bind fun _ w₅ hw₅ => ?_
        obtain ⟨hsame, -, hw₅⟩ := hw₅
        exact ⟨⟨t, hsame ▸ ht, hw₅.represents⟩, hsame ▸ hall, hsame ▸ hevents', hanswer⟩

end Operations

/-! ### Histories -/

/-- The files, and the catalog in the memory of each process. -/
structure World where
  disk : Disk := {}
  catalogs : Nat → TrustedActivitySourceCatalog

/-- A step of one of the processes: it starts, an operation of its returns, or it dies in one. -/
inductive Step (sha256 : String → String) (w : World) : Option Operation → World → Prop
  | start (process : Nat) (catalog : TrustedActivitySourceCatalog) :
      Step sha256 w none { w with catalogs := Function.update w.catalogs process catalog }
  | finish {process : Nat} {read : Option CatalogRead} {sample : Sample} {op : Operation}
      {log : List (Exchange Call Call.Answer)} {result : Except MaintenanceError Answer} {l : Local}
      (hruns : Runs Effect (withState sha256 read sample op).run ⟨w.disk, w.catalogs process⟩ log
        result l) :
      Step sha256 w (some op) ⟨l.disk, Function.update w.catalogs process l.catalog⟩
  | die {process : Nat} {read : Option CatalogRead} {sample : Sample} {op : Operation}
      {call : Call} {l : Local}
      (hreaches : Reaches Effect (withState sha256 read sample op).run
        ⟨w.disk, w.catalogs process⟩ call l) :
      Step sha256 w (some op) { w with disk := l.disk }

/-- The steps of a history, each of which meets a condition on the files and the operation. -/
def Steps (sha256 : String → String) (condition : PersistedState → Operation → Prop) :
    World → World → Prop :=
  ReflTransGen fun w w' => ∃ label, Step sha256 w label w' ∧
    ∀ s op, w.disk.contents = .ok s → label = some op → condition s op

variable {sha256 : String → String} {s : PersistedState} {w w' : World}

theorem exists_moves_of_step {label : Option Operation} (h : Represents w.disk s)
    (hstep : Step sha256 w label w') : ∃ t, Represents w'.disk t ∧ Moves label s t := by
  cases hstep with
  | start process catalog => exact ⟨s, h, .refl none s⟩
  | @finish process read sample op log result l hruns =>
    obtain ⟨appends, hlogged⟩ := exists_logged_of_runs hruns []
    have hends := (keeps_withState sha256 read sample op rfl h).post_of_runs hlogged
    cases result with
    | ok answer =>
      obtain ⟨⟨t, ht, hrepresents⟩, -⟩ := hends
      exact ⟨t, hrepresents, ht.moves⟩
    | error error =>
      obtain ⟨t, ht, hrepresents⟩ := hends
      exact ⟨t, hrepresents, ht.moves⟩
  | @die process read sample op call l hreaches =>
    obtain ⟨appends, hlogged⟩ := exists_logged_of_reaches hreaches []
    obtain ⟨t, ht, hrepresents⟩ :=
      (keeps_withState sha256 read sample op rfl h).allowed_of_reaches hlogged
    exact ⟨t, hrepresents, ht.moves⟩

/-- A relation that every move keeps holds between the ends of a history. -/
theorem exists_of_steps {condition : PersistedState → Operation → Prop}
    {R : PersistedState → PersistedState → Prop} (h : Represents w.disk s) (hrefl : R s s)
    (hmoves : ∀ m t label, R s m → Moves label m t → (∀ op, label = some op → condition m op) →
      R s t) (hsteps : Steps sha256 condition w w') : ∃ t, Represents w'.disk t ∧ R s t := by
  induction hsteps with
  | refl => exact ⟨s, h, hrefl⟩
  | tail _ hstep ih =>
    obtain ⟨m, hm, hR⟩ := ih
    obtain ⟨label, hstep, hcondition⟩ := hstep
    obtain ⟨t, ht, hmove⟩ := exists_moves_of_step hm hstep
    exact ⟨t, ht, hmoves m t label hR hmove fun op => hcondition m op (contents_of_represents hm)⟩

/-! ### A process whose calls succeed -/

def success : (call : Call) → Local → call.Answer × Local
  | .readState, l => (.ok l.disk.snapshot, l)
  | .readJournal, l => (.ok l.disk.journal, l)
  | .truncateJournal, l => (.ok (), { l with disk := l.disk.truncate })
  | .terminateJournal, l => (.ok (), { l with disk := l.disk.terminate })
  | .writeSnapshot state, l => (.ok (), { l with disk := { l.disk with snapshot := some state } })
  | .appendEntry entry, l =>
    let lines := (l.disk.journal.getD {}).lines ++ [.entry entry]
    (.ok (), { l with disk := { l.disk with journal := some { lines := lines } } })
  | .journalLength, l => (.ok 0, l)
  | .writeCheckpoint state, l =>
    (.ok (), { l with disk := { l.disk with journal := some (checkpointFile state) } })
  | .currentCatalog, l => (l.catalog, l)
  | .adoptCatalog catalog, l => ((), { l with catalog := catalog })

theorem effect_success (call : Call) (l : Local) :
    Effect call l (success call l).1 (success call l).2 := by
  cases call with
  | readState | readJournal => exact ⟨rfl, fun _ h => (Except.ok.inj h).symm⟩
  | currentCatalog => exact ⟨rfl, rfl⟩
  | _ => simp [success, Effect, Writes, Appends]

/-- An installation with one source, before its first operation. -/
def sampleWorld : World where
  catalogs _ := ⟨1, 1, [⟨"agent", 0, none, String.ofList (List.replicate 64 'a'), []⟩]⟩

/-- What an operation of the first process samples. -/
def World.sample (w : World) : Sample := ⟨w.catalogs 0, 60000, 0, 0, fun _ => "token", {}⟩

/-- The world after an operation of the first process. -/
def World.after (w : World) (op : Operation) : World :=
  let l := ((withState id none w.sample op).run.exec success ⟨w.disk, w.catalogs 0⟩).2.2
  ⟨l.disk, Function.update w.catalogs 0 l.catalog⟩

theorem step_after (w : World) (op : Operation) : Step id w (some op) (w.after op) :=
  .finish (runs_exec effect_success _ _)

theorem steps_after (w : World) (op : Operation) : Steps id (fun _ _ => True) w (w.after op) :=
  .single ⟨_, step_after w op, fun _ _ _ _ => trivial⟩

end CyreneKernel.Maintenance
