import CyreneKernel.Maintenance.Store

/-!
# The files amount to a state

The journal begins with nothing or with a checkpoint, its records lead from there through the
snapshot to the state of the gate, and an incomplete record at its end counts for nothing.

## Main definitions

* `Replays`: entries that lead from one state to another.
* `Represents`: the files amount to a state.

## Main results

* `contents_of_represents`: the state that files amount to is the one that is read from them.
* `keeps_loadStateLocked`: reading keeps what the files amount to, and repairs them.
* `keeps_appendAndApply`: an append is atomic, whichever of its writes fails.
-/

namespace CyreneKernel.Maintenance

open Lib Program

/-! ### Entries -/

variable {s t : PersistedState} {e : JournalEntry}

theorem applyEntry_eq_ok :
    applyEntry s e = .ok t ↔ e.sequence = saturatingAdd s.journalSequence 1 ∧
      ∃ u, applyEvent { s with
        coreBootstrapEligible := s.coreBootstrapEligible && e.event.isCatalogConfigured } e.event =
          .ok u ∧ { u with journalSequence := e.sequence } = t := by
  simp only [applyEntry, except_bind_eq_ok, failIf_eq_ok, except_pure_eq_ok, not_not, exists_unit]

theorem journalSequence_of_applyEntry (h : applyEntry s e = .ok t) :
    t.journalSequence = e.sequence := by
  obtain ⟨-, u, -, rfl⟩ := applyEntry_eq_ok.1 h
  rfl

theorem schemaVersion_of_applyEvent {event : JournalEvent} (h : applyEvent s event = .ok t) :
    t.schemaVersion = s.schemaVersion := by
  cases event with
  | stateCheckpoint checkpoint => cases h
  | bindingOperationAdmitted record =>
    rw [applyEvent] at h
    split at h
    · cases h
    · cases h
      rfl
  | bindingOperationCompleted record =>
    rw [applyEvent] at h
    split at h
    · cases h
    · split at h
      · cases h
      · cases h
        rfl
  | maintenanceEnded requestId token outcome healthy unlocked endedAtUnixMs =>
    rw [applyEvent] at h
    split at h
    · cases h
    · split_ifs at h <;> cases h <;> rfl
  | _ =>
    cases h
    rfl

theorem schemaVersion_of_applyEntry (h : applyEntry s e = .ok t) :
    t.schemaVersion = s.schemaVersion := by
  obtain ⟨-, u, hu, rfl⟩ := applyEntry_eq_ok.1 h
  have hschema := schemaVersion_of_applyEvent hu
  exact hschema

theorem not_checkpoint_of_applyEntry {c : PersistedState} (h : applyEntry s e = .ok t) :
    e.event ≠ .stateCheckpoint c := by
  obtain ⟨-, u, hu, rfl⟩ := applyEntry_eq_ok.1 h
  intro hevent
  rw [hevent] at hu
  cases hu

/-- The entries lead from one state to another, and their sequences follow one another. -/
inductive Replays : PersistedState → List JournalEntry → PersistedState → Prop
  | nil (s : PersistedState) : Replays s [] s
  | cons {s t u : PersistedState} {e : JournalEntry} {es : List JournalEntry}
      (happly : applyEntry s e = .ok t) (hsequence : e.sequence = s.journalSequence + 1)
      (hrest : Replays t es u) : Replays s (e :: es) u

namespace Replays

variable {s t u : PersistedState} {es fs : List JournalEntry}

variable (h : Replays s es t)

include h

theorem append (h' : Replays t fs u) : Replays s (es ++ fs) u := by
  induction h with
  | nil => exact h'
  | cons happly hsequence _ ih => exact .cons happly hsequence (ih h')

theorem snoc {e : JournalEntry} (happly : applyEntry t e = .ok u)
    (hsequence : e.sequence = t.journalSequence + 1) : Replays s (es ++ [e]) u :=
  h.append (.cons happly hsequence (.nil u))

theorem journalSequence : t.journalSequence = s.journalSequence + es.length := by
  induction h with
  | nil => rfl
  | cons happly hsequence _ ih =>
    rw [ih, journalSequence_of_applyEntry happly, hsequence, List.length_cons]
    omega

theorem schemaVersion : t.schemaVersion = s.schemaVersion := by
  induction h with
  | nil => rfl
  | cons happly _ _ ih => rw [ih, schemaVersion_of_applyEntry happly]

theorem journalSequence_le (hs : s.journalSequence ≤ u64Max) : t.journalSequence ≤ u64Max := by
  induction h with
  | nil => exact hs
  | cons happly _ _ ih =>
    refine ih ?_
    rw [journalSequence_of_applyEntry happly, (applyEntry_eq_ok.1 happly).1]
    exact Nat.min_le_right _ _

/-- Where the sequence did not move, nothing was replayed. -/
theorem eq_of_journalSequence (hle : t.journalSequence ≤ s.journalSequence) : s = t := by
  have hlength := h.journalSequence
  cases h with
  | nil => rfl
  | cons => simp only [List.length_cons] at hlength; omega

end Replays

/-- The first records of a journal, and the state that they stand for. -/
inductive Starts : PersistedState → List JournalEntry → Prop
  | new : Starts {} []
  | checkpoint {s : PersistedState} (hpos : 0 < s.journalSequence)
      (hle : s.journalSequence ≤ u64Max) (hschema : s.schemaVersion = stateSchemaVersion) :
      Starts s [⟨s.journalSequence, .stateCheckpoint s⟩]

/-! ### The scan -/

/-- The last sequence of a journal that leads to a state. -/
def lastSequence (s : PersistedState) : Option Nat :=
  if s.journalSequence = 0 then none else some s.journalSequence

theorem lastSequence_of_pos {s : PersistedState} (h : 0 < s.journalSequence) :
    lastSequence s = some s.journalSequence :=
  if_neg (by omega)

section Scan

variable {a b s t : PersistedState} {e : JournalEntry} {es : List JournalEntry}

/-- The scan of an entry that leads from `a` to `b`, at any state `s` of the scan. -/
theorem scanEntry_of_applyEntry (happly : applyEntry a e = .ok b)
    (hsequence : e.sequence = a.journalSequence + 1)
    (hs : applyNew s e = .ok t) :
    scanEntry (s, lastSequence a) e = .ok (t, lastSequence b) := by
  have hb : lastSequence b = some e.sequence := by
    rw [lastSequence_of_pos (by rw [journalSequence_of_applyEntry happly]; omega),
      journalSequence_of_applyEntry happly]
  have hsaturating := (applyEntry_eq_ok.1 happly).1
  by_cases hzero : a.journalSequence = 0
  · have hone : e.sequence = 1 := by omega
    rw [hb, lastSequence, if_pos hzero]
    unfold scanEntry
    split
    · next hsome => cases hsome
    · next c _ hevent => exact absurd hevent (not_checkpoint_of_applyEntry happly)
    · simp [hs, except_bind_eq_ok, hone]
  · rw [hb, lastSequence_of_pos (by omega)]
    simp [scanEntry, hs, except_bind_eq_ok, hsaturating]

/-- The scan passes the entries that the snapshot contains. -/
theorem scan_skip (h : Replays a es b) (hle : b.journalSequence ≤ s.journalSequence) :
    (es.map Line.entry).foldlM scanLine (s, lastSequence a) = .ok (s, lastSequence b) := by
  induction h with
  | nil => rfl
  | cons happly hsequence hrest ih =>
    have hlength := hrest.journalSequence
    rw [journalSequence_of_applyEntry happly] at hlength
    rw [List.map_cons, List.foldlM_cons, except_bind_eq_ok]
    refine ⟨_, scanEntry_of_applyEntry happly hsequence ?_, ih hle⟩
    exact if_neg (by omega)

/-- The scan applies the entries behind the snapshot. -/
theorem scan_apply (h : Replays a es b) :
    (es.map Line.entry).foldlM scanLine (a, lastSequence a) = .ok (b, lastSequence b) := by
  induction h with
  | nil => rfl
  | cons happly hsequence hrest ih =>
    rw [List.map_cons, List.foldlM_cons, except_bind_eq_ok]
    refine ⟨_, scanEntry_of_applyEntry happly hsequence ?_, ih⟩
    rw [applyNew, if_pos (by omega), happly]

/-- The scan passes a checkpoint that the snapshot contains. -/
theorem scan_start (h : Starts a es) (hle : a.journalSequence ≤ s.journalSequence) :
    (es.map Line.entry).foldlM scanLine (s, none) = .ok (s, lastSequence a) := by
  cases h with
  | new => rfl
  | checkpoint hpos _ hschema =>
    rw [lastSequence_of_pos hpos]
    simp only [List.map_cons, List.map_nil, List.foldlM_cons, List.foldlM_nil, scanLine, scanEntry,
      except_bind_eq_ok, failIf_eq_ok, except_pure_eq_ok]
    refine ⟨_, ⟨(), by simp [hschema]; omega, rfl⟩, ?_⟩
    rw [if_neg (by omega)]

end Scan

/-! ### What the files amount to -/

/-- The complete records of the journal; one without its newline is complete. -/
def JournalFile.records (file : JournalFile) : List Line :=
  file.lines ++ (file.tail.filter (· ≠ .malformed)).toList

/-- The files amount to a state: the records lead to it through the snapshot. -/
inductive Represents (disk : Disk) (s : PersistedState) : Prop
  | intro {base : PersistedState} {start before behind : List JournalEntry}
      (hstart : Starts base start) (hbefore : Replays base before (disk.snapshot.getD {}))
      (hbehind : Replays (disk.snapshot.getD {}) behind s)
      (hrecords : (disk.journal.getD {}).records = (start ++ before ++ behind).map .entry)
      (hjournal : disk.journal = none → disk.snapshot = none)

theorem represents_new : Represents {} {} :=
  .intro .new (.nil _) (.nil _) rfl fun _ => rfl

theorem Starts.schemaVersion {s : PersistedState} {start : List JournalEntry}
    (h : Starts s start) : s.schemaVersion = stateSchemaVersion := by
  cases h with
  | new => rfl
  | checkpoint _ _ hschema => exact hschema

/-- What the end of a journal needs. -/
def JournalFile.repair (file : JournalFile) : Repair :=
  match file.tail with
  | none => .nothing
  | some .malformed => .truncate
  | some (.entry _) => .terminate

namespace Represents

variable {disk : Disk} {s t : PersistedState}

theorem schemaVersion (h : Represents disk s) : s.schemaVersion = stateSchemaVersion := by
  obtain ⟨hstart, hbefore, hbehind, -, -⟩ := h
  rw [hbehind.schemaVersion, hbefore.schemaVersion, hstart.schemaVersion]

theorem journalSequence_le (h : Represents disk s) : s.journalSequence ≤ u64Max := by
  obtain ⟨hstart, hbefore, hbehind, -, -⟩ := h
  refine hbehind.journalSequence_le (hbefore.journalSequence_le ?_)
  cases hstart with
  | new => exact Nat.zero_le _
  | checkpoint _ hle _ => exact hle

section

variable (h : Represents disk s)

include h

theorem checkSnapshot_eq_ok : checkSnapshot (disk.snapshot.getD {}) = .ok () := by
  obtain ⟨hstart, hbefore, -, -, -⟩ := h
  rw [checkSnapshot, failIf_eq_ok, not_not, hbefore.schemaVersion, hstart.schemaVersion]

theorem journalOf_eq_ok : journalOf disk.snapshot disk.journal = .ok (disk.journal.getD {}) := by
  obtain ⟨-, -, -, -, hjournal⟩ := h
  cases hfile : disk.journal with
  | some file => rfl
  | none =>
    rw [hjournal hfile]
    rfl

/-- The scan of all complete records ends in the state. -/
theorem foldlM_records :
    (disk.journal.getD {}).records.foldlM scanLine (disk.snapshot.getD {}, none) =
      .ok (s, lastSequence s) := by
  obtain ⟨hstart, hbefore, hbehind, hrecords, -⟩ := h
  have hle := hbefore.journalSequence
  rw [hrecords, List.map_append, List.map_append, List.foldlM_append, List.foldlM_append,
    scan_start hstart (by omega)]
  change ((List.map Line.entry _).foldlM scanLine _ >>= _) = _
  rw [scan_skip hbefore (Nat.le_refl _)]
  exact scan_apply hbehind

theorem scanJournal_eq_ok :
    scanJournal (disk.snapshot.getD {}) (disk.journal.getD {}) =
      .ok ((s, lastSequence s), (disk.journal.getD {}).repair) := by
  have hfold := h.foldlM_records
  have hempty : ¬ (disk.journal.getD {} = {} ∧ (disk.snapshot.getD {}).journalSequence ≠ 0) := by
    rintro ⟨hfile, hne⟩
    obtain ⟨hstart, hbefore, -, hrecords, -⟩ := h
    rw [hfile] at hrecords
    have hnil := List.map_eq_nil_iff.1 hrecords.symm
    simp only [List.append_eq_nil_iff] at hnil
    obtain ⟨⟨rfl, rfl⟩, -⟩ := hnil
    have hsequence := hbefore.journalSequence
    cases hstart
    exact hne hsequence
  generalize disk.journal.getD {} = file at hfold hempty ⊢
  rw [scanJournal, failIf, if_neg hempty]
  unfold JournalFile.repair
  cases htail : file.tail with
  | none =>
    rw [JournalFile.records, htail] at hfold
    simp only [Option.filter_none, Option.toList_none, List.append_nil] at hfold
    rw [hfold]
    rfl
  | some line =>
    cases line with
    | malformed =>
      rw [JournalFile.records, htail] at hfold
      simp only [Option.filter_some, ne_eq, not_true_eq_false, decide_false, Bool.false_eq_true,
        if_false, Option.toList_none, List.append_nil] at hfold
      rw [hfold]
      have hle : ¬ s.journalSequence > (lastSequence s).getD 0 := by
        unfold lastSequence
        split
        · next hzero => simp [hzero]
        · simp
      change (failIf _ _ >>= _) = _
      rw [failIf, if_neg hle]
      rfl
    | entry e =>
      rw [JournalFile.records, htail] at hfold
      simp only [Option.filter_some, ne_eq, reduceCtorEq, not_false_eq_true, decide_true, if_true,
        Option.toList_some, List.foldlM_append, List.foldlM_cons, List.foldlM_nil,
        except_bind_eq_ok] at hfold
      obtain ⟨scan, hscan, _, hentry, hdone⟩ := hfold
      obtain rfl := except_pure_eq_ok.1 hdone
      rw [hscan]
      change (scanEntry scan e >>= _) = _
      rw [show scanEntry scan e = _ from hentry]
      rfl

end

theorem checkScan_eq_ok (s : PersistedState) : checkScan (s, lastSequence s) = .ok s := by
  unfold lastSequence
  split
  · next hzero => simp [checkScan, failIf, hzero]
  · simp [checkScan, failIf]

end Represents

/-- The state that files amount to is the one that is read from them. -/
theorem contents_of_represents {disk : Disk} {s : PersistedState} (h : Represents disk s) :
    disk.contents = .ok s := by
  simp only [Disk.contents, except_bind_eq_ok]
  exact ⟨(), h.checkSnapshot_eq_ok, _, h.journalOf_eq_ok, _, h.scanJournal_eq_ok,
    Represents.checkScan_eq_ok s⟩

/-! ### Writes -/

section Writes

variable {disk : Disk} {s t : PersistedState} {file : JournalFile}

variable (h : Represents disk s)

include h

/-- Only the complete records of the journal matter. -/
theorem Represents.of_records {journal : Option JournalFile}
    (hrecords : (journal.getD {}).records = (disk.journal.getD {}).records)
    (hjournal : journal = none → disk.journal = none) :
    Represents { disk with journal := journal } s := by
  obtain ⟨hstart, hbefore, hbehind, hold, hnone⟩ := h
  exact .intro hstart hbefore hbehind (hrecords.trans hold) fun h => hnone (hjournal h)

theorem Represents.mapJournal {f : JournalFile → JournalFile}
    (hrecords : ∀ file, disk.journal = some file → (f file).records = file.records) :
    Represents { disk with journal := disk.journal.map f } s := by
  refine h.of_records ?_ fun hnone => Option.map_eq_none_iff.1 hnone
  cases hfile : disk.journal with
  | none => rfl
  | some file => exact hrecords file hfile

theorem Represents.truncate (htail : (disk.journal.getD {}).repair = .truncate) :
    Represents disk.truncate s := by
  refine h.mapJournal fun file hfile => ?_
  rw [hfile, Option.getD_some, JournalFile.repair] at htail
  unfold JournalFile.records
  split at htail
  · cases htail
  · next hmalformed => rw [hmalformed]; rfl
  · cases htail

theorem Represents.terminate (htail : (disk.journal.getD {}).repair = .terminate) :
    Represents disk.terminate s := by
  refine h.mapJournal fun file hfile => ?_
  rw [hfile, Option.getD_some, JournalFile.repair] at htail
  unfold JournalFile.records
  split at htail
  · cases htail
  · cases htail
  · next e hentry => rw [hentry]; simp [Option.filter_some]

/-- A snapshot of the state may replace an older one. -/
theorem Represents.writeSnapshot (hjournal : disk.journal ≠ none) :
    Represents { disk with snapshot := some s } s := by
  obtain ⟨hstart, hbefore, hbehind, hrecords, -⟩ := h
  refine .intro hstart (hbefore.append hbehind) (.nil s) ?_ fun hnone => absurd hnone hjournal
  rw [hrecords, List.append_nil, List.append_assoc]

/-- The journal may be replaced by a checkpoint of the state in the snapshot. -/
theorem Represents.writeCheckpoint (hpos : 0 < s.journalSequence)
    (hsnapshot : disk.snapshot.getD {} = s) :
    Represents { disk with journal := some (checkpointFile s) } s := by
  have hnil : Replays s [] (disk.snapshot.getD {}) := by rw [hsnapshot]; exact .nil s
  have hnil' : Replays (disk.snapshot.getD {}) [] s := by rw [hsnapshot]; exact .nil s
  exact .intro (.checkpoint hpos h.journalSequence_le h.schemaVersion) hnil hnil' rfl
    fun hnone => by
    cases hnone

/-- A complete record behind the others applies its event. -/
theorem Represents.append {e : JournalEntry} (happly : applyEntry s e = .ok t)
    (hsequence : e.sequence = s.journalSequence + 1)
    (hrecords : file.records = (disk.journal.getD {}).records ++ [.entry e]) :
    Represents { disk with journal := some file } t := by
  obtain ⟨hstart, hbefore, hbehind, hold, -⟩ := h
  refine .intro hstart hbefore (hbehind.snoc happly hsequence) ?_ fun hnone => by cases hnone
  rw [Option.getD_some, hrecords, hold]
  simp only [List.map_append, List.map_cons, List.map_nil, List.append_assoc]

end Writes

/-! ### Programs -/

/-- The files amount to a state, the snapshot holds it, and the journal ends with a newline. -/
structure Ready (s : PersistedState) (w : Local) : Prop where
  represents : Represents w.disk s
  snapshot : w.disk.snapshot.getD {} = s
  tail : (w.disk.journal.getD {}).tail = none

/-- What a process sees, and the appends of its operation: each with whether it is complete. -/
structure Logged extends Local where
  appends : List (JournalEntry × Bool) := []

/-- What a call adds to the appends. -/
def Call.appends (before after : Disk) : Call → List (JournalEntry × Bool)
  | .appendEntry entry =>
    [(entry, (after.journal.getD {}).records = (before.journal.getD {}).records ++ [.entry entry])]
  | _ => []

def LoggedEffect (call : Call) (w : Logged) (answer : call.Answer) (w' : Logged) : Prop :=
  Effect call w.toLocal answer w'.toLocal ∧
    w'.appends = w.appends ++ call.appends w.disk w'.disk

/-- The files amount to one of the states that the appends allow. -/
def Amounts (states : List (JournalEntry × Bool) → PersistedState → Prop) (w : Logged) : Prop :=
  ∃ s, states w.appends s ∧ Represents w.disk s

/-- At every call, and after every failure, the files amount to one of some states. -/
abbrev Keeps {α : Type} (states : List (JournalEntry × Bool) → PersistedState → Prop)
    (p : Gate α) (w : Logged) (post : α → Logged → Prop) : Prop :=
  Safe LoggedEffect (fun w _ => Amounts states w) p.run w (Ends post (Amounts states))

section Programs

variable {α : Type} {states : List (JournalEntry × Bool) → PersistedState → Prop} {w w' : Logged}
  {s t : PersistedState} {post : α → Logged → Prop}

theorem exists_logged_of_runs {p : Program Call Call.Answer α} {l l' : Local}
    {log : List (Exchange Call Call.Answer)} {a : α} (h : Runs Effect p l log a l')
    (appends : List (JournalEntry × Bool)) :
    ∃ appends', Runs LoggedEffect p ⟨l, appends⟩ log a ⟨l', appends'⟩ := by
  induction h generalizing appends with
  | done => exact ⟨appends, .done _ _⟩
  | @query call _ l l' _ _ _ _ hanswer _ ih =>
    obtain ⟨appends', hnext⟩ := ih (appends ++ call.appends l.disk l'.disk)
    exact ⟨appends', .query ⟨hanswer, rfl⟩ hnext⟩

theorem exists_logged_of_reaches {p : Program Call Call.Answer α} {l l' : Local} {call : Call}
    (h : Reaches Effect p l call l') (appends : List (JournalEntry × Bool)) :
    ∃ appends', Reaches LoggedEffect p ⟨l, appends⟩ call ⟨l', appends'⟩ := by
  induction h generalizing appends with
  | here => exact ⟨appends, .here⟩
  | @later call _ _ l l' _ _ hanswer _ ih =>
    obtain ⟨appends', hnext⟩ := ih (appends ++ call.appends l.disk l'.disk)
    exact ⟨appends', .later ⟨hanswer, rfl⟩ hnext⟩

theorem keeps_pureOf_bind {β : Type} {x : Except MaintenanceError β} {f : β → Gate α}
    (hw : Amounts states w) (h : ∀ b, x = .ok b → Keeps states (f b) w post) :
    Keeps states (pureOf x >>= f) w post := by
  cases x with
  | ok b => exact h b rfl
  | error e => exact hw

theorem keeps_of_eq_ok {β : Type} {x : Except MaintenanceError β} {b : β} {f : β → Gate α}
    (hx : x = .ok b) (h : Keeps states (f b) w post) : Keeps states (pureOf x >>= f) w post := by
  subst hx
  exact h

/-- A write, whether or not it fails. -/
theorem ends_of_writes (write : Disk → Disk) {answer : Except MaintenanceError Unit}
    {post : Unit → Logged → Prop} (heffect : Writes write answer w.toLocal w'.toLocal)
    (happends : w'.appends = w.appends ++ []) (h : Amounts states w)
    (hwritten : Amounts states { w with disk := write w.disk })
    (hpost : post () { w with disk := write w.disk }) : Ends post (Amounts states) answer w' := by
  obtain ⟨l', appends'⟩ := w'
  rw [List.append_nil] at happends
  subst happends
  rcases heffect with hwrite | ⟨⟨error, rfl⟩, hsame⟩
  · obtain rfl : l' = _ := hwrite
    cases answer with
    | ok _ => exact hpost
    | error error => exact hwritten
  · obtain rfl : l' = _ := hsame
    exact h

/-- A call that changes nothing. -/
theorem eq_of_same (hsame : w'.toLocal = w.toLocal) (happends : w'.appends = w.appends ++ []) :
    w' = w := by
  obtain ⟨l', appends'⟩ := w'
  rw [List.append_nil] at happends
  obtain rfl : l' = _ := hsame
  subst happends
  rfl

theorem keeps_repairJournal {file : JournalFile} (hs : states w.appends s)
    (h : Represents w.disk s) (hfile : w.disk.journal.getD {} = file) :
    Keeps states (repairJournal file.repair) w fun _ w' => w'.appends = w.appends ∧
      w'.catalog = w.catalog ∧ Represents w'.disk s ∧ w'.disk.snapshot = w.disk.snapshot ∧
      (w'.disk.journal.getD {}).tail = none ∧ (w'.disk.journal = none → w.disk.journal = none) := by
  subst hfile
  cases hrepair : (w.disk.journal.getD {}).repair with
  | nothing =>
    refine ⟨rfl, rfl, h, rfl, ?_, id⟩
    unfold JournalFile.repair at hrepair
    split at hrepair
    · assumption
    · cases hrepair
    · cases hrepair
  | truncate =>
    have hwritten := h.truncate hrepair
    refine ⟨⟨s, hs, h⟩, fun _ _ heffect => ends_of_writes _ heffect.1 heffect.2 ⟨s, hs, h⟩
      ⟨s, hs, hwritten⟩ ⟨rfl, rfl, hwritten, rfl, ?_, fun hnone => Option.map_eq_none_iff.1 hnone⟩⟩
    simp only [Disk.truncate]
    cases w.disk.journal <;> rfl
  | terminate =>
    have hwritten := h.terminate hrepair
    refine ⟨⟨s, hs, h⟩, fun _ _ heffect => ends_of_writes _ heffect.1 heffect.2 ⟨s, hs, h⟩
      ⟨s, hs, hwritten⟩ ⟨rfl, rfl, hwritten, rfl, ?_, fun hnone => Option.map_eq_none_iff.1 hnone⟩⟩
    simp only [Disk.terminate]
    cases w.disk.journal <;> rfl

theorem keeps_readState (hw : Amounts states w) :
    Keeps states readState w fun snapshot w' => snapshot = w.disk.snapshot ∧ w' = w := by
  refine ⟨hw, fun answer w' heffect => ?_⟩
  obtain ⟨⟨hsame, hanswer⟩, happends⟩ := heffect
  obtain rfl := eq_of_same hsame happends
  cases answer with
  | ok snapshot => exact ⟨hanswer snapshot rfl, rfl⟩
  | error error => exact hw

theorem keeps_readJournal (hw : Amounts states w) :
    Keeps states readJournal w fun journal w' => journal = w.disk.journal ∧ w' = w := by
  refine ⟨hw, fun answer w' heffect => ?_⟩
  obtain ⟨⟨hsame, hanswer⟩, happends⟩ := heffect
  obtain rfl := eq_of_same hsame happends
  cases answer with
  | ok journal => exact ⟨hanswer journal rfl, rfl⟩
  | error error => exact hw

theorem keeps_writeSnapshot (hs : states w.appends s) (h : Represents w.disk s)
    (hjournal : w.disk.journal ≠ none) :
    Keeps states (writeSnapshot s) w fun _ w' =>
      w' = { w with disk := { w.disk with snapshot := some s } } :=
  ⟨⟨s, hs, h⟩, fun _ _ heffect => ends_of_writes (fun disk => { disk with snapshot := some s })
    heffect.1 heffect.2 ⟨s, hs, h⟩ ⟨s, hs, h.writeSnapshot hjournal⟩ rfl⟩

theorem keeps_journalLength (hw : Amounts states w) :
    Keeps states journalLength w fun _ w' => w' = w := by
  refine ⟨hw, fun answer w' heffect => ?_⟩
  obtain rfl := eq_of_same heffect.1 heffect.2
  cases answer with
  | ok length => rfl
  | error error => exact hw

theorem keeps_writeCheckpoint (hs : states w.appends s) (hw : Ready s w.toLocal)
    (hpos : 0 < s.journalSequence) :
    Keeps states (writeCheckpoint s) w fun _ w' =>
      w'.appends = w.appends ∧ w'.catalog = w.catalog ∧ Ready s w'.toLocal := by
  obtain ⟨h, hsnapshot, -⟩ := hw
  have hwritten := h.writeCheckpoint hpos hsnapshot
  exact ⟨⟨s, hs, h⟩, fun _ _ heffect => ends_of_writes
    (fun disk => { disk with journal := some (checkpointFile s) }) heffect.1 heffect.2 ⟨s, hs, h⟩
    ⟨s, hs, hwritten⟩ ⟨rfl, rfl, hwritten, hsnapshot, rfl⟩⟩

/-- Without a journal nothing was replayed. -/
theorem Represents.eq_of_journal_none {disk : Disk} (h : Represents disk s)
    (hnone : disk.journal = none) : disk.snapshot.getD {} = s := by
  obtain ⟨-, -, hbehind, hrecords, -⟩ := h
  rw [hnone] at hrecords
  have hnil := List.map_eq_nil_iff.1 hrecords.symm
  obtain ⟨-, rfl⟩ := List.append_eq_nil_iff.1 hnil
  exact hbehind.eq_of_journalSequence (Nat.le_of_eq hbehind.journalSequence)

/-- Reading keeps what the files amount to, and repairs them. -/
theorem keeps_loadStateLocked (hs : states w.appends s) (h : Represents w.disk s) :
    Keeps states loadStateLocked w fun a w' =>
      a = s ∧ w'.appends = w.appends ∧ w'.catalog = w.catalog ∧ Ready s w'.toLocal := by
  refine (keeps_readState ⟨s, hs, h⟩).run_bind fun snapshot w₁ hread => ?_
  obtain ⟨rfl, rfl⟩ := hread
  refine keeps_of_eq_ok h.checkSnapshot_eq_ok ?_
  refine (keeps_readJournal ⟨s, hs, h⟩).run_bind fun journal w₂ hread => ?_
  obtain ⟨rfl, rfl⟩ := hread
  refine keeps_of_eq_ok h.journalOf_eq_ok ?_
  refine keeps_of_eq_ok h.scanJournal_eq_ok ?_
  refine (keeps_repairJournal hs h rfl).run_bind fun _ w₃ hrepaired => ?_
  obtain ⟨happends, hcatalog, hrepresents, hsnapshot, htail, hjournal⟩ := hrepaired
  refine keeps_of_eq_ok (Represents.checkScan_eq_ok s) ?_
  by_cases hnewer : s.journalSequence > (w₂.disk.snapshot.getD {}).journalSequence
  · have hfile : w₃.disk.journal ≠ none := by
      intro hnone
      rw [h.eq_of_journal_none (hjournal hnone)] at hnewer
      exact Nat.lt_irrefl _ hnewer
    simp only [if_pos hnewer]
    refine (keeps_writeSnapshot (happends ▸ hs) hrepresents hfile).run_bind fun _ w₄ hwritten => ?_
    subst hwritten
    exact ⟨rfl, happends, hcatalog, hrepresents.writeSnapshot hfile, rfl, htail⟩
  · simp only [if_neg hnewer]
    refine ⟨rfl, happends, hcatalog, hrepresents, ?_, htail⟩
    obtain ⟨-, -, hbehind, -, -⟩ := h
    rw [hsnapshot]
    exact hbehind.eq_of_journalSequence (Nat.le_of_not_lt hnewer)

/-- An append at the end of a complete line leaves the files at the state before or behind its
entry. -/
theorem keeps_appendEntry {e : JournalEntry} (hs : states w.appends s)
    (hlost : states (w.appends ++ [(e, false)]) s) (ht : states (w.appends ++ [(e, true)]) t)
    (hw : Ready s w.toLocal) (happly : applyEntry s e = .ok t)
    (hsequence : e.sequence = s.journalSequence + 1) :
    Keeps states (appendEntry e) w fun _ w' => w'.appends = w.appends ++ [(e, true)] ∧
      w'.catalog = w.catalog ∧ Represents w'.disk t ∧ w'.disk.journal ≠ none ∧
        (w'.disk.journal.getD {}).tail = none := by
  obtain ⟨h, -, htail⟩ := hw
  have hlines : (w.disk.journal.getD {}).records = (w.disk.journal.getD {}).lines := by
    rw [JournalFile.records, htail]
    exact List.append_nil _
  refine ⟨⟨s, hs, h⟩, fun answer w' heffect => ?_⟩
  obtain ⟨⟨hcatalog, hsnapshot, hjournal⟩, happends⟩ := heffect
  simp only [Call.appends] at happends
  have hdisk : w'.disk = ⟨w.disk.snapshot, w'.disk.journal⟩ := by rw [← hsnapshot]
  -- whether the record is complete decides between the two states
  have hkept (hrecords : (w'.disk.journal.getD {}).records = (w.disk.journal.getD {}).records)
      (hnone : w'.disk.journal = none → w.disk.journal = none) : Amounts states w' := by
    refine ⟨s, ?_, hdisk ▸ h.of_records hrecords hnone⟩
    rw [happends, hrecords, decide_eq_false (by simp)]
    exact hlost
  have hwhole {file : JournalFile} (hfile : w'.disk.journal = some file)
      (hrecords : file.records = (w.disk.journal.getD {}).records ++ [.entry e]) :
      w'.appends = w.appends ++ [(e, true)] ∧ Represents w'.disk t := by
    rw [happends, hfile, Option.getD_some, decide_eq_true hrecords, hdisk, hfile]
    exact ⟨rfl, h.append happly hsequence hrecords⟩
  rcases hjournal with hne | hline | ⟨⟨error, rfl⟩, hpart⟩
  · exact absurd htail hne
  · obtain ⟨hflag, hrepresents⟩ := hwhole hline (by rw [hlines]; exact List.append_nil _)
    cases answer with
    | ok _ => exact ⟨hflag, hcatalog, hrepresents, by rw [hline]; simp, by rw [hline]; rfl⟩
    | error error => exact ⟨t, hflag ▸ ht, hrepresents⟩
  · rcases hpart with hsame | hfile | htorn | hcomplete
    · exact hkept (by rw [hsame]) fun hnone => hsame ▸ hnone
    · exact hkept (by rw [hfile]; rfl) fun hnone => by simp [hfile] at hnone
    · exact hkept (by rw [htorn, hlines]; exact List.append_nil _) fun hnone => by
        simp [htorn] at hnone
    · obtain ⟨hflag, hrepresents⟩ := hwhole hcomplete (by rw [hlines]; rfl)
      exact ⟨t, hflag ▸ ht, hrepresents⟩

/-- An append is atomic, whichever of its writes fails. -/
theorem keeps_appendAndApply {event : JournalEvent} (hs : states w.appends s)
    (hw : Ready s w.toLocal)
    (happly : s.journalSequence < u64Max → ∃ t,
      applyEntry s ⟨s.journalSequence + 1, event⟩ = .ok t ∧
      states (w.appends ++ [(⟨s.journalSequence + 1, event⟩, true)]) t ∧
      states (w.appends ++ [(⟨s.journalSequence + 1, event⟩, false)]) s) :
    Keeps states (appendAndApply s event) w fun t w' => states w'.appends t ∧
      w'.appends = w.appends ++ [(⟨s.journalSequence + 1, event⟩, true)] ∧
      w'.catalog = w.catalog ∧ applyEntry s ⟨s.journalSequence + 1, event⟩ = .ok t ∧
      Ready t w'.toLocal := by
  refine keeps_pureOf_bind ⟨s, hs, hw.represents⟩ fun _ hchecked => ?_
  have hle := hw.represents.journalSequence_le
  obtain ⟨t, happly, ht, hlost⟩ := happly (Nat.lt_of_le_of_ne hle (failIf_eq_ok.1 hchecked))
  refine (keeps_appendEntry hs hlost ht hw happly rfl).run_bind fun _ w₁ happended => ?_
  obtain ⟨happends, hcatalog, h, hjournal, htail⟩ := happended
  rw [← happends] at ht ⊢
  rw [← hcatalog]
  refine keeps_of_eq_ok happly ?_
  refine (keeps_writeSnapshot ht h hjournal).run_bind fun _ w₂ hwritten => ?_
  subst hwritten
  have h := h.writeSnapshot hjournal
  have hready : Ready t { w₁.toLocal with disk := { w₁.disk with snapshot := some t } } :=
    ⟨h, rfl, htail⟩
  refine Safe.run_bind (keeps_journalLength ⟨t, ht, h⟩) fun length w₃ hw₃ => ?_
  subst hw₃
  by_cases hlong : length ≥ journalCompactionThreshold
  · simp only [if_pos hlong]
    have hpos : 0 < t.journalSequence := by
      rw [journalSequence_of_applyEntry happly]
      exact Nat.succ_pos _
    refine Safe.run_bind (keeps_writeCheckpoint (w := { w₁ with
      disk := { w₁.disk with snapshot := some t } }) ht hready hpos) fun _ w₄ hw₄ => ?_
    obtain ⟨hsame, hcatalog', hready⟩ := hw₄
    exact ⟨hsame ▸ ht, hsame, hcatalog', happly, hready⟩
  · simp only [if_neg hlong]
    exact ⟨ht, rfl, rfl, happly, hready⟩

end Programs

end CyreneKernel.Maintenance
