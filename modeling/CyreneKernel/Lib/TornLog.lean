import CyreneKernel.Lib.LineLog

/-!
# Logs with interrupted appends

An append that fails may leave any beginning of the bytes it was to write, and later appends
continue behind it.  The bytes of such a log are a list of pieces, one for each append.  A reader
that accepts the log has seen every record whose append succeeded: the remains of a failed append
either come last, or glue to the next record and form a line that does not decode.

## Main definitions

* `Piece`, `written`: the appends of a log and its bytes.
* `complete`: the records whose append succeeded.
* `Spells`: the text of a list of pieces.

## Main results

* `spells_of_readToString`: well-formed bytes of a log are spelled piece by piece.
* `scanLines_written`: a reading that succeeds has folded over every complete record.
-/

namespace CyreneKernel.Lib

/-! ### Cutting UTF-8 -/

/-- The bytes are empty or start with the first byte of a character. -/
def StartsChar (bytes : List UInt8) : Prop :=
  ∀ b ∈ bytes.head?, b.IsUTF8FirstByte

theorem isUTF8FirstByte_head_utf8EncodeChar (c : Char) {b : UInt8} {rest : List UInt8}
    (h : String.utf8EncodeChar c = b :: rest) : b.IsUTF8FirstByte := by
  have hlength : 0 < (String.utf8EncodeChar c).length := by simp [h]
  have hfirst : (String.utf8EncodeChar c)[0].IsUTF8FirstByte :=
    UInt8.isUTF8FirstByte_getElem_utf8EncodeChar.2 rfl
  simpa [h] using hfirst

theorem startsChar_take_utf8 (text : List Char) (cut : Nat) {rest : List UInt8}
    (hrest : StartsChar rest) : StartsChar ((utf8 text).take cut ++ rest) := by
  cases text with
  | nil => simpa [utf8] using hrest
  | cons c text =>
    cases cut with
    | zero => simpa using hrest
    | succ cut =>
      obtain ⟨b, bytes, hbytes⟩ :=
        List.exists_cons_of_ne_nil (String.utf8EncodeChar_ne_nil (c := c))
      intro b' hb'
      rw [utf8, List.flatMap_cons, hbytes, List.cons_append, List.take_succ_cons,
        List.cons_append, List.head?_cons, Option.mem_some_iff] at hb'
      exact hb' ▸ isUTF8FirstByte_head_utf8EncodeChar c hbytes

/-- A byte inside the encoding of a character does not start one. -/
theorem not_startsChar_of_utf8EncodeChar {c : Char} {x y rest : List UInt8}
    (h : String.utf8EncodeChar c = x ++ y) (hx : x ≠ []) (hy : y ≠ []) :
    ¬ StartsChar (y ++ rest) := by
  obtain ⟨b, y, rfl⟩ := List.exists_cons_of_ne_nil hy
  intro hstarts
  have hlength : x.length < (String.utf8EncodeChar c).length := by simp [h]
  have hfirst : (String.utf8EncodeChar c)[x.length].IsUTF8FirstByte := by
    simpa [h] using hstarts b (by simp)
  rw [UInt8.isUTF8FirstByte_getElem_utf8EncodeChar, List.length_eq_zero_iff] at hfirst
  exact hx hfirst

/-- Where the bytes of a text are cut before the first byte of a character, the text is cut. -/
theorem split_of_utf8_eq_append {text : List Char} {x y : List UInt8} (h : utf8 text = x ++ y)
    (hy : StartsChar y) : ∃ a b, text = a ++ b ∧ utf8 a = x ∧ utf8 b = y := by
  induction text generalizing x with
  | nil =>
    obtain ⟨rfl, rfl⟩ := List.append_eq_nil_iff.1 h.symm
    exact ⟨[], [], rfl, rfl, rfl⟩
  | cons c text ih =>
    have hcons : String.utf8EncodeChar c ++ utf8 text = x ++ y := by
      rw [← h, utf8, utf8, List.flatMap_cons]
    rcases List.append_eq_append_iff.1 hcons with ⟨x', rfl, htext⟩ | ⟨y', hchar, rfl⟩
    · obtain ⟨a, b, rfl, ha, hb⟩ := ih htext
      exact ⟨c :: a, b, rfl, by rw [← ha]; simp [utf8], hb⟩
    · by_cases hx : x = []
      · exact ⟨[], c :: text, rfl, by rw [hx]; rfl, by rw [h, hx, List.nil_append]⟩
      · by_cases hy' : y' = []
        · refine ⟨[c], text, rfl, ?_, by rw [hy', List.nil_append]⟩
          rw [hy', List.append_nil] at hchar
          simpa [utf8] using hchar
        · exact absurd hy (not_startsChar_of_utf8EncodeChar hchar hx hy')

/-! ### Pieces -/

/-- An append: it succeeded, or it left the first `cut` bytes. -/
inductive Piece (ρ : Type)
  | full (record : ρ)
  | torn (record : ρ) (cut : Nat)

section Pieces

variable {ρ : Type} (encode : ρ → List Char)

def Piece.bytes : Piece ρ → List UInt8
  | .full record => utf8 (frame encode record)
  | .torn record cut => (utf8 (frame encode record)).take cut

/-- The record of an append that succeeded. -/
def Piece.record? : Piece ρ → Option ρ
  | .full record => some record
  | .torn _ _ => none

/-- The bytes of a log. -/
def written (pieces : List (Piece ρ)) : List UInt8 := pieces.flatMap (·.bytes encode)

/-- The records whose append succeeded. -/
def complete (pieces : List (Piece ρ)) : List ρ := pieces.filterMap (·.record?)

/-- The text of a list of pieces. -/
inductive Spells : List (Piece ρ) → List Char → Prop
  | nil : Spells [] []
  | full {pieces : List (Piece ρ)} {text : List Char} (record : ρ) (h : Spells pieces text) :
      Spells (.full record :: pieces) (frame encode record ++ text)
  | torn {pieces : List (Piece ρ)} {text p : List Char} {record : ρ} (cut : Nat)
      (hp : p <+: frame encode record) (h : Spells pieces text) :
      Spells (.torn record cut :: pieces) (p ++ text)

theorem startsChar_written (pieces : List (Piece ρ)) : StartsChar (written encode pieces) := by
  induction pieces with
  | nil => exact fun b hb => nomatch hb
  | cons piece pieces ih =>
    cases piece with
    | full record =>
      have h := startsChar_take_utf8 (frame encode record) (utf8 (frame encode record)).length ih
      rwa [List.take_length] at h
    | torn record cut => exact startsChar_take_utf8 (frame encode record) cut ih

variable {encode}

/-- Well-formed bytes of a log are spelled piece by piece. -/
theorem spells_of_readToString {pieces : List (Piece ρ)} {text : List Char}
    (h : readToString (written encode pieces) = some text) : Spells encode pieces text := by
  induction pieces generalizing text with
  | nil =>
    obtain rfl : [] = text := Option.some.inj ((readToString_utf8 []).symm.trans h)
    exact .nil
  | cons piece pieces ih =>
    rw [written, List.flatMap_cons] at h
    cases piece with
    | full record =>
      rw [Piece.bytes, readToString_utf8_append, Option.map_eq_some_iff] at h
      obtain ⟨rest, hrest, rfl⟩ := h
      exact .full record (ih hrest)
    | torn record cut =>
      obtain ⟨p, rest, rfl, hp, hrest⟩ :=
        split_of_utf8_eq_append (utf8_of_readToString h) (startsChar_written encode pieces)
      have hcut : utf8 (frame encode record) = utf8 p ++ (utf8 (frame encode record)).drop cut := by
        rw [hp, Piece.bytes, List.take_append_drop]
      refine .torn cut (prefix_of_utf8_append hcut) (ih ?_)
      rw [written, ← hrest, readToString_utf8]

end Pieces

/-! ### Reading -/

theorem lines_eq_nil {text : List Char} (h : lines text = []) : text = [] := by
  have hsplit : ∀ text current, splitLines text current = [] → text = [] ∧ current = [] := by
    intro text
    induction text with
    | nil =>
      intro current h
      unfold splitLines at h
      split at h
      · exact ⟨rfl, by assumption⟩
      · cases h
    | cons c text ih =>
      intro current h
      unfold splitLines at h
      split at h
      · cases h
      · cases (ih _ h).2
  exact (hsplit text [] h).1

section Reading

variable {δ ε ρ α : Type} {encode : ρ → List Char} {decode : List Char → Except δ ρ}
  {corrupt : δ → ε} {step : α → ρ → Except ε α} {terminated : Bool} {acc acc' : α}

/-- Texts that begin records without completing them with a newline. -/
def Beginnings (encode : ρ → List Char) (ps : List (List Char)) : Prop :=
  ∀ p ∈ ps, p ≠ [] ∧ ∃ record, p <+: encode record

theorem Beginnings.notMem {ps : List (List Char)} (h : Beginnings encode ps) {c : Char}
    (hc : ∀ record, c ∉ encode record) : c ∉ ps.flatten := by
  intro hmem
  obtain ⟨p, hp, hmem⟩ := List.mem_flatten.1 hmem
  obtain ⟨-, record, hbegins⟩ := h p hp
  exact hc record (hbegins.subset hmem)

/-- A reading that gets past a terminated line has decoded it. -/
theorem of_scanLines_terminated {line text : List Char}
    (hends : text = [] → terminated = true)
    (h : scanLines decode corrupt step terminated acc (line :: lines text) = .ok acc') :
    ∃ record acc₁, decode line = .ok record ∧ step acc record = .ok acc₁ ∧
      scanLines decode corrupt step terminated acc₁ (lines text) = .ok acc' := by
  rw [scanLines] at h
  cases hdecode : decode line with
  | error e =>
    simp only [hdecode] at h
    split at h
    · next hskip =>
      rw [Bool.and_eq_true, List.isEmpty_iff, Bool.not_eq_true'] at hskip
      rw [hends (lines_eq_nil hskip.1)] at hskip
      cases hskip.2
    · cases h
  | ok record =>
    simp only [hdecode] at h
    cases hstep : step acc record with
    | error e => simp [hstep] at h
    | ok acc₁ =>
      simp only [hstep] at h
      exact ⟨record, acc₁, rfl, hstep, h⟩

/-- A last line is decoded or skipped. -/
theorem of_scanLines_last {line : List Char} (hn : '\n' ∉ line)
    (h : scanLines decode corrupt step terminated acc (lines line) = .ok acc') :
    ∃ records : List ρ, records.foldlM step acc = .ok acc' := by
  by_cases hne : line = []
  · subst hne
    exact ⟨[], h⟩
  · rw [lines_of_notMem hn hne, scanLines] at h
    cases hdecode : decode line with
    | error e =>
      simp only [hdecode] at h
      split at h
      · exact ⟨[], h⟩
      · cases h
    | ok record =>
      refine ⟨[record], ?_⟩
      simp only [hdecode] at h
      rw [List.foldlM_cons]
      cases hstep : step acc record with
      | error e => simp [hstep] at h
      | ok acc₁ =>
        simp only [hstep] at h
        exact h

variable (hn : ∀ record, '\n' ∉ encode record) (hr : ∀ record, '\r' ∉ encode record)
  (hdecode : ∀ record, decode (encode record) = .ok record)
  (hglued : ∀ ps record, ps ≠ [] → Beginnings encode ps →
    ∀ x, decode (ps.flatten ++ encode record) ≠ .ok x)

include hn hr hdecode hglued

/-- A complete record behind unfinished ones: the reading succeeds only if there are none, and then
it has seen the record. -/
theorem of_scanLines_frame {ps : List (List Char)} (hps : Beginnings encode ps) {record : ρ}
    {text : List Char} (hends : text = [] → terminated = true)
    (h : scanLines decode corrupt step terminated acc
      (lines (ps.flatten ++ (frame encode record ++ text))) = .ok acc') :
    ∃ acc₁, step acc record = .ok acc₁ ∧
      scanLines decode corrupt step terminated acc₁ (lines text) = .ok acc' := by
  have hline : lines (ps.flatten ++ (frame encode record ++ text)) =
      (ps.flatten ++ encode record) :: lines text := by
    have hnewline : '\n' ∉ ps.flatten ++ encode record := by
      rw [List.mem_append, not_or]
      exact ⟨hps.notMem hn, hn record⟩
    have hreturn : '\r' ∉ ps.flatten ++ encode record := by
      rw [List.mem_append, not_or]
      exact ⟨hps.notMem hr, hr record⟩
    rw [← stripCr_of_notMem hreturn, ← lines_append_newline hnewline]
    simp [frame]
  rw [hline] at h
  obtain ⟨x, acc₁, hx, hstep, hrest⟩ := of_scanLines_terminated hends h
  by_cases hnil : ps = []
  · rw [hnil, List.flatten_nil, List.nil_append, hdecode] at hx
    obtain rfl := Except.ok.inj hx
    exact ⟨acc₁, hstep, hrest⟩
  · exact absurd hx (hglued ps record hnil hps x)

theorem of_scanLines_spells {pieces : List (Piece ρ)} {text : List Char}
    (hspells : Spells encode pieces text) (ps : List (List Char)) (hps : Beginnings encode ps)
    (hends : ps.flatten ++ text ≠ [] → terminated = endsWithNewline (ps.flatten ++ text))
    (h : scanLines decode corrupt step terminated acc (lines (ps.flatten ++ text)) = .ok acc') :
    ∃ records, (complete pieces).Sublist records ∧ records.foldlM step acc = .ok acc' := by
  -- `ps` are the remains of failed appends since the last newline
  have hframe : ∀ {record : ρ} {text : List Char} {ps : List (List Char)},
      (ps.flatten ++ (frame encode record ++ text) ≠ [] →
        terminated = endsWithNewline (ps.flatten ++ (frame encode record ++ text))) →
      (text = [] → terminated = true) ∧ (text ≠ [] → terminated = endsWithNewline text) := by
    intro record text ps hends
    have hends := hends (by simp [frame])
    refine ⟨?_, fun hne => ?_⟩
    · rintro rfl
      rw [hends]
      simp [frame, endsWithNewline]
    · rw [hends, endsWithNewline, endsWithNewline, List.getLast?_append_of_ne_nil _ (by simp [hne]),
        List.getLast?_append_of_ne_nil _ hne]
  induction hspells generalizing ps acc with
  | nil =>
    rw [List.append_nil] at h
    obtain ⟨records, hfold⟩ := of_scanLines_last (hps.notMem hn) h
    exact ⟨records, List.nil_sublist _, hfold⟩
  | full record _ ih =>
    obtain ⟨hnil, hne⟩ := hframe hends
    obtain ⟨acc₁, hstep, hrest⟩ := of_scanLines_frame hn hr hdecode hglued hps hnil h
    obtain ⟨records, hsub, hfold⟩ := ih [] (fun p hp => by cases hp) hne hrest
    refine ⟨record :: records, ?_, ?_⟩
    · exact hsub.cons_cons record
    · rw [List.foldlM_cons, hstep]
      exact hfold
  | @torn pieces text p record cut hp _ ih =>
    rcases List.prefix_concat_iff.1 hp with rfl | hp
    · obtain ⟨hnil, hne⟩ := hframe hends
      obtain ⟨acc₁, hstep, hrest⟩ := of_scanLines_frame hn hr hdecode hglued hps hnil h
      obtain ⟨records, hsub, hfold⟩ := ih [] (fun p hp => by cases hp) hne hrest
      refine ⟨record :: records, hsub.cons record, ?_⟩
      rw [List.foldlM_cons, hstep]
      exact hfold
    · by_cases hnil : p = []
      · subst hnil
        exact ih ps hps hends h
      · refine ih (ps ++ [p]) ?_ (by simpa using hends) (by simpa using h)
        intro q hq
        rcases List.mem_append.1 hq with hq | hq
        · exact hps q hq
        · rw [List.mem_singleton.1 hq]
          exact ⟨hnil, record, hp⟩

/-- A reading that succeeds has folded over every record whose append succeeded. -/
theorem scanLines_written {pieces : List (Piece ρ)} {text : List Char}
    (hread : readToString (written encode pieces) = some text)
    (h : scanLines decode corrupt step (endsWithNewline text) acc (lines text) = .ok acc') :
    ∃ records, (complete pieces).Sublist records ∧ records.foldlM step acc = .ok acc' :=
  of_scanLines_spells hn hr hdecode hglued (spells_of_readToString hread) []
    (fun _ hp => nomatch hp) (fun _ => rfl) h

end Reading

end CyreneKernel.Lib
