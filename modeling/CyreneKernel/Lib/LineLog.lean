import Mathlib.Data.List.Infix

/-!
# Logs of newline-terminated records

A log file is a list of bytes.  A record is appended as the UTF-8 text of its encoding followed
by a newline.  A reader decodes the whole file as UTF-8, splits it into lines, and decodes one
record per line; a line that does not decode is skipped when it is the last one and the file does
not end in a newline, and is an error otherwise.

## Main definitions

* `utf8`, `readToString`: the bytes of a text and back.
* `lines`: the lines of a text, with `\n` and `\r\n` as line endings.
* `scanLines`: the reading loop, for any decoder and any accumulator.
* `frame`, `frames`: the text appended for a record and for a list of records.

## Main results

* `readToString_utf8_append`: decoding after a well-formed text.
* `lines_frames_append`: the lines of complete records followed by any text.
* `scanLines_map`: reading complete records folds over them.
* `scanLines_map_torn`: an unterminated line that does not decode is skipped.
* `scanLines_map_corrupt`: a terminated line that does not decode fails the reading.
-/

namespace CyreneKernel.Lib

/-! ### UTF-8 -/

variable (text : List Char) {l : List Char}

/-- The UTF-8 bytes of a text. -/
def utf8 : List UInt8 := text.flatMap String.utf8EncodeChar

/-- The text a list of bytes encodes, if it is well-formed UTF-8. -/
def readToString (bytes : List UInt8) : Option (List Char) :=
  bytes.toByteArray.utf8Decode?.map Array.toList

@[simp] theorem utf8_append (l m : List Char) : utf8 (l ++ m) = utf8 l ++ utf8 m :=
  List.flatMap_append

/-- Decoding the bytes of a text followed by further bytes. -/
theorem readToString_utf8_append (l : List Char) (bytes : List UInt8) :
    readToString (utf8 l ++ bytes) = (readToString bytes).map (l ++ ·) := by
  induction l with
  | nil => simp [utf8]
  | cons c l ih =>
    have hcons : utf8 (c :: l) ++ bytes = String.utf8EncodeChar c ++ (utf8 l ++ bytes) := by
      simp [utf8]
    have hdecode : readToString (utf8 (c :: l) ++ bytes) =
        (readToString (utf8 l ++ bytes)).map (c :: ·) := by
      rw [hcons, readToString, List.toByteArray_append, ← List.utf8Encode_singleton,
        ByteArray.utf8Decode?_utf8Encode_singleton_append, readToString, Option.map_map,
        Option.map_map]
      congr 1
      funext text
      simp
    rw [hdecode, ih, Option.map_map]
    rfl

theorem readToString_utf8 (l : List Char) : readToString (utf8 l) = some l := by
  have h := readToString_utf8_append l []
  simpa [readToString] using h

/-- The decoded text encodes back to the bytes. -/
theorem utf8_of_readToString {bytes : List UInt8} (h : readToString bytes = some l) :
    utf8 l = bytes := by
  obtain ⟨text, htext, rfl⟩ := Option.map_eq_some_iff.1 h
  have hget : text.toList.utf8Encode = bytes.toByteArray := by
    have hsome : bytes.toByteArray.utf8Decode?.isSome := by simp [htext]
    have henc := ByteArray.utf8Encode_get_utf8Decode? (b := bytes.toByteArray) (h := hsome)
    simpa only [htext, Option.get_some] using henc
  have hdata := congrArg (fun b : ByteArray => b.data.toList) hget
  simpa [List.utf8Encode, utf8] using hdata

/-- Bytes that begin the encoding of a text and are well-formed encode a beginning of the text. -/
theorem prefix_of_utf8_append {p : List Char} {rest : List UInt8} (h : utf8 l = utf8 p ++ rest) :
    p <+: l := by
  have hread := readToString_utf8 l
  rw [h, readToString_utf8_append, Option.map_eq_some_iff] at hread
  obtain ⟨q, -, hq⟩ := hread
  exact ⟨q, hq⟩

/-! ### Lines -/

/-- A line without the carriage return of a `\r\n` ending. -/
def stripCr (line : List Char) : List Char :=
  if line.getLast? = some '\r' then line.dropLast else line

/-- The loop of `lines`; `current` is the line read so far, in reverse. -/
def splitLines : List Char → List Char → List (List Char)
  | [], current => if current = [] then [] else [current.reverse]
  | c :: rest, current =>
    if c = '\n' then stripCr current.reverse :: splitLines rest []
    else splitLines rest (c :: current)

/-- The lines of a text; the ending of the last line is optional. -/
def lines : List (List Char) := splitLines text []

/-- Whether a text ends in a newline. -/
def endsWithNewline : Bool := text.getLast? == some '\n'

theorem splitLines_append (h : '\n' ∉ l) (rest current : List Char) :
    splitLines (l ++ rest) current = splitLines rest (l.reverse ++ current) := by
  induction l generalizing current with
  | nil => rfl
  | cons c l ih =>
    have hc : c ≠ '\n' := fun hc => h (hc ▸ List.mem_cons_self)
    have hl : '\n' ∉ l := fun hl => h (List.mem_cons_of_mem c hl)
    rw [List.cons_append, splitLines, if_neg hc, ih hl]
    simp

theorem lines_append_newline (h : '\n' ∉ l) (rest : List Char) :
    lines (l ++ '\n' :: rest) = stripCr l :: lines rest := by
  rw [lines, splitLines_append h, splitLines, if_pos rfl]
  simp [lines]

theorem lines_of_notMem (h : '\n' ∉ l) (hne : l ≠ []) : lines l = [l] := by
  have hsplit := splitLines_append h [] []
  rw [List.append_nil, List.append_nil] at hsplit
  rw [lines, hsplit, splitLines, if_neg (by simpa using hne), List.reverse_reverse]

theorem stripCr_of_notMem (h : '\r' ∉ l) : stripCr l = l := by
  refine if_neg fun hlast => h ?_
  exact List.mem_of_getLast? hlast

/-! ### Reading and appending records -/

/-- Decode one record per line and feed it to `step`.  A last line that does not decode is skipped
when the text does not end in a newline. -/
def scanLines {δ ε ρ α : Type} (decode : List Char → Except δ ρ) (corrupt : δ → ε)
    (step : α → ρ → Except ε α) (terminated : Bool) : α → List (List Char) → Except ε α
  | acc, [] => .ok acc
  | acc, line :: rest =>
    match decode line with
    | .ok record =>
      match step acc record with
      | .ok acc' => scanLines decode corrupt step terminated acc' rest
      | .error e => .error e
    | .error e =>
      if rest.isEmpty && !terminated then scanLines decode corrupt step terminated acc rest
      else .error (corrupt e)

section Frames

variable {δ ε ρ α : Type} (encode : ρ → List Char)

/-- The text appended for a record. -/
def frame (record : ρ) : List Char := encode record ++ ['\n']

/-- The text of a log of records. -/
def frames (records : List ρ) : List Char := records.flatMap (frame encode)

@[simp] theorem frames_append (records more : List ρ) :
    frames encode (records ++ more) = frames encode records ++ frames encode more :=
  List.flatMap_append

variable {encode}

/-- The lines of complete records followed by any text. -/
theorem lines_frames_append (hn : ∀ r, '\n' ∉ encode r) (hr : ∀ r, '\r' ∉ encode r)
    (records : List ρ) (rest : List Char) :
    lines (frames encode records ++ rest) = records.map encode ++ lines rest := by
  induction records with
  | nil => rfl
  | cons r records ih =>
    have hcons : frames encode (r :: records) ++ rest =
        encode r ++ '\n' :: (frames encode records ++ rest) := by
      simp [frames, frame]
    rw [hcons, lines_append_newline (hn r), stripCr_of_notMem (hr r), ih, List.map_cons,
      List.cons_append]

variable {decode : List Char → Except δ ρ} {corrupt : δ → ε} {step : α → ρ → Except ε α}
  {terminated : Bool}

variable (hdecode : ∀ r, decode (encode r) = .ok r)

include hdecode

/-- Reading complete records folds over them. -/
theorem scanLines_map_append (acc : α) (records : List ρ) (tail : List (List Char)) :
    scanLines decode corrupt step terminated acc (records.map encode ++ tail) =
      records.foldlM step acc >>= fun acc' => scanLines decode corrupt step terminated
        acc' tail := by
  induction records generalizing acc with
  | nil => rfl
  | cons r records ih =>
    rw [List.map_cons, List.cons_append, scanLines, hdecode]
    simp only [List.foldlM_cons]
    cases hstep : step acc r with
    | ok acc' => exact ih acc'
    | error e => rfl

theorem scanLines_map (acc : α) (records : List ρ) :
    scanLines decode corrupt step terminated acc (records.map encode) =
      records.foldlM step acc := by
  have h : scanLines decode corrupt step terminated acc (records.map encode ++ []) =
      records.foldlM step acc >>= fun acc' => scanLines decode corrupt step terminated acc' [] :=
    scanLines_map_append hdecode acc records []
  rw [List.append_nil] at h
  rw [h]
  exact bind_pure _

/-- A last line that does not decode is skipped when it is not terminated. -/
theorem scanLines_map_torn {line : List Char} (hline : ∀ r, decode line ≠ .ok r) (acc : α)
    (records : List ρ) :
    scanLines decode corrupt step false acc (records.map encode ++ [line]) =
      records.foldlM step acc := by
  have hskip : ∀ acc', scanLines decode corrupt step false acc' [line] = .ok acc' := by
    intro acc'
    cases hdec : decode line with
    | ok r => exact absurd hdec (hline r)
    | error e => simp [scanLines, hdec]
  rw [scanLines_map_append hdecode]
  simp only [hskip]
  exact bind_pure _

/-- A terminated line that does not decode fails the reading, whatever precedes it. -/
theorem scanLines_map_corrupt {line : List Char} (hline : ∀ r, decode line ≠ .ok r) (acc acc' : α)
    (records : List ρ) :
    scanLines decode corrupt step true acc (records.map encode ++ [line]) ≠ .ok acc' := by
  rw [scanLines_map_append hdecode]
  cases records.foldlM step acc with
  | error e => exact fun h => nomatch h
  | ok acc'' =>
    change scanLines decode corrupt step true acc'' [line] ≠ .ok acc'
    cases hdec : decode line with
    | ok r => exact absurd hdec (hline r)
    | error e => simp [scanLines, hdec]

end Frames

end CyreneKernel.Lib
