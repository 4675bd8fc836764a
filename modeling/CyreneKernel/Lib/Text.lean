import Mathlib.Data.Nat.Digits.Lemmas

/-!
# Parts of texts

Reading the parts of a text: what stands before and after a separator, decimal numbers, and
segments. A segment is a text behind its length in bytes.  However it continues, a segment
determines its text and where it ends, so that texts of several segments can be told apart without a
reserved character.

## Main definitions

* `splitOnce`, `parseNat`: the two sides of a separator, and a number below a bound.
* `segment`: a text behind its length.

## Main results

* `toDigits_append_inj`: a number and the text after it can be told apart.
* `segment_append_inj`: a segment and the text after it can be told apart.
-/

namespace CyreneKernel.Lib

/-- The text before and after the first occurrence of a separator. -/
def splitOnce (separator : List Char) : List Char → Option (List Char × List Char)
  | [] => if separator = [] then some ([], []) else none
  | c :: rest =>
    if separator.isPrefixOf (c :: rest) then some ([], (c :: rest).drop separator.length)
    else (splitOnce separator rest).map fun (before, after) => (c :: before, after)

/-- A decimal number below a bound, as `parse` reads it. -/
def parseNat (bound : Nat) (text : List Char) : Option Nat :=
  let digits := if text.head? = some '+' then text.tail else text
  let value := digits.foldl (fun n c => 10 * n + (c.toNat - '0'.toNat)) 0
  if digits ≠ [] ∧ digits.all Char.isDigit ∧ value < bound then some value else none

variable {rest rest' : List Char}

/-- A text after which a number has ended. -/
def Delimited (rest : List Char) : Prop := ∀ c ∈ rest.head?, c.isDigit = false

theorem delimited_nil : Delimited [] := by simp [Delimited]

theorem delimited_cons {c : Char} (hc : c.isDigit = false) (rest : List Char) :
    Delimited (c :: rest) := by
  simpa [Delimited] using hc

theorem isDigit_of_mem_toDigits {n : Nat} {c : Char} (h : c ∈ Nat.toDigits 10 n) :
    c.isDigit = true :=
  Nat.isDigit_of_mem_toDigits (by decide) (by decide) h

/-- The decimal digits of a number, and what follows them. -/
theorem span_toDigits (n : Nat) (hrest : Delimited rest) :
    (Nat.toDigits 10 n ++ rest).takeWhile Char.isDigit = Nat.toDigits 10 n ∧
      (Nat.toDigits 10 n ++ rest).dropWhile Char.isDigit = rest := by
  have hdigits : ∀ c ∈ Nat.toDigits 10 n, c.isDigit = true := fun _ => isDigit_of_mem_toDigits
  have hspan : rest.takeWhile Char.isDigit = [] ∧ rest.dropWhile Char.isDigit = rest := by
    cases rest with
    | nil => exact ⟨rfl, rfl⟩
    | cons c rest => simp [hrest c (by simp)]
  rw [List.takeWhile_append_of_pos hdigits, List.dropWhile_append_of_pos hdigits, hspan.1, hspan.2,
    List.append_nil]
  exact ⟨rfl, rfl⟩

/-- The decimal digits of a number end where the text goes on with something else. -/
theorem toDigits_append_inj {m n : Nat} (hrest : Delimited rest) (hrest' : Delimited rest')
    (h : Nat.toDigits 10 m ++ rest = Nat.toDigits 10 n ++ rest') : m = n ∧ rest = rest' := by
  obtain ⟨hm, hafter⟩ := span_toDigits m hrest
  obtain ⟨hn, hafter'⟩ := span_toDigits n hrest'
  rw [h] at hm hafter
  have hdigits := congrArg (Nat.ofDigitChars 10 · 0) (hm.symm.trans hn)
  simp only [Nat.ofDigitChars_ten_toDigits] at hdigits
  exact ⟨hdigits, hafter.symm.trans hafter'⟩

section

variable {s t : String} (hsize : s.utf8ByteSize = t.utf8ByteSize)

include hsize

/-- A text is not continued by one of the same size in bytes. -/
theorem eq_nil_of_utf8ByteSize (h : t.toList = s.toList ++ rest) : rest = [] := by
  have htext : t = s ++ String.ofList rest := by
    rw [← String.toList_inj, String.toList_append, h, String.toList_ofList]
  rw [htext, String.utf8ByteSize_append] at hsize
  have hempty : String.ofList rest = "" := String.utf8ByteSize_eq_zero_iff.1 (by omega)
  rw [← String.toList_ofList (l := rest), hempty]
  rfl

/-- Texts of one size in bytes end at the same place. -/
theorem append_inj_of_utf8ByteSize (h : s.toList ++ rest = t.toList ++ rest') :
    s = t ∧ rest = rest' := by
  rcases List.append_eq_append_iff.1 h with ⟨more, htext, hrest⟩ | ⟨more, htext, hrest⟩
  · obtain rfl := eq_nil_of_utf8ByteSize hsize htext
    exact ⟨String.toList_inj.1 (by rw [htext, List.append_nil]), hrest⟩
  · obtain rfl := eq_nil_of_utf8ByteSize hsize.symm htext
    exact ⟨String.toList_inj.1 (by rw [htext, List.append_nil]), hrest.symm⟩

end

/-- A text behind its length in bytes. -/
def segment (s : String) : List Char :=
  Nat.toDigits 10 s.utf8ByteSize ++ '-' :: s.toList

/-- A segment determines its text, however it continues. -/
theorem segment_append_inj {s t : String} (h : segment s ++ rest = segment t ++ rest') :
    s = t ∧ rest = rest' := by
  unfold segment at h
  rw [List.append_assoc, List.append_assoc] at h
  obtain ⟨hsize, htext⟩ := toDigits_append_inj (delimited_cons (by decide) _)
    (delimited_cons (by decide) _) h
  exact append_inj_of_utf8ByteSize hsize (List.cons.inj htext).2

end CyreneKernel.Lib
