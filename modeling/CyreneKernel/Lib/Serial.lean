import CyreneKernel.Lib.Text

/-!
# Values as arrays of numbers

A format writes a value as a list of numbers and reads it back off the front of a list, whatever
follows; it carries the proof.  The numbers are printed as one JSON array, so that the text of a
value is a single line in which an array begins only at the front.

## Main definitions

* `Serial`: a writer with its reader, and `Serial.nat`, `Serial.iso`, `Serial.pair`,
  `Serial.option`, `Serial.list`, `Serial.string`.
* `Serial.print`, `Serial.decode`: the text of a value, and reading a whole text.

## Main results

* `Serial.decode_print`: a printed text is read back.
* `Serial.ne_append_print`: no printed text ends with another one.
-/

namespace CyreneKernel.Lib

/-- A writer of values as lists of numbers, with a reader that takes what was written off the front
of a list. -/
structure Serial (α : Type) where
  write : α → List Nat
  read : List Nat → Option (α × List Nat)
  read_write : ∀ a rest, read (write a ++ rest) = some (a, rest)

namespace Serial

variable {α β : Type}

/-- A number. -/
def nat : Serial Nat where
  write n := [n]
  read
    | [] => none
    | n :: rest => some (n, rest)
  read_write _ _ := rfl

variable (f : Serial α)

/-- A format for a type whose values are determined by their images. -/
def iso (toRepr : β → α) (ofRepr : α → β) (h : ∀ b, ofRepr (toRepr b) = b) : Serial β where
  write b := f.write (toRepr b)
  read numbers := (f.read numbers).map fun r => (ofRepr r.1, r.2)
  read_write b rest := by simp [f.read_write, h]

/-- One value after the other. -/
def pair (g : Serial β) : Serial (α × β) where
  write a := f.write a.1 ++ g.write a.2
  read numbers := do
    let (a, numbers) ← f.read numbers
    let (b, numbers) ← g.read numbers
    return ((a, b), numbers)
  read_write a rest := by simp [List.append_assoc, f.read_write, g.read_write]

/-- An absent or present value, told apart by the first number. -/
def option : Serial (Option α) where
  write
    | none => [0]
    | some a => 1 :: f.write a
  read
    | 0 :: rest => some (none, rest)
    | 1 :: rest => (f.read rest).map fun r => (some r.1, r.2)
    | _ => none
  read_write a rest := by
    cases a with
    | none => rfl
    | some a => simp [f.read_write]

/-- Read a given number of values. -/
def readMany (f : Serial α) : Nat → List Nat → Option (List α × List Nat)
  | 0, numbers => some ([], numbers)
  | n + 1, numbers => do
    let (a, numbers) ← f.read numbers
    let (as, numbers) ← readMany f n numbers
    return (a :: as, numbers)

theorem readMany_flatMap (as : List α) (rest : List Nat) :
    f.readMany as.length (as.flatMap f.write ++ rest) = some (as, rest) := by
  induction as with
  | nil => rfl
  | cons a as ih => simp [readMany, List.append_assoc, f.read_write, ih]

/-- A list behind its length. -/
def list : Serial (List α) where
  write as := as.length :: as.flatMap f.write
  read
    | [] => none
    | n :: rest => f.readMany n rest
  read_write as rest := f.readMany_flatMap as rest

/-- A string as the list of its characters. -/
def string : Serial String :=
  (nat.iso Char.toNat Char.ofNat Char.ofNat_toNat).list.iso String.toList String.ofList
    fun _ => String.ofList_toList

/-! ### Texts -/

/-- Numbers that are separated by commas, and the bracket that closes the array. -/
def printNumbers (n : Nat) : List Nat → List Char
  | [] => Nat.toDigits 10 n ++ [']']
  | m :: ms => Nat.toDigits 10 n ++ ',' :: printNumbers m ms

/-- Read numbers that are separated by commas; `n` is what was read of the first one. -/
def readNumbers (n : Nat) : List Char → List Nat
  | [] => [n]
  | c :: rest =>
    if c = ',' then n :: readNumbers 0 rest
    else if c = ']' then [n]
    else readNumbers (10 * n + (c.toNat - '0'.toNat)) rest

theorem readNumbers_digits {digits : List Char} (h : ∀ c ∈ digits, c.isDigit = true) (n : Nat)
    (rest : List Char) :
    readNumbers n (digits ++ rest) = readNumbers (Nat.ofDigitChars 10 digits n) rest := by
  induction digits generalizing n with
  | nil => rfl
  | cons c digits ih =>
    obtain ⟨hc, hdigits⟩ := List.forall_mem_cons.1 h
    have hcomma : c ≠ ',' := by
      rintro rfl
      exact absurd hc (by decide)
    have hbracket : c ≠ ']' := by
      rintro rfl
      exact absurd hc (by decide)
    rw [List.cons_append, readNumbers, if_neg hcomma, if_neg hbracket, ih hdigits]
    rfl

theorem readNumbers_printNumbers (n : Nat) (ns : List Nat) :
    readNumbers 0 (printNumbers n ns) = n :: ns := by
  induction ns generalizing n with
  | nil =>
    rw [printNumbers, readNumbers_digits fun c => isDigit_of_mem_toDigits,
      Nat.ofDigitChars_ten_toDigits]
    rfl
  | cons m ms ih =>
    rw [printNumbers, readNumbers_digits fun c => isDigit_of_mem_toDigits,
      Nat.ofDigitChars_ten_toDigits, readNumbers, if_pos rfl, ih]

theorem mem_printNumbers {n : Nat} {ns : List Nat} {c : Char} (h : c ∈ printNumbers n ns) :
    c.isDigit = true ∨ c = ',' ∨ c = ']' := by
  induction ns generalizing n with
  | nil =>
    rcases List.mem_append.1 h with h | h
    · exact .inl (isDigit_of_mem_toDigits h)
    · exact .inr (.inr (List.mem_singleton.1 h))
  | cons m ms ih =>
    rcases List.mem_append.1 h with h | h
    · exact .inl (isDigit_of_mem_toDigits h)
    · rcases List.mem_cons.1 h with rfl | h
      · exact .inr (.inl rfl)
      · exact ih h

/-- The text of a value: an array that begins with a zero. -/
def print (a : α) : List Char := '[' :: printNumbers 0 (f.write a)

/-- Read a whole text; only what the printer writes is accepted. -/
def decode (text : List Char) : Option α :=
  match f.read (readNumbers 0 text.tail).tail with
  | some (a, []) => if f.print a = text then some a else none
  | _ => none

theorem decode_print (a : α) : f.decode (f.print a) = some a := by
  have h := f.read_write a []
  rw [List.append_nil] at h
  simp [decode, print, readNumbers_printNumbers, h]

theorem print_of_decode {text : List Char} {a : α} (h : f.decode text = some a) :
    f.print a = text := by
  unfold decode at h
  split at h
  · split_ifs at h with htext
    obtain rfl := Option.some.inj h
    exact htext
  · exact nomatch h

/-- A character of a text is a digit or one of the three of an array. -/
theorem notMem_print {c : Char} (hdigit : c.isDigit = false) (hc : c ∉ ['[', ',', ']']) (a : α) :
    c ∉ f.print a := by
  intro hmem
  simp only [List.mem_cons, List.not_mem_nil, or_false, not_or] at hc
  rcases List.mem_cons.1 hmem with rfl | hmem
  · exact hc.1 rfl
  · rcases mem_printNumbers hmem with h | rfl | rfl
    · exact Bool.false_ne_true (hdigit.symm.trans h)
    · exact hc.2.1 rfl
    · exact hc.2.2 rfl

/-- An array begins only at the front of a text. -/
theorem ne_append_print (a b : α) {p : List Char} (hp : p ≠ []) : f.print a ≠ p ++ f.print b := by
  intro heq
  obtain ⟨c, p, rfl⟩ := List.exists_cons_of_ne_nil hp
  have htail : printNumbers 0 (f.write a) = p ++ f.print b := (List.cons.inj heq).2
  have hmem : '[' ∈ printNumbers 0 (f.write a) := by
    rw [htail]
    exact List.mem_append_right _ List.mem_cons_self
  exact absurd (mem_printNumbers hmem) (by decide)

end Serial

end CyreneKernel.Lib
