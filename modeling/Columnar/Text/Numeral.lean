import Columnar.Text.Lines

/-!
# Decimal numerals

A numeral is written in base ten without leading zeros, with `-` before a negative one. Reading is
laxer than writing: leading zeros and one leading `+` are allowed. What does not fit into 64 bits is no
numeral of that width.

## Main statements

* `readDigits_digits`: the digits of a number read back as that number.
* `readInt_intChars`: an integer reads back from its numeral.
* `readInt64_int64Chars`, `readUInt64_uint64Chars`: so do the two 64-bit kinds, at every value.
-/

namespace Columnar.Text

/-! ## Writing -/

/-- The decimal digits of a natural number. -/
def digits (n : Nat) : List Char :=
  Nat.toDigits 10 n

/-- The numeral of an integer. -/
def intChars : Int → List Char
  | .ofNat n => digits n
  | .negSucc n => '-' :: digits (n + 1)

/-- The numeral of a signed 64-bit integer. -/
def int64Chars (v : Int64) : List Char :=
  intChars v.toInt

/-- The numeral of an unsigned 64-bit integer. -/
def uint64Chars (v : UInt64) : List Char :=
  digits v.toNat

/-! ## Reading -/

/-- The number that a non-empty run of digits denotes. -/
def readDigits (cs : List Char) : Option Nat :=
  if cs.isEmpty || !cs.all Char.isDigit then none else some (Nat.ofDigitChars 10 cs 0)

/-- Reads a natural number, with an optional `+` before the digits. -/
def readNat : List Char → Option Nat
  | '+' :: cs => readDigits cs
  | cs => readDigits cs

/-- Reads an integer, with an optional sign before the digits. -/
def readInt : List Char → Option Int
  | '-' :: cs => (readDigits cs).map fun n => -(n : Int)
  | cs => (readNat cs).map fun n => (n : Int)

/-- Reads a signed 64-bit integer. -/
def readInt64 (cs : List Char) : Option Int64 :=
  (readInt cs).bind fun z =>
    if Int64.minValue.toInt ≤ z ∧ z ≤ Int64.maxValue.toInt then some (Int64.ofInt z) else none

/-- Reads an unsigned 64-bit integer. -/
def readUInt64 (cs : List Char) : Option UInt64 :=
  (readNat cs).bind fun n => if n < UInt64.size then some (UInt64.ofNat n) else none

/-! ## Reading back -/

theorem isDigit_of_mem_digits {n : Nat} {c : Char} (h : c ∈ digits n) : c.isDigit = true :=
  Nat.isDigit_of_mem_toDigits (by decide) (by decide) h

theorem digits_ne_nil (n : Nat) : digits n ≠ [] :=
  Nat.toDigits_ne_nil

/-- **The digits of a number read back as that number.** -/
theorem readDigits_digits (n : Nat) : readDigits (digits n) = some n := by
  have hall : (digits n).all Char.isDigit = true := by
    simp only [List.all_eq_true]
    exact fun c hc => isDigit_of_mem_digits hc
  have hne : (digits n).isEmpty = false := by
    simp [digits_ne_nil]
  simp only [readDigits, hall, hne]
  simp [digits, Nat.ofDigitChars_ten_toDigits]

theorem head_digits_isDigit {n : Nat} {c : Char} {cs : List Char} (h : digits n = c :: cs) :
    c.isDigit = true :=
  isDigit_of_mem_digits (n := n) (by simp [h])

theorem readNat_digits (n : Nat) : readNat (digits n) = some n := by
  have back := readDigits_digits n
  cases h : digits n with
  | nil => exact absurd h (digits_ne_nil n)
  | cons c cs =>
    have hd := head_digits_isDigit h
    have hc : c ≠ '+' := fun e => by simp [e] at hd
    rw [h] at back
    rw [readNat.eq_2 _ (fun _ e => hc (List.cons.inj e).1), back]

/-- **An integer reads back from its numeral.** -/
theorem readInt_intChars (z : Int) : readInt (intChars z) = some z := by
  cases z with
  | ofNat n =>
    have back := readNat_digits n
    show readInt (digits n) = _
    cases h : digits n with
    | nil => exact absurd h (digits_ne_nil n)
    | cons c cs =>
      have hd := head_digits_isDigit h
      have hc : c ≠ '-' := fun e => by simp [e] at hd
      rw [h] at back
      rw [readInt.eq_2 _ (fun _ e => hc (List.cons.inj e).1), back]
      rfl
  | negSucc n =>
    rw [intChars, readInt, readDigits_digits]
    rfl

/-- **A signed 64-bit integer reads back from its numeral.** -/
theorem readInt64_int64Chars (v : Int64) : readInt64 (int64Chars v) = some v := by
  rw [readInt64, int64Chars, readInt_intChars, Option.bind_some, if_pos ⟨v.minValue_le_toInt, v.toInt_le⟩,
    Int64.ofInt_toInt]

/-- **An unsigned 64-bit integer reads back from its numeral.** -/
theorem readUInt64_uint64Chars (v : UInt64) : readUInt64 (uint64Chars v) = some v := by
  have hi := v.toNat_lt
  simp [readUInt64, uint64Chars, readNat_digits, hi]

/-! ## What a numeral is made of -/

theorem mem_intChars {z : Int} {c : Char} (h : c ∈ intChars z) : c = '-' ∨ c.isDigit = true := by
  cases z with
  | ofNat n => exact .inr (isDigit_of_mem_digits h)
  | negSucc n =>
    rcases List.mem_cons.1 h with h | h
    · exact .inl h
    · exact .inr (isDigit_of_mem_digits h)

end Columnar.Text
