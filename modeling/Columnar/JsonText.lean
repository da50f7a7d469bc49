import Columnar.Text.Numeral

/-!
# Indented JSON

A value is given by its text at each depth of indentation. An array or object has each of its items on
a line of its own, two spaces deeper than its closing bracket; an empty one is two brackets. In a
string, quotes, backslashes and the characters below the space are escaped, and no others.

## Main statements

* `JsonText.escape_of_plain`: a character that is neither escaped nor a control character stands for
  itself.
-/

namespace Columnar

/-- The text of a JSON value at each depth of indentation. -/
abbrev JsonText := Nat → List Char

namespace JsonText

/-- The digit of a number below sixteen. -/
def hexDigit (n : Nat) : Char :=
  Nat.digitChar n

/-- A character of a string. -/
def escape (c : Char) : List Char :=
  if c = '"' then ['\\', '"']
  else if c = '\\' then ['\\', '\\']
  else if c.toNat = 0x08 then ['\\', 'b']
  else if c.toNat = 0x09 then ['\\', 't']
  else if c.toNat = 0x0A then ['\\', 'n']
  else if c.toNat = 0x0C then ['\\', 'f']
  else if c.toNat = 0x0D then ['\\', 'r']
  else if c.toNat < 0x20 then ['\\', 'u', '0', '0', hexDigit (c.toNat / 16), hexDigit (c.toNat % 16)]
  else [c]

/-- A string. -/
def string (s : String) : JsonText :=
  fun _ => '"' :: (s.toList.flatMap escape ++ ['"'])

/-- A natural number. -/
def number (n : Nat) : JsonText :=
  fun _ => Text.digits n

/-- A truth value. -/
def bool (b : Bool) : JsonText :=
  fun _ => (if b then "true" else "false").toList

/-- The start of a line at a depth. -/
def newline (depth : Nat) : List Char :=
  '\n' :: List.replicate (2 * depth) ' '

/-- Items between brackets. -/
def bracketed (opening closing : Char) (items : List JsonText) : JsonText :=
  fun depth =>
    if items.isEmpty then [opening, closing]
    else
      opening :: (List.intercalate [','] (items.map fun item => newline (depth + 1) ++ item (depth + 1)) ++
        newline depth ++ [closing])

/-- An array. -/
def array (items : List JsonText) : JsonText :=
  bracketed '[' ']' items

/-- An object of fields in the given order. -/
def object (fields : List (String × JsonText)) : JsonText :=
  bracketed '\x7b' '\x7d' (fields.map fun (name, value) => fun depth =>
    string name depth ++ ':' :: ' ' :: value depth)

/-- The text of a value that stands alone. -/
def text (value : JsonText) : String :=
  String.ofList (value 0)

/-- A character from the space upwards that is no quote and no backslash stands for itself. -/
theorem escape_of_plain {c : Char} (hq : c ≠ '"') (hb : c ≠ '\\') (hc : 0x20 ≤ c.toNat) : escape c = [c] := by
  simp only [escape, if_neg hq, if_neg hb]
  repeat rw [if_neg (by omega)]

end JsonText

end Columnar
