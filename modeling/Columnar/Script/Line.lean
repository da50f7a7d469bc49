import Columnar.Text.Lines

/-!
# The shape of a script line

A line is blank, a comment after `--`, the word `shutdown`, or a call

```text
[handle[,handle] =] name(argument, …)
```

A handle is a letter or underscore followed by letters, digits and underscores; a name is made of
lower-case letters; all three classes are ASCII. Spaces may stand around `=` and around the comma
between the handles. The arguments are everything between the first parenthesis after the name and the
last character, which closes it; they are split at commas and trimmed, so they hold no comma but may
hold parentheses.

## Termination

Every reader takes a run of characters off the front by `takeWhile` and `dropWhile`; none recurses.

## Main statements

* `Line.recognise_of_trim_eq`: blanks around a line are ignored.
-/

namespace Columnar

/-- A call as it is written: result handles, name and arguments. -/
structure Call where
  outs : List (List Char)
  name : List Char
  args : List (List Char)
  deriving DecidableEq, Repr

/-- The shape of a line. -/
inductive Line where
  | blank
  | comment (text : List Char)
  | shutdown
  | call (c : Call)
  deriving DecidableEq, Repr

open Text (isSpace splitOn trim trimStart)

namespace Call

/-- Whether a handle may start with a character. -/
def isHandleStart (c : Char) : Bool :=
  c.isAlpha || c == '_'

/-- Whether a handle may go on with a character. -/
def isHandleChar (c : Char) : Bool :=
  c.isAlphanum || c == '_'

/-! ## Writing -/

/-- The text of a call. -/
def chars (c : Call) : List Char :=
  (if c.outs.isEmpty then [] else List.intercalate [','] c.outs ++ ['=']) ++
    c.name ++ '(' :: (List.intercalate [','] c.args ++ [')'])

/-! ## Reading -/

/-- The handle at the front of a text, and the text after it. -/
def takeHandle : List Char → Option (List Char × List Char)
  | [] => none
  | c :: cs =>
    if isHandleStart c then some (c :: cs.takeWhile isHandleChar, cs.dropWhile isHandleChar) else none

/-- The text after a separator and the spaces around it. -/
def skipSeparator (separator : Char) (cs : List Char) : Option (List Char) :=
  match cs.dropWhile isSpace with
  | c :: rest => if c = separator then some (rest.dropWhile isSpace) else none
  | [] => none

/-- One or two result handles with the equals sign after them, and the text that follows. -/
def takeOuts (cs : List Char) : Option (List (List Char) × List Char) := do
  let (first, rest) ← takeHandle cs
  match skipSeparator ',' rest with
  | none => return ([first], ← skipSeparator '=' rest)
  | some rest =>
    let (second, rest) ← takeHandle rest
    return ([first, second], ← skipSeparator '=' rest)

/-- A name and its arguments in parentheses, up to the end of the text. -/
def takeApplication (cs : List Char) : Option (List Char × List (List Char)) :=
  let name := cs.takeWhile Char.isLower
  match name.isEmpty, cs.dropWhile Char.isLower with
  | false, '(' :: body =>
    if body.getLast? = some ')' then some (name, (splitOn ',' body.dropLast).map trim) else none
  | _, _ => none

/-- Reads a call. Text that has result handles in front of it is no application by itself. -/
def recognise (cs : List Char) : Option Call :=
  match takeOuts cs with
  | some (outs, rest) => (takeApplication rest).map fun (name, args) => ⟨outs, name, args⟩
  | none => (takeApplication cs).map fun (name, args) => ⟨[], name, args⟩

end Call

namespace Line

/-- The text of a line. -/
def chars : Line → List Char
  | blank => []
  | comment [] => ['-', '-']
  | comment text => '-' :: '-' :: ' ' :: text
  | shutdown => "shutdown".toList
  | call c => c.chars

/-- Reads a line that has no blanks around it. -/
def ofTrimmed : List Char → Option Line
  | [] => some blank
  | '-' :: '-' :: text => some (comment (trimStart text))
  | cs => if cs = "shutdown".toList then some shutdown else (Call.recognise cs).map call

/-- Reads a line. -/
def recognise (cs : List Char) : Option Line :=
  ofTrimmed (trim cs)

/-- **Blanks around a line are ignored.** -/
theorem recognise_of_trim_eq {cs ds : List Char} (h : trim cs = trim ds) : recognise cs = recognise ds := by
  rw [recognise, h, recognise]

end Line

end Columnar
