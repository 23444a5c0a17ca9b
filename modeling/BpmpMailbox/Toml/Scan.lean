/-!
# Scanning text

Scanners take characters from the front of a text and leave the rest, or fail
and take nothing. A choice tries its second half on the text that the first
half was given.

A repetition goes on for as long as its scanner succeeds. Every scanner that
is repeated here takes at least one character, so a repetition is over after
as many rounds as there are characters, and that is the bound it is given.

## Main definitions

* `Scan`: Scanners with a result.
* `satisfy`, `char`, `literal`, `takeWhile`: The smallest scanners.
* `many`, `many1`, `sepBy`: Repetition.
* `space`, `newline`, `comment`, `lineEnd`, `gap`: What separates tokens.
-/

namespace BpmpMailbox

namespace Toml

/-- Scanners that take characters from the front of a text. -/
abbrev Scan (α : Type) := StateT (List Char) Option α

namespace Scan

variable {α β : Type}

/-- Fail. -/
def fail : Scan α := fun _ => none

/-- One character of a class. -/
def satisfy (p : Char → Bool) : Scan Char
  | [] => none
  | c :: rest => if p c then some (c, rest) else none

/-- One given character. -/
def char (c : Char) : Scan Unit
  | [] => none
  | d :: rest => if d = c then some ((), rest) else none

/-- Some given characters. -/
def literal : List Char → Scan Unit
  | [], s => some ((), s)
  | c :: cs, s => (char c s).bind fun (_, rest) => literal cs rest

/-- As many characters of a class as there are. -/
def takeWhile (p : Char → Bool) : Scan (List Char) := fun s => some (s.takeWhile p, s.dropWhile p)

/-- The end of the text. -/
def atEnd : Scan Unit
  | [] => some ((), [])
  | _ :: _ => none

/-- Succeed without taking anything when the next character is of a class. -/
def ahead (p : Char → Bool) : Scan Unit
  | [] => none
  | c :: rest => if p c then some ((), c :: rest) else none

/-- The results of a scanner up to a number of rounds, after those given. -/
def rounds (p : Scan α) : Nat → List α → List Char → List α × List Char
  | 0, done, s => (done.reverse, s)
  | n + 1, done, s =>
    match p s with
    | some (a, rest) => rounds p n (a :: done) rest
    | none => (done.reverse, s)

/-- The results of a scanner for as long as it succeeds. -/
def many (p : Scan α) : Scan (List α) := fun s => some (rounds p s.length [] s)

/-- The same, at least once. -/
def many1 (p : Scan α) : Scan (List α) := do
  let a ← p
  let as ← many p
  pure (a :: as)

/-- The results of a scanner, none or more, with separators between them. -/
def sepBy (p : Scan α) (separator : Scan β) : Scan (List α) := do
  match ← optional p with
  | none => pure []
  | some a =>
    let as ← many (separator *> p)
    pure (a :: as)

/-! ## What separates tokens -/

/-- Spaces and tabs. -/
def isSpace (c : Char) : Bool := c = ' ' || c = '\t'

/-- The characters of a comment: everything but controls, the tab excepted. -/
def isCommentChar (c : Char) : Bool := c = '\t' || (c.toNat ≥ 0x20 && c.toNat ≠ 0x7f)

/-- Spaces and tabs, none or more. -/
def space : Scan Unit := do
  let _ ← takeWhile isSpace
  pure ()

/-- A line feed, with or without a carriage return before it. -/
def newline : Scan Unit := char '\n' <|> literal ['\r', '\n']

/-- A comment up to the end of its line. -/
def comment : Scan Unit := do
  char '#'
  let _ ← takeWhile isCommentChar
  pure ()

/-- The end of a line, or of the text. -/
def lineEnd : Scan Unit := newline <|> atEnd

/-- What may stand after the last token of a line. -/
def restOfLine : Scan Unit := do
  space
  let _ ← optional comment
  lineEnd

/-- What may stand between the tokens of an array: spaces, lines and comments. -/
def gap : Scan Unit := do
  let blank : Scan Unit := do
    let _ ← many1 (satisfy isSpace)
    pure ()
  let _ ← many (blank <|> newline <|> (comment *> newline))
  pure ()

end Scan

end Toml

end BpmpMailbox
