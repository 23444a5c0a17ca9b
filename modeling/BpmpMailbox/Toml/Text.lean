import BpmpMailbox.Toml.Scan

/-!
# Text literals

Four kinds of text literals: between double quotes, where a backslash begins
an escape, and between single quotes, where nothing does; each of them on one
line between single delimiters or on several lines between triple ones.

In a literal on several lines a line break right after the opening delimiter
does not count, every other line break counts as one line feed, and up to two
quotes in a row belong to the text, also right before the closing delimiter.
Between double quotes a backslash at the end of a line swallows everything up
to the next character that is not blank.

## Main definitions

* `basicText`, `literalText`: Literals on one line.
* `basicLines`, `literalLines`: Literals on several lines.
* `textValue`: Any of the four.
-/

namespace BpmpMailbox

namespace Toml

open Scan

/-- The characters that stand for themselves between double quotes. -/
def isBasicChar (c : Char) : Bool :=
  c = '\t' || (c.toNat ≥ 0x20 && c ≠ '\x22' && c ≠ '\\' && c.toNat ≠ 0x7f)

/-- The characters between single quotes. -/
def isLiteralChar (c : Char) : Bool :=
  c = '\t' || (c.toNat ≥ 0x20 && c ≠ '\x27' && c.toNat ≠ 0x7f)

/-- The value of a hexadecimal digit. -/
def hexValue (c : Char) : Nat :=
  if c.isDigit then c.toNat - '0'.toNat
  else if c.isUpper then c.toNat - 'A'.toNat + 10
  else c.toNat - 'a'.toNat + 10

/-- Whether a character is a hexadecimal digit. -/
def isHexDigit (c : Char) : Bool :=
  c.isDigit || ('a' ≤ c && c ≤ 'f') || ('A' ≤ c && c ≤ 'F')

/-- The number that digits of a base stand for, highest digit first. -/
def digitsValue (base : Nat) (digits : List Char) : Nat :=
  digits.foldl (fun n c => n * base + hexValue c) 0

/-- A given number of characters of a class. -/
def exactly (p : Char → Bool) : Nat → Scan (List Char)
  | 0 => pure []
  | n + 1 => do
    let c ← satisfy p
    let cs ← exactly p n
    pure (c :: cs)

/-- A character by its number in so many hexadecimal digits; surrogates and
    numbers past the last character are none. -/
def numberedChar (count : Nat) : Scan Char := do
  let digits ← exactly isHexDigit count
  let point := digitsValue 16 digits
  if point.isValidChar then pure (Char.ofNat point) else fail

/-- The character that an escape stands for. -/
def escape : Scan Char := do
  char '\\'
  let c ← satisfy fun _ => true
  match c with
  | 'b' => pure '\x08'
  | 'f' => pure '\x0c'
  | 'n' => pure '\n'
  | 'r' => pure '\r'
  | 't' => pure '\t'
  | '\\' => pure '\\'
  | '\x22' => pure '\x22'
  | 'u' => numberedChar 4
  | 'U' => numberedChar 8
  | _ => fail

/-- A text on one line between double quotes. -/
def basicText : Scan String := do
  char '\x22'
  let cs ← many (satisfy isBasicChar <|> escape)
  char '\x22'
  pure (String.ofList cs)

/-- A text on one line between single quotes. -/
def literalText : Scan String := do
  char '\x27'
  let cs ← takeWhile isLiteralChar
  char '\x27'
  pure (String.ofList cs)

/-- A backslash at the end of a line, with the blanks and lines after it. -/
def lineJoin : Scan Unit := do
  char '\\'
  space
  newline
  let _ ← many (newline <|> (do let _ ← satisfy isSpace; pure ()))
  pure ()

/-- One or two quotes inside a text on several lines. -/
def innerQuotes (quote : Char) : Scan (List Char) :=
  (literal [quote, quote] *> ahead (· ≠ quote) *> pure [quote, quote]) <|>
  (char quote *> ahead (· ≠ quote) *> pure [quote])

/-- The closing delimiter, with up to two quotes that belong to the text. -/
def closingQuotes (quote : Char) : Scan (List Char) :=
  (literal (List.replicate 5 quote) *> pure [quote, quote]) <|>
  (literal (List.replicate 4 quote) *> pure [quote]) <|>
  (literal (List.replicate 3 quote) *> pure [])

/-- A text on several lines made of some pieces. -/
def lines (quote : Char) (piece : Scan (List Char)) : Scan String := do
  literal (List.replicate 3 quote)
  let _ ← optional newline
  let pieces ← many (piece <|> innerQuotes quote)
  let last ← closingQuotes quote
  pure (String.ofList (pieces.flatten ++ last))

/-- A text on several lines between double quotes. -/
def basicLines : Scan String :=
  lines '\x22' <|
    ((fun c => [c]) <$> satisfy isBasicChar) <|> (lineJoin *> pure []) <|>
    ((fun c => [c]) <$> escape) <|> (newline *> pure ['\n'])

/-- A text on several lines between single quotes. -/
def literalLines : Scan String :=
  lines '\x27' <| ((fun c => [c]) <$> satisfy isLiteralChar) <|> (newline *> pure ['\n'])

/-- A text literal of any kind. -/
def textValue : Scan String := basicLines <|> basicText <|> literalLines <|> literalText

end Toml

end BpmpMailbox
