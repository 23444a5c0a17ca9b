import BpmpMailbox.Toml.Text
import BpmpMailbox.Toml.Value

/-!
# Number literals

Whole numbers in four bases and decimal fractions. Digits may be set apart by
single underscores between them. Decimal notation has no leading zeros, apart
from the digits after a point and in an exponent; only decimal notation has a
sign. A whole number must fit 64 bits with a sign. A fraction too large for a
double-precision number is no number, unless it is negative: then it is minus
infinity.

## Main definitions

* `decimalWhole`: A sign and digits.
* `floatValue`: A fraction, an infinity or the number that is none.
* `integerValue`: A whole number in any base.
-/

namespace BpmpMailbox

namespace Toml

open Scan

/-- Whether a character is a decimal digit. -/
def isDecimalDigit (c : Char) : Bool := c.isDigit

/-- More digits of a class, each with or without an underscore before it. -/
def moreDigits (p : Char → Bool) : Scan (List Char) :=
  many (satisfy p <|> (char '_' *> satisfy p))

/-- Digits of a class with single underscores between them. -/
def digitRun (p : Char → Bool) : Scan (List Char) := do
  let d ← satisfy p
  let ds ← moreDigits p
  pure (d :: ds)

/-- A sign; true when it is a minus. -/
def sign : Scan Bool := (char '+' *> pure false) <|> (char '-' *> pure true)

/-- An optional sign; true when it is a minus. -/
def optionalSign : Scan Bool := do
  let s ← optional sign
  pure (s.getD false)

/-- A sign and the digits of a whole number without leading zeros. -/
def decimalWhole : Scan (Bool × List Char) := do
  let negative ← optionalSign
  let leading : Scan (List Char) := do
    let d ← satisfy fun c => '1' ≤ c && c ≤ '9'
    let ds ← moreDigits isDecimalDigit
    pure (d :: ds)
  let digits ← leading <|> ((fun c => [c]) <$> satisfy isDecimalDigit)
  pure (negative, digits)

/-- A point and the digits after it. -/
def fraction : Scan (List Char) := char '.' *> digitRun isDecimalDigit

/-- The exponent of a power of ten. -/
def exponent : Scan Int := do
  char 'e' <|> char 'E'
  let negative ← optionalSign
  let digits ← digitRun isDecimalDigit
  let n : Int := digitsValue 10 digits
  pure (if negative then -n else n)

/-- A decimal fraction, which has a point or an exponent or both. -/
def decimalFraction : Scan Binary64 := do
  let (negative, whole) ← decimalWhole
  let after ← optional fraction
  let power ← if after.isNone then some <$> exponent else optional exponent
  let digits := whole ++ after.getD []
  let value := Binary64.ofDecimal negative (digitsValue 10 digits)
    (power.getD 0 - (after.getD []).length)
  if value = .infinite false then fail else pure value

/-- An infinity, or the number that is none. -/
def specialFloat : Scan Binary64 := do
  let negative ← optionalSign
  (literal ['i', 'n', 'f'] *> pure (.infinite negative)) <|>
    (literal ['n', 'a', 'n'] *> pure .notANumber)

/-- A fraction, an infinity, or the number that is none. -/
def floatValue : Scan Binary64 := decimalFraction <|> specialFloat

/-- A whole number of 64 bits, if it fits. -/
def fitting (n : Int) : Scan (BitVec 64) :=
  if -0x8000000000000000 ≤ n ∧ n < 0x8000000000000000 then pure (BitVec.ofInt 64 n) else fail

/-- A whole number in a base with a mark of its own. -/
def basedInteger (mark : List Char) (base : Nat) (p : Char → Bool) : Scan (BitVec 64) := do
  literal mark
  let digits ← digitRun p
  fitting (digitsValue base digits)

/-- A whole number in decimal notation. -/
def decimalInteger : Scan (BitVec 64) := do
  let (negative, digits) ← decimalWhole
  let n : Int := digitsValue 10 digits
  fitting (if negative then -n else n)

/-- A whole number in any base. -/
def integerValue : Scan (BitVec 64) :=
  basedInteger ['0', 'x'] 16 isHexDigit <|>
  basedInteger ['0', 'o'] 8 (fun c => '0' ≤ c && c ≤ '7') <|>
  basedInteger ['0', 'b'] 2 (fun c => c = '0' || c = '1') <|>
  decimalInteger

end Toml

end BpmpMailbox
