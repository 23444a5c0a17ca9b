import BpmpMailbox.Toml.Moment
import BpmpMailbox.Toml.Table

/-!
# Keys and values

A key is a name or a quoted text, or several of them with points between. A
value is a literal, an array or an inline table; the last two hold values in
turn. Neither keys nor values go arbitrarily deep: a key has fewer than eighty
parts, and fewer than eighty arrays and inline tables lie within each other.
The depth that is left is what the reading of values counts down.

An array may go over several lines and may have a comma after its last
element. An inline table is written on one line and may not.

## Main definitions

* `keyPath`: A key with its parts.
* `valueAt`: A value within a given depth.
* `value`: A value.
-/

namespace BpmpMailbox

namespace Toml

open Scan

/-- One more than the number of parts of a key, and of levels of a value. -/
def depthLimit : Nat := 80

/-- The characters of a name. -/
def isNameChar (c : Char) : Bool := c.isAlphanum || c = '-' || c = '_'

/-- One part of a key. -/
def keyPart : Scan String :=
  basicText <|> literalText <|> (String.ofList <$> many1 (satisfy isNameChar))

/-- A key: the parts before the last one, and the last one. -/
def keyPath : Scan (List String × String) := do
  let part : Scan String := do
    space
    let s ← keyPart
    space
    pure s
  let first ← part
  let more ← many (char '.' *> part)
  let parts := first :: more
  if parts.length < depthLimit then pure (parts.dropLast, parts.getLastD "") else fail

/-- A value that is neither an array nor an inline table. -/
def plainValue : Scan Value :=
  .text <$> textValue <|>
  .moment <$> momentValue <|>
  .float <$> floatValue <|>
  .integer <$> integerValue <|>
  (literal ['t', 'r', 'u', 'e'] *> pure (.boolean true)) <|>
  (literal ['f', 'a', 'l', 's', 'e'] *> pure (.boolean false))

/-- An array of elements. -/
def arrayOf (element : Scan Value) : Scan Value := do
  char '['
  let elements ← sepBy (do gap; let v ← element; gap; pure v) (char ',')
  if elements.isEmpty then pure () else do
    let _ ← optional (char ',')
  gap
  char ']'
  pure (.array elements)

/-- An inline table of pairs. -/
def inlineTableOf (element : Scan Value) : Scan Value := do
  char '\x7b'
  let pairs ← sepBy
    (do
      let (path, key) ← keyPath
      char '='
      space
      let v ← element
      space
      pure (⟨path, key, v⟩ : Pair))
    (char ',')
  space
  char '\x7d'
  match addPairs [] pairs with
  | some entries => pure (.table (entryValues entries))
  | none => fail

/-- A value with at most so many arrays and inline tables within each other. -/
def valueAt : Nat → Scan Value
  | 0 => plainValue
  | depth + 1 => arrayOf (valueAt depth) <|> inlineTableOf (valueAt depth) <|> plainValue

/-- A value. -/
def value : Scan Value := valueAt (depthLimit - 1)

end Toml

end BpmpMailbox
