import BpmpMailbox.Text.Visible
import BpmpMailbox.Word

/-!
# Quoted text

Text between double quotes, in a form that shows every character: quotes and
backslashes have a backslash before them, the common controls have a letter of
their own, and every other character that does not show as itself is written
by its number.

## Main definitions

* `quoteChar`: A character inside the quotes.
* `quoted`: A text with its quotes.
-/

namespace BpmpMailbox

namespace Text

/-- A character as it is written inside quotes. -/
def quoteChar (c : Char) : List Char :=
  if c = '\x00' then ['\\', '0']
  else if c = '\t' then ['\\', 't']
  else if c = '\r' then ['\\', 'r']
  else if c = '\n' then ['\\', 'n']
  else if c = '\\' then ['\\', '\\']
  else if c = '"' then ['\\', '"']
  else if isVisible c then [c]
  else ['\\', 'u', '\x7b'] ++ Nat.toDigits 16 c.toNat ++ ['\x7d']

/-- A text between double quotes. -/
def quoted (s : String) : String :=
  String.ofList ('"' :: s.toList.flatMap quoteChar ++ ['"'])

end Text

end BpmpMailbox
