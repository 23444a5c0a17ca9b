import BpmpMailbox.Decimal.Binary64

/-!
# TOML values

What a key of a TOML document can be given. Whole numbers are signed numbers of
64 bits, and tables keep their keys in the order in which they came.

What makes a text a document is the business of a reader, and those who use one
see the pairs of a key and a value that it finds and nothing of the text. All
that they may rely on is that no key comes twice.

## Main definitions

* `Toml.Date`, `Toml.Time`, `Toml.Offset`, `Toml.Moment`: Dates and times.
* `Toml.Value`: The values.
* `Toml.Reader`, `Toml.Reader.KeysDistinct`: What reads a document, and what is known of it.
-/

namespace BpmpMailbox

namespace Toml

/-- A day of the calendar. -/
structure Date where
  year : Nat
  month : Nat
  day : Nat
  deriving DecidableEq, Repr

/-- A time of day; a leap second counts as the sixty-first. -/
structure Time where
  hour : Nat
  minute : Nat
  second : Nat
  /-- The digits after the point, if there was one. -/
  fraction : List Char
  deriving DecidableEq, Repr

/-- How far a clock is ahead of universal time. -/
inductive Offset where
  | universal
  | minutes (ahead : Int)
  deriving DecidableEq, Repr

/-- A date, a time of day, or both. -/
inductive Moment where
  | date (date : Date)
  | time (time : Time)
  | both (date : Date) (time : Time) (offset : Option Offset)
  deriving DecidableEq, Repr

/-- What a key can be given. -/
inductive Value where
  | boolean (value : Bool)
  | integer (value : BitVec 64)
  | float (value : Binary64)
  | text (value : String)
  | moment (value : Moment)
  | array (elements : List Value)
  | table (entries : List (String × Value))
  deriving Repr

/-- A reader of documents: the keys of the outermost table with their values, in
    the order in which they took their places, or nothing when the text is no
    document. -/
abbrev Reader := String → Option (List (String × Value))

/-- The reader gives every key of a document once. -/
def Reader.KeysDistinct (read? : Reader) : Prop :=
  ∀ text pairs, read? text = some pairs → (pairs.map Prod.fst).Nodup

end Toml

end BpmpMailbox
