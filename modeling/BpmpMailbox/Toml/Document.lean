import BpmpMailbox.Toml.Expression

/-!
# TOML documents

A document is a list of lines. A line is blank, or a comment, or a key with its
value, or the header of a table or of an element of an array of tables, and
every pair belongs to the header before it. A byte order mark at the very
beginning does not count.

`pairs?` reads a document down to the keys of its outermost table, in the order
in which they took their places. It does not say what is wrong with a text
that is no document.

## Main definitions

* `Header`, `Line`: What a line can hold.
* `documentLines`: The lines of a text.
* `Section`, `sections`: The pairs under each header.
* `pairs?`: The keys of a document with their values.
-/

namespace BpmpMailbox

namespace Toml

open Scan

/-- The header of a table, or of an element of an array of tables. -/
structure Header where
  isElement : Bool
  path : List String
  key : String

/-- What a line can hold that counts. -/
inductive Line where
  | pair (pair : Pair)
  | header (header : Header)

/-- A header between brackets, or between double brackets. -/
def headerLine : Scan Header :=
  (do
    literal ['[', '[']
    let (path, key) ← keyPath
    literal [']', ']']
    restOfLine
    pure ⟨true, path, key⟩) <|>
  (do
    char '['
    let (path, key) ← keyPath
    char ']'
    restOfLine
    pure ⟨false, path, key⟩)

/-- A key with its value. -/
def pairLine : Scan Pair := do
  let (path, key) ← keyPath
  char '='
  space
  let v ← value
  restOfLine
  pure ⟨path, key, v⟩

/-- One line; nothing when it holds nothing that counts. -/
def line : Scan (Option Line) :=
  (comment *> lineEnd *> pure none) <|>
  (newline *> pure none) <|>
  ((fun h => some (.header h)) <$> headerLine) <|>
  ((fun p => some (.pair p)) <$> pairLine)

/-- The lines of a text. -/
def documentLines : Scan (List Line) := do
  space
  let found ← many (line <* space)
  atEnd
  pure (found.filterMap id)

/-- The pairs under one header. -/
structure Section where
  header : Header
  pairs : List Pair

/-- The pairs before the first header, and those under each header. -/
def sections : List Line → List Pair × List Section
  | [] => ([], [])
  | .pair p :: rest =>
    let (first, others) := sections rest
    (p :: first, others)
  | .header h :: rest =>
    let (first, others) := sections rest
    ([], ⟨h, first⟩ :: others)

/-- Add what stands under a header. -/
def addSection (root : Entries) (s : Section) : Option Entries :=
  if s.header.isElement then addElement root s.header.path s.header.key s.pairs
  else addTable root s.header.path s.header.key s.pairs

/-- The outermost table of the lines of a document. -/
def tableOfLines (found : List Line) : Option Entries := do
  let (first, others) := sections found
  let root ← addPairs [] first
  others.foldlM addSection root

/-- A text without the byte order mark at its beginning. -/
def withoutMark : List Char → List Char
  | '\ufeff' :: rest => rest
  | cs => cs

/-- The keys of a document with their values, in order; nothing when the text is
    no document. -/
def pairs? (text : String) : Option (List (String × Value)) := do
  let (found, _) ← documentLines (withoutMark text.toList)
  let entries ← tableOfLines found
  pure (entryValues entries)

end Toml

end BpmpMailbox
