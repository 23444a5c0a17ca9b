import BpmpMailbox.Toml.Value

/-!
# Building tables

A document gives its tables piece by piece, and says which pieces may be put
together. A table comes into being in one of three ways. A header defines it,
which may happen once. A longer header names it as a parent, after which its
own header may still come. Or a dotted key makes it, and then only further
dotted keys of the same table may add to it.

A table that was named as a parent and gets its own header later takes its
place anew, after everything that came before that header.

Inline tables are built by the same rules from their pairs, and are closed
once they are written: neither a header nor a dotted key adds to them.

## Main definitions

* `Origin`, `Node`: How a table came into being, and what it holds.
* `updateAt`: Reach a table along a path of keys.
* `addPair`: A key and its value within a table.
* `addTable`, `addElement`: A table, or an element of an array of tables.
* `Node.toValue`, `entryValues`: The finished values.
-/

namespace BpmpMailbox

namespace Toml

/-- How a table came into being. -/
inductive Origin where
  /-- Its own header, or none for the outermost table. -/
  | header
  /-- The header of a table inside it. -/
  | parent
  /-- A dotted key. -/
  | dotted
  deriving DecidableEq, Repr

/-- What a key holds while the document is read. -/
inductive Node where
  | value (value : Value)
  | table (origin : Origin) (entries : List (String × Node))
  /-- The elements of an array of tables, each defined by a header. -/
  | tables (elements : List (List (String × Node)))

/-- Keys with what they hold, in order. -/
abbrev Entries := List (String × Node)

/-- Replace what a key holds, in its place. -/
def replaceEntry (key : String) (node : Node) (entries : Entries) : Entries :=
  entries.map fun e => if e.1 = key then (key, node) else e

/-- Change the table at the end of a path. Missing tables on the way come into
    being, by dotted keys or as parents. Dotted keys do not enter a table that
    has a header. In an array of tables the last element is entered. -/
def updateAt (byDots : Bool) (change : Origin → Entries → Option Entries) :
    List String → Origin → Entries → Option Entries
  | [], origin, entries => change origin entries
  | key :: path, _, entries =>
    match entries.lookup key with
    | none => do
      let origin : Origin := if byDots then .dotted else .parent
      let inner ← updateAt byDots change path origin []
      pure (entries ++ [(key, .table origin inner)])
    | some (.value _) => none
    | some (.table origin inner) =>
      if byDots && origin == .header then none
      else do
        let inner ← updateAt byDots change path origin inner
        pure (replaceEntry key (.table origin inner) entries)
    | some (.tables elements) => do
      let last ← elements.getLast?
      let last ← updateAt byDots change path .header last
      pure (replaceEntry key (.tables (elements.dropLast ++ [last])) entries)

/-- Add a key and its value to a table, below a path of dotted keys. The table
    reached by dots must be one that dots have made. -/
def addPair (entries : Entries) (path : List String) (key : String) (value : Value) :
    Option Entries :=
  updateAt true
    (fun origin inner =>
      if (origin == .dotted) == path.isEmpty then none
      else if (inner.lookup key).isSome then none
      else some (inner ++ [(key, .value value)]))
    path .header entries

/-- A key with its path and its value. -/
structure Pair where
  path : List String
  key : String
  value : Value

/-- Add pairs to a table one after the other. -/
def addPairs (entries : Entries) (pairs : List Pair) : Option Entries :=
  pairs.foldlM (fun entries pair => addPair entries pair.path pair.key pair.value) entries

/-- Add the table of a header with its pairs. It must be new, or known as a
    parent only. -/
def addTable (root : Entries) (path : List String) (key : String) (pairs : List Pair) :
    Option Entries :=
  updateAt false
    (fun _ entries =>
      match entries.lookup key with
      | none => do
        let inner ← addPairs [] pairs
        pure (entries ++ [(key, .table .header inner)])
      | some (.table .parent known) => do
        let inner ← addPairs known pairs
        pure ((entries.filter fun e => e.1 ≠ key) ++ [(key, .table .header inner)])
      | some _ => none)
    path .header root

/-- Add an element with its pairs to the array of tables of a header. -/
def addElement (root : Entries) (path : List String) (key : String) (pairs : List Pair) :
    Option Entries :=
  updateAt false
    (fun _ entries => do
      let inner ← addPairs [] pairs
      match entries.lookup key with
      | none => pure (entries ++ [(key, .tables [inner])])
      | some (.tables elements) => pure (replaceEntry key (.tables (elements ++ [inner])) entries)
      | some _ => none)
    path .header root

mutual

/-- The finished value of what a key holds. -/
def Node.toValue : Node → Value
  | .value v => v
  | .table _ entries => .table (entryValues entries)
  | .tables elements => .array (elementValues elements)

/-- The finished values of the keys of a table. -/
def entryValues : List (String × Node) → List (String × Value)
  | [] => []
  | (key, node) :: entries => (key, node.toValue) :: entryValues entries

/-- The finished tables of an array. -/
def elementValues : List (List (String × Node)) → List Value
  | [] => []
  | element :: elements => .table (entryValues element) :: elementValues elements

end

end Toml

end BpmpMailbox
