import BpmpMailbox.Configuration
import BpmpMailbox.Text.Quoted
import BpmpMailbox.Toml.Value

/-!
# Reading a configuration

A configuration is written as a TOML document with at most four keys. A key
that is missing keeps its standard choice, and a key that is none of the four
is an error. The keys are taken in the order of the document and the first
offence among them is reported; whether the window can hold a message is asked
only when there was none.

A text that is no document is an error without a message of its own. What a
document is, and which keys it has, is left to a reader of documents, so that
everything here holds of any of them.

## Main definitions

* `Setting`: The four keys.
* `ConfigurationError`: Why a configuration was not accepted.
* `Configuration.ofPairs`: The configuration that keys with their values describe.
* `Configuration.readText`, `Configuration.readFile`: The same of a text and of a file, with a
  reader of documents.
-/

namespace BpmpMailbox

/-- The widths of numbers in a configuration. -/
inductive NumberWidth where
  /-- A word of 32 bits. -/
  | word
  /-- A size or an index. -/
  | size
  deriving DecidableEq, Repr

/-- The name of a width. -/
def NumberWidth.name : NumberWidth → String
  | .word => "u32"
  | .size => "usize"

/-- The first number that does not fit. -/
def NumberWidth.limit : NumberWidth → Nat
  | .word => 0x100000000
  | .size => addressLimit

/-- The keys of a configuration. -/
inductive Setting where
  | discoveryBlock
  | semaphoreBlock
  | doorbellLine
  | areaWindow
  deriving DecidableEq, Repr

namespace Setting

/-- Every key, in the order in which messages list them. -/
def all : List Setting := [.discoveryBlock, .semaphoreBlock, .doorbellLine, .areaWindow]

/-- The key as it is written. -/
def name : Setting → String
  | .discoveryBlock => "atomics_resource"
  | .semaphoreBlock => "semaphore_resource"
  | .doorbellLine => "doorbell_line"
  | .areaWindow => "area_window"

/-- The field that a key names. -/
def ofName? (key : String) : Option Setting := all.find? fun f => f.name == key

/-- How wide a field is. -/
def width : Setting → NumberWidth
  | .doorbellLine => .word
  | _ => .size

/-- A configuration with one field given a number. -/
def set (f : Setting) (n : Nat) (c : Configuration) : Configuration :=
  match f with
  | .discoveryBlock => { c with discoveryBlock := n }
  | .semaphoreBlock => { c with semaphoreBlock := n }
  | .doorbellLine => { c with doorbellLine := BitVec.ofNat 32 n }
  | .areaWindow => { c with areaWindow := n }

end Setting

/-- Why a file could not be read. -/
inductive ReadError where
  | missing
  | directory
  | notText
  deriving DecidableEq, Repr

/-- The failure to read in words. -/
def ReadError.message : ReadError → String
  | .missing => "No such file or directory (os error 2)"
  | .directory => "Is a directory (os error 21)"
  | .notText => "stream did not contain valid UTF-8"

/-- Why a configuration was not accepted. -/
inductive ConfigurationError where
  /-- The file could not be read. -/
  | read (error : ReadError)
  /-- The text is no document. -/
  | document
  /-- A key is none of the four. -/
  | unknownKey (key : String)
  /-- A key was given something that is no whole number. -/
  | wrongType (found : Toml.Value) (expected : NumberWidth)
  /-- A key was given a number that does not fit. -/
  | outOfRange (found : Int) (expected : NumberWidth)
  /-- The choices themselves were refused. -/
  | invalid (error : Refusal)

namespace ConfigurationError

/-- The step at which the configuration failed. -/
def kind : ConfigurationError → String
  | .read _ => "Read"
  | .document | .unknownKey _ | .wrongType .. | .outOfRange .. => "Parse"
  | .invalid _ => "Invalid"

/-- A value as it is named in messages. -/
def describe : Toml.Value → String
  | .boolean b => s!"boolean `{b}`"
  | .integer n => s!"integer `{n.toInt}`"
  | .float x => s!"floating point `{x.text}`"
  | .text t => s!"string {Text.quoted t}"
  | .array _ => "sequence"
  | .moment _ | .table _ => "map"

/-- The keys that are known, as they are listed in messages. -/
def knownKeys : String :=
  String.intercalate ", " (Setting.all.map fun f => s!"`{f.name}`")

/-- What is wrong with a document, if there is a message for it. -/
def detail? : ConfigurationError → Option String
  | .unknownKey key => some s!"unknown field `{key}`, expected one of {knownKeys}"
  | .wrongType found expected => some s!"invalid type: {describe found}, expected {expected.name}"
  | .outOfRange found expected =>
    some s!"invalid value: integer `{found}`, expected {expected.name}"
  | _ => none

/-- The error in words; a text that is no document has none. -/
def message? : ConfigurationError → Option String
  | .read e => some s!"failed to read mailbox config <path>: {e.message}"
  | .invalid e => some s!"invalid mailbox config: {e.message}"
  | e => e.detail?.map fun d => s!"failed to parse mailbox config: {d}"

end ConfigurationError

/-- What is found at the place of a configuration file. -/
inductive FileContent where
  | missing
  | directory
  | content (bytes : List Byte)
  deriving DecidableEq, Repr

namespace Configuration

/-- The number that a value gives to a field of some width. -/
def numberOf (width : NumberWidth) : Toml.Value → Except ConfigurationError Nat
  | .integer n =>
    if 0 ≤ n.toInt ∧ n.toInt < width.limit then .ok n.toInt.toNat
    else .error (.outOfRange n.toInt width)
  | other => .error (.wrongType other width)

/-- A configuration with one key given its value. -/
def withPair (c : Configuration) (pair : String × Toml.Value) :
    Except ConfigurationError Configuration :=
  match Setting.ofName? pair.1 with
  | none => .error (.unknownKey pair.1)
  | some field =>
    match numberOf field.width pair.2 with
    | .ok n => .ok (field.set n c)
    | .error e => .error e

/-- The configuration that keys with their values describe. -/
def ofPairs (pairs : List (String × Toml.Value)) : Except ConfigurationError Configuration := do
  let c ← pairs.foldlM withPair standard
  match c.check with
  | .ok () => .ok c
  | .error e => .error (.invalid e)

/-- The configuration that a text describes. -/
def readText (read? : Toml.Reader) (text : String) : Except ConfigurationError Configuration :=
  match read? text with
  | some pairs => ofPairs pairs
  | none => .error .document

/-- The text that some bytes encode. -/
def textOf? (bytes : List Byte) : Option String :=
  String.fromUTF8? ⟨(bytes.map fun b => ⟨b⟩).toArray⟩

/-- The configuration in a file. -/
def readFile (read? : Toml.Reader) : FileContent → Except ConfigurationError Configuration
  | .missing => .error (.read .missing)
  | .directory => .error (.read .directory)
  | .content bytes =>
    match textOf? bytes with
    | some text => readText read? text
    | none => .error (.read .notText)

end Configuration

end BpmpMailbox
