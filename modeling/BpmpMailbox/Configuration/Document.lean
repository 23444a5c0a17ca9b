import BpmpMailbox.Configuration.Reader
import BpmpMailbox.Toml.Document

/-!
# Configurations in TOML documents

Reading a configuration with the reader of documents that is run.

## Main definitions

* `Configuration.ofText`, `Configuration.ofFile`: The configuration in a text and in a file.
-/

namespace BpmpMailbox

namespace Configuration

/-- The configuration that a text describes. -/
def ofText (text : String) : Except ConfigurationError Configuration := readText Toml.pairs? text

/-- The configuration in a file. -/
def ofFile (file : FileContent) : Except ConfigurationError Configuration :=
  readFile Toml.pairs? file

end Configuration

end BpmpMailbox
