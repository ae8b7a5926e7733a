/-!
The switches of the command line and how they are spelt.
-/
namespace TypeStencil

inductive Switch where
  | help
  | url
  | config
  | outputDir
  | templateDir
  | stdout
  | listReferences
  | verbose
  deriving DecidableEq, Repr

namespace Switch

def all : List Switch :=
  [help, url, config, outputDir, templateDir, stdout, listReferences, verbose]

def spellings : Switch → List String
  | help => ["-h", "--help"]
  | url => ["--url"]
  | config => ["--config"]
  | outputDir => ["--output-dir", "-o"]
  | templateDir => ["--template-dir"]
  | stdout => ["--stdout"]
  | listReferences => ["--list-references"]
  | verbose => ["--verbose", "-v"]

def takesValue : Switch → Bool
  | url | config | outputDir | templateDir => true
  | help | stdout | listReferences | verbose => false

/-- What a switch is called in messages. -/
def label (s : Switch) : String :=
  String.intercalate "/" s.spellings

/-- Every spelling with its switch. -/
def table : List (String × Switch) :=
  all.flatMap fun s => s.spellings.map fun spelling => (spelling, s)

def ofSpelling? (spelling : String) : Option Switch :=
  table.lookup spelling

end Switch

end TypeStencil
