import TypeStencil.CommandLine.Switch
import TypeStencil.Text.Quoted

/-!
What the program says about its own use: the usage line, the help text, and what is wrong with a
command line.
-/
namespace TypeStencil

/-- A command line that cannot be followed. -/
inductive UsageFault where
  | ambiguous (given : String) (candidates : List String)
  | missingValue (s : Switch)
  | extraValue (s : Switch) (value : String)
  | exclusive (argument earlier : String)
  | unrecognized (words : List String)
  deriving DecidableEq, Repr

namespace UsageFault

def message : UsageFault → String
  | ambiguous given candidates =>
    "ambiguous option: " ++ given ++ " could match " ++ String.intercalate ", " candidates
  | missingValue s => "argument " ++ s.label ++ ": expected one argument"
  | extraValue s value =>
    "argument " ++ s.label ++ ": ignored explicit argument " ++ Text.quoted value
  | exclusive argument earlier =>
    "argument " ++ argument ++ ": not allowed with argument " ++ earlier
  | unrecognized words => "unrecognized arguments: " ++ String.intercalate " " words

end UsageFault

namespace Usage

def program : String := "api-classgen"

def line : String :=
  "usage: " ++ program ++ " [-h] [--url URL] [--config FILE] [--output-dir DIR] " ++
    "[--template-dir DIR] [--stdout] [--list-references] [--verbose] [file]"

def helpLines : List String := [
  line,
  "",
  "Generate TypeScript classes and interfaces from API descriptors",
  "",
  "positional arguments:",
  "  file                  Descriptor JSON file",
  "",
  "options:",
  "  -h, --help            show this help message and exit",
  "  --url URL             URL to fetch the descriptor JSON from",
  "  --config FILE         JSON configuration file",
  "  --output-dir DIR, -o DIR",
  "                        Directory for generated files (overrides the configuration)",
  "  --template-dir DIR    Directory with custom templates (overrides the configuration)",
  "  --stdout              Print generated code instead of writing files",
  "  --list-references     List the well-known references and exit",
  "  --verbose, -v         Enable debug logging",
  "",
  "Examples:",
  "  api-classgen descriptors.json",
  "  api-classgen descriptors.json --output-dir src/api",
  "  api-classgen --url https://example.com/descriptors.json --stdout",
  "  api-classgen --list-references"]

/-- What is said about a command line that cannot be followed. -/
def complaint (f : UsageFault) : String :=
  line ++ "\n" ++ program ++ ": error: " ++ f.message ++ "\n"

end Usage

end TypeStencil
