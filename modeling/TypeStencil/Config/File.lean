import TypeStencil.Config
import TypeStencil.Files.FileSystem
import TypeStencil.Json.Writer
import TypeStencil.Sorting
import TypeStencil.Trace

/-!
Configuration files: loading one as a layer between the defaults and the overrides, saving a
configuration, and looking for settings that make no sense.
-/
namespace TypeStencil.Config

/-- The path that a value gives. -/
def pathOf (v : Value) : Except Fault FilePath :=
  match v with
  | .str s => .ok (.ofString s)
  | v => .error (.type (.notPath v.kind))

def isJsonFile (p : FilePath) : Bool :=
  Text.lower p.suffix.toList == ".json".toList

/-- The entries of a configuration file. -/
def readFile (fs : FileSystem) (p : FilePath) : Except Fault (Entries Value) := do
  if !(← (fs.exists? p).mapError .file) then .error (.config (.notFound p.text))
  else if !isJsonFile p then .error (.config (.notJson p.text))
  else
    match fs.readText p with
    | .error f => .error (.config (.unreadable p.text f))
    | .ok (.error f) => .error (.utf8 f)
    | .ok (.ok text) =>
      match Json.read text with
      | .error (.misread m) => .error (.config (.malformed p.text m))
      | .error (.longInteger n) => .error (.value (.longInteger n))
      | .error (.deepNesting within) => .error (.deepNesting within)
      | .ok (.table entries) => .ok entries
      | .ok _ => .error (.config (.notObject p.text))

/-- The configuration of an optional file and of overrides. -/
def load (fs : FileSystem) (file : Value) (overrides : Entries Value) : Traced Config :=
  if file.isPresent then do
    let p ← Traced.of (pathOf file)
    let entries ← Traced.of (readFile fs p)
    Traced.log .debug ("Loaded configuration from " ++ p.text)
    Traced.of (layered entries overrides)
  else Traced.of (ofOverrides overrides)

/-- The text of a saved configuration. -/
def savedText (c : Config) : Except Fault String := do
  return Json.write Json.indented (.table (← c.savedEntries))

def save (fs : FileSystem) (c : Config) (p : FilePath) : Except Fault FileSystem := do
  let text ← c.savedText
  (fs.write p (utf8Bytes text)).mapError fun f =>
    match f with
    | .refused .. => .config (.unwritable p.text f)
    | .nullInPath => .file f

/-- Joins the items of a list of strings. -/
def joinedNames (items : List Value) : Except Fault String := do
  let rec texts : Nat → List Value → Except Fault (List String)
    | _, [] => .ok []
    | index, v :: rest =>
      match v with
      | .str s => return s :: (← texts (index + 1) rest)
      | v => .error (.type (.notJoined index v.kind))
  return String.intercalate ", " (← texts 0 items)

def templateSettings : List Setting :=
  [.functionTemplate, .propertyTemplate, .classTemplate]

def indentWarnings (c : Config) : Except Fault (List String) := do
  if ← (c.indentSize.lt (.int 0)).mapError .type then
    return ["Invalid indent_size: " ++ c.indentSize.text]
  else return []

def extensionWarnings (c : Config) : Except Fault (List String) :=
  match c.fileExtension with
  | .str s =>
    .ok (if s.startsWith "." then [] else ["file_extension should start with a dot: " ++ s])
  | v => .error (.noAttribute v.kind "startswith")

def templateWarnings (c : Config) : List String :=
  (templateSettings.filter fun k => !(c.get k).isPresent).map fun k =>
    "Missing template name: " ++ k.name

def directoryWarnings (fs : FileSystem) (c : Config) : Except Fault (List String) := do
  if !c.templateDir.isPresent then return []
  else if ← (fs.isDirectory? (← pathOf c.templateDir)).mapError .file then return []
  else return ["Template directory not found: " ++ c.templateDir.text]

def customWarnings (c : Config) : Except Fault (List String) := do
  if !c.custom.isPresent then return []
  else return ["Unknown settings: " ++ (← joinedNames (← sortValues c.custom))]

/-- What is odd about a configuration. -/
def warnings (fs : FileSystem) (c : Config) : Except Fault (List String) := do
  return (← c.indentWarnings) ++ (← c.extensionWarnings) ++ c.templateWarnings ++
    (← c.directoryWarnings fs) ++ (← c.customWarnings)

end TypeStencil.Config
