import TypeStencil.Document
import TypeStencil.Reference

/-!
Generating all artifacts of a document. A generation either yields every artifact with the path of
its file, or fails as a whole and yields nothing.
-/
namespace TypeStencil

/-- An artifact with the place of its file. -/
structure Output where
  artifact : Artifact
  path : FilePath
  isInterface : Bool
  deriving DecidableEq, Repr

/-- How many artifacts of which kind there are. -/
structure Counts where
  artifacts : Nat
  interfaces : Nat
  classes : Nat
  deriving DecidableEq, Repr

structure Generated where
  outputs : List Output
  warnings : List String
  deriving DecidableEq, Repr

namespace Generated

def counts (g : Generated) : Counts where
  artifacts := g.outputs.length
  interfaces := (g.outputs.filter (·.isInterface)).length
  classes := g.outputs.length - (g.outputs.filter (·.isInterface)).length

def artifacts (g : Generated) : List Artifact :=
  g.outputs.map (·.artifact)

def paths (g : Generated) : List FilePath :=
  g.outputs.map (·.path)

end Generated

namespace Generation

/-- The path of the file of an artifact. -/
def outputPath (c : Config) (isInterface : Bool) (fileName : String) : Except Fault FilePath := do
  let folder ← c.artifactPath isInterface
  return (FilePath.ofString folder).join (.ofString (fileName ++ c.fileExtension.text))

/-- Renders a model and finds the place of its file. -/
def outputOf (render : Renderer) (c : Config) (m : ClassModel) : Traced Output := do
  let artifact ← (m.render render c.templateNames).2
  let path ← Traced.of (outputPath c m.isInterface m.identifiers.fileName)
  return ⟨artifact, path, m.isInterface⟩

/-- The outputs of the entries one after another. -/
def outputs (render : Renderer) (c : Config) : NameService → List Value → Traced (List Output)
  | _, [] => return []
  | names, entry :: rest => do
    let (names, m) ← Document.buildModel names entry
    let output ← outputOf render c m
    return output :: (← outputs render c names rest)

/-- Refuses the first artifact whose file an earlier one has already. -/
def checkFiles : List Artifact → List Artifact → Except GeneratorFault Unit
  | _, [] => .ok ()
  | seen, a :: rest =>
    match seen.find? fun b => b.fileName == a.fileName with
    | some b => .error (.sameFile b.typeName a.typeName a.fileName)
    | none => checkFiles (a :: seen) rest

/-- The class entries of a document. -/
def classEntries (document : Value) : Except GeneratorFault (List Value) :=
  match document with
  | .table entries =>
    match Value.field? entries "classes" with
    | some (.list classes) => .ok classes
    | _ => .error .noClasses
  | _ => .error .noClasses

/-- Uses the engine that is given, or makes the one of the configuration. -/
def rendererOf (fs : FileSystem) (c : Config) (given : Option Renderer) : Traced Renderer :=
  match given with
  | some render => return render
  | none => do
    let engine ← TemplateEngine.create fs c.templateDir c.indentSize
    return engine.render

def attempt (names : NameService) (fs : FileSystem) (c : Config) (given : Option Renderer)
    (document : Value) : Traced Generated := do
  let classes ← Traced.of ((classEntries document).mapError .generator)
  let render ← rendererOf fs c given
  let warnings ← Traced.of (Document.warnings document)
  let outputs ← outputs render c names classes
  Traced.of ((checkFiles [] (outputs.map (·.artifact))).mapError .generator)
  Traced.log .info ("Generated " ++ toString outputs.length ++ " artifacts")
  return ⟨outputs, warnings⟩

def failureMessage (f : Fault) : String :=
  "Code generation failed: " ++ f.message

/-- Generates the artifacts of a document with the names that a service gives out. The failure of
a generation is logged. -/
def runWith (names : NameService) (fs : FileSystem) (c : Config) (given : Option Renderer)
    (document : Value) : Traced Generated :=
  let m := attempt names fs c given document
  match m.result with
  | .ok _ => m
  | .error f => ⟨m.events ++ [.logged ⟨.error, failureMessage f⟩], .error f⟩

def run (fs : FileSystem) (c : Config) (given : Option Renderer) (document : Value) :
    Traced Generated :=
  runWith .fresh fs c given document

end Generation

/-- What is handed out after a generation; a failed one hands out a message and nothing else. -/
structure Report where
  success : Bool
  artifacts : List Artifact
  paths : List FilePath
  warnings : List String
  counts : Option Counts
  message : Option String
  deriving Repr

namespace Report

def of (result : Except Fault Generated) : Report :=
  match result with
  | .ok g => ⟨true, g.artifacts, g.paths, g.warnings, some g.counts, none⟩
  | .error f => ⟨false, [], [], [], none, some (Generation.failureMessage f)⟩

end Report

end TypeStencil
