import TypeStencil.CommandLine.Session

/-!
Carrying out a command line: configuring, loading a document, generating, and writing or printing
the artifacts. A run ends with an exit code, or with a fault that nobody has foreseen.
-/
namespace TypeStencil.CommandLine

/-- Texts that are empty count as not given. -/
def given? (v : Option String) : Option String :=
  v.filter fun s => !s.isEmpty

def valueOf (v : Option String) : Value :=
  match v with
  | some s => .str s
  | none => .null

/-- The settings that a command line overrides. -/
def overrides (a : Arguments) : Entries Value :=
  ((given? a.outputDir).map fun s => (Scalar.str Setting.outputDir.name, Value.str s)).toList ++
    ((given? a.templateDir).map fun s => (Scalar.str Setting.templateDir.name, Value.str s)).toList

def printWarning (warning : String) : Action Unit :=
  Action.print ("[yellow]⚠ " ++ warning ++ "[/yellow]")

def configure (a : Arguments) : Action Config := do
  let c ← Action.ofTraced (Config.load (← Action.files) (valueOf a.config) (overrides a))
  (← Action.of (c.warnings (← Action.files))).forM printWarning
  return c

def referenceCells (r : ObjectReference) : Except MarkupFault (List Cell) :=
  [r.refKey, r.className.text, r.fileName.text, r.folderPath.text].mapM Markup.plain

def referenceTable (references : List ObjectReference) : Except MarkupFault Table := do
  return {
    title := "Well-known references".toList
    header := ["Key", "Class", "File", "Folder"].map String.toList
    rows := ← references.mapM referenceCells }

def listReferences (c : Config) : Action Nat := do
  let references ← Action.of c.references
  let table ← Action.of ((referenceTable references).mapError .markup)
  Action.printLines (table.lines (← get).width)
  return 0

def printOutput (c : Config) (o : Output) : Action Unit := do
  let width := (← get).width
  let title := o.artifact.fileName ++ c.fileExtension.text
  let rule ← Action.of ((Display.rule width title).mapError .markup)
  Action.printLine rule
  Action.printLines (Display.listingLines width o.artifact.text)

def writeOutput (o : Output) : Action Unit := do
  Action.ensureDirectories o.path.parent
  Action.writeText o.path (o.artifact.text ++ "\n")
  Action.log .debug ("Wrote " ++ o.path.text)

/-- How many files of which kind have been written where. -/
def summary (g : Generated) (directory : FilePath) : String :=
  "[green]✓[/green] Generated " ++ toString g.counts.artifacts ++ " files (" ++
    toString g.counts.classes ++ " classes, " ++ toString g.counts.interfaces ++
    " interfaces) in " ++ directory.text

def deliver (a : Arguments) (c : Config) (g : Generated) : Action Nat := do
  g.warnings.forM printWarning
  if a.stdout then
    g.outputs.forM (printOutput c)
  else
    let directory ← Action.of (Config.pathOf c.outputDir)
    g.outputs.forM writeOutput
    Action.print (summary g directory)
  return 0

/-- Generates from a document and delivers what comes of it. -/
def generate (a : Arguments) (c : Config) (document : Value) : Action Nat := do
  let t := Generation.run (← Action.files) c none document
  match t.result with
  | .ok g => do
    let _ ← Action.ofTraced t
    deliver a c g
  | .error f => do
    modify fun s => { s with events := s.events ++ t.events }
    Action.print ("[red]✗ " ++ Generation.failureMessage f ++ "[/red]")
    return 1

def perform (world : World) (a : Arguments) : Action Nat := do
  let c ← configure a
  if a.listReferences then listReferences c
  else if (given? a.file).isNone && (given? a.url).isNone then throw .noInput
  else do
    let loaded ← Action.ofTraced (Loader.load { world with files := ← Action.files }
      (valueOf a.file) (valueOf a.url) Loader.defaultTimeout)
    Action.log .info ("Generating from " ++ loaded.source)
    generate a c loaded.document

/-- The faults that a run answers with a message and an exit code. -/
def isForeseen : Fault → Bool
  | .noInput | .config _ | .loader _ => true
  | _ => false

def carryOut (world : World) (a : Arguments) : Action Nat :=
  tryCatch (perform world a) fun f =>
    if isForeseen f then do
      Action.print ("[red]✗ Error:[/red] " ++ f.message)
      return 1
    else throw f

/-- What a run comes to. -/
structure Outcome where
  result : Except Fault Nat
  output : String
  complaint : String
  files : FileSystem
  logs : List LogRecord
  fetches : List (String × Value)

/-- The records that a logger of the given level lets through. -/
def shownLogs (level : LogLevel) (records : List LogRecord) : List LogRecord :=
  match Logger.initial.configure (.int level.number) true with
  | .ok logger => records.filter fun r => logger.isEnabledFor r.level.number
  | .error _ => []

def logLevel (a : Arguments) : LogLevel :=
  if a.verbose then .debug else .warning

def outcomeOf (a : Arguments) (result : Except Fault Nat) (s : Session) : Outcome :=
  let trace : Traced Unit := ⟨s.events, .ok ()⟩
  { result
    output := s.output
    complaint := ""
    files := s.files
    logs := shownLogs (logLevel a) trace.logs
    fetches := trace.fetches }

/-- The outcome of a run that does nothing but say something. -/
def silent (world : World) (code : Nat) (output complaint : String) : Outcome :=
  ⟨.ok code, output, complaint, world.files, [], []⟩

def run (world : World) (line : List String) : Outcome :=
  match parse line with
  | .error .help => silent world 0 (String.join (Usage.helpLines.map (· ++ "\n"))) ""
  | .error (.refused f) => silent world 2 "" (Usage.complaint f)
  | .ok a =>
    let (result, s) := (carryOut world a).run.run ⟨world.width, world.files, "", []⟩
    outcomeOf a result s

end TypeStencil.CommandLine
