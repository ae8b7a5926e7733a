import TypeStencil.CommandLine.Run

/-!
The program. It looks at the files that a command line names, carries the command line out on that
view of the file system, and then writes what has changed.
-/
namespace TypeStencil.Program

/-- What stands at a path, as far as it can be read. -/
def nodeAt? (path : String) : IO (Option FileNode) := do
  try
    return some (.file (← IO.FS.readBinFile path).toList)
  catch
    | .inappropriateType _ code _ =>
      return if code.toNat = FileProblem.isDirectory.number then some .directory else none
    | _ => return none

def look (fs : FileSystem) (p : FilePath) : IO FileSystem := do
  match ← nodeAt? p.text with
  | some node => return fs.install p node
  | none => return fs

def lookAll (fs : FileSystem) (paths : List FilePath) : IO FileSystem :=
  paths.foldlM look fs

/-- The files that a command line reads first. -/
def namedFiles (a : Arguments) : List FilePath :=
  ((CommandLine.given? a.file).toList ++ (CommandLine.given? a.config).toList).map FilePath.ofString

/-- The templates that a configuration names. -/
def templateFiles (c : Config) : List FilePath :=
  match c.templateDir with
  | .str directory =>
    let base := FilePath.ofString directory
    base :: (Config.templateSettings.map fun k => base.join (.ofString (c.get k).text))
  | _ => []

/-- The part of the file system that matters for a command line. -/
def surroundings (line : List String) : IO FileSystem := do
  let here := ((← IO.currentDir).toString.splitOn "/").filter fun s => !s.isEmpty
  let fs := FileSystem.atDirectory here
  match CommandLine.parse line with
  | .error _ => return fs
  | .ok a =>
    let fs ← lookAll fs (namedFiles a)
    match (Config.load fs (CommandLine.valueOf a.config) (CommandLine.overrides a)).result with
    | .error _ => return fs
    | .ok c => lookAll fs (templateFiles c)

/-- Writes the files in which one file system differs from another. -/
def writeChanges (old new : FileSystem) : IO Unit :=
  (new.filesBelow []).forM fun (l, content) => do
    if old.node? l != some (.file content) then
      IO.FS.createDirAll ("/" ++ String.intercalate "/" l.dropLast)
      IO.FS.writeBinFile ("/" ++ String.intercalate "/" l) (ByteArray.mk content.toArray)

end TypeStencil.Program

open TypeStencil

def main (line : List String) : IO UInt32 := do
  let files ← Program.surroundings line
  let world : World := {
    files
    fetch := fun _ _ => .failed "no network"
    decode := fun _ _ => "" }
  let outcome := CommandLine.run world line
  outcome.logs.forM fun r => IO.eprintln (r.level.label ++ " " ++ r.message)
  IO.print outcome.output
  IO.eprint outcome.complaint
  Program.writeChanges files outcome.files
  match outcome.result with
  | .ok code => return code.toUInt32
  | .error f =>
    IO.eprintln ("error: " ++ f.message)
    return 1
