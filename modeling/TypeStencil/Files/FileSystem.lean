import TypeStencil.Fault
import TypeStencil.Files.FilePath

/-!
A file system as a value: what stands at each place, and the directory in which relative paths
begin. Every operation says what it refuses; there are no links.
-/
namespace TypeStencil

/-- The segments from the root to a place. -/
abbrev Location := List String

inductive FileNode where
  | directory
  | file (content : List UInt8)
  deriving DecidableEq, Repr

structure FileSystem where
  nodes : List (Location × FileNode)
  current : Location
  deriving Repr

namespace FileSystem

/-- The root is always a directory. -/
def node? (fs : FileSystem) (l : Location) : Option FileNode :=
  if l = [] then some .directory else fs.nodes.lookup l

def setNode (fs : FileSystem) (l : Location) (node : FileNode) : FileSystem :=
  { fs with nodes := (l, node) :: fs.nodes.filter fun e => e.1 ≠ l }

/-- In bytes. -/
def longestName : Nat := 255

/-- In bytes, for a whole path. -/
def longestPath : Nat := 4095

/-- Follows segments from a directory; the place that is reached need not exist. -/
def walk (fs : FileSystem) (l : Location) : List String → Except FileProblem Location
  | [] => .ok l
  | s :: rest =>
    match fs.node? l with
    | none => .error .missing
    | some (.file _) => .error .notDirectory
    | some .directory =>
      if longestName < s.utf8ByteSize then .error .longName
      else walk fs (if s = ".." then l.dropLast else l ++ [s]) rest

/-- The place that a path leads to. -/
def locate (fs : FileSystem) (p : FilePath) : Except FileFault Location :=
  if p.text.toList.contains '\x00' then .error .nullInPath
  else if longestPath < p.text.utf8ByteSize then .error (.refused .longName p.text)
  else
    (fs.walk (if p.root = .relative then fs.current else []) p.segments).mapError
      (.refused · p.text)

/-- What stands at a path, if anything does. A name that is too long is refused. -/
def find? (fs : FileSystem) (p : FilePath) : Except FileFault (Option FileNode) :=
  match fs.locate p with
  | .ok l => .ok (fs.node? l)
  | .error (.refused .longName path) => .error (.refused .longName path)
  | .error _ => .ok none

def exists? (fs : FileSystem) (p : FilePath) : Except FileFault Bool :=
  return (← fs.find? p).isSome

def isDirectory? (fs : FileSystem) (p : FilePath) : Except FileFault Bool :=
  return (← fs.find? p) == some .directory

def read (fs : FileSystem) (p : FilePath) : Except FileFault (List UInt8) := do
  match fs.node? (← fs.locate p) with
  | none => throw (.refused .missing p.text)
  | some .directory => throw (.refused .isDirectory p.text)
  | some (.file content) => return content

/-- Writes a file anew; its directory has to be there. -/
def write (fs : FileSystem) (p : FilePath) (content : List UInt8) :
    Except FileFault FileSystem := do
  let l ← fs.locate p
  match fs.node? l with
  | some .directory => throw (.refused .isDirectory p.text)
  | some (.file _) => return fs.setNode l (.file content)
  | none =>
    match fs.node? l.dropLast with
    | some .directory => return fs.setNode l (.file content)
    | _ => throw (.refused .missing p.text)

def makeDirectory (fs : FileSystem) (p : FilePath) : Except FileFault FileSystem := do
  let l ← fs.locate p
  if (fs.node? l).isSome then throw (.refused .occupied p.text)
  return fs.setNode l .directory

/-- Makes one directory, or finds it already there. -/
def ensureDirectory (fs : FileSystem) (p : FilePath) : FileSystem × Except FileFault Unit :=
  match fs.makeDirectory p with
  | .ok fs => (fs, .ok ())
  | .error f => (fs, do if ← fs.isDirectory? p then pure () else throw f)

/-- Makes a directory and those above it that are missing, looking at no more than `depth`
segments. -/
def ensureWithin (fs : FileSystem) (p : FilePath) : Nat → FileSystem × Except FileFault Unit
  | 0 => fs.ensureDirectory p
  | depth + 1 =>
    match fs.makeDirectory p with
    | .error (.refused .missing _) =>
      match fs.ensureWithin p.parent depth with
      | (fs, .ok ()) => fs.ensureDirectory p
      | (fs, .error f) => (fs, .error f)
    | _ => fs.ensureDirectory p

def ensureDirectories (fs : FileSystem) (p : FilePath) : FileSystem × Except FileFault Unit :=
  fs.ensureWithin p p.segments.length

/-- An empty file system whose current directory is there. -/
def atDirectory (current : Location) : FileSystem :=
  ⟨(List.range current.length).map fun n => (current.take (n + 1), .directory), current⟩

/-- Puts a file or directory in place with all directories above it. -/
def install (fs : FileSystem) (p : FilePath) (node : FileNode) : FileSystem :=
  match node with
  | .directory => (fs.ensureDirectories p).1
  | .file content =>
    let fs := (fs.ensureDirectories p.parent).1
    match fs.write p content with
    | .ok fs => fs
    | .error _ => fs

/-- The files below a place, with their paths from there. -/
def filesBelow (fs : FileSystem) (l : Location) : List (Location × List UInt8) :=
  fs.nodes.filterMap fun (m, node) =>
    match node with
    | .file content => if l.isPrefixOf m then some (m.drop l.length, content) else none
    | .directory => none

end FileSystem

/-- The bytes of a text in UTF-8. -/
def utf8Bytes (s : String) : List UInt8 :=
  s.toUTF8.toList

/-- Reads a file as UTF-8 text with newlines alone as line breaks. -/
def FileSystem.readText (fs : FileSystem) (p : FilePath) :
    Except FileFault (Except Text.Utf8Fault String) := do
  let bytes ← fs.read p
  return (Text.Utf8.decode bytes).map fun s => String.ofList (Text.unifyBreaks s)

end TypeStencil
