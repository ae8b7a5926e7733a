import TypeStencil.CommandLine.Usage
import TypeStencil.Text.Case
import TypeStencil.Text.Digit

/-!
Reading the words of a command line. A word is a switch, the separator behind which all words are
plain, or plain itself; a switch that takes a value finds it in its own word or in the next one.
Long switches may be cut short as long as they stay unique, and short ones may share a word.
-/
namespace TypeStencil

/-- What a command line asks for. -/
structure Arguments where
  file : Option String := none
  url : Option String := none
  config : Option String := none
  outputDir : Option String := none
  templateDir : Option String := none
  stdout : Bool := false
  listReferences : Bool := false
  verbose : Bool := false
  deriving DecidableEq, Repr

namespace CommandLine

/-- Why a command line is not carried out. -/
inductive Stop where
  | help
  | refused (cause : UsageFault)
  deriving DecidableEq, Repr

inductive Word where
  | plain (text : String)
  | separator
  | switch (s : Switch) (isShort : Bool) (attached : Option (List Char))
  | unknown (text : String)
  deriving DecidableEq, Repr

/-- The part of a word in front of its first equals sign, and the value behind it. -/
def splitEquals (word : List Char) : String × Option (List Char) :=
  (String.ofList (word.takeWhile (· != '=')), (word.dropWhile (· != '=')).tail?)

/-- Digits with at most one point, which stands before a digit. A line break may follow. -/
def isNumber (s : List Char) : Bool :=
  let s := if s.getLast? = some '\n' then s.dropLast else s
  match s.dropWhile Text.isDecimal with
  | [] => !s.isEmpty
  | '.' :: r => !r.isEmpty && r.all Text.isDecimal
  | _ => false

/-- The switches that a word with two hyphens may be short for. -/
def longCandidates (word : List Char) : List (String × Word) :=
  let (name, attached) := splitEquals word
  (Switch.table.filter fun e => e.1.startsWith name).map fun e =>
    (e.1, .switch e.2 false attached)

/-- The short switch that a word begins with. -/
def shortCandidates (c : Char) (value : List Char) : List (String × Word) :=
  (Switch.table.filter fun e => e.1 == String.ofList ['-', c]).map fun e =>
    (e.1, .switch e.2 true (some value))

def candidates (word : List Char) : List (String × Word) :=
  match word with
  | '-' :: '-' :: _ => longCandidates word
  | '-' :: c :: value => shortCandidates c value
  | _ => []

def isShort (spelling : String) : Bool :=
  spelling.length = 2

/-- A word with a hyphen that is no switch is plain if it is a number or holds a space. -/
def unmatched (word : List Char) : Word :=
  if isNumber (word.drop 1) || word.contains ' ' then .plain (String.ofList word)
  else .unknown (String.ofList word)

def wordOf (text : String) : Except UsageFault Word :=
  let word := text.toList
  if word.head? ≠ some '-' ∨ word = ['-'] then .ok (.plain text)
  else
    match Switch.ofSpelling? text with
    | some s => .ok (.switch s (isShort text) none)
    | none =>
      let (name, attached) := splitEquals word
      match attached, Switch.ofSpelling? name with
      | some value, some s => .ok (.switch s (isShort name) (some value))
      | _, _ =>
        match candidates word with
        | [] => .ok (unmatched word)
        | [(_, only)] => .ok only
        | several => .error (.ambiguous text (several.map (·.1)))

def words : List String → Except UsageFault (List Word)
  | [] => .ok []
  | text :: rest =>
    if text = "--" then .ok (.separator :: rest.map .plain)
    else do return (← wordOf text) :: (← words rest)

/-- What one word of switches asks for: settings, and a switch that still waits for its value. -/
structure Request where
  settings : List (Switch × String)
  pending : Option Switch := none
  deriving DecidableEq, Repr

namespace Request

/-- A switch that stands alone. -/
def bare (s : Switch) : Request :=
  if s.takesValue then ⟨[], some s⟩ else ⟨[(s, "")], none⟩

def after (s : Switch) (r : Request) : Request :=
  { r with settings := (s, "") :: r.settings }

/-- A switch with its value in the same word. A separator in its place leaves the value empty. -/
def withValue (s : Switch) (value : List Char) : Request :=
  ⟨[(s, if value = ['-', '-'] then "" else String.ofList value)], none⟩

/-- A short switch with more behind it in its word, which is its value or further short switches. -/
def ofShort (s : Switch) (value : List Char) : Except UsageFault Request :=
  if s.takesValue then .ok (withValue s value)
  else
    match value with
    | [] => .error (.extraValue s "")
    | c :: r =>
      match Switch.ofSpelling? (String.ofList ['-', c]), r with
      | none, r => .error (.extraValue s (String.ofList (c :: r)))
      | some next, [] => .ok (after s (bare next))
      | some next, d :: more => do return after s (← ofShort next (d :: more))
  termination_by value.length

def ofSwitch (s : Switch) (isShort : Bool) : Option (List Char) → Except UsageFault Request
  | none => .ok (bare s)
  | some value =>
    if isShort then ofShort s value
    else if s.takesValue then .ok (withValue s value)
    else .error (.extraValue s (String.ofList value))

end Request

/-- How far a command line has been read. -/
structure Progress where
  arguments : Arguments := {}
  fileRead : Bool := false
  leftovers : List String := []
  deriving DecidableEq, Repr

namespace Progress

/-- A document comes from a file or from a URL. -/
def setFile (p : Progress) (file : String) : Except Stop Progress :=
  if p.arguments.url.isSome then .error (.refused (.exclusive "file" Switch.url.label))
  else .ok { p with arguments := { p.arguments with file := some file }, fileRead := true }

def setUrl (a : Arguments) (url : String) : Except Stop Arguments :=
  if a.file.isSome then .error (.refused (.exclusive Switch.url.label "file"))
  else .ok { a with url := some url }

def set (a : Arguments) (s : Switch) (value : String) : Except Stop Arguments :=
  match s with
  | .help => .error .help
  | .url => setUrl a value
  | .config => .ok { a with config := some value }
  | .outputDir => .ok { a with outputDir := some value }
  | .templateDir => .ok { a with templateDir := some value }
  | .stdout => .ok { a with stdout := true }
  | .listReferences => .ok { a with listReferences := true }
  | .verbose => .ok { a with verbose := true }

def follow (p : Progress) (settings : List (Switch × String)) : Except Stop Progress := do
  return { p with arguments := ← settings.foldlM (fun a e => set a e.1 e.2) p.arguments }

def leave (p : Progress) (text : String) : Progress :=
  { p with leftovers := p.leftovers ++ [text] }

/-- Reads words one after another. The first plain word is the file; a separator next to it, or in
its place, is passed over. -/
def read (p : Progress) : List Word → Except Stop Progress
  | [] => .ok p
  | .unknown text :: rest => read (p.leave text) rest
  | .plain text :: .separator :: rest =>
    if p.fileRead then read ((p.leave text).leave "--") rest
    else do read (← p.setFile text) rest
  | .plain text :: rest =>
    if p.fileRead then read (p.leave text) rest else do read (← p.setFile text) rest
  | .separator :: .plain text :: rest =>
    if p.fileRead then read ((p.leave "--").leave text) rest
    else do read (← p.setFile text) rest
  | .separator :: rest =>
    if p.fileRead then read (p.leave "--") rest else read { p with fileRead := true } rest
  | .switch s isShort attached :: rest => do
    let r ← (Request.ofSwitch s isShort attached).mapError .refused
    match r.pending, rest with
    | none, rest => read (← p.follow r.settings) rest
    | some waiting, .plain value :: rest =>
      read (← p.follow (r.settings ++ [(waiting, value)])) rest
    | some waiting, _ => .error (.refused (.missingValue waiting))

end Progress

/-- Reads a command line. -/
def parse (line : List String) : Except Stop Arguments := do
  let words ← (words line).mapError .refused
  let p ← Progress.read {} words
  if p.leftovers.isEmpty then return p.arguments
  else throw (.refused (.unrecognized p.leftovers))

end CommandLine

end TypeStencil
