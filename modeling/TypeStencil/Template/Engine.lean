import TypeStencil.Files.FileSystem
import TypeStencil.Template.Packaged
import TypeStencil.Trace

/-!
Template engines: where templates are found, and the indentation that the indent filter uses by
itself. Whatever stops a rendering is reported together with the name of the template.
-/
namespace TypeStencil

/-- Answers a template name and a context with a text. -/
abbrev Renderer := Value → Context → Except Fault String

/-- Templates come from a directory, where a path of segments may hold a text, or from memory. -/
inductive TemplateSource where
  | directory (shown : String) (text? : List String → Option (Except Text.Utf8Fault String))
  | memory (templates : List (String × String))

structure TemplateEngine where
  source : TemplateSource
  indentSize : Value

namespace TemplateEngine

open Template

/-- Stands for the place of the templates that come with the library. -/
def packagedPlace : String := "<TEMPLATES>"

def packagedSource : TemplateSource :=
  .directory packagedPlace fun
    | [name] => (Packaged.templates.lookup name).map .ok
    | _ => none

/-- The engine with the templates that come with the library. -/
def packaged (indentSize : Value) : TemplateEngine :=
  ⟨packagedSource, indentSize⟩

def directorySource (fs : FileSystem) (p : FilePath) : TemplateSource :=
  .directory p.text fun segments =>
    match fs.readText (p.join ⟨.relative, segments⟩) with
    | .ok text => some text
    | .error _ => none

/-- The engine for a template directory, which starts without templates if none is given or it is
not there. -/
def ofDirectory (fs : FileSystem) (directory indentSize : Value) : Traced TemplateEngine :=
  if !directory.isPresent then return ⟨.memory [], indentSize⟩
  else match directory with
    | .str s => do
      let p := FilePath.ofString s
      if ← Traced.of ((fs.exists? p).mapError .file) then
        return ⟨directorySource fs p, indentSize⟩
      else
        Traced.log .warning ("Template directory not found: " ++ p.text)
        return ⟨.memory [], indentSize⟩
    | v => Traced.fail (.type (.notPath v.kind))

/-- As `ofDirectory`, but with the templates of the library if no directory is given. -/
def create (fs : FileSystem) (directory indentSize : Value) : Traced TemplateEngine :=
  if directory.isPresent then ofDirectory fs directory indentSize
  else return packaged indentSize

/-- The segments of a template name; none may lead upwards. -/
def nameSegments? (name : String) : Option (List String) :=
  let segments := PathText.segments name.toList
  if segments.contains PathText.parentSegment then none
  else some ((segments.filter fun s => s != [] && s != ['.']).map String.ofList)

/-- The text of a template. -/
def sourceText (e : TemplateEngine) (name : Value) : Except Fault String :=
  match e.source, name with
  | _, .list _ => .error (.type (.unhashable .list))
  | _, .table _ => .error (.type (.unhashable .table))
  | .directory shown text?, .str s =>
    match nameSegments? s with
    | none => .error (.template (.missing name none))
    | some segments =>
      match text? segments with
      | none => .error (.template (.missing name (some shown)))
      | some text => text.mapError .utf8
  | .directory .., v => .error (.noAttribute v.kind "split")
  | .memory templates, .str s =>
    match templates.lookup s with
    | some text => .ok text
    | none => .error (.template (.missing name none))
  | .memory _, _ => .error (.template (.missing name none))

/-- Where the program of a template is said to stand if its text comes from memory. -/
def memoryFile : String := "<template>"

/-- Where the program of a template is said to stand: in the file of its text. -/
def programFile (e : TemplateEngine) (name : String) : String :=
  match e.source with
  | .memory _ => memoryFile
  | .directory .. => ((nameSegments? name).bind List.getLast?).getD name

def tree (e : TemplateEngine) (name : Value) : Except Fault (List Node) := do
  let text ← e.sourceText name
  compile e.indentSize (e.programFile name.text) text.toList

/-- Renders a tree with a context, which may use every name but one. -/
def renderTreeWith (e : TemplateEngine) (template : Option String) (context : Context)
    (tree : List Node) : Except Fault String :=
  if (context.lookup "self").isSome then
    .error (.type (.repeatedArgument "Template.render" "self"))
  else renderTree ⟨e.indentSize, template⟩ context tree

def renderSource (e : TemplateEngine) (source : String) (context : Context) :
    Except Fault String := do
  e.renderTreeWith none context (← compile e.indentSize memoryFile source.toList)

/-- Renders the template of a name. -/
def render (e : TemplateEngine) : Renderer := fun name context =>
  (do e.renderTreeWith (some name.text) context (← e.tree name)).mapError (.rendering name.text)

def renderString (e : TemplateEngine) (source : String) (context : Context) :
    Except Fault String :=
  (e.renderSource source context).mapError (.rendering "string")

/-- Adds a template in memory; an engine with a directory leaves the directory. -/
def add (e : TemplateEngine) (name text : String) : TemplateEngine :=
  let known := match e.source with
    | .memory templates => templates
    | .directory .. => []
  { e with source := .memory ((name, text) :: known) }

/-- Whether there is a template of the name; one that cannot be read is an error. -/
def exists? (e : TemplateEngine) (name : Value) : Except Fault Bool :=
  match e.tree name with
  | .ok _ => .ok true
  | .error (.template (.missing ..)) => .ok false
  | .error f => .error f

end TemplateEngine

end TypeStencil
