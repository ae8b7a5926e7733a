import TypeStencil.Config
import TypeStencil.Descriptor.View
import TypeStencil.Naming.TypeScript
import TypeStencil.Sorting
import TypeStencil.Template.Engine
import TypeStencil.UniqueList

/-!
The model of one class or interface: the members registered so far, under their names, and what
goes around them. Members are rendered in the order of their names, so the text does not depend on
the order of registration.
-/
namespace TypeStencil

structure RegisteredFunction where
  view : FunctionView
  imports : List Value

structure RegisteredProperty where
  view : PropertyView
  importName : Value

/-- A finished artifact. -/
structure Artifact where
  typeName : String
  fileName : String
  text : String
  deriving DecidableEq, Repr

/-- The templates that a model is rendered with. -/
structure TemplateNames where
  function : Value
  property : Value
  artifact : Value

def Config.templateNames (c : Config) : TemplateNames :=
  ⟨c.functionTemplate, c.propertyTemplate, c.classTemplate⟩

structure ClassModel where
  identifiers : Identifiers
  description : List String
  imports : UniqueList
  functions : Entries RegisteredFunction
  properties : Entries RegisteredProperty

namespace ClassModel

def ofIdentifiers (identifiers : Identifiers) : ClassModel :=
  ⟨identifiers, [], .empty, [], []⟩

/-- A model without functions is an interface. -/
def isInterface (m : ClassModel) : Bool :=
  m.functions.isEmpty

def addDescription (text : Value) : Change ClassModel Unit := do
  let lines ← .of (Traced.ofType text.lines)
  .modify fun m => { m with description := m.description ++ lines }

/-- Adds import lines up to the first that cannot be one. -/
def addImports (m : ClassModel) (items : List Value) : ClassModel × Except TypeFault Unit :=
  let (imports, result) := m.imports.pushAll items
  ({ m with imports }, result)

/-- Logs that a member takes the place of another. -/
def logReplaced {α : Type} (m : ClassModel) (kind : String) (members : Entries α)
    (name : Scalar) : Traced Unit :=
  if members.contains name then
    Traced.log .debug ("Replacing " ++ kind ++ " " ++ name.text ++ " in " ++ m.identifiers.typeName)
  else return ()

/-- Registers a function in the place of one of the same name. -/
def addFunction (d : FunctionDescriptor) : Change ClassModel Unit := do
  let m ← .get
  let name ← .of (Traced.ofType d.functionName.hashable)
  .of (m.logReplaced "function" m.functions name)
  let view ← .of (Traced.ofType (FunctionView.ofDescriptor d))
  let imports ← .of (Traced.ofType (FunctionView.listItems d.imports))
  .modify fun m => { m with functions := m.functions.put name ⟨view, imports⟩ }

/-- Registers a property in the place of one of the same name. -/
def addProperty (d : PropertyDescriptor) : Change ClassModel Unit := do
  let m ← .get
  let name ← .of (Traced.ofType d.propertyName.hashable)
  .of (m.logReplaced "property" m.properties name)
  let view ← .of (Traced.ofType (PropertyView.ofDescriptor d))
  .modify fun m => { m with properties := m.properties.put name ⟨view, d.importName⟩ }

/-- Members in the order of their names. -/
def sortMembers {α : Type} (members : Entries α) : Except Fault (List (Scalar × α)) :=
  Sorting.sortByKey (fun e => .ok (.scalar e.1)) members

/-- Renders a template and records the call. -/
def renderTemplate (render : Renderer) (template : Value) (context : Context) : Traced String := do
  Traced.event (.rendered template context)
  Traced.of (render template context)

/-- The texts of all members. -/
structure RenderedMembers where
  functions : List (RegisteredFunction × String)
  properties : List (RegisteredProperty × String)

def renderMembers (m : ClassModel) (render : Renderer) (templates : TemplateNames) :
    Traced RenderedMembers := do
  let functions ← Traced.of (sortMembers m.functions)
  let functions ← functions.mapM fun e => do
    return (e.2, ← renderTemplate render templates.function e.2.view.toContext)
  let properties ← Traced.of (sortMembers m.properties)
  let properties ← properties.mapM fun e => do
    return (e.2, ← renderTemplate render templates.property e.2.view.toContext)
  return ⟨functions, properties⟩

/-- The import lines that the members ask for. -/
def RenderedMembers.imports (members : RenderedMembers) : List Value :=
  members.functions.flatMap (fun f => f.1.imports.filter Value.isPresent) ++
    (members.properties.map fun p => p.1.importName).filter Value.isPresent

/-- What the class template sees. -/
structure ClassView where
  typeName : String
  isInterface : Bool
  imports : List Value
  description : List String
  functions : List (List String)
  properties : List (List String)
  deriving Repr

namespace ClassView

def toContext (v : ClassView) : Context := [
  ("type_name", .str v.typeName),
  ("is_interface", .bool v.isInterface),
  ("has_imports", .bool !v.imports.isEmpty),
  ("imports", .list v.imports),
  ("has_description", .bool !v.description.isEmpty),
  ("description", .strings v.description),
  ("has_functions", .bool !v.functions.isEmpty),
  ("functions", .list (v.functions.map Value.strings)),
  ("has_properties", .bool !v.properties.isEmpty),
  ("properties", .list (v.properties.map Value.strings))]

end ClassView

def view (m : ClassModel) (members : RenderedMembers) : Except Fault ClassView := do
  let imports ← sortValues (.list m.imports.toList)
  return {
    typeName := m.identifiers.typeName
    isInterface := m.isInterface
    imports
    description := m.description
    functions := members.functions.map fun f => Text.lines f.2
    properties := members.properties.map fun p => Text.lines p.2 }

/-- Renders the class around its members. -/
def renderClass (m : ClassModel) (render : Renderer) (templates : TemplateNames)
    (members : RenderedMembers) : Traced Artifact := do
  let v ← Traced.of (m.view members)
  let text ← renderTemplate render templates.artifact v.toContext
  Traced.log .info ("Rendered " ++ (if v.isInterface then "interface" else "class") ++ " " ++
    v.typeName ++ " (" ++ toString v.functions.length ++ " functions, " ++
    toString v.properties.length ++ " properties)")
  return ⟨m.identifiers.typeName, m.identifiers.fileName, text⟩

/-- Renders the model. The import lines of the members stay with the model as soon as all members
are rendered, also if the class then fails. -/
def render (m : ClassModel) (render : Renderer) (templates : TemplateNames) :
    ClassModel × Traced Artifact :=
  let members := m.renderMembers render templates
  match members.result with
  | .error f => (m, ⟨members.events, .error f⟩)
  | .ok texts =>
    let (m, result) := m.addImports texts.imports
    (m, do
      let texts ← members
      Traced.ofType result
      m.renderClass render templates texts)

/-- A step in the life of a model. -/
inductive Step where
  | description (text : Value)
  | imports (items : List Value)
  | function (d : FunctionDescriptor)
  | property (d : PropertyDescriptor)
  | render

/-- One step: the model after it and, for a rendering, the artifact. -/
def step (renderer : Renderer) (templates : TemplateNames) (m : ClassModel) :
    Step → ClassModel × Traced (Option Artifact)
  | .description text => registered (addDescription text m)
  | .imports items =>
    let (m, result) := m.addImports items
    (m, Traced.ofType (result.map fun _ => none))
  | .function d => registered (addFunction d m)
  | .property d => registered (addProperty d m)
  | .render =>
    let (m, artifact) := m.render renderer templates
    (m, some <$> artifact)
where
  registered : ClassModel × Traced Unit → ClassModel × Traced (Option Artifact)
    | (m, result) => (m, (fun _ => none) <$> result)

/-- The model after a history of steps, with the outcome of each. -/
def run (renderer : Renderer) (templates : TemplateNames) (m : ClassModel) :
    List Step → ClassModel × List (Traced (Option Artifact))
  | [] => (m, [])
  | s :: rest =>
    let (m, outcome) := m.step renderer templates s
    let (m, outcomes) := m.run renderer templates rest
    (m, outcome :: outcomes)

end ClassModel

end TypeStencil
