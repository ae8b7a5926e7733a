import TypeStencil.ClassModel

/-!
Descriptor documents: building the model of a class entry, and what looks suspicious about a
document.
-/
namespace TypeStencil

namespace Document

/-- The table of a member. -/
def memberEntries (v : Value) : Except TypeFault (Entries Value) :=
  match v with
  | .table entries => .ok entries
  | v => .error (.memberNotObject v.kind)

/-- The members under a name of an entry; what counts as absent has none. -/
def memberList (entry : Entries Value) (name : String) : Except TypeFault (List Value) :=
  ((Value.field entry name).orElse (.list [])).items

def addProperties (m : ClassModel) : List Value → Traced ClassModel
  | [] => return m
  | v :: rest => do
    let entries ← Traced.ofType (memberEntries v)
    let d ← Traced.ofType (PropertyDescriptor.ofEntries entries)
    let (m, registered) := ClassModel.addProperty d m
    registered
    addProperties m rest

def addFunctions (m : ClassModel) : List Value → Traced ClassModel
  | [] => return m
  | v :: rest => do
    let entries ← Traced.ofType (memberEntries v)
    let d ← Traced.ofType (FunctionDescriptor.ofEntries entries)
    let (m, registered) := ClassModel.addFunction d m
    registered
    addFunctions m rest

/-- Registers the members of an entry, the properties first. -/
def addMembers (entry : Entries Value) (m : ClassModel) : Traced ClassModel := do
  let properties ← Traced.ofType (memberList entry "properties")
  let m ← addProperties m properties
  let functions ← Traced.ofType (memberList entry "functions")
  addFunctions m functions

def addImportLines (m : ClassModel) (entry : Entries Value) : Traced ClassModel := do
  let lines ← Traced.ofType (memberList entry "imports")
  let (m, result) := m.addImports lines
  Traced.ofType result
  return m

/-- A member that is refused is reported with the name of the class. -/
def inClass (name : Value) (f : Fault) : Fault :=
  match f with
  | .type cause => .generator (.member name cause)
  | f => f

/-- The table and the name of a class entry. -/
def entryName (entry : Value) : Except GeneratorFault (Entries Value × Value) :=
  match entry with
  | .table entries =>
    match Value.field? entries "name" with
    | some name => .ok (entries, name)
    | none => .error .unnamed
  | v => .error (.entryNotObject v.kind)

/-- The model of an entry under names that are given. -/
def modelOf (identifiers : Identifiers) (entries : Entries Value) (name : Value) :
    Traced ClassModel := do
  let (m, described) := ClassModel.addDescription (Value.field entries "description")
    (.ofIdentifiers identifiers)
  described
  let m ← addImportLines m entries
  (addMembers entries m).mapFault (inClass name)

/-- Builds the model of an entry with the names that the service gives out. -/
def buildModel (names : NameService) (entry : Value) : Traced (NameService × ClassModel) := do
  let (entries, name) ← Traced.of ((entryName entry).mapError .generator)
  let (names, identifiers) := names.identifiers name
  return (names, ← modelOf identifiers entries name)

/-- The first of several spellings that a member has. -/
def firstSpelling? (entries : Entries Value) : List String → Option Value
  | [] => none
  | k :: rest => (Value.field? entries k).or (firstSpelling? entries rest)

/-- One warning for each member whose name an earlier member of the list has. -/
def duplicateWarnings (kind : String) (spellings : List String) (className : Value) :
    List Scalar → List Value → Except TypeFault (List String)
  | _, [] => .ok []
  | seen, v :: rest =>
    match v with
    | .table entries => do
      let name := (firstSpelling? entries spellings).getD .null
      let key ← name.hashable
      let warnings ← duplicateWarnings kind spellings className (key :: seen) rest
      return if seen.any (·.same key) then
        ("Duplicate " ++ kind ++ " '" ++ name.text ++ "' in class '" ++ className.text ++
          "' - last one wins") :: warnings
      else warnings
    | _ => duplicateWarnings kind spellings className seen rest

def propertySpellings : List String := ["property_name", "propertyName"]
def functionSpellings : List String := ["function_name", "functionName"]

/-- The warnings about a class entry. -/
def entryWarnings (entries : Entries Value) : Except TypeFault (List String) := do
  let name := (Value.field? entries "name").getD (.str "<unnamed>")
  let properties := (Value.field entries "properties").orElse (.list [])
  let functions := (Value.field entries "functions").orElse (.list [])
  let empty := if !properties.isPresent && !functions.isPresent then
      ["Class '" ++ name.text ++ "' has no members - will generate empty interface"]
    else []
  let twiceProperties ←
    duplicateWarnings "property" propertySpellings name [] (← properties.items)
  let twiceFunctions ← duplicateWarnings "function" functionSpellings name [] (← functions.items)
  return empty ++ twiceProperties ++ twiceFunctions

/-- The warnings about the entries of a list; what is no table is passed over. -/
def listWarnings : List Value → Except TypeFault (List String)
  | [] => .ok []
  | .table entries :: rest => do return (← entryWarnings entries) ++ (← listWarnings rest)
  | _ :: rest => listWarnings rest

/-- The warnings about a document. -/
def warnings (document : Value) : Except Fault (List String) :=
  match document with
  | .table entries => do
    let classes ← ((Value.field entries "classes").orElse (.list [])).items.mapError .type
    (listWarnings classes).mapError .type
  | v => .error (.noAttribute v.kind "get")

end Document

end TypeStencil
