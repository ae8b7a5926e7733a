import TypeStencil.Value.Order

/-!
Settings of the generator: what they are called, their defaults, and how the layers that set them
are merged.
-/
namespace TypeStencil

inductive Setting where
  | templateDir
  | functionTemplate
  | propertyTemplate
  | classTemplate
  | outputDir
  | functionFolder
  | interfaceFolder
  | classFolder
  | fileExtension
  | indentSize
  | custom
  deriving DecidableEq, Repr

namespace Setting

def all : List Setting :=
  [templateDir, functionTemplate, propertyTemplate, classTemplate, outputDir, functionFolder,
    interfaceFolder, classFolder, fileExtension, indentSize, custom]

def name : Setting → String
  | templateDir => "template_dir"
  | functionTemplate => "function_template"
  | propertyTemplate => "property_template"
  | classTemplate => "class_template"
  | outputDir => "output_dir"
  | functionFolder => "function_folder"
  | interfaceFolder => "interface_folder"
  | classFolder => "class_folder"
  | fileExtension => "file_extension"
  | indentSize => "indent_size"
  | custom => "custom"

def ofName? (s : String) : Option Setting :=
  all.find? fun k => k.name == s

def default : Setting → Value
  | templateDir => .null
  | functionTemplate => .str "function-class.ts.j2"
  | propertyTemplate => .str "property-class.ts.j2"
  | classTemplate => .str "service-class.ts.j2"
  | outputDir => .str "generated"
  | functionFolder => .str "function"
  | interfaceFolder => .str "interface"
  | classFolder => .str "class"
  | fileExtension => .str ".ts"
  | indentSize => .int 4
  | custom => .table []

end Setting

/-- The settings of a run. Settings without a field of their own are entries of `custom`. -/
structure Config where
  templateDir : Value
  functionTemplate : Value
  propertyTemplate : Value
  classTemplate : Value
  outputDir : Value
  functionFolder : Value
  interfaceFolder : Value
  classFolder : Value
  fileExtension : Value
  indentSize : Value
  custom : Value
  deriving Repr

namespace Config

def get (c : Config) : Setting → Value
  | .templateDir => c.templateDir
  | .functionTemplate => c.functionTemplate
  | .propertyTemplate => c.propertyTemplate
  | .classTemplate => c.classTemplate
  | .outputDir => c.outputDir
  | .functionFolder => c.functionFolder
  | .interfaceFolder => c.interfaceFolder
  | .classFolder => c.classFolder
  | .fileExtension => c.fileExtension
  | .indentSize => c.indentSize
  | .custom => c.custom

def ofFunction (value : Setting → Value) : Config where
  templateDir := value .templateDir
  functionTemplate := value .functionTemplate
  propertyTemplate := value .propertyTemplate
  classTemplate := value .classTemplate
  outputDir := value .outputDir
  functionFolder := value .functionFolder
  interfaceFolder := value .interfaceFolder
  classFolder := value .classFolder
  fileExtension := value .fileExtension
  indentSize := value .indentSize
  custom := value .custom

theorem get_ofFunction (value : Setting → Value) (k : Setting) :
    (ofFunction value).get k = value k := by
  cases k <;> rfl

theorem ofFunction_get (c : Config) : ofFunction c.get = c := rfl

def default : Config :=
  ofFunction Setting.default

instance : Inhabited Config := ⟨default⟩

/-- All settings under their names. -/
def toEntries (c : Config) : List (String × Value) :=
  Setting.all.map fun k => (k.name, c.get k)

/-- The entries of the defaults. -/
def baseEntries : Entries Value :=
  Setting.all.map fun k => (.str k.name, k.default)

def settingOf? (name : Scalar) : Option Setting :=
  match name with
  | .str s => Setting.ofName? s
  | _ => none

/-- An item of a list that stands for a table: a name and a value. -/
def pairOf (index : Nat) (item : Value) : Except Fault (Value × Value) :=
  match item.items with
  | .error _ => .error (.type (.notPair index))
  | .ok [k, v] => .ok (k, v)
  | .ok items => .error (.value (.pairLength index items.length))

def pairsFrom (entries : Entries Value) : Nat → List Value → Except Fault (Entries Value)
  | _, [] => .ok entries
  | index, item :: rest => do
    let (k, v) ← pairOf index item
    let name ← k.hashable.mapError .type
    pairsFrom (entries.put name v) (index + 1) rest

/-- A value read as a table: a table, or the names and values in turn of a list of pairs. -/
def tableOf (v : Value) : Except Fault (Entries Value) :=
  match v with
  | .table entries => .ok entries
  | v => do
    let items ← v.items.mapError .type
    pairsFrom [] 0 items

/-- The configuration of merged entries. Entries that are no setting go into `custom`, after what
is set there. -/
def ofEntries (entries : Entries Value) : Except Fault Config := do
  let known := entries.filter fun e => (settingOf? e.1).isSome
  let unknown := entries.filter fun e => (settingOf? e.1).isNone
  let value (k : Setting) : Value := (Value.field? known k.name).getD k.default
  if unknown.isEmpty then return ofFunction value
  else
    let existing ← tableOf ((value .custom).orElse (.table []))
    let custom := Value.table (existing.update unknown)
    return ofFunction fun k => if k = .custom then custom else value k

/-- The defaults, overlaid with the entries of a file and then with the overrides. -/
def layered (file overrides : Entries Value) : Except Fault Config :=
  ofEntries ((baseEntries.update file).update overrides)

/-- The configuration with overrides alone. -/
def ofOverrides (overrides : Entries Value) : Except Fault Config :=
  layered [] overrides

/-- What is saved: every setting but `custom`, and then the entries of `custom`, an entry named as
a setting in the place of the setting. -/
def savedEntries (c : Config) : Except Fault (Entries Value) := do
  let fields : Entries Value :=
    (Setting.all.filter (· ≠ .custom)).map fun k => (.str k.name, c.get k)
  return fields.update (← tableOf c.custom)

end Config

end TypeStencil
