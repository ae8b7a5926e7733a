import TypeStencil.Config.File

/-!
Well-known artifacts that generated classes depend on, the folders they are put into, and the
lines that import them.
-/
namespace TypeStencil

/-- Joins two path texts. -/
def joinPaths (a b : Value) : Except Fault String :=
  match a, b with
  | .str s, .str t => .ok (String.ofList (PathText.join s.toList t.toList))
  | .str _, v => .error (.type (.notJoinable v.kind))
  | v, _ => .error (.type (.notPath v.kind))

namespace Config

def functionPath (c : Config) : Except Fault String :=
  joinPaths c.outputDir c.functionFolder

def interfacePath (c : Config) : Except Fault String :=
  joinPaths c.outputDir c.interfaceFolder

def classPath (c : Config) : Except Fault String :=
  joinPaths c.outputDir c.classFolder

/-- The folder of an interface or a class. -/
def artifactPath (c : Config) (isInterface : Bool) : Except Fault String :=
  if isInterface then c.interfacePath else c.classPath

end Config

/-- An artifact that can be imported. -/
structure ObjectReference where
  fileName : Value
  refKey : String
  className : Value
  folderPath : Value
  deriving Repr

namespace ObjectReference

/-- A path to a module says that it is relative. -/
def specifier (relative : List Char) : List Char :=
  if relative.head? == some '.' then relative else '.' :: '/' :: relative

/-- Null stands for the current directory. -/
def startOf (folder : Value) : Except Fault String :=
  match folder with
  | .str s => .ok s
  | .null => .ok "."
  | v => .error (.type (.notPath v.kind))

/-- The module specifier of a reference in a file of the given folder. -/
def moduleSpecifier (r : ObjectReference) (folder : Value) : Except Fault String := do
  let target ← joinPaths r.folderPath r.fileName
  if target.isEmpty then throw (.value .noPath)
  let start ← startOf folder
  return String.ofList (specifier (PathText.relative target.toList start.toList))

def importStatement (r : ObjectReference) (folder : Value) : Except Fault String := do
  let specifier ← r.moduleSpecifier folder
  return "import \x7b" ++ r.className.text ++ "\x7d from \"" ++ specifier ++ "\";"

end ObjectReference

/-- A well-known artifact before its folder is known. -/
structure WellKnown where
  refKey : String
  className : String
  fileName : String
  folder : Setting
  deriving Repr

namespace WellKnown

def all : List WellKnown := [
  ⟨"HTTP_FUNCTION_REF", "http", "http", .functionFolder⟩,
  ⟨"HTTP_REQUEST_INTERCEPTOR_INTERFACE_REF", "RequestInterceptor", "i-$-open-api",
    .interfaceFolder⟩,
  ⟨"HTTP_ERROR_HANDLER_INTERFACE_REF", "ErrorHandler", "i-$-open-api", .interfaceFolder⟩,
  ⟨"OPEN_API_FUNCTION_REF", "openApi", "open-api", .functionFolder⟩,
  ⟨"QUERY_PARAMETER_FUNCTION_REF", "getQueryParameters", "get-query-params", .functionFolder⟩]

def resolve (w : WellKnown) (c : Config) : Except Fault ObjectReference := do
  let folder ← joinPaths c.outputDir (c.get w.folder)
  return ⟨.str w.fileName, w.refKey, .str w.className, .str folder⟩

end WellKnown

def Config.references (c : Config) : Except Fault (List ObjectReference) :=
  WellKnown.all.mapM fun w => w.resolve c

end TypeStencil
