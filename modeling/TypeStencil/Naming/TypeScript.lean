import TypeStencil.Naming.Sanitizer
import TypeStencil.Value.Text

/-!
Names of TypeScript artifacts: the type name of a resource in Pascal case, away from the words and
global types of the language, and the name of its file in kebab case.
-/
namespace TypeStencil

namespace TypeScript

def reservedWords : List String := [
  "break", "case", "catch", "class", "const", "continue", "debugger", "default", "delete", "do",
  "else", "enum", "export", "extends", "false", "finally", "for", "function", "if", "import", "in",
  "instanceof", "new", "null", "return", "super", "switch", "this", "throw", "true", "try",
  "typeof", "var", "void", "while", "with", "implements", "interface", "let", "package", "private",
  "protected", "public", "static", "yield"]

/-- Global types that a generated class must not shadow. -/
def builtinTypes : List String := [
  "array", "boolean", "date", "error", "function", "map", "number", "object", "promise", "record",
  "set", "string", "symbol"]

def defaultName : String := "Model"

def typeRules : NamingRules := ⟨reservedWords, builtinTypes, defaultName⟩
def fileRules : NamingRules := ⟨[], [], defaultName⟩

/-- Put behind a type name that is reserved. -/
def conflictSuffix : String := "Model"

/-- Drops the underscores in front of a file name. -/
def dropUnderscores (name : String) : String :=
  String.ofList (name.toList.dropWhile (· == '_'))

def typeName (name : Value) : String :=
  typeRules.plain name.text .pascal conflictSuffix

def fileName (name : Value) : String :=
  dropUnderscores (fileRules.plain name.text .kebab "_")

end TypeScript

/-- The names of an artifact. -/
structure Identifiers where
  typeName : String
  fileName : String
  deriving DecidableEq, Repr

namespace Identifiers

def ofName (name : Value) : Identifiers :=
  let typeName := TypeScript.typeName name
  ⟨typeName, TypeScript.fileName (.str typeName)⟩

end Identifiers

/-- The two sanitizers that all artifacts of a run share, with what they remember. -/
structure NameService where
  types : Sanitizer
  files : Sanitizer

namespace NameService

def fresh : NameService :=
  ⟨.ofRules TypeScript.typeRules, .ofRules TypeScript.fileRules⟩

def typeName (s : NameService) (name : Value) : NameService × String :=
  let (types, result) := s.types.sanitizePlain name.text .pascal TypeScript.conflictSuffix
  ({ s with types }, result)

def fileName (s : NameService) (name : Value) : NameService × String :=
  let (files, result) := s.files.sanitizePlain name.text .kebab "_"
  ({ s with files }, TypeScript.dropUnderscores result)

def identifiers (s : NameService) (name : Value) : NameService × Identifiers :=
  let (s, typeName) := s.typeName name
  let (s, fileName) := s.fileName (.str typeName)
  (s, ⟨typeName, fileName⟩)

end NameService

end TypeStencil
