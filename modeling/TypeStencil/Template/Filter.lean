import TypeStencil.Naming.Case
import TypeStencil.Template.Datum
import TypeStencil.Text.Blank

/-!
The filters of templates: case styles of names, indentation, comment marks, upper case, and the
conversion of path placeholders into template literals.
-/
namespace TypeStencil.Template

inductive Filter where
  | snakeCase
  | camelCase
  | pascalCase
  | indent
  | comment
  | pathTemplate
  | upper
  deriving DecidableEq, Repr

namespace Filter

def all : List Filter :=
  [snakeCase, camelCase, pascalCase, indent, comment, pathTemplate, upper]

def name : Filter → String
  | snakeCase => "snake_case"
  | camelCase => "camel_case"
  | pascalCase => "pascal_case"
  | indent => "indent"
  | comment => "comment"
  | pathTemplate => "path_template"
  | upper => "upper"

def ofName? (s : String) : Option Filter :=
  all.find? fun f => f.name == s

/-- What messages call the filter, and how many arguments come before its subject. -/
def title : Filter → String × Nat
  | snakeCase => ("TemplateEngine._snake_case_filter", 1)
  | camelCase => ("TemplateEngine._camel_case_filter", 1)
  | pascalCase => ("TemplateEngine._pascal_case_filter", 1)
  | indent => ("TemplateEngine._indent_filter", 1)
  | comment => ("TemplateEngine._comment_filter", 1)
  | pathTemplate => ("TemplateEngine._path_template_filter", 1)
  | upper => ("do_upper", 0)

/-- The parameter after the subject. -/
def option? : Filter → Option String
  | indent => some "spaces"
  | comment => some "style"
  | _ => none

/-- A placeholder is a name between braces; the name is not empty and holds no closing brace. -/
def placeholder? : List Char → Option (List Char × List Char)
  | '\x7b' :: c :: r =>
    if c = '\x7d' then none
    else
      match (c :: r).span (· != '\x7d') with
      | (name, _ :: rest) => some (name, rest)
      | (_, []) => none
  | _ => none

/-- Puts a dollar sign in front of every placeholder. `skip` characters belong to a placeholder
already written. -/
def pathTemplateFrom : List Char → Nat → List Char
  | [], _ => []
  | c :: r, skip + 1 => c :: pathTemplateFrom r skip
  | c :: r, 0 =>
    match placeholder? (c :: r) with
    | some (name, _) => '$' :: c :: pathTemplateFrom r (name.length + 1)
    | none => c :: pathTemplateFrom r 0

def pathTemplateText (s : List Char) : List Char :=
  pathTemplateFrom s 0

/-- Blank lines become empty and all others are moved to the right. -/
def indentLine (count : Nat) (line : List Char) : List Char :=
  if Text.isBlankLine line then [] else List.replicate count ' ' ++ line

def indentText (count : Nat) (s : List Char) : List Char :=
  Text.joinLines ((Text.splitAt '\n' s).map (indentLine count))

/-- Blank lines stay as they are and all others get the mark and a space. -/
def commentLine (mark line : List Char) : List Char :=
  if Text.isBlankLine line then line else mark ++ ' ' :: line

def onText (subject : Datum) (f : List Char → List Char) : Except Fault String := do
  return String.ofList (f (← subject.text).toList)

/-- Applies a filter whose option is given, not given, or given as null. -/
def run (f : Filter) (indentSize : Value) (subject : Datum) (option : Option Datum) :
    Except Fault String :=
  match f with
  | snakeCase => onText subject Naming.snake
  | camelCase => onText subject Naming.camel
  | pascalCase => onText subject Naming.pascal
  | pathTemplate => onText subject pathTemplateText
  | upper => onText subject Text.upper
  | indent => do
    let count ← Datum.repeatCount (match option with
      | none => .value indentSize
      | some (.value .null) => .value indentSize
      | some d => d)
    onText subject (indentText count)
  | comment => do
    let lines := Text.splitAt '\n' (← subject.text).toList
    if lines.all Text.isBlankLine then return String.ofList (Text.joinLines lines)
    else
      let mark ← match option with
        | none => pure "//"
        | some d => d.text
      return String.ofList (Text.joinLines (lines.map (commentLine mark.toList)))

/-- The option among the arguments of a call. -/
def bind (f : Filter) (positional : List Datum) (named : List (String × Datum)) :
    Except Fault (Option Datum) :=
  let (title, before) := f.title
  let most := if f.option?.isSome then 2 else 1
  let rec take : List (String × Datum) → Option Datum → Except Fault (Option Datum)
    | [], found => .ok found
    | (n, d) :: rest, found =>
      if f.option? = some n then
        match found with
        | none => take rest (some d)
        | some _ => .error (.type (.repeatedArgument title n))
      else if n == (if before = 0 then "s" else "value") || (before == 1 && n == "self") then
        .error (.type (.repeatedArgument title n))
      else .error (.type (.unknownArgument title n))
  do
    let found ← take named (if most = 2 then positional.head? else none)
    if most < positional.length + 1 then
      throw (.type (.extraArguments title (1 + before) (most + before)
        (positional.length + 1 + before)))
    return found

def apply (f : Filter) (indentSize : Value) (subject : Datum) (positional : List Datum)
    (named : List (String × Datum)) : Except Fault String := do
  f.run indentSize subject (← f.bind positional named)

end Filter

end TypeStencil.Template
