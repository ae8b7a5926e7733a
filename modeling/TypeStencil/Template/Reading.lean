import TypeStencil.Template.Token

/-!
Reading from the tokens of a template, one after another. A place where the text is broken stops
the reading as soon as it becomes the current token.
-/
namespace TypeStencil.Template

/-- A step of reading; the current token is the first of those that are left. -/
abbrev Reading := StateT (List Lexeme) (Except TemplateProblem)

namespace Reading

def fail {α : Type} (problem : TemplateProblem) : Reading α :=
  throw problem

/-- Refuses broken text at the head. -/
def check : List Lexeme → Except TemplateProblem Unit
  | ⟨_, .fault problem⟩ :: _ => .error problem
  | _ => .ok ()

/-- The current token; there is none at the end. -/
def current : Reading (Option Token) := do
  return (← get).head?.map (·.token)

/-- The line of the current token, or the first line at the end. -/
def line : Reading Nat := do
  return ((← get).head?.map (·.line)).getD 1

def advance : Reading Unit := do
  let rest := (← get).tail
  check rest
  set rest

/-- The token after the current one. -/
def upcoming : Reading (Option Token) := do
  let rest := (← get).tail
  check rest
  return rest.head?.map (·.token)

def isAt (t : Token) : Reading Bool := do
  return (← current) == some t

/-- Passes over a token if it is the current one. -/
def skipIf (t : Token) : Reading Bool := do
  if ← isAt t then
    advance
    return true
  else return false

def describe (t : Option Token) : String :=
  match t with
  | some t => t.description
  | none => "end of template"

def refuse {α : Type} (wanted : String) : Reading α := do
  fail (.expected wanted ((← current).map Token.description))

def expect (t : Token) : Reading Unit := do
  if !(← skipIf t) then refuse t.description

def expectName : Reading String := do
  match ← current with
  | some (.name n) =>
    advance
    return n
  | _ => refuse "name"

/-- Reads a whole template. -/
def run {α : Type} (r : Reading α) (ts : List Lexeme) : Except TemplateProblem α := do
  check ts
  return (← StateT.run r ts).1

end Reading

end TypeStencil.Template
