import TypeStencil.Template.Evaluation
import TypeStencil.Template.Part

/-!
What is known of an expression before a template is rendered. One without names stands for something
by itself, and is worked out beforehand if that can be written down.
-/
namespace TypeStencil.Template

namespace Datum

mutual

/-- Whether a datum can be written down in a program. -/
def isLiteral : Datum → Bool
  | value _ => true
  | tuple items => areLiteral items
  | list items => areLiteral items
  | table entries => areLiteralEntries entries
  | _ => false
termination_by structural d => d

def areLiteral : List Datum → Bool
  | [] => true
  | d :: rest => d.isLiteral && areLiteral rest
termination_by structural l => l

def areLiteralEntries : List (Scalar × Datum) → Bool
  | [] => true
  | (_, d) :: rest => d.isLiteral && areLiteralEntries rest
termination_by structural l => l

end

end Datum

namespace Expr

/-- What an expression without names stands for, if it stands for anything by itself. -/
def constant? (indentSize : Value) (e : Expr) : Option Datum :=
  (e.eval ⟨indentSize, fun n => .error (.template (.undefinedName n)),
    fun line => .error (.template (.noAlternative line none))⟩).toOption

/-- Whether the program has a literal for the expression. -/
def isSettled (indentSize : Value) (e : Expr) : Bool :=
  (e.constant? indentSize).any Datum.isLiteral

/-- The text that the program has for the expression where it is printed. -/
def text? (indentSize : Value) (e : Expr) : Option String :=
  (e.constant? indentSize).bind fun d => d.text.toOption

/-- An expression and its parts, but nothing inside of those with a literal. -/
def openParts (indentSize : Value) (optional : Bool) (e : Expr) : List Part :=
  e.parts (·.isSettled indentSize) optional 0

/-- The fault of the first part that is no text, if those before it stand for texts by
themselves. -/
def textFault? (indentSize : Value) : List Expr → Option Fault
  | [] => none
  | e :: rest =>
    match (e.constant? indentSize).map Datum.text with
    | some (.error f) => some f
    | some (.ok _) => textFault? indentSize rest
    | none => none

/-- The fault of the first entry that has no name, if those before it stand for entries by
themselves. -/
def entryFault? (indentSize : Value) : List (Expr × Expr) → Option Fault
  | [] => none
  | (k, e) :: rest =>
    match (k.constant? indentSize).map Datum.hashable, e.constant? indentSize with
    | some (.error f), some _ => some f
    | some (.ok _), some _ => entryFault? indentSize rest
    | _, _ => none

/-- What goes wrong when an expression of operands without names is worked out beforehand. Other
operations are put off until they are needed. -/
def foldFault? (indentSize : Value) (e : Expr) : Option Fault :=
  match e with
  | .conjunction a _ | .disjunction a _ | .choice a _ _ =>
    match (a.constant? indentSize).map Datum.isPresent with
    | some (.error f) => some f
    | _ => none
  | .concat parts => textFault? indentSize parts
  | .table entries => entryFault? indentSize entries
  | _ => none

end Expr

end TypeStencil.Template
