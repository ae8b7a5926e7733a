import TypeStencil.Template.Check

/-!
The program that a template stands for, as far as it can be refused. It is laid out in lines, of
which none may be indented too deeply, nest too many brackets, loop in too many loops, give a call
one name twice, or print a text that is too long for it.
-/
namespace TypeStencil.Template

namespace Expr

/-- The first name that occurs again later on. -/
def firstRepeated? : List String → Option String
  | [] => none
  | n :: rest => if rest.contains n then some n else firstRepeated? rest

/-- The name that a call gives two arguments, if all of its names can be names. -/
def repeatedName? (args : List (Role × Expr)) : Option String :=
  if arePlain args then firstRepeated? (argumentNames args) else none

/-- The first call of an expression that gives two arguments one name. -/
def repeatedArgument? (indentSize : Value) (e : Expr) : Option ProgramProblem :=
  ((e.openParts indentSize false).findSome? fun part => match part.expr with
    | .call _ args => repeatedName? args
    | .filtered _ _ args | .tested _ _ args =>
      if part.expr.isSettled indentSize then none else repeatedName? args
    | _ => none).map .repeatedArgument

/-- How many brackets stand around the innermost part of an expression, in which the names that are
`set` stand without any. -/
def depth (indentSize : Value) (set : List String) (e : Expr) : Nat :=
  ((e.openParts indentSize false).map fun part => part.brackets + match part.expr with
    | .name n => if set.contains n then 0 else 2
    | .absent _ => 1
    | _ => 0).foldl max 0

end Expr

/-- A line of a program: how deep it is indented, how deep its brackets are nested, what else is
wrong with it, and the text that it prints if this is known. -/
structure Line where
  indentation : Nat
  brackets : Nat
  problem : Option ProgramProblem
  printed? : Option String

/-- The columns that some characters take, which are bytes. -/
def columns (s : List Char) : Nat :=
  s.foldl (fun count c => count + c.utf8Size) 0

/-- The columns of a line that prints a known text. Other lines are taken to be short. -/
def Line.width (l : Line) : Nat :=
  match l.printed? with
  | some s => 4 * l.indentation + columns "yield ".toList + columns (Text.quoted s).toList
  | none => 0

/-- A place in a program: its indentation, the loops around it, and the names that are set or looked
up there already. -/
structure Place where
  indentation : Nat
  loops : Nat
  set : List String
  looked : List String

namespace Place

/-- The place inside a condition. -/
def deeper (p : Place) : Place :=
  { p with indentation := p.indentation + 1 }

/-- A place inside where more names are set or looked up. -/
def within (p : Place) (loops : Nat) (set looked : List String) : Place :=
  ⟨p.indentation + 1, p.loops + loops, set ++ p.set, looked ++ p.looked⟩

def line (p : Place) : Line :=
  ⟨p.indentation, 0, none, none⟩

/-- The line that prints a text, if there is a text. -/
def printing (p : Place) (text? : Option String) : List Line :=
  text?.toList.map fun s => { p.line with printed? := some s }

/-- The names that have to be looked up before they are read. -/
def missing (p : Place) (names : List String) : List String :=
  (names.filter fun n => !p.set.contains n && !p.looked.contains n).eraseDups

/-- One line for each of some names. -/
def lookups (p : Place) (names : List String) : List Line :=
  names.map fun _ => p.line

/-- A line with an expression in some brackets. -/
def reading (p : Place) (indentSize : Value) (brackets : Nat) (e : Expr) : Line :=
  ⟨p.indentation, brackets + e.depth indentSize p.set, e.repeatedArgument? indentSize, none⟩

/-- The greatest number of loops inside one another. -/
def mostLoops : Nat := 20

/-- The line that a loop begins with. -/
def loopHead (p : Place) (indentSize : Value) (brackets : Nat) (source : Expr) : Line :=
  let l := p.reading indentSize brackets source
  if mostLoops ≤ p.loops then { l with problem := some .deepLoops } else l

/-- The lines that choose the items of a loop. -/
def selection (p : Place) (indentSize : Value) (target : Target) (test : Expr) : List Line :=
  let inner := p.within 0 target.names []
  p.line :: inner.lookups (inner.missing test.names) ++
    [inner.line, inner.deeper.reading indentSize 0 test, inner.deeper.deeper.line]

end Place

mutual

/-- The lines of a node. -/
def Node.lines (indentSize : Value) (p : Place) : Node → List Line
  | .text s => p.printing (some (String.ofList s))
  | .print e => [p.reading indentSize 1 e]
  | .condition test body others otherwise =>
    p.reading indentSize 0 test :: p.deeper.line :: linesOfNodes indentSize p.deeper none body ++
      linesOfBranches indentSize p others ++
      (if otherwise.isEmpty then []
        else p.line :: p.deeper.line :: linesOfNodes indentSize p.deeper none otherwise)
  | .loop target source filter body otherwise =>
    let usesState := Step.readsName "loop" (stepsOfNodes body)
    let set := target.names ++ (if usesState then ["loop"] else [])
    let looked := (p.within 1 set []).missing (outerNamesOfNodes body)
    let inner := p.within 1 set looked
    let lookedLast := p.missing (outerNamesOfNodes otherwise)
    let last := p.within 0 [] lookedLast
    let brackets := (if usesState then 1 else 0) + (if filter.isSome then 1 else 0)
    (filter.map (p.selection indentSize target)).getD [] ++
      (if usesState then [p.line] else []) ++
      (if otherwise.isEmpty then [] else [p.line]) ++
      p.loopHead indentSize brackets source :: inner.lookups looked ++
      inner.line :: inner.line :: linesOfNodes indentSize inner none body ++
      (if otherwise.isEmpty then [] else [inner.line]) ++
      (if (set ++ looked).isEmpty then [] else [p.line]) ++
      (if otherwise.isEmpty then []
        else p.line :: last.lookups lookedLast ++
          last.line :: linesOfNodes indentSize last none otherwise ++
          (if lookedLast.isEmpty then [] else [last.line]))
termination_by structural node => node

/-- The lines of some nodes, one for all texts that follow each other; `before` is the text that has
no line yet. -/
def linesOfNodes (indentSize : Value) (p : Place) (before : Option String) : List Node → List Line
  | [] => p.printing before
  | .text s :: rest =>
    linesOfNodes indentSize p (some (before.getD "" ++ String.ofList s)) rest
  | .print e :: rest =>
    match e.text? indentSize with
    | some s => linesOfNodes indentSize p (some (before.getD "" ++ s)) rest
    | none =>
      p.printing before ++ p.reading indentSize 1 e :: linesOfNodes indentSize p none rest
  | node :: rest =>
    p.printing before ++ node.lines indentSize p ++ linesOfNodes indentSize p none rest
termination_by structural l => l

def linesOfBranches (indentSize : Value) (p : Place) : List (Expr × List Node) → List Line
  | [] => []
  | (test, body) :: rest =>
    p.reading indentSize 0 test :: p.deeper.line ::
      linesOfNodes indentSize p.deeper none body ++ linesOfBranches indentSize p rest
termination_by structural l => l

end

namespace Program

/-- The lines in front of those that look up names. -/
def headLines : Nat := 9

/-- The lines that look up one filter or test. -/
def linesOfDependency : Nat := 6

/-- Whether a template names itself. -/
def namesItself (nodes : List Node) : Bool :=
  Step.readsNameFirst "self" (stepsOfNodes nodes)

/-- How many filters and tests a template names. -/
def dependencies (nodes : List Node) : Nat :=
  let exprs := Step.exprs (stepsOfNodes nodes)
  (exprs.flatMap Expr.filterNames).eraseDups.length +
    (exprs.flatMap Expr.testNames).eraseDups.length

/-- The lines of a template. -/
def lines (indentSize : Value) (nodes : List Node) : List Line :=
  let set := if namesItself nodes then ["self"] else []
  let looked := (Place.mk 1 0 set []).missing (outerNamesOfNodes nodes)
  let top : Place := ⟨1, 0, set, looked⟩
  let before := headLines + set.length + looked.length + linesOfDependency * dependencies nodes
  List.replicate before top.line ++ top.line :: linesOfNodes indentSize top none nodes

/-- No line is indented as deeply as this. -/
def indentationLimit : Nat := 100

/-- The greatest number of brackets inside one another. -/
def mostBrackets : Nat := 200

/-- Lines end before this column. -/
def columnLimit : Nat := 0x7FFFFFFF

/-- The problem that a line has by its form alone. -/
def formProblem? (l : Line) : Option ProgramProblem :=
  if indentationLimit ≤ l.indentation then some .deepIndentation
  else if mostBrackets < l.brackets then some .deepBrackets
  else if columnLimit < l.width then some .openText
  else if columnLimit = l.width then some .wideLine
  else none

/-- The first problem of some lines, and the number of its line. -/
def firstProblem? (problem? : Line → Option ProgramProblem) :
    Nat → List Line → Option (ProgramProblem × Nat)
  | _, [] => none
  | n, l :: rest =>
    match problem? l with
    | some problem => some (problem, n)
    | none => firstProblem? problem? (n + 1) rest

/-- What is wrong with a template as a program; the form of its lines comes first. -/
def problem? (indentSize : Value) (nodes : List Node) : Option (ProgramProblem × Nat) :=
  let lines := lines indentSize nodes
  (firstProblem? formProblem? 1 lines).orElse fun _ => firstProblem? Line.problem 1 lines

/-- Refuses a template whose program is refused; `file` is where the program is said to stand. -/
def check (indentSize : Value) (file : String) (nodes : List Node) :
    Except Fault Unit := do
  checkNodes indentSize false nodes
  match problem? indentSize nodes with
  | some (problem, line) => throw (.template (.program problem file line))
  | none => return ()

end Program

end TypeStencil.Template
