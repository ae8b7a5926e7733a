import TypeStencil.Template.Grammar.Expr

/-!
Reading templates as trees: literal text, printed expressions, conditions and loops. Reading names
the first token at which no template goes on.
-/
namespace TypeStencil.Template.Grammar

open Reading

/-- The end of the head of a block, where a colon may stand. -/
def headEnd : Reading Unit := do
  let _ ← skipIf (.sign ":")
  expect .closeTag

/-- The name of the tag that ended the nodes of a block, unless the template ended before. -/
def endOf (block : OpenBlock) : Reading String := do
  match ← current with
  | some (.name n) =>
    advance
    return n
  | _ => fail (.unclosed block)

/-- The expressions of a print statement. -/
def printed (fuel : Nat) (first : Bool) : Reading (List Node) :=
  match fuel with
  | 0 => return []
  | fuel + 1 => do
    if ← isAt .closeTag then return []
    else
      if !first then expect (.sign ",")
      let e ← single
      return .print e :: (← printed fuel false)

mutual

/-- Nodes up to the end of the template or to the name of a tag that the innermost open block waits
for, which is left in place. -/
def sequence (fuel : Nat) (within : List OpenBlock) : Reading (List Node) :=
  match fuel with
  | 0 => return []
  | fuel + 1 => do
    match ← current with
    | none => return []
    | some (.text s) =>
      advance
      return .text s :: (← sequence fuel within)
    | some .openPrint =>
      advance
      let e ← ofTag true none
      expect .closePrint
      return .print e :: (← sequence fuel within)
    | some .openTag =>
      advance
      match ← current with
      | some (.name n) =>
        if (within.head?.map (·.wanted)).any (·.contains n) then return []
        else
          let found ← statement fuel within n
          expect .closeTag
          return found ++ (← sequence fuel within)
      | _ => fail .tagName
    | found => fail (.unexpected (describe found))

/-- The statement of a tag with the given name, from that name on. -/
def statement (fuel : Nat) (within : List OpenBlock) (n : String) : Reading (List Node) :=
  match fuel with
  | 0 => return []
  | fuel + 1 => do
    if n == "if" then
      advance
      return [← condition fuel within]
    else if n == "for" then
      advance
      return [← loop fuel within]
    else if n == "print" then
      advance
      printed ((← get).length + 1) true
    else fail (.unknownTag n within)

/-- A condition from its test on. -/
def condition (fuel : Nat) (within : List OpenBlock) : Reading Node :=
  match fuel with
  | 0 => outOfSteps
  | fuel + 1 => do
    let (test, body) ← branch fuel within
    let (others, otherwise) ← otherBranches fuel within
    return .condition test body others otherwise

/-- A test and the nodes under it. -/
def branch (fuel : Nat) (within : List OpenBlock) : Reading (Expr × List Node) :=
  match fuel with
  | 0 => outOfSteps
  | fuel + 1 => do
    let test ← ofTag false none
    headEnd
    let body ← sequence fuel (⟨["elif", "else", "endif"], "if"⟩ :: within)
    return (test, body)

/-- The branches behind the first and the nodes for when no test holds. -/
def otherBranches (fuel : Nat) (within : List OpenBlock) :
    Reading (List (Expr × List Node) × List Node) :=
  match fuel with
  | 0 => outOfSteps
  | fuel + 1 => do
    match ← endOf ⟨["elif", "else", "endif"], "if"⟩ with
    | "elif" =>
      let first ← branch fuel within
      let (rest, otherwise) ← otherBranches fuel within
      return (first :: rest, otherwise)
    | "else" => return ([], ← lastBranch fuel within ⟨["endif"], "if"⟩)
    | _ => return ([], [])

/-- The nodes of an else branch, up to the tag that ends its block. -/
def lastBranch (fuel : Nat) (within : List OpenBlock) (block : OpenBlock) :
    Reading (List Node) :=
  match fuel with
  | 0 => outOfSteps
  | fuel + 1 => do
    headEnd
    let nodes ← sequence fuel (block :: within)
    let _ ← endOf block
    return nodes

/-- A loop from its target on. -/
def loop (fuel : Nat) (within : List OpenBlock) : Reading Node :=
  match fuel with
  | 0 => outOfSteps
  | fuel + 1 => do
    let block : OpenBlock := ⟨["endfor", "else"], "for"⟩
    let items ← target
    expect (.name "in")
    let source ← ofTag false (some "recursive")
    let filter ← if ← skipIf (.name "if") then some <$> single else pure none
    let _ ← skipIf (.name "recursive")
    headEnd
    let body ← sequence fuel (block :: within)
    match ← endOf block with
    | "else" =>
      return .loop items source filter body (← lastBranch fuel within ⟨["endfor"], "for"⟩)
    | _ => return .loop items source filter body []

end

/-- The tree of a template given by its tokens. -/
def ofLexemes (ts : List Lexeme) : Except TemplateProblem (List Node) :=
  (sequence (4 * ts.length + 4) []).run ts

/-- The tree of a template text. -/
def ofSource (source : List Char) : Except TemplateProblem (List Node) :=
  ofLexemes (Token.ofSource source)

end TypeStencil.Template.Grammar
