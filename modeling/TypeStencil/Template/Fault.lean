import TypeStencil.Template.Literal
import TypeStencil.Value.Text

/-!
What can be wrong with a template: its text, the program that it stands for, and the values that it
is rendered with.
-/
namespace TypeStencil

/-- The tags that an open block waits for. -/
structure OpenBlock where
  wanted : List String
  tag : String
  deriving DecidableEq, Repr

/-- A template text that cannot be read as a template. -/
inductive TemplateProblem where
  | unknownTag (name : String) (within : List OpenBlock)
  | unclosed (block : OpenBlock)
  | tagName
  | noExpression (found : String)
  | unexpected (token : String)
  | unbalanced (token wanted : String)
  | expected (wanted : String) (found : Option String)
  | callArguments
  | memberName
  | chainedTests
  | notAssignable (form : String)
  | unclosedComment
  | unclosedRaw
  | character (c : Char) (offset : Nat)
  | identifier
  | escape (problem : Template.EscapeProblem)
  | longInteger (digits : Nat)
  | foreignDigit (c : Char)
  | foreignExponent
  deriving DecidableEq, Repr

namespace OpenBlock

def alternatives (block : OpenBlock) : String :=
  String.intercalate " or " (block.wanted.map Text.quoted)

def innermost (block : OpenBlock) : String :=
  " The innermost block that needs to be closed is " ++ Text.quoted block.tag ++ "."

def lookedFor (block : OpenBlock) : String :=
  " Jinja was looking for the following tags: " ++ block.alternatives ++ "."

/-- The name belongs to an outer block. -/
def misnested (block : OpenBlock) : String :=
  " You probably made a nesting mistake. Jinja is expecting this tag, but currently looking for " ++
    block.alternatives ++ "."

end OpenBlock

namespace TemplateProblem

/-- The code point of a character in at least four hexadecimal digits. -/
def codeNumber (c : Char) : String :=
  String.ofList ((Text.hexDigits c.toNat 4).map Char.toUpper)

def message : TemplateProblem → String
  | unknownTag name within =>
    "Encountered unknown tag " ++ Text.quoted name ++ "." ++
      match within with
      | [] => ""
      | block :: outer =>
        (if (block :: outer).any (·.wanted.contains name) then block.misnested
          else block.lookedFor) ++ block.innermost
  | unclosed block => "Unexpected end of template." ++ block.lookedFor ++ block.innermost
  | tagName => "tag name expected"
  | noExpression found => "Expected an expression, got " ++ Text.quoted found
  | unexpected token => "unexpected " ++ Text.quoted token
  | unbalanced token wanted =>
    "unexpected " ++ Text.quoted token ++ ", expected " ++ Text.quoted wanted
  | expected wanted none =>
    "unexpected end of template, expected " ++ Text.quoted wanted ++ "."
  | expected wanted (some found) =>
    "expected token " ++ Text.quoted wanted ++ ", got " ++ Text.quoted found
  | callArguments => "invalid syntax for function call expression"
  | memberName => "expected name or number"
  | chainedTests => "You cannot chain multiple tests with is"
  | notAssignable form => "can't assign to " ++ Text.quoted form
  | unclosedComment => "Missing end of comment tag"
  | unclosedRaw => "Missing end of raw directive"
  | character c offset =>
    "unexpected char " ++ Text.quoted (String.ofList [c]) ++ " at " ++ toString offset
  | identifier => "Invalid character in identifier"
  | escape problem => problem.message
  | longInteger digits => (Json.Refusal.longInteger digits).message
  | foreignDigit c =>
    "invalid character '" ++ c.toString ++ "' (U+" ++ codeNumber c ++ ") (<unknown>, line 1)"
  | foreignExponent => "invalid decimal literal (<unknown>, line 1)"

end TemplateProblem

/-- A template that is nested too deeply to be carried out, that gives a call the same named
argument twice, or that prints a text too long for a line. -/
inductive ProgramProblem where
  | deepIndentation
  | deepBrackets
  | deepLoops
  | repeatedArgument (name : String)
  | wideLine
  | openText
  deriving DecidableEq, Repr

/-- A line that is too wide by its end alone is reported without a place. -/
def ProgramProblem.message (problem : ProgramProblem) (file : String) (line : Nat) : String :=
  let place := " (" ++ file ++ ", line " ++ toString line ++ ")"
  match problem with
  | deepIndentation => "too many levels of indentation" ++ place
  | deepBrackets => "too many nested parentheses" ++ place
  | deepLoops => "too many statically nested blocks" ++ place
  | repeatedArgument name => "keyword argument repeated: " ++ name ++ place
  | wideLine => "Parser column offset overflow - source line is too big"
  | openText =>
    "unterminated string literal (detected at line " ++ toString line ++ ")" ++ place

/-- Operands that do not go with what is done with them, by the words for their kinds. -/
inductive OperandFault where
  | notIterable (kind : String)
  | notCallable (kind : String)
  | notIndexable (kind : String)
  | notContainer (kind : String)
  | notTextMember (kind : String)
  | unhashable (kind : String)
  | unsupported (sign left right : String)
  | unsupportedUnary (sign operand : String)
  | unordered (sign left right : String)
  | notJoined (kind other : String)
  | repeatCount (kind : String)
  | noDivision (message : String)
  | notFilledIn
  | notUnpacked (kind : String)
  | tooFewItems (wanted found : Nat)
  | tooManyItems (wanted : Nat)
  | sliceBound
  | sliceStep
  | argumentCount (test : String) (wanted given : Nat)
  deriving DecidableEq, Repr

def OperandFault.message : OperandFault → String
  | notIterable kind => "'" ++ kind ++ "' object is not iterable"
  | notCallable kind => "'" ++ kind ++ "' object is not callable"
  | notIndexable kind => "'" ++ kind ++ "' object is not subscriptable"
  | notContainer kind => "argument of type '" ++ kind ++ "' is not iterable"
  | notTextMember kind => "'in <string>' requires string as left operand, not " ++ kind
  | unhashable kind => "unhashable type: '" ++ kind ++ "'"
  | unsupported sign left right =>
    "unsupported operand type(s) for " ++ sign ++ ": '" ++ left ++ "' and '" ++ right ++ "'"
  | unsupportedUnary sign operand =>
    "bad operand type for unary " ++ sign ++ ": '" ++ operand ++ "'"
  | unordered sign left right =>
    "'" ++ sign ++ "' not supported between instances of '" ++ left ++ "' and '" ++ right ++ "'"
  | notJoined kind other =>
    "can only concatenate " ++ kind ++ " (not \"" ++ other ++ "\") to " ++ kind
  | repeatCount kind => "can't multiply sequence by non-int of type '" ++ kind ++ "'"
  | noDivision message => message
  | notFilledIn => "not all arguments converted during string formatting"
  | notUnpacked kind => "cannot unpack non-iterable " ++ kind ++ " object"
  | tooFewItems wanted found =>
    "not enough values to unpack (expected " ++ toString wanted ++ ", got " ++ toString found ++ ")"
  | tooManyItems wanted => "too many values to unpack (expected " ++ toString wanted ++ ")"
  | sliceBound => "slice indices must be integers or None or have an __index__ method"
  | sliceStep => "slice step cannot be zero"
  | argumentCount test wanted given =>
    test ++ " expected " ++ toString wanted ++ " arguments, got " ++ toString given

/-- What stops the rendering of a template. -/
inductive TemplateFault where
  | missing (name : Value) (searched : Option String)
  | malformed (problem : TemplateProblem)
  | program (problem : ProgramProblem) (file : String) (line : Nat)
  | loopAssigned
  | unknownFilter (name : String)
  | unknownTest (name : String)
  | absentFilter (name : String)
  | absentTest (name : String)
  | undefinedName (name : String)
  | undefinedAttribute (owner name : String)
  | undefinedItem (owner key : String)
  | noAlternative (line : Nat) (template : Option String)
  | noNeighbour (which : String)
  | operand (cause : OperandFault)
  deriving Repr

namespace TemplateFault

def message : TemplateFault → String
  | missing name none => name.text
  | missing name (some directory) =>
    name.quoted ++ " not found in search path: " ++ Text.quoted directory
  | malformed problem => problem.message
  | program problem file line => problem.message file line
  | loopAssigned => "Can't assign to special loop variable in for-loop"
  | unknownFilter name => "No filter named " ++ Text.quoted name ++ "."
  | unknownTest name => "No test named " ++ Text.quoted name ++ "."
  | absentFilter name => "No filter named " ++ Text.quoted name ++ " found."
  | absentTest name => "No test named " ++ Text.quoted name ++ " found."
  | undefinedName name => Text.quoted name ++ " is undefined"
  | undefinedAttribute owner name =>
    Text.quoted owner ++ " has no attribute " ++ Text.quoted name
  | undefinedItem owner key => owner ++ " has no element " ++ key
  | noAlternative line template =>
    "the inline if-expression on line " ++ toString line ++
      (match template with | some name => " in " ++ Text.quoted name | none => "") ++
      " evaluated to false and no else section was defined."
  | noNeighbour which => "there is no " ++ which ++ " item"
  | operand cause => cause.message

end TemplateFault

end TypeStencil
