import TypeStencil.Template.Fault
import TypeStencil.Text.Blank
import TypeStencil.Text.Identifier
import TypeStencil.Text.Lines

/-!
Cutting a template text into tokens: literal text, and the parts of print and statement tags. A
newline right behind a statement tag or comment goes with it, and so does the white space in front
of one that begins a line; a minus sign at the edge of a tag takes all white space on that side, and
a plus sign leaves it.
-/
namespace TypeStencil.Template

inductive Token where
  | text (s : List Char)
  | openPrint
  | closePrint
  | openTag
  | closeTag
  | name (s : String)
  | string (s : String)
  | int (n : Nat)
  | float (x : Binary64)
  | sign (s : String)
  | fault (problem : TemplateProblem)
  deriving DecidableEq, Repr

/-- A token and the line on which it stands. -/
structure Lexeme where
  line : Nat
  token : Token
  deriving DecidableEq, Repr

namespace Token

/-- How messages call a token. -/
def description : Token → String
  | text _ => "template data / text"
  | openPrint => "begin of print statement"
  | closePrint => "end of print statement"
  | openTag => "begin of statement block"
  | closeTag => "end of statement block"
  | name s => s
  | string _ => "string"
  | int _ => "integer"
  | float _ => "float"
  | sign s => s
  | fault _ => ""

def isOpener (c : Char) : Bool :=
  c == '\x7b' || c == '%' || c == '#'

/-- The literal text up to the next opening of a tag or comment, and the rest. -/
def untilOpener : List Char → List Char × List Char
  | '\x7b' :: c :: r =>
    if isOpener c then ([], '\x7b' :: c :: r)
    else
      let (lead, rest) := untilOpener (c :: r)
      ('\x7b' :: lead, rest)
  | c :: r =>
    let (lead, rest) := untilOpener r
    (c :: lead, rest)
  | [] => ([], [])

/-- Drops the white space after the last line break, or all of it in a text that begins a line. -/
def stripIndent (lineStart : Bool) (s : List Char) : List Char :=
  let tail := (s.reverse.takeWhile (· != '\n')).reverse
  if tail.all Text.isBlank && (lineStart || tail.length < s.length) then
    s.take (s.length - tail.length)
  else s

/-- What a tag asks for about the white space on one side. -/
inductive Margin where
  | usual
  | taken
  | left
  deriving DecidableEq, Repr

/-- The sign behind the opening of a tag, and the rest. -/
def openingMargin : List Char → Margin × List Char
  | '-' :: r => (.taken, r)
  | '+' :: r => (.left, r)
  | r => (.usual, r)

/-- The text in front of a tag. Only statements and comments take white space by themselves. -/
def trimBefore (margin : Margin) (statement lineStart : Bool) (s : List Char) : List Char :=
  match margin with
  | .taken => Text.stripEnd s
  | .left => s
  | .usual => if statement then stripIndent lineStart s else s

/-- Where reading goes on behind the end of a tag, and whether a line begins there. -/
structure Landing where
  lineStart : Bool
  rest : List Char

def landAt (rest : List Char) : Landing :=
  ⟨false, rest⟩

/-- Passes over one newline. -/
def landBehindNewline : List Char → Landing
  | '\n' :: r => ⟨true, r⟩
  | r => ⟨false, r⟩

/-- Passes over all white space. -/
def landBehindBlanks (s : List Char) : Landing :=
  ⟨(s.takeWhile Text.isBlank).getLast? == some '\n', s.dropWhile Text.isBlank⟩

/-- The end of a statement tag at the head of a text. -/
def tagEnd? : List Char → Option Landing
  | '+' :: '%' :: '\x7d' :: r => some (landAt r)
  | '-' :: '%' :: '\x7d' :: r => some (landBehindBlanks r)
  | '%' :: '\x7d' :: r => some (landBehindNewline r)
  | _ => none

/-- The end of a print tag at the head of a text. -/
def printEnd? : List Char → Option Landing
  | '-' :: '\x7d' :: '\x7d' :: r => some (landBehindBlanks r)
  | '\x7d' :: '\x7d' :: r => some (landAt r)
  | _ => none

/-- The end of a comment at the head of a text. -/
def commentEnd? : List Char → Option Landing
  | '+' :: '#' :: '\x7d' :: r => some (landAt r)
  | '-' :: '#' :: '\x7d' :: r => some (landBehindBlanks r)
  | '#' :: '\x7d' :: r => some (landBehindNewline r)
  | _ => none

/-- What follows the end of a comment. -/
def afterComment : List Char → Option Landing
  | [] => none
  | c :: r =>
    match commentEnd? (c :: r) with
    | some landing => some landing
    | none => afterComment r

/-- What follows a word with white space around it. -/
def afterWord? (word : String) (s : List Char) : Option (List Char) :=
  let r := s.dropWhile Text.isBlank
  if word.toList.isPrefixOf r then some ((r.drop word.length).dropWhile Text.isBlank) else none

/-- Where the text behind the beginning of a raw block starts, given what follows the opening of
its tag. -/
def rawStart? (s : List Char) : Option Landing :=
  match afterWord? "raw" s with
  | some ('-' :: '%' :: '\x7d' :: r) => some (landBehindBlanks r)
  | some ('%' :: '\x7d' :: r) => some (landAt r)
  | _ => none

/-- The tag that ends a raw block, at the head of a text. -/
def rawEnd? : List Char → Option (Margin × Landing)
  | '\x7b' :: '%' :: r =>
    let (margin, r) := openingMargin r
    ((afterWord? "endraw" r).bind tagEnd?).map fun landing => (margin, landing)
  | _ => none

/-- The text of a raw block and what follows the block. -/
def rawBlock : List Char → Option (List Char × Margin × Landing)
  | [] => none
  | c :: r =>
    match rawEnd? (c :: r) with
    | some (margin, landing) => some ([], margin, landing)
    | none => (rawBlock r).map fun (s, ending) => (c :: s, ending)

/-- The characters of a string literal after its opening quote, as they are written. -/
def literal (quote : Char) : List Char → Option (List Char × List Char)
  | '\\' :: c :: r => (literal quote r).map fun (s, rest) => ('\\' :: c :: s, rest)
  | '\\' :: [] => none
  | c :: r =>
    if c = quote then some ([], r) else (literal quote r).map fun (s, rest) => (c :: s, rest)
  | [] => none

def ofLiteral (s : List Char) : Token :=
  match Literal.unescape s with
  | .ok s => string (String.ofList s)
  | .error problem => fault (.escape problem)

/-- The whole number of some digits, which are not too many. -/
def ofDigits (digits : List Char) : Token :=
  if Json.maxIntegerDigits < digits.length then fault (.longInteger digits.length)
  else int (Literal.decimalNumber digits)

/-- The number at the head of a text. Behind a point it has no fraction and no exponent. -/
def number? (behindPoint : Bool) (s : List Char) : Option (Token × List Char) :=
  match if behindPoint then none else Literal.broken? s with
  | some (x, rest) =>
    some (match Literal.foreignDigit? false (s.take (s.length - rest.length)) with
      | none => float x
      | some (c, false) => fault (.foreignDigit c)
      | some (_, true) => fault .foreignExponent, rest)
  | none =>
    match Literal.inBase? s with
    | some (n, rest) => some (int n, rest)
    | none => (Literal.whole? s).map fun (digits, rest) => (ofDigits digits, rest)

def ofWord (word : List Char) : Token :=
  if Text.isIdentifier word then name (String.ofList word) else fault .identifier

/-- The number of characters of the operator at the head of a text; of two that fit, the longer
one counts. -/
def signLength : List Char → Nat
  | '*' :: '*' :: _ => 2
  | '/' :: '/' :: _ => 2
  | '=' :: '=' :: _ => 2
  | '!' :: '=' :: _ => 2
  | '>' :: '=' :: _ => 2
  | '<' :: '=' :: _ => 2
  | c :: _ => if "+-/*%~[]()\x7b\x7d><=.:|,;".toList.contains c then 1 else 0
  | [] => 0

/-- The token at the head of a text that is not blank, and what follows. -/
def first? (behindPoint : Bool) (s : List Char) : Option (Token × List Char) :=
  match number? behindPoint s with
  | some found => some found
  | none =>
    let (word, rest) := s.span Text.isWordPart
    if !word.isEmpty then some (ofWord word, rest)
    else
      match (match s with
        | '\'' :: r => literal '\'' r
        | '"' :: r => literal '"' r
        | _ => none) with
      | some (written, rest) => some (ofLiteral written, rest)
      | none =>
        match signLength s with
        | 0 => none
        | n => some (sign (String.ofList (s.take n)), s.drop n)

def closingOf? (s : String) : Option String :=
  match s with
  | "(" => some ")"
  | "[" => some "]"
  | "\x7b" => some "\x7d"
  | _ => none

/-- The brackets that are open after a token. -/
def track (brackets : List String) : Token → Except TemplateProblem (List String)
  | sign s =>
    match closingOf? s with
    | some closing => .ok (closing :: brackets)
    | none =>
      if s == ")" || s == "]" || s == "\x7d" then
        match brackets with
        | [] => .error (.unexpected s)
        | wanted :: outer => if wanted == s then .ok outer else .error (.unbalanced s wanted)
      else .ok brackets
  | fault problem => .error problem
  | _ => .ok brackets

/-- A nonempty text as a token. -/
def ofText (line : Nat) (s : List Char) : List Lexeme :=
  if s.isEmpty then [] else [⟨line, text s⟩]

/-- Reading stands in literal text, which may begin a line, or in a tag with open brackets. -/
inductive Mode where
  | text (lineStart : Bool)
  | tag (statement : Bool) (brackets : List String) (behindPoint : Bool)

/-- The line after the characters between two places of a text, the first of which is on a line. -/
def lineAfter (line : Nat) (s rest : List Char) : Nat :=
  line + (s.take (s.length - rest.length)).count '\n'

/-- The tokens of a text of which `total` characters are given in all; each takes at least one
character, which `fuel` counts. -/
def scan (total : Nat) : Nat → Nat → Mode → List Char → List Lexeme
  | 0, _, _, _ => []
  | fuel + 1, line, .text lineStart, s =>
    let (lead, rest) := untilOpener s
    let inner := lineAfter line s rest
    match rest with
    | '\x7b' :: '\x7b' :: r =>
      let (margin, r) := openingMargin r
      ofText line (trimBefore margin false lineStart lead) ++ ⟨inner, openPrint⟩ ::
        scan total fuel inner (.tag false [] false) r
    | '\x7b' :: '%' :: r =>
      let (margin, r) := openingMargin r
      ofText line (trimBefore margin true lineStart lead) ++
        match rawStart? r with
        | none => ⟨inner, openTag⟩ :: scan total fuel inner (.tag true [] false) r
        | some start =>
          match rawBlock start.rest with
          | some (raw, margin, landing) =>
            ofText (lineAfter inner r start.rest) (trimBefore margin true start.lineStart raw) ++
              scan total fuel (lineAfter inner r landing.rest) (.text landing.lineStart)
                landing.rest
          | none => if start.rest.isEmpty then [] else [⟨inner, fault .unclosedRaw⟩]
    | '\x7b' :: '#' :: r =>
      let (margin, r) := openingMargin r
      ofText line (trimBefore margin true lineStart lead) ++
        match afterComment r with
        | some landing =>
          scan total fuel (lineAfter inner r landing.rest) (.text landing.lineStart) landing.rest
        | none => if r.isEmpty then [] else [⟨inner, fault .unclosedComment⟩]
    | _ => ofText line lead
  | _ + 1, _, .tag .., [] => []
  | fuel + 1, line, .tag statement brackets behindPoint, c :: r =>
    match if !brackets.isEmpty then none else if statement then tagEnd? (c :: r)
      else printEnd? (c :: r) with
    | some landing =>
      ⟨line, if statement then closeTag else closePrint⟩ ::
        scan total fuel (lineAfter line (c :: r) landing.rest) (.text landing.lineStart)
          landing.rest
    | none =>
      if Text.isBlank c then
        scan total fuel (if c = '\n' then line + 1 else line) (.tag statement brackets false) r
      else
        match first? behindPoint (c :: r) with
        | none => [⟨line, fault (.character c (total - (c :: r).length))⟩]
        | some (token, rest) =>
          match track brackets token with
          | .error problem => [⟨line, fault problem⟩]
          | .ok brackets =>
            ⟨line, token⟩ :: scan total fuel (lineAfter line (c :: r) rest)
              (.tag statement brackets (token == sign ".")) rest

/-- A source has newlines alone as line breaks, and one at its end does not count. -/
def normalize (source : List Char) : List Char :=
  let s := Text.unifyBreaks source
  if s.getLast? = some '\n' then s.dropLast else s

def ofSource (source : List Char) : List Lexeme :=
  let s := normalize source
  scan s.length (s.length + 1) 1 (.text true) s

end Token

end TypeStencil.Template
