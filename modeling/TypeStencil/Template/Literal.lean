import TypeStencil.Json.Reader
import TypeStencil.Number.Binary64
import TypeStencil.Text.CharacterName
import TypeStencil.Text.Digit
import TypeStencil.Text.Quoted

/-!
Literals of templates: strings with escapes, and whole and broken numbers. A single low line may
stand between two digits of a number.
-/
namespace TypeStencil.Template

/-- An escape that stands for no character. -/
inductive EscapeProblem where
  | truncated (form : Char) (digits : Nat)
  | tooLarge
  | malformedName
  | unknownName
  deriving DecidableEq, Repr

def EscapeProblem.message : EscapeProblem → String
  | truncated form digits =>
    "truncated \\" ++ form.toString ++ String.ofList (List.replicate digits 'X') ++ " escape"
  | tooLarge => "illegal Unicode character"
  | malformedName => "malformed \\N character escape"
  | unknownName => "unknown Unicode character name"

namespace Literal

/-- A text in ASCII, with escapes for all other characters. -/
def inAscii (s : List Char) : List Char :=
  s.flatMap fun c => if c.toNat < 0x80 then [c] else Text.escapeHidden c

/-- The escapes of one letter. -/
def letterEscapes : List (Char × List Char) := [
  ('\n', []), ('\\', ['\\']), ('\'', ['\'']), ('"', ['"']), ('a', ['\x07']), ('b', ['\x08']),
  ('t', ['\t']), ('n', ['\n']), ('v', ['\x0b']), ('f', ['\x0c']), ('r', ['\r'])]

/-- Escapes by hexadecimal digits, and how many digits each takes. -/
def hexEscapes : List (Char × Nat) := [('x', 2), ('u', 4), ('U', 8)]

def hexNumber? (digits : List Char) : Option Nat :=
  digits.foldl (fun n d => do return (← n) * 16 + (← Json.hexValue? d)) (some 0)

def isOctal (c : Char) : Bool :=
  '0' ≤ c && c ≤ '7'

def octalNumber (digits : List Char) : Nat :=
  digits.foldl (fun n d => n * 8 + (d.toNat - '0'.toNat)) 0

/-- The code point that an escape of a form writes, and what follows. -/
def hexEscape (form : Char) (count : Nat) (s : List Char) :
    Except EscapeProblem (Nat × List Char) :=
  match hexNumber? (s.take count) with
  | some n =>
    if s.length < count then .error (.truncated form count)
    else if 0x10FFFF < n then .error .tooLarge
    else .ok (n, s.drop count)
  | none => .error (.truncated form count)

/-- The character of the name between braces, and what follows. -/
def nameEscape : List Char → Except EscapeProblem (Char × List Char)
  | '\x7b' :: r =>
    match r.span (· != '\x7d') with
    | ([], _) => .error .malformedName
    | (_, []) => .error .malformedName
    | (name, _ :: rest) =>
      match Text.characterOfName? (String.ofList name) with
      | some c => .ok (c, rest)
      | none => .error .unknownName
  | _ => .error .malformedName

/-- The character of a code point, with the partner of a surrogate that follows. -/
def codeChar (n : Nat) (rest : List Char) : Char × List Char :=
  match rest with
  | '\\' :: 'u' :: r =>
    match hexNumber? (r.take 4) with
    | some low =>
      if Json.isHighSurrogate n && Json.isLowSurrogate low && 4 ≤ r.length then
        (Char.ofNat (0x10000 + (n - 0xD800) * 0x400 + (low - 0xDC00)), r.drop 4)
      else (Json.charOf n, rest)
    | none => (Json.charOf n, rest)
  | rest => (Json.charOf n, rest)

/-- Replaces the escapes of a text, each of which takes at least one step of `fuel`; a backslash
in front of any other character is text. -/
def unescapeFrom : Nat → List Char → Except EscapeProblem (List Char)
  | 0, s => .ok s
  | _ + 1, [] => .ok []
  | fuel + 1, '\\' :: c :: r =>
    match letterEscapes.lookup c, hexEscapes.lookup c with
    | some shown, _ => do return shown ++ (← unescapeFrom fuel r)
    | none, some count => do
      let (n, rest) ← hexEscape c count r
      let (d, rest) := codeChar n rest
      return d :: (← unescapeFrom fuel rest)
    | none, none =>
      if isOctal c then do
        let digits := ((c :: r).take 3).takeWhile isOctal
        return Char.ofNat (octalNumber digits) ::
          (← unescapeFrom fuel ((c :: r).drop digits.length))
      else if c = 'N' then do
        let (d, rest) ← nameEscape r
        return d :: (← unescapeFrom fuel rest)
      else do return '\\' :: c :: (← unescapeFrom fuel r)
  | fuel + 1, c :: r => do return c :: (← unescapeFrom fuel r)

/-- What a string literal stands for, given what is written between its quotes. -/
def unescape (s : List Char) : Except EscapeProblem (List Char) :=
  if s.contains '\\' then unescapeFrom (inAscii s).length (inAscii s) else .ok s

/-- Digits with single low lines between or in front of them, and what follows. -/
def digitRun (isDigit : Char → Bool) : List Char → List Char × List Char
  | [] => ([], [])
  | c :: r =>
    if isDigit c then
      let (digits, rest) := digitRun isDigit r
      (c :: digits, rest)
    else if c = '_' && r.head?.any isDigit then digitRun isDigit r
    else ([], c :: r)

/-- Decimal digits of any script, at least one. -/
def decimals? (s : List Char) : Option (List Char × List Char) :=
  if s.head?.any Text.isDecimal then some (digitRun Text.isDecimal s) else none

def decimalNumber (digits : List Char) : Nat :=
  digits.foldl (fun n d => n * 10 + (Text.decimalValue? d).getD 0) 0

/-- The exponent of a broken number. -/
def exponent? : List Char → Option (Int × List Char)
  | c :: r =>
    if c = 'e' ∨ c = 'E' then
      match r with
      | '-' :: r => (decimals? r).map fun (digits, rest) => (-(decimalNumber digits : Int), rest)
      | '+' :: r => (decimals? r).map fun (digits, rest) => ((decimalNumber digits : Int), rest)
      | r => (decimals? r).map fun (digits, rest) => ((decimalNumber digits : Int), rest)
    else none
  | [] => none

/-- A number with a fraction, an exponent or both, and what follows. -/
def broken? (s : List Char) : Option (Binary64 × List Char) := do
  let (whole, r) ← decimals? s
  let fraction := match r with
    | '.' :: r => decimals? r
    | _ => none
  match fraction with
  | some (digits, r) =>
    let (e, r) := (exponent? r).getD (0, r)
    return (.ofDecimal false (decimalNumber (whole ++ digits)) (e - digits.length), r)
  | none =>
    let (e, r) ← exponent? r
    return (.ofDecimal false (decimalNumber whole) e, r)

/-- The first digit of a script that broken numbers are not written in, and whether the exponent
begins with it. -/
def foreignDigit? (inExponent : Bool) : List Char → Option (Char × Bool)
  | [] => none
  | c :: r =>
    if 0x80 ≤ c.toNat then some (c, inExponent)
    else foreignDigit? (c != '_' && !Text.isDigitAscii c && c != '.' || c == '_' && inExponent) r

/-- The bases of whole numbers besides ten, by the letter behind a zero. -/
def baseOf? (c : Char) : Option Nat :=
  if c = 'b' ∨ c = 'B' then some 2
  else if c = 'o' ∨ c = 'O' then some 8
  else if c = 'x' ∨ c = 'X' then some 16
  else none

/-- The value of a digit of any script, or of a letter as a hexadecimal digit. -/
def digitValue? (c : Char) : Option Nat :=
  (Text.decimalValue? c).orElse fun _ => Json.hexValue? c

/-- Digits of bases below ten are ASCII. -/
def isDigitOf (base : Nat) (c : Char) : Bool :=
  (digitValue? c).any (· < base) && (base == 16 || Text.isDigitAscii c)

def inBase? (s : List Char) : Option (Nat × List Char) :=
  match s with
  | '0' :: c :: r => do
    let base ← baseOf? c
    let (digits, rest) := digitRun (isDigitOf base) r
    if digits.isEmpty then none
    else return (digits.foldl (fun n d => n * base + (digitValue? d).getD 0) 0, rest)
  | _ => none

/-- The digits of a whole number, which has no zeros in front, and what follows. -/
def whole? : List Char → Option (List Char × List Char)
  | c :: r =>
    if c = '0' then some (digitRun (· == '0') (c :: r))
    else if Text.isDigitAscii c then some (digitRun Text.isDecimal (c :: r))
    else none
  | [] => none

end Literal

end TypeStencil.Template
