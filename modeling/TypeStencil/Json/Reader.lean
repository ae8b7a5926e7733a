import TypeStencil.Text.Case
import TypeStencil.Value.Entries

/-!
Reading JSON texts as values. Objects become tables in the order of their names, a repeated name
keeping its first place and its last value. A text that is not JSON is refused with the first place
where no JSON text goes on.
-/
namespace TypeStencil.Json

inductive Problem where
  | value
  | propertyName
  | colon
  | comma
  | extraData
  | unterminatedString
  | controlCharacter
  | escape
  | unicodeEscape
  | byteOrderMark
  deriving DecidableEq, Repr

namespace Problem

def message : Problem → String
  | value => "Expecting value"
  | propertyName => "Expecting property name enclosed in double quotes"
  | colon => "Expecting ':' delimiter"
  | comma => "Expecting ',' delimiter"
  | extraData => "Extra data"
  | unterminatedString => "Unterminated string starting at"
  | controlCharacter => "Invalid control character at"
  | escape => "Invalid \\escape"
  | unicodeEscape => "Invalid \\uXXXX escape"
  | byteOrderMark => "Unexpected UTF-8 BOM (decode using utf-8-sig)"

end Problem

/-- What is wrong with a text, and at which character; lines and columns count from one. -/
structure Misread where
  problem : Problem
  line : Nat
  column : Nat
  offset : Nat
  deriving DecidableEq, Repr

def Misread.message (m : Misread) : String :=
  m.problem.message ++ ": line " ++ toString m.line ++ " column " ++ toString m.column ++
    " (char " ++ toString m.offset ++ ")"

/-- A misread at the character that has `before` in front of it. -/
def Misread.after (problem : Problem) (before : List Char) : Misread where
  problem := problem
  line := before.count '\n' + 1
  column := (before.reverse.takeWhile (· != '\n')).length + 1
  offset := before.length

inductive Container where
  | array
  | object
  deriving DecidableEq, Repr

def Container.name : Container → String
  | array => "array"
  | object => "object"

/-- A text is refused as no JSON, or because it holds a longer integer or a deeper nesting than is
read. -/
inductive Refusal where
  | misread (m : Misread)
  | longInteger (digits : Nat)
  | deepNesting (within : Container)
  deriving DecidableEq, Repr

def maxIntegerDigits : Nat := 4300

/-- How many containers may be open at once. -/
def maxNesting : Nat := 988

def Refusal.message : Refusal → String
  | .misread m => m.message
  | .longInteger digits =>
    "Exceeds the limit (" ++ toString maxIntegerDigits ++
      " digits) for integer string conversion: value has " ++ toString digits ++
      " digits; use sys.set_int_max_str_digits() to increase the limit"
  | .deepNesting within =>
    "maximum recursion depth exceeded while decoding a JSON " ++ within.name ++
      " from a unicode string"

/-- Where reading stops: a problem with so many characters left, or something that is not read. -/
inductive Stop where
  | misread (problem : Problem) (left : Nat)
  | longInteger (digits : Nat)
  | deepNesting (within : Container)

def fail {α : Type} (problem : Problem) (rest : List Char) : Except Stop (α × List Char) :=
  .error (.misread problem rest.length)

def isSpace (c : Char) : Bool :=
  c == ' ' || c == '\t' || c == '\n' || c == '\r'

def skipSpace (s : List Char) : List Char :=
  s.dropWhile isSpace

def hexValue? (c : Char) : Option Nat :=
  if '0' ≤ c && c ≤ '9' then some (c.toNat - '0'.toNat)
  else if 'a' ≤ c && c ≤ 'f' then some (c.toNat - 'a'.toNat + 10)
  else if 'A' ≤ c && c ≤ 'F' then some (c.toNat - 'A'.toNat + 10)
  else none

def hexWord? (a b c d : Char) : Option Nat := do
  return (((← hexValue? a) * 16 + (← hexValue? b)) * 16 + (← hexValue? c)) * 16 + (← hexValue? d)

def isHighSurrogate (n : Nat) : Bool := 0xD800 ≤ n && n ≤ 0xDBFF
def isLowSurrogate (n : Nat) : Bool := 0xDC00 ≤ n && n ≤ 0xDFFF

/-- The character of a code point; a surrogate without its partner is replaced. -/
def charOf (n : Nat) : Char :=
  if isHighSurrogate n || isLowSurrogate n then '\uFFFD' else Char.ofNat n

def simpleEscape? (c : Char) : Option Char :=
  match c with
  | '"' => some '"'
  | '\\' => some '\\'
  | '/' => some '/'
  | 'b' => some '\x08'
  | 'f' => some '\x0c'
  | 'n' => some '\n'
  | 'r' => some '\r'
  | 't' => some '\t'
  | _ => none

/-- The second half of a surrogate pair, where an escape with one follows. A malformed escape after
a first half is refused. -/
def lowHalf? : List Char → Except Stop (Option Nat)
  | '\\' :: 'u' :: a :: b :: c :: d :: e :: r =>
    match hexWord? a b c d with
    | none => .error (.misread .unicodeEscape ('u' :: a :: b :: c :: d :: e :: r).length)
    | some n => .ok (if isLowSurrogate n then some n else none)
  | _ => .ok none

/-- The characters of a string after its opening quote, which has `start` characters from it on.
`skip` characters belong to an escape already read. -/
def stringFrom (start : Nat) : List Char → Nat → Except Stop (List Char × List Char)
  | [], _ => .error (.misread .unterminatedString start)
  | _ :: r, skip + 1 => stringFrom start r skip
  | '"' :: r, 0 => .ok ([], r)
  | '\\' :: [], 0 => .error (.misread .unterminatedString start)
  | '\\' :: 'u' :: r, 0 =>
    match r with
    | a :: b :: c :: d :: e :: more =>
      match hexWord? a b c d with
      | none => fail .unicodeEscape ('u' :: r)
      | some n => do
        let low ← if isHighSurrogate n then lowHalf? (e :: more) else pure none
        match low with
        | some m => do
          let (s, rest) ← stringFrom start r 10
          return (Char.ofNat (0x10000 + (n - 0xD800) * 0x400 + (m - 0xDC00)) :: s, rest)
        | none => do
          let (s, rest) ← stringFrom start r 4
          return (charOf n :: s, rest)
    | _ => fail .unicodeEscape ('u' :: r)
  | '\\' :: c :: r, 0 =>
    match simpleEscape? c with
    | none => fail .escape ('\\' :: c :: r)
    | some d => do
      let (s, rest) ← stringFrom start r 0
      return (d :: s, rest)
  | c :: r, 0 =>
    if c.toNat < 0x20 then fail .controlCharacter (c :: r)
    else do
      let (s, rest) ← stringFrom start r 0
      return (c :: s, rest)

/-- The string after an opening quote. -/
def string (r : List Char) : Except Stop (String × List Char) := do
  let (s, rest) ← stringFrom (r.length + 1) r 0
  return (String.ofList s, rest)

def digits (s : List Char) : List Char × List Char :=
  s.span Text.isDigitAscii

def natOfDigits (ds : List Char) : Nat :=
  ds.foldl (fun n d => n * 10 + (d.toNat - '0'.toNat)) 0

/-- Digits after a point; a point without digits belongs to what follows the number. -/
def fraction (s : List Char) : Option (List Char) × List Char :=
  match s with
  | '.' :: r => match digits r with
    | ([], _) => (none, s)
    | (ds, rest) => (some ds, rest)
  | _ => (none, s)

def exponent (s : List Char) : Option Int × List Char :=
  let read (negative : Bool) (r : List Char) : Option Int × List Char :=
    match digits r with
    | ([], _) => (none, s)
    | (ds, rest) => (some (if negative then -(natOfDigits ds) else natOfDigits ds), rest)
  let signed (r : List Char) : Option Int × List Char :=
    match r with
    | '-' :: r => read true r
    | '+' :: r => read false r
    | r => read false r
  match s with
  | 'e' :: r => signed r
  | 'E' :: r => signed r
  | _ => (none, s)

/-- A number without fraction and exponent is an integer of any size up to the limit of digits. -/
def number (s : List Char) : Except Stop (Scalar × List Char) :=
  let (negative, r) := match s with
    | '-' :: r => (true, r)
    | r => (false, r)
  let (whole, r) := match r with
    | '0' :: r => (['0'], r)
    | r => digits r
  if whole.isEmpty then fail .value s
  else
    let (part, r) := fraction r
    let (power, r) := exponent r
    if part.isNone && power.isNone then
      if maxIntegerDigits < whole.length then .error (.longInteger whole.length)
      else
        let n : Int := natOfDigits whole
        .ok (.int (if negative then -n else n), r)
    else
      let ds := part.getD []
      .ok (.float (Binary64.ofDecimal negative (natOfDigits (whole ++ ds))
        (power.getD 0 - Int.ofNat ds.length)), r)

/-- The words that stand for values, with the two infinities and the number that is none. -/
def word? : List Char → Option (Scalar × List Char)
  | 'n' :: 'u' :: 'l' :: 'l' :: r => some (.null, r)
  | 't' :: 'r' :: 'u' :: 'e' :: r => some (.bool true, r)
  | 'f' :: 'a' :: 'l' :: 's' :: 'e' :: r => some (.bool false, r)
  | 'N' :: 'a' :: 'N' :: r => some (.float .nan, r)
  | 'I' :: 'n' :: 'f' :: 'i' :: 'n' :: 'i' :: 't' :: 'y' :: r => some (.float (.infinite false), r)
  | '-' :: 'I' :: 'n' :: 'f' :: 'i' :: 'n' :: 'i' :: 't' :: 'y' :: r =>
    some (.float (.infinite true), r)
  | _ => none

mutual

/-- Reads a value whose length stays within `fuel` and which opens at most `depth` containers at
once. -/
def value (fuel depth : Nat) (s : List Char) : Except Stop (Value × List Char) :=
  match fuel with
  | 0 => fail .value s
  | fuel + 1 =>
    match s with
    | '"' :: r => do
      let (t, rest) ← string r
      return (.str t, rest)
    | '\x7b' :: r =>
      match depth, skipSpace r with
      | 0, _ => .error (.deepNesting .object)
      | _ + 1, '\x7d' :: rest => .ok (.table [], rest)
      | depth + 1, r => members fuel depth r []
    | '[' :: r =>
      match depth, skipSpace r with
      | 0, _ => .error (.deepNesting .array)
      | _ + 1, ']' :: rest => .ok (.list [], rest)
      | depth + 1, r => items fuel depth r []
    | s => match word? s with
      | some (w, rest) => .ok (.scalar w, rest)
      | none => do
        let (n, rest) ← number s
        return (.scalar n, rest)

/-- Reads the items of an array after those in `read`, which stand in reverse. -/
def items (fuel depth : Nat) (s : List Char) (read : List Value) : Except Stop (Value × List Char) :=
  match fuel with
  | 0 => fail .value s
  | fuel + 1 => do
    let (v, r) ← value fuel depth s
    match skipSpace r with
    | ']' :: rest => return (.list (v :: read).reverse, rest)
    | ',' :: rest => items fuel depth (skipSpace rest) (v :: read)
    | r => fail .comma r

def members (fuel depth : Nat) (s : List Char) (read : Entries Value) :
    Except Stop (Value × List Char) :=
  match fuel with
  | 0 => fail .value s
  | fuel + 1 =>
    match s with
    | '"' :: r => do
      let (name, r) ← string r
      match skipSpace r with
      | ':' :: r => do
        let (v, r) ← value fuel depth (skipSpace r)
        let read := read.put (.str name) v
        match skipSpace r with
        | '\x7d' :: rest => return (.table read, rest)
        | ',' :: rest => members fuel depth (skipSpace rest) read
        | r => fail .comma r
      | r => fail .colon r
    | s => fail .propertyName s

end

/-- Reads one value with white space around it. A value within a value begins at least one character
later and costs two steps. -/
def document (s : List Char) : Except Stop Value := do
  if s.head? = some '\uFEFF' then .error (.misread .byteOrderMark s.length)
  let (v, rest) ← value (2 * s.length + 1) maxNesting (skipSpace s)
  match skipSpace rest with
  | [] => return v
  | rest => .error (.misread .extraData rest.length)

def read (text : String) : Except Refusal Value :=
  let s := text.toList
  match document s with
  | .ok v => .ok v
  | .error (.misread problem left) => .error (.misread (.after problem (s.take (s.length - left))))
  | .error (.longInteger n) => .error (.longInteger n)
  | .error (.deepNesting within) => .error (.deepNesting within)

end TypeStencil.Json
