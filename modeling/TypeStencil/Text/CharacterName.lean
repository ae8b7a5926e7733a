import TypeStencil.Text.CharacterName.Alias
import TypeStencil.Text.CharacterName.Alphabets
import TypeStencil.Text.CharacterName.EastAsia
import TypeStencil.Text.CharacterName.Signs
import TypeStencil.Text.CharacterName.Supplement
import TypeStencil.Text.Lines

/-!
The names of characters. Most are listed; ideographs are named by their code points and Hangul
syllables by their sounds. The listed names may be written in small letters too.
-/
namespace TypeStencil.Text

namespace CharacterName

/-- The entries of a table. -/
def entriesOf (rows : List String) : List String :=
  rows.flatMap fun row => row.splitOn ";"

/-- The words of a name, each with the blank or hyphen behind it. -/
def wordsOf : List Char → List (List Char)
  | [] => []
  | c :: r => if c = ' ' || c = '-' then [c] :: wordsOf r else consFirst c (wordsOf r)

/-- The value of a digit or of a capital as a hexadecimal digit. -/
def hexValue? (c : Char) : Option Nat :=
  if '0' ≤ c && c ≤ '9' then some (c.toNat - '0'.toNat)
  else if 'A' ≤ c && c ≤ 'F' then some (c.toNat - 'A'.toNat + 10)
  else none

/-- The number of some hexadecimal digits. -/
def hexNumber? (digits : List Char) : Option Nat :=
  digits.foldl (fun n d => do return (← n) * 16 + (← hexValue? d)) (some 0)

/-- The code point of a name among entries, of which the first is for code point `n` and comes after
a name of the words `before`. -/
def listedCode? (name : List Char) (n : Nat) (before : List (List Char)) :
    List String → Option Nat
  | [] => none
  | entry :: rest =>
    match entry.toList with
    | [] => listedCode? name n before rest
    | '@' :: digits => listedCode? name ((hexNumber? digits).getD n) before rest
    | shared :: r =>
      let words := before.take ((hexNumber? [shared]).getD 0) ++ wordsOf r
      if words.flatten == name then some n else listedCode? name (n + 1) words rest

/-- The code point of one of the further names. -/
def aliasCode? (name : List Char) : Option Nat :=
  (entriesOf aliases).findSome? fun entry =>
    let (known, code) := entry.toList.span (· != '@')
    if known == name && !name.isEmpty then hexNumber? (code.drop 1) else none

/-- The code points of characters that are named by them, under what comes before. -/
def numbered : List (String × List (Nat × Nat)) := [
  ("CJK COMPATIBILITY IDEOGRAPH-", [(0xF900, 0xFA6D), (0xFA70, 0xFAD9), (0x2F800, 0x2FA1D)]),
  ("KHITAN SMALL SCRIPT CHARACTER-", [(0x18B00, 0x18CD5)]),
  ("NUSHU CHARACTER-", [(0x1B170, 0x1B2FB)])]

def isWithin (ranges : List (Nat × Nat)) (n : Nat) : Bool :=
  ranges.any fun r => r.1 ≤ n && n ≤ r.2

/-- What follows the beginning of a name. -/
def rest? (beginning : String) (name : List Char) : Option (List Char) :=
  if beginning.toList.isPrefixOf name then some (name.drop beginning.length) else none

/-- The code point of a name that ends with it, without zeros in front. -/
def numberedCode? (name : List Char) : Option Nat :=
  numbered.findSome? fun (beginning, ranges) => do
    let digits ← rest? beginning name
    let n ← hexNumber? digits
    if isWithin ranges n && digits.head? != some '0' then some n else none

/-- The unified ideographs. -/
def ideographs : List (Nat × Nat) := [
  (0x3400, 0x4DBF), (0x4E00, 0x9FFF), (0x20000, 0x2A6DF), (0x2A700, 0x2B738), (0x2B740, 0x2B81D),
  (0x2B820, 0x2CEA1), (0x2CEB0, 0x2EBE0), (0x30000, 0x3134A)]

/-- The code point of four or five digits. -/
def ideographCode? (digits : List Char) : Option Nat := do
  let n ← hexNumber? digits
  if isWithin ideographs n && (digits.length == 4 || digits.length == 5) then some n else none

/-- The initial, middle and final sounds of Hangul syllables. -/
def initials : List String := [
  "G", "GG", "N", "D", "DD", "R", "M", "B", "BB", "S", "SS", "", "J", "JJ", "C", "K", "T", "P", "H"]

def middles : List String := [
  "A", "AE", "YA", "YAE", "EO", "E", "YEO", "YE", "O", "WA", "WAE", "OE", "YO", "U", "WEO", "WE",
  "WI", "YU", "EU", "YI", "I"]

def finals : List String := [
  "", "G", "GG", "GS", "N", "NJ", "NH", "D", "L", "LG", "LM", "LB", "LS", "LT", "LP", "LH", "M",
  "B", "BS", "S", "SS", "NG", "J", "C", "K", "T", "P", "H"]

/-- The longest of some sounds with which a text begins, by its place among them, and what
follows. -/
def sound? (sounds : List String) (s : List Char) : Option (Nat × List Char) :=
  let found := sounds.zipIdx.filter fun e => e.1.toList.isPrefixOf s
  let longest := found.foldl (fun best e =>
    if best.any fun b => e.1.length ≤ b.1.length then best else some e) none
  longest.map fun e => (e.2, s.drop e.1.length)

/-- The code point of the syllable of some sounds. -/
def syllableCode? (s : List Char) : Option Nat := do
  let (initial, s) ← sound? initials s
  let (middle, s) ← sound? middles s
  let (final, s) ← sound? finals s
  if s.isEmpty then
    some (0xAC00 + (initial * middles.length + middle) * finals.length + final)
  else none

/-- The code point of a name. -/
def code? (name : List Char) : Option Nat :=
  match rest? "HANGUL SYLLABLE " name, rest? "CJK UNIFIED IDEOGRAPH-" name with
  | some sounds, _ => syllableCode? sounds
  | none, some digits => ideographCode? digits
  | none, none =>
    let name := name.map Char.toUpper
    (numberedCode? name <|> aliasCode? name) <|>
      [alphabets, signs, eastAsia, supplement].findSome? fun table =>
        listedCode? name 0 [] (entriesOf table)

end CharacterName

/-- The character of a name. -/
def characterOfName? (name : String) : Option Char :=
  (CharacterName.code? name.toList).map Char.ofNat

end TypeStencil.Text
