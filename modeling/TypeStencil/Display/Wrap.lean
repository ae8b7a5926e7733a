import TypeStencil.Text.Width
import TypeStencil.Text.Words

/-!
Text broken into lines of limited width. Words stay together where a line has room for them; a word
that none has room for is folded or cut short.
-/
namespace TypeStencil.Display

/-- What becomes of a word that is wider than a line. -/
inductive Overflow where
  | fold
  | ellipsis
  deriving DecidableEq, Repr

/-- The distance of two tab stops. -/
def tabSize : Nat := 8

/-- Text with the tab behind it written out: one space, and as many more as lead to the next
stop. -/
def padToStop (s : List Char) : List Char :=
  let spaced := s ++ [' ']
  spaced ++ List.replicate ((tabSize - Text.width spaced % tabSize) % tabSize) ' '

/-- Writes out the tabs of a line. -/
def spaceTabs (line : List Char) : List Char :=
  let parts := Text.splitAt '\t' line
  (parts.dropLast.map padToStop).flatten ++ parts.getLastD []

/-- Closes a line that holds something. -/
def closed (line : List Char) : List (List Char) :=
  if line.isEmpty then [] else [line]

/-- Puts words into lines of some room. `line` is the one that is being filled, in which `used`
cells are taken. -/
def placeWords (overflow : Overflow) (room used : Nat) (line : List Char) :
    List (List Char) → List (List Char)
  | [] => [line]
  | word :: rest =>
    let needed := Text.width (Text.stripEnd word)
    if used + needed ≤ room then
      placeWords overflow room (used + Text.width word) (line ++ word) rest
    else if room < needed ∧ overflow = .fold then
      let pieces := Text.chop room word
      let last := pieces.getLastD []
      closed line ++ pieces.dropLast ++ placeWords overflow room (Text.width last) last rest
    else closed line ++ placeWords overflow room (Text.width word) word rest

/-- Drops blanks from the end of a line that has more characters than there is room. -/
def trimEnd (room : Nat) (line : List Char) : List Char :=
  let blanks := (line.reverse.takeWhile Text.isBlank).length
  line.take (line.length - min blanks (line.length - room))

/-- Makes a line fit. -/
def shorten (overflow : Overflow) (room : Nat) (line : List Char) : List Char :=
  match overflow with
  | .fold => Text.crop room line
  | .ellipsis => if Text.width line ≤ room then line else Text.crop (room - 1) line ++ ['…']

/-- The lines of a text in some room. -/
def wrap (overflow : Overflow) (room : Nat) (s : List Char) : List (List Char) :=
  (Text.splitAt '\n' s).flatMap fun line =>
    (placeWords overflow room 0 [] (Text.spacedWords (spaceTabs line))).map fun line =>
      shorten overflow room (trimEnd room line)

end TypeStencil.Display
