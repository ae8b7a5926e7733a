import TypeStencil.Text.Blank
import TypeStencil.Text.Lines

/-!
Texts as lists of words, without the white space between them or with it.
-/
namespace TypeStencil.Text

/-- The pieces of a text between its blanks. -/
def splitBlanks : List Char → List (List Char)
  | [] => [[]]
  | c :: r => if isBlank c then [] :: splitBlanks r else consFirst c (splitBlanks r)

/-- The longest pieces of a text without white space. -/
def words (s : List Char) : List (List Char) :=
  (splitBlanks s).filter fun word => !word.isEmpty

/-- A text cut in front of each word that follows a blank. -/
def cutBlanks : List Char → List (List Char)
  | [] => []
  | c :: r =>
    if isBlank c && r.head?.any fun d => !isBlank d then [c] :: cutBlanks r
    else consFirst c (cutBlanks r)

/-- The words of a text, each with the white space behind it and the first also with that in front
of it. -/
def spacedWords (s : List Char) : List (List Char) :=
  match cutBlanks s with
  | first :: second :: rest =>
    if isBlankLine first then (first ++ second) :: rest else first :: second :: rest
  | pieces => pieces

theorem flatten_consFirst (c : Char) (pieces : List (List Char)) :
    (consFirst c pieces).flatten = c :: pieces.flatten := by
  cases pieces <;> rfl

theorem flatten_cutBlanks (s : List Char) : (cutBlanks s).flatten = s := by
  induction s with
  | nil => rfl
  | cons c r ih =>
    unfold cutBlanks
    split
    · simp [ih]
    · rw [flatten_consFirst, ih]

/-- Nothing of a text is lost in its words. -/
theorem flatten_spacedWords (s : List Char) : (spacedWords s).flatten = s := by
  have h := flatten_cutBlanks s
  unfold spacedWords
  split
  next first second rest hcut =>
    rw [hcut] at h
    split <;> simpa using h
  next => exact h

end TypeStencil.Text
