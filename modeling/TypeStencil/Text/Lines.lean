/-!
Texts as lists of lines. A line ends at a newline, with the carriage return before it counted in;
source texts are first brought to newlines alone.
-/
namespace TypeStencil.Text

/-- Adds a character in front of the first line. -/
def consFirst (c : Char) : List (List Char) → List (List Char)
  | [] => [[c]]
  | line :: lines => (c :: line) :: lines

/-- The pieces of a text between the places where `mark` stands. -/
def splitAt (mark : Char) : List Char → List (List Char)
  | [] => [[]]
  | c :: r => if c = mark then [] :: splitAt mark r else consFirst c (splitAt mark r)

/-- The lines of a text, cut at each newline and at each carriage return with newline. -/
def splitLines : List Char → List (List Char)
  | [] => [[]]
  | '\n' :: r => [] :: splitLines r
  | '\r' :: '\n' :: r => [] :: splitLines r
  | c :: r => consFirst c (splitLines r)

/-- The characters that end a line in any kind of text. -/
def isBreak (c : Char) : Bool :=
  let n := c.toNat
  (0x0A ≤ n && n ≤ 0x0D) || (0x1C ≤ n && n ≤ 0x1E) || n == 0x85 || n == 0x2028 || n == 0x2029

/-- The pieces of a text between all characters that end a line. -/
def splitAllBreaks : List Char → List (List Char)
  | [] => [[]]
  | c :: r => if isBreak c then [] :: splitAllBreaks r else consFirst c (splitAllBreaks r)

def joinWith (mark : List Char) : List (List Char) → List Char
  | [] => []
  | [line] => line
  | line :: lines => line ++ mark ++ joinWith mark lines

def joinLines (lines : List (List Char)) : List Char :=
  joinWith ['\n'] lines

/-- Writes every line break of a source as one newline. -/
def unifyBreaks : List Char → List Char
  | [] => []
  | '\r' :: '\n' :: r => '\n' :: unifyBreaks r
  | '\r' :: r => '\n' :: unifyBreaks r
  | c :: r => c :: unifyBreaks r

/-- The lines of free text; missing text has none. -/
def lines (text : String) : List String :=
  if text.isEmpty then [] else (splitLines text.toList).map String.ofList

theorem consFirst_ne_nil (c : Char) (ls : List (List Char)) : consFirst c ls ≠ [] := by
  cases ls <;> simp [consFirst]

theorem splitAt_ne_nil (mark : Char) (s : List Char) : splitAt mark s ≠ [] := by
  cases s with
  | nil => simp [splitAt]
  | cons c r =>
    by_cases h : c = mark
    · simp [splitAt, h]
    · simp [splitAt, h, consFirst_ne_nil]

/-- A text without the mark is one piece. -/
theorem splitAt_of_not_mem {mark : Char} {s : List Char} (h : mark ∉ s) : splitAt mark s = [s] := by
  induction s with
  | nil => rfl
  | cons c r ih =>
    rw [List.mem_cons, not_or] at h
    rw [splitAt, if_neg (Ne.symm h.1), ih h.2]
    rfl

theorem joinWith_consFirst (mark : List Char) (c : Char) {ls : List (List Char)} (h : ls ≠ []) :
    joinWith mark (consFirst c ls) = c :: joinWith mark ls := by
  match ls, h with
  | [line], _ => rfl
  | line :: next :: rest, _ => rfl

/-- Cutting a text at a mark loses nothing but the marks. -/
theorem joinWith_splitAt (mark : Char) (s : List Char) : joinWith [mark] (splitAt mark s) = s := by
  induction s with
  | nil => rfl
  | cons c r ih =>
    by_cases h : c = mark
    · subst h
      have hne := splitAt_ne_nil c r
      revert ih hne
      cases hs : splitAt c r with
      | nil => simp
      | cons line rest => intro ih _; simp [splitAt, hs, joinWith, ih]
    · simp [splitAt, h, joinWith_consFirst _ _ (splitAt_ne_nil mark r), ih]

end TypeStencil.Text
