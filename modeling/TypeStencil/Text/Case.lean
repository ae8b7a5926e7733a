import TypeStencil.Text.CaseTable
import TypeStencil.Text.Ranges

/-!
Letter case of text: full mappings, in which a character may become several, and a small sigma
written differently at the end of a word. On ASCII text each function works letter by letter.
-/
namespace TypeStencil.Text

def isUpperAscii (c : Char) : Bool := 'A' ≤ c && c ≤ 'Z'
def isLowerAscii (c : Char) : Bool := 'a' ≤ c && c ≤ 'z'
def isDigitAscii (c : Char) : Bool := '0' ≤ c && c ≤ '9'

open CaseTable

/-- The small form of one character outside of any word. -/
def lowerChar (c : Char) : List Char :=
  if c.toNat < 0x80 then [c.toLower]
  else if c = 'İ' then ['i', '\u0307']
  else [Char.ofNat (shiftBy lowerSpans c.toNat)]

def upperChar (c : Char) : List Char :=
  if c.toNat < 0x80 then [c.toUpper]
  else match upperFull.lookup c.toNat with
    | some image => image.map Char.ofNat
    | none => [Char.ofNat (shiftBy upperSpans c.toNat)]

/-- The form of one character at the head of a capitalized word. -/
def titleChar (c : Char) : List Char :=
  if c.toNat < 0x80 then [c.toUpper]
  else match titleFull.lookup c.toNat with
    | some image => image.map Char.ofNat
    | none =>
      if titleSpans.any (·.covers c.toNat) then [Char.ofNat (shiftBy titleSpans c.toNat)]
      else upperChar c

/-- Marks that stand inside a word without being letters of it. -/
def isIgnorable (c : Char) : Bool :=
  inRanges ignorableRanges c

def isCased (c : Char) : Bool :=
  if c.toNat < 0x80 then isUpperAscii c || isLowerAscii c else inRanges casedRanges c

/-- Whether the word goes on: the first character that is not passed over is a letter with case. -/
def wordFollows : List Char → Bool
  | [] => false
  | c :: r => if isIgnorable c then wordFollows r else isCased c

/-- Small letters of the rest of a text, where `inWord` says that a letter of the word came
before. -/
def lowerFrom (inWord : Bool) : List Char → List Char
  | [] => []
  | c :: r =>
    if c.toNat < 0x80 then
      c.toLower :: lowerFrom (if isIgnorable c then inWord else isCased c) r
    else
      (if c = 'Σ' then [if inWord && !wordFollows r then 'ς' else 'σ'] else lowerChar c) ++
        lowerFrom (if isIgnorable c then inWord else isCased c) r

def lower (s : List Char) : List Char :=
  lowerFrom false s

def upper (s : List Char) : List Char :=
  s.flatMap upperChar

/-- The first character in title case and the others small. -/
def capitalize : List Char → List Char
  | [] => []
  | c :: r => titleChar c ++ lowerFrom (!isIgnorable c && isCased c) r

def IsAscii (s : List Char) : Prop :=
  ∀ c ∈ s, c.toNat < 0x80

theorem lowerFrom_eq_map {s : List Char} (h : IsAscii s) (b : Bool) :
    lowerFrom b s = s.map Char.toLower := by
  induction s generalizing b with
  | nil => rfl
  | cons c r ih =>
    have hc : c.toNat < 0x80 := h c (by simp)
    have hr : IsAscii r := fun d hd => h d (by simp [hd])
    simp [lowerFrom, hc, ih hr]

theorem lower_eq_map {s : List Char} (h : IsAscii s) : lower s = s.map Char.toLower :=
  lowerFrom_eq_map h false

theorem upper_eq_map {s : List Char} (h : IsAscii s) : upper s = s.map Char.toUpper := by
  induction s with
  | nil => rfl
  | cons c r ih =>
    have hc : c.toNat < 0x80 := h c (by simp)
    have hr : IsAscii r := fun d hd => h d (by simp [hd])
    have := ih hr
    simp_all [upper, upperChar]

end TypeStencil.Text
