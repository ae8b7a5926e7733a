import TypeStencil.Text.Case
import TypeStencil.Text.Lines

/-!
Case styles of names. Every style goes through the snake form: words in small letters joined by
single underscores, cut where the capitals of the name begin a word.
-/
namespace TypeStencil

inductive NamingCase where
  | snake
  | camel
  | pascal
  | kebab
  | screamingSnake
  deriving DecidableEq, Repr

namespace NamingCase

def label : NamingCase → String
  | snake => "snake"
  | camel => "camel"
  | pascal => "pascal"
  | kebab => "kebab"
  | screamingSnake => "screaming_snake"

def all : List NamingCase :=
  [snake, camel, pascal, kebab, screamingSnake]

def ofLabel? (s : String) : Option NamingCase :=
  all.find? fun c => c.label == s

theorem ofLabel?_label (c : NamingCase) : ofLabel? c.label = some c := by
  cases c <;> decide

end NamingCase

namespace Naming

open Text

def replaceChar (old new : Char) (s : List Char) : List Char :=
  s.map fun c => if c = old then new else c

/-- Drops the characters of a class from both ends. -/
def trim (p : Char → Bool) (s : List Char) : List Char :=
  ((s.dropWhile p).reverse.dropWhile p).reverse

/-- An underscore before the last of several capitals, where a small letter follows it. -/
def splitAcronyms : List Char → List Char
  | a :: b :: c :: r =>
    if isUpperAscii a && isUpperAscii b && isLowerAscii c then
      a :: '_' :: splitAcronyms (b :: c :: r)
    else a :: splitAcronyms (b :: c :: r)
  | s => s

/-- An underscore between a small letter or digit and a capital. -/
def splitHumps : List Char → List Char
  | a :: b :: r =>
    if (isLowerAscii a || isDigitAscii a) && isUpperAscii b then a :: '_' :: splitHumps (b :: r)
    else a :: splitHumps (b :: r)
  | s => s

/-- Writes every run of underscores as one. -/
def squeeze : List Char → List Char
  | '_' :: '_' :: r => squeeze ('_' :: r)
  | c :: r => c :: squeeze r
  | [] => []

def snake (s : List Char) : List Char :=
  trim (· == '_') (squeeze (lower (splitHumps (splitAcronyms (replaceChar '-' '_' s)))))

def words (s : List Char) : List (List Char) :=
  (splitAt '_' (snake s)).filter (!·.isEmpty)

/-- A name without words stays as it is. -/
def camel (s : List Char) : List Char :=
  match words s with
  | [] => s
  | w :: ws => w ++ ws.flatMap capitalize

def pascal (s : List Char) : List Char :=
  (words s).flatMap capitalize

def kebab (s : List Char) : List Char :=
  replaceChar '_' '-' (snake s)

def convert (style : NamingCase) (s : List Char) : List Char :=
  match style with
  | .snake => snake s
  | .camel => camel s
  | .pascal => pascal s
  | .kebab => kebab s
  | .screamingSnake => upper (snake s)

/-- Converts a whole name. -/
def convertName (style : NamingCase) (name : String) : String :=
  String.ofList (convert style name.toList)

end Naming

end TypeStencil
