import TypeStencil.Naming.Case
import TypeStencil.Text.Digit

/-!
Turning arbitrary names into usable ones. A sanitizer avoids reserved words and, on demand, every
name it has handed out before; other results are remembered under a key of name, style and suffix.
-/
namespace TypeStencil

/-- What a sanitizer avoids, both lists in small letters, and what it calls the nameless. -/
structure NamingRules where
  reserved : List String
  builtin : List String
  emptyName : String
  deriving Repr

namespace NamingRules

open Text Naming

def isNameChar (c : Char) : Bool :=
  isUpperAscii c || isLowerAscii c || isDigitAscii c || c == '_' || c == '-'

/-- Other characters become underscores, and no dash or underscore stays at the ends. -/
def clean (rules : NamingRules) (name : List Char) : List Char :=
  let cleaned := trim (fun c => c == '_' || c == '-')
    (name.map fun c => if isNameChar c then c else '_')
  if cleaned.isEmpty then rules.emptyName.toList else cleaned

/-- Identifiers do not start with a digit. -/
def guardDigit (name : List Char) : List Char :=
  match name with
  | c :: _ => if isDigitSign c then '_' :: name else name
  | [] => []

def avoids (rules : NamingRules) (name : List Char) : Bool :=
  let small := String.ofList (lower name)
  rules.reserved.contains small || rules.builtin.contains small

/-- The name for a call that does not ask for a unique one. -/
def plain (rules : NamingRules) (name : String) (style : NamingCase) (suffix : String) : String :=
  let converted := guardDigit (convert style (rules.clean name.toList))
  String.ofList converted ++ (if rules.avoids converted then suffix else "")

end NamingRules

structure Sanitizer where
  rules : NamingRules
  cache : List (String × String)
  used : List String
  deriving Repr

namespace Sanitizer

def ofRules (rules : NamingRules) : Sanitizer :=
  ⟨rules, [], []⟩

def cacheKey (name : String) (style : NamingCase) (suffix : String) : String :=
  name ++ "_" ++ style.label ++ "_" ++ suffix

/-- The spelling of a name that is tried after so many others. -/
def candidate (base suffix : String) (k : Nat) : String :=
  if suffix == "_" then base ++ suffix ++ toString k else base ++ toString k

/-- The first candidate from number `k` on that is free, looking at `tries` of them. -/
def firstFree (used : List String) (base suffix : String) : Nat → Nat → String
  | 0, k => candidate base suffix k
  | tries + 1, k =>
    if used.contains (candidate base suffix k) then firstFree used base suffix tries (k + 1)
    else candidate base suffix k

/-- The name itself where it is free. Of as many candidates as there are used names, one is free,
since the name is among the used ones. -/
def disambiguate (used : List String) (base suffix : String) : String :=
  if used.contains base then firstFree used base suffix used.length 1 else base

def markUsed (s : Sanitizer) (name : String) : Sanitizer :=
  if s.used.contains name then s else { s with used := name :: s.used }

/-- A call to a sanitizer. -/
inductive Call where
  | sanitize (name : String) (style : NamingCase) (suffix : String) (unique : Bool)
  | addUsed (name : String)
  | reset
  deriving DecidableEq, Repr

def sanitizePlain (s : Sanitizer) (name : String) (style : NamingCase) (suffix : String) :
    Sanitizer × String :=
  let key := cacheKey name style suffix
  match s.cache.lookup key with
  | some known => (s, known)
  | none =>
    let result := s.rules.plain name style suffix
    ({ s with cache := (key, result) :: s.cache }, result)

def sanitizeUnique (s : Sanitizer) (name : String) (style : NamingCase) (suffix : String) :
    Sanitizer × String :=
  let result := disambiguate s.used (s.rules.plain name style suffix) suffix
  (s.markUsed result, result)

/-- One call, with the name it returns if it returns one. -/
def step (s : Sanitizer) : Call → Sanitizer × Option String
  | .sanitize name style suffix unique =>
    let (s, result) :=
      if unique then s.sanitizeUnique name style suffix else s.sanitizePlain name style suffix
    (s, some result)
  | .addUsed name => (s.markUsed name, none)
  | .reset => ({ s with used := [] }, none)

/-- The answers to a history of calls, and the sanitizer after it. -/
def run (s : Sanitizer) : List Call → Sanitizer × List (Option String)
  | [] => (s, [])
  | c :: rest =>
    let (s, answer) := s.step c
    let (s, answers) := s.run rest
    (s, answer :: answers)

end Sanitizer

end TypeStencil
