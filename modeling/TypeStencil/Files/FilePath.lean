import TypeStencil.Files.PathText

/-!
Paths in the form in which they are shown and joined: how the path begins at the root, and its
segments without empty ones and single dots.
-/
namespace TypeStencil

/-- Two leading slashes are kept apart from one; more count as one. -/
inductive PathRoot where
  | relative
  | slash
  | twoSlashes
  deriving DecidableEq, Repr

def PathRoot.text : PathRoot → String
  | relative => ""
  | slash => "/"
  | twoSlashes => "//"

structure FilePath where
  root : PathRoot
  segments : List String
  deriving DecidableEq, Repr

namespace FilePath

def ofString (s : String) : FilePath where
  root :=
    match s.toList with
    | '/' :: '/' :: '/' :: _ => .slash
    | '/' :: '/' :: _ => .twoSlashes
    | '/' :: _ => .slash
    | _ => .relative
  segments := ((PathText.segments s.toList).filter fun x => x != [] && x != ['.']).map String.ofList

def text (p : FilePath) : String :=
  if p.root = .relative ∧ p.segments = [] then "."
  else p.root.text ++ String.intercalate "/" p.segments

/-- A second path that is absolute stands alone. -/
def join (a b : FilePath) : FilePath :=
  if b.root = .relative then ⟨a.root, a.segments ++ b.segments⟩ else b

def parent (p : FilePath) : FilePath :=
  ⟨p.root, p.segments.dropLast⟩

/-- The last segment from its last dot on, if that is neither its first nor its last character. -/
def suffix (p : FilePath) : String :=
  let name := (p.segments.getLastD "").toList
  let tail := name.reverse.takeWhile (· != '.')
  if tail.isEmpty || name.length ≤ tail.length + 1 then ""
  else String.ofList ('.' :: tail.reverse)

end FilePath

end TypeStencil
