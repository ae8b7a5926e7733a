import TypeStencil.Text.Lines

/-!
Paths as texts with segments between slashes. A path without a leading slash is taken from the
root directory wherever it has to be resolved.
-/
namespace TypeStencil.PathText

abbrev Segment := List Char

def parentSegment : Segment := ['.', '.']

def isAbsolute (s : List Char) : Bool :=
  s.head? == some '/'

/-- A second path that is absolute stands alone. -/
def join (a b : List Char) : List Char :=
  if isAbsolute b then b
  else if a.isEmpty || a.getLast? == some '/' then a ++ b
  else a ++ '/' :: b

def segments (s : List Char) : List Segment :=
  Text.splitAt '/' s

/-- Goes from a directory into a segment; the directory's last segment stands first. -/
def enter (above : List Segment) (s : Segment) : List Segment :=
  if s = [] ∨ s = ['.'] then above
  else if s = parentSegment then above.drop 1
  else s :: above

/-- The segments of a path from the root, with all detours taken out. -/
def resolve (s : List Char) : List Segment :=
  ((segments s).foldl enter []).reverse

/-- What is left of two lists after their common beginning. -/
def dropCommon {α : Type} [DecidableEq α] : List α → List α → List α × List α
  | a :: as, b :: bs => if a = b then dropCommon as bs else (a :: as, b :: bs)
  | as, bs => (as, bs)

/-- The way from one resolved path to another: up as far as needed and then down. -/
def route (start target : List Segment) : List Segment :=
  let (up, down) := dropCommon start target
  up.map (fun _ => parentSegment) ++ down

def joinSegments (segments : List Segment) : List Char :=
  Text.joinWith ['/'] segments

/-- A relative path from `start` to `target`, which is a dot if they are the same place. -/
def relative (target start : List Char) : List Char :=
  match route (resolve start) (resolve target) with
  | [] => ['.']
  | segments => joinSegments segments

end TypeStencil.PathText
