import TypeStencil.Sorting.Search

/-!
Merging two sorted runs that lie side by side. Items are taken one by one until one run gives many
in a row; from then on whole stretches are taken as long as they are long. How many in a row are
many is learned from one merge to the next.
-/
namespace TypeStencil.Sorting

variable {α ε : Type}

/-- A merge goes forwards from the heads of the runs, or backwards from their ends. -/
inductive Direction where
  | forwards
  | backwards
  deriving DecidableEq, Repr

/-- What is left of two runs, each in the direction of the merge. The lead run is the one that an
item is taken from if the other run does not win; what is taken stands in reverse. -/
structure Strands (α : Type) where
  lead : List α
  other : List α
  taken : List α

namespace Strands

/-- No comparison is needed any more: the last item of the lead run goes behind all others. -/
def isSettled (s : Strands α) : Bool :=
  s.other.isEmpty || s.lead.length ≤ 1

/-- All items in the order of the merge. -/
def result (s : Strands α) : List α :=
  s.taken.reverse ++ s.other ++ s.lead

def takeLead (n : Nat) (s : Strands α) : Strands α :=
  { s with lead := s.lead.drop n, taken := (s.lead.take n).reverse ++ s.taken }

def takeOther (n : Nat) (s : Strands α) : Strands α :=
  { s with other := s.other.drop n, taken := (s.other.take n).reverse ++ s.taken }

end Strands

/-- Whether an item of the other run goes before one of the lead run. -/
def wins (lt : α → α → Except ε Bool) : Direction → α → α → Except ε Bool
  | .forwards, other, lead => lt other lead
  | .backwards, other, lead => lt lead other

/-- From both runs together a test must have so many items in a row to be long. -/
def longStretch : Nat := 7

namespace Strands

variable (lt : α → α → Except ε Bool)

def rounding : Direction → Rounding
  | .forwards => .up
  | .backwards => .down

/-- Takes the stretch of the lead run that goes before the next item of the other, and that item.
Says how long the stretch was. -/
def stretchLead (d : Direction) (s : Strands α) : Except ε (Nat × Strands α) :=
  match s.other with
  | [] => .ok (0, s)
  | y :: _ => do
    let n ← countAhead (rounding d) (fun x => return !(← wins lt d y x)) s.lead
    let s := s.takeLead n
    return (n, if s.isSettled then s else s.takeOther 1)

/-- Takes the stretch of the other run that goes before the next item of the lead run, and that
item. -/
def stretchOther (d : Direction) (s : Strands α) : Except ε (Nat × Strands α) :=
  match s.lead with
  | [] => .ok (0, s)
  | x :: _ => do
    let n ← countAhead (rounding d) (fun y => wins lt d y x) s.other
    let s := s.takeOther n
    return (n, if s.isSettled then s else s.takeLead 1)

/-- A stretch of either run; a forward merge begins with the lead run. -/
def stretches (d : Direction) (s : Strands α) : Except ε (Nat × Strands α) := do
  let (first, second) := match d with
    | .forwards => (stretchLead lt d, stretchOther lt d)
    | .backwards => (stretchOther lt d, stretchLead lt d)
  let (m, s) ← first s
  if s.isSettled then return (m, s)
  else
    let (n, s) ← second s
    return (max m n, s)

/-- How a merge takes items: one by one, with the numbers in a row of either run, or in
stretches. -/
inductive Pace where
  | single (leads others : Nat)
  | stretched
  deriving DecidableEq, Repr

/-- Merges what is left within `fuel` steps. `patience` items in a row are many; the patience at
the end goes with the result. -/
def merge (d : Direction) : Nat → Nat → Pace → Strands α → Except ε (List α × Nat)
  | 0, patience, _, s => .ok (s.result, patience)
  | fuel + 1, patience, pace, s =>
    if s.isSettled then .ok (s.result, patience)
    else
      match pace with
      | .single leads others =>
        match s.lead, s.other with
        | x :: _, y :: _ => do
          if ← wins lt d y x then
            merge d fuel patience
              (if patience ≤ others + 1 then .stretched else .single 0 (others + 1)) (s.takeOther 1)
          else
            merge d fuel patience
              (if patience ≤ leads + 1 then .stretched else .single (leads + 1) 0) (s.takeLead 1)
        | _, _ => .ok (s.result, patience)
      | .stretched => do
        let (longest, s) ← stretches lt d s
        if s.isSettled then return (s.result, patience)
        else if longStretch ≤ longest then merge d fuel (max 1 (patience - 1)) .stretched s
        else merge d fuel (patience + 1) (.single 0 0) s

end Strands

/-- Merges two runs of which the first item of the second goes to the front and the last item of
the first to the end. The shorter run leads. -/
def mergeOverlap (lt : α → α → Except ε Bool) (patience : Nat) (xs ys : List α) :
    Except ε (List α × Nat) :=
  let steps := xs.length + ys.length
  if xs.length ≤ ys.length then
    (Strands.takeOther 1 ⟨xs, ys, []⟩).merge lt .forwards steps patience (.single 0 0)
  else do
    let (merged, patience) ←
      (Strands.takeOther 1 ⟨ys.reverse, xs.reverse, []⟩).merge lt .backwards steps patience
        (.single 0 0)
    return (merged.reverse, patience)

/-- Merges two sorted runs of which the first lies before the second. Of equal items, those of the
first run come first. -/
def mergeRuns (lt : α → α → Except ε Bool) (patience : Nat) (xs ys : List α) :
    Except ε (List α × Nat) :=
  match ys with
  | [] => .ok (xs, patience)
  | y :: _ => do
    let front ← countAhead .up (fun x => return !(← lt y x)) xs
    match (xs.drop front).getLast? with
    | none => return (xs ++ ys, patience)
    | some x =>
      let back ← countAhead .down (fun z => return !(← lt z x)) ys.reverse
      let middle := ys.length - back
      if middle = 0 then return (xs ++ ys, patience)
      else
        let (merged, patience) ← mergeOverlap lt patience (xs.drop front) (ys.take middle)
        return (xs.take front ++ merged ++ ys.drop middle, patience)

end TypeStencil.Sorting
