import TypeStencil.Sorting.Merge
import TypeStencil.Text.Case
import TypeStencil.Value.Order

/-!
Stable sorting by a comparison that may refuse its arguments. A list is cut into runs, which are
merged two by two, so that all merges together are nearly as few comparisons as can be. Which pairs
are compared, and in which order, depends on the outcomes alone, so the first pair that cannot be
compared is always the same one.
-/
namespace TypeStencil

namespace Sorting

variable {α ε : Type}

/-- The items that continue a run after `last`, and the rest. -/
def continueRun (lt : α → α → Except ε Bool) (descending : Bool) (last : α) :
    List α → Except ε (List α × List α)
  | [] => .ok ([], [])
  | x :: xs => do
    if (← lt x last) == descending then
      let (run, rest) ← continueRun lt descending x xs
      return (x :: run, rest)
    else return ([], x :: xs)

/-- Puts an item behind those that are not greater. -/
def insert (lt : α → α → Except ε Bool) (x : α) (xs : List α) : Except ε (List α) :=
  match h : xs.drop (xs.length / 2) with
  | [] => .ok [x]
  | y :: back =>
    have := congrArg List.length h
    do
      if ← lt x y then
        return (← insert lt x (xs.take (xs.length / 2))) ++ y :: back
      else
        return xs.take (xs.length / 2) ++ y :: (← insert lt x back)
termination_by xs.length
decreasing_by all_goals simp at this ⊢; omega

/-- Only an empty list has nothing from its middle on. -/
theorem insert_of_nil {lt : α → α → Except ε Bool} {x : α} {xs : List α}
    (h : xs.drop (xs.length / 2) = []) : xs = [] ∧ insert lt x xs = .ok [x] := by
  have hle := List.drop_eq_nil_iff.mp h
  refine ⟨List.length_eq_zero_iff.mp (by omega), ?_⟩
  rw [insert.eq_def]
  split
  · rfl
  · next hcons =>
      rw [h] at hcons
      cases hcons

theorem insert_of_cons {lt : α → α → Except ε Bool} {x y : α} {xs back : List α}
    (h : xs.drop (xs.length / 2) = y :: back) :
    insert lt x xs = do
      if ← lt x y then
        return (← insert lt x (xs.take (xs.length / 2))) ++ y :: back
      else
        return xs.take (xs.length / 2) ++ y :: (← insert lt x back) := by
  rw [insert.eq_def]
  split
  · next hnil =>
      rw [h] at hnil
      cases hnil
  · next hcons =>
      rw [h] at hcons
      obtain ⟨rfl, rfl⟩ := List.cons.inj hcons
      rfl

/-- The longest run at the head of a list, in order, and the rest. A descending run is strictly so,
which keeps the order of equal items when it is turned round. -/
def headRun (lt : α → α → Except ε Bool) : List α → Except ε (List α × List α)
  | [] => .ok ([], [])
  | [x] => .ok ([x], [])
  | x :: y :: rest => do
    let descending ← lt y x
    let (run, rest) ← continueRun lt descending y rest
    return (if descending then (x :: y :: run).reverse else x :: y :: run, rest)

/-- Halves a number until it is below 64 and adds one if a half was lost on the way, now or
before. -/
def halvedBelow64 (lost : Bool) (n : Nat) : Nat :=
  if n < 64 then (if lost then n + 1 else n) else halvedBelow64 (lost || n % 2 == 1) (n / 2)

/-- The length that the runs of a list of `n` items are brought to, such that their number is a
power of two or little less. -/
def runLength (n : Nat) : Nat :=
  halvedBelow64 false n

/-- A sorted stretch of a list that begins at position `start`. -/
structure Run (α : Type) where
  start : Nat
  items : List α
  power : Nat

/-- How many halvings of the list tell the middles of two neighbouring stretches apart. The middles
are given in units of half an item, for a list of `n` items; `fuel` bounds the halvings. -/
def halvings (n : Nat) : Nat → Nat → Nat → Nat
  | 0, _, _ => 0
  | fuel + 1, a, b =>
    if n ≤ a then 1 + halvings n fuel (2 * (a - n)) (2 * (b - n))
    else if n ≤ b then 1
    else 1 + halvings n fuel (2 * a) (2 * b)

/-- The power of the border between a stretch and the next one. -/
def borderPower (n start first second : Nat) : Nat :=
  halvings n (n + 1) (2 * start + first) (2 * start + 2 * first + second)

/-- Merges the two uppermost runs as long as the border below them is a finer one than `power`. -/
def mergeAbove (lt : α → α → Except ε Bool) (power : Nat) (patience : Nat) (top : Run α) :
    List (Run α) → Except ε (Run α × List (Run α) × Nat)
  | [] => .ok (top, [], patience)
  | below :: rest =>
    if power < below.power then do
      let (items, patience) ← mergeRuns lt patience below.items top.items
      mergeAbove lt power patience ⟨below.start, items, 0⟩ rest
    else .ok (top, below :: rest, patience)

/-- Merges all runs, the uppermost ones first unless the two below them leave a smaller gap. -/
def mergeAll (lt : α → α → Except ε Bool) :
    Nat → List (Run α) → Except ε (List α)
  | _, [] => .ok []
  | _, [run] => .ok run.items
  | patience, [top, below] => do
    return (← mergeRuns lt patience below.items top.items).1
  | patience, top :: middle :: bottom :: rest =>
    if bottom.items.length < top.items.length then do
      let (items, patience) ← mergeRuns lt patience bottom.items middle.items
      mergeAll lt patience (top :: ⟨bottom.start, items, 0⟩ :: rest)
    else do
      let (items, patience) ← mergeRuns lt patience middle.items top.items
      mergeAll lt patience (⟨middle.start, items, 0⟩ :: bottom :: rest)
termination_by _ runs => runs.length

/-- Cuts what is left of a list of `n` items into runs, each brought to the run length as far as
items are left, and merges them. The run that was cut off last stands first; `fuel` bounds their
number. -/
def sortRest (lt : α → α → Except ε Bool) (n : Nat) :
    Nat → Nat → Nat → List (Run α) → List α → Except ε (List α)
  | 0, _, patience, runs, _ => mergeAll lt patience runs
  | _, _, patience, runs, [] => mergeAll lt patience runs
  | fuel + 1, start, patience, runs, x :: xs => do
    let (head, rest) ← headRun lt (x :: xs)
    let missing := runLength n - head.length
    let items ← (rest.take missing).foldlM (fun acc z => insert lt z acc) head
    let rest := rest.drop missing
    let new : Run α := ⟨start, items, 0⟩
    match runs with
    | [] => sortRest lt n fuel (start + items.length) patience [new] rest
    | top :: below =>
      let power := borderPower n top.start top.items.length items.length
      let (top, below, patience) ← mergeAbove lt power patience top below
      sortRest lt n fuel (start + items.length) patience (new :: { top with power } :: below) rest

def sort (lt : α → α → Except ε Bool) (xs : List α) : Except ε (List α) :=
  sortRest lt xs.length xs.length 0 longStretch [] xs

/-- Sorts by a key that is worked out once for each item. -/
def sortByKey (key : α → Except Fault Value) (xs : List α) : Except Fault (List α) := do
  let keyed ← xs.mapM fun x => return (← key x, x)
  let sorted ← (sort (fun a b => Value.lt a.1 b.1) keyed).mapError Fault.type
  return sorted.map Prod.snd

end Sorting

/-- What the entries of a list are sorted by. -/
inductive SortKey where
  | component (key : Value)
  | length
  | lowered
  | text

namespace SortKey

def of (k : SortKey) (v : Value) : Except Fault Value :=
  match k with
  | component key => v.component key
  | length => return .int (← v.length.mapError .type)
  | lowered =>
    match v with
    | .str s => return .str (String.ofList (Text.lower s.toList))
    | v => throw (.type (.notLowered v.kind))
  | text => return .str v.text

end SortKey

def sortBy (entries : Value) (key : SortKey) : Except Fault (List Value) := do
  Sorting.sortByKey key.of (← entries.items.mapError .type)

def sortValues (values : Value) : Except Fault (List Value) := do
  (Sorting.sort Value.lt (← values.items.mapError .type)).mapError .type

end TypeStencil
