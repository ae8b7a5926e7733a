import TypeStencil.Fault
import TypeStencil.Text.Lines
import TypeStencil.Value.Entries

/-!
The order of values, which only holds between strings, between numbers, and between lists item by
item; the items of a value; and looking things up in a value.
-/
namespace TypeStencil

namespace Scalar

/-- Strings are ordered by code points and numbers by size. -/
def lt (a b : Scalar) : Except TypeFault Bool :=
  match a, b with
  | .str s, .str t => .ok (s < t)
  | a, b =>
    match a.measure?, b.measure? with
    | some m, some n => .ok (m.lt n)
    | _, _ => .error (.unordered a.kind b.kind)

end Scalar

namespace Value

mutual

def lt : Value → Value → Except TypeFault Bool
  | .scalar a, .scalar b => a.lt b
  | .list xs, .list ys => ltItems xs ys
  | a, b => .error (.unordered a.kind b.kind)

/-- The first items that differ decide, or else the lengths. -/
def ltItems : List Value → List Value → Except TypeFault Bool
  | _, [] => .ok false
  | [], _ :: _ => .ok true
  | x :: xs, y :: ys => if x.same y then ltItems xs ys else lt x y

end

/-- A string has its characters as items, and a table its names. -/
def items : Value → Except TypeFault (List Value)
  | .str s => .ok (s.toList.map fun c => .str (String.ofList [c]))
  | .list xs => .ok xs
  | .table entries => .ok (entries.map fun e => .scalar e.1)
  | v => .error (.notIterable v.kind)

def hashable : Value → Except TypeFault Scalar
  | .scalar s => .ok s
  | v => .error (.unhashable v.kind)

/-- Positions from the end are negative. -/
def position? (length : Nat) (n : Int) : Option Nat :=
  let i := if n < 0 then n + length else n
  if 0 ≤ i ∧ i < length then some i.toNat else none

/-- Positions have 64 bits. -/
def isIndexSized (n : Int) : Bool :=
  -0x8000000000000000 ≤ n && n ≤ 0x7FFFFFFFFFFFFFFF

def index? : Value → Option Int
  | .int n => some n
  | .bool b => some (if b then 1 else 0)
  | _ => none

/-- The component of a value at a position or under a name. -/
def component (v key : Value) : Except Fault Value :=
  match v with
  | .table entries => do
    let name ← key.hashable.mapError .type
    match Entries.find? entries name with
    | some found => return found
    | none => throw (.key name)
  | .list xs =>
    match key.index? with
    | none => throw (.type (.listIndex key.kind))
    | some n =>
      if !isIndexSized n then throw .wideIndex
      else match (position? xs.length n).bind (xs[·]?) with
        | some found => return found
        | none => throw (.range .list)
  | .str s =>
    match key.index? with
    | none => throw (.type (.textIndex key.kind))
    | some n =>
      if !isIndexSized n then throw .wideIndex
      else match (position? s.length n).bind (s.toList[·]?) with
        | some c => return .str (String.ofList [c])
        | none => throw (.range .str)
  | v => throw (.type (.notIndexable v.kind))

def length : Value → Except TypeFault Nat
  | .str s => .ok s.length
  | .list xs => .ok xs.length
  | .table entries => .ok entries.length
  | v => .error (.noLength v.kind)

/-- The lines of a description; one that counts as absent has none. -/
def lines (v : Value) : Except TypeFault (List String) :=
  if !v.isPresent then .ok []
  else match v with
    | .str s => .ok (Text.lines s)
    | v => .error (.notLines v.kind)

end Value

end TypeStencil
