import TypeStencil.Value

/-!
Sameness of values. Numbers are the same by size, whatever their kind, and true and false are the
numbers one and zero; tables are the same if they give the same values to the same names. The float
that is no number is the same as itself, though on its own it does not equal itself.
-/
namespace TypeStencil

/-- The size of a number, counted in the smallest units of floating-point numbers. -/
inductive Measure where
  | unordered
  | below
  | units (n : Int)
  | above
  deriving DecidableEq, Repr

namespace Measure

def ofBinary64 : Binary64 → Measure
  | .nan => .unordered
  | .infinite true => .below
  | .infinite false => .above
  | .finite negative m e => .units (Binary64.units negative m e)

def lt : Measure → Measure → Bool
  | unordered, _ => false
  | _, unordered => false
  | below, b => b != below
  | units _, below => false
  | units m, units n => m < n
  | units _, above => true
  | above, _ => false

end Measure

namespace Scalar

def measure? : Scalar → Option Measure
  | bool b => some (.units (Binary64.unitsOfInt (if b then 1 else 0)))
  | int n => some (.units (Binary64.unitsOfInt n))
  | float x => some (.ofBinary64 x)
  | _ => none

def same (a b : Scalar) : Bool :=
  match a.measure?, b.measure? with
  | some m, some n => m == n
  | none, none => a == b
  | _, _ => false

end Scalar

namespace Value

mutual

def same : Value → Value → Bool
  | .scalar a, .scalar b => a.same b
  | .list xs, .list ys => sameItems xs ys
  | .table xs, .table ys => xs.length == ys.length && sameEntries xs ys
  | _, _ => false

def sameItems : List Value → List Value → Bool
  | [], [] => true
  | x :: xs, y :: ys => same x y && sameItems xs ys
  | _, _ => false

/-- Every entry of the first list has an equal one of the same name in the second. -/
def sameEntries : List (Scalar × Value) → List (Scalar × Value) → Bool
  | [], _ => true
  | (k, x) :: xs, ys =>
    (match ys.find? fun e => e.1.same k with
      | some e => same x e.2
      | none => false) && sameEntries xs ys

end

/-- Equality of two values that are not part of others. -/
def equal (v w : Value) : Bool :=
  match v with
  | .float .nan => false
  | v => v.same w

end Value

end TypeStencil
