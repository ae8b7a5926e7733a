/-!
Binary floating-point numbers of 64 bits as exact values. Every finite one is a whole number of
units of `2 ^ -1074`, so numbers are compared as integers; decimals are read by rounding the exact
quotient to the nearest number, a tie to the even one.
-/
namespace TypeStencil

inductive Binary64 where
  | nan
  | infinite (negative : Bool)
  | finite (negative : Bool) (significand : Nat) (exponent : Int)
  deriving DecidableEq, Repr

namespace Binary64

def twoTo (n : Nat) : Nat :=
  Nat.pow 2 n

def tenTo (n : Nat) : Nat :=
  Nat.pow 10 n

def zero (negative : Bool) : Binary64 :=
  .finite negative 0 (-1074)

/-- Finite numbers have at most 53 significant bits, all used above the least exponent. -/
def IsNormal : Binary64 → Prop
  | .finite _ m e => m < twoTo 53 ∧ -1074 ≤ e ∧ e ≤ 971 ∧ (twoTo 52 ≤ m ∨ e = -1074)
  | _ => True

def IsFinite : Binary64 → Prop
  | .finite .. => True
  | _ => False

def isZero : Binary64 → Bool
  | .finite _ m _ => m == 0
  | _ => false

/-- How many units of `2 ^ -1074` an integer holds. -/
def unitsOfInt (n : Int) : Int :=
  n * Int.ofNat (twoTo 1074)

/-- How many units of `2 ^ -1074` a finite number holds. -/
def units (negative : Bool) (m : Nat) (e : Int) : Int :=
  let size := Int.ofNat (m * twoTo (e + 1074).toNat)
  if negative then -size else size

/-- The whole number nearest to `num / den`, of two the even one. -/
def roundQuotient (num den : Nat) : Nat :=
  let q := num / den
  let twice := 2 * (num % den)
  if den < twice || (twice == den && q % 2 == 1) then q + 1 else q

/-- `num / (den * 2 ^ e)` as a fraction of whole numbers. -/
def scaleDown (num den : Nat) (e : Int) : Nat × Nat :=
  if 0 ≤ e then (num, den * twoTo e.toNat) else (num * twoTo (-e).toNat, den)

/-- The nearest number to the positive fraction `num / den`. -/
def ofRatio (negative : Bool) (num den : Nat) : Binary64 :=
  let guess : Int := Int.ofNat num.log2 - Int.ofNat den.log2 - 53
  let (n, d) := scaleDown num den guess
  let e := max (if twoTo 53 * d ≤ n then guess + 1 else guess) (-1074)
  let (n, d) := scaleDown num den e
  let m := roundQuotient n d
  let (m, e) := if m = twoTo 53 then (twoTo 52, e + 1) else (m, e)
  if 971 < e then .infinite negative else .finite negative m e

/-- The number nearest to `digits * 10 ^ exponent`. Decimals far outside the range are told by
their size alone. -/
def ofDecimal (negative : Bool) (digits : Nat) (exponent : Int) : Binary64 :=
  if digits = 0 then zero negative
  else
    let size := exponent + Int.ofNat (digits.log2 / 3)
    if 400 < exponent then .infinite negative
    else if size < -400 then zero negative
    else if 0 ≤ exponent then ofRatio negative (digits * tenTo exponent.toNat) 1
    else ofRatio negative digits (tenTo (-exponent).toNat)

end Binary64

end TypeStencil
