import TypeStencil.Number.Binary64

/-!
The shortest decimal that reads back as a given binary number, and how it is written. A decimal
reads back if it lies in the interval of reals that round to the number; on each decimal grid only
the two neighbours of the number have to be looked at.
-/
namespace TypeStencil

namespace Shortest

def digitCount (n : Nat) : Nat :=
  (Nat.toDigits 10 n).length

/-- The exponent of the greatest power of ten that the positive fraction `num / den` reaches. -/
def decimalExponent (num den : Nat) : Int :=
  if den ≤ num then Int.ofNat (digitCount (num / den)) - 1
  else -Int.ofNat (digitCount ((den + num - 1) / num - 1))

/-- The reals that round to a number, with both ends and the number itself counted in quarters of
its last place. -/
structure Interval where
  low : Nat
  centre : Nat
  high : Nat
  closed : Bool
  deriving Repr

/-- Below a power of two the numbers lie twice as close. -/
def interval (m : Nat) (e : Int) : Interval where
  low := 4 * m - (if m = Binary64.twoTo 52 ∧ -1074 < e then 1 else 2)
  centre := 4 * m
  high := 4 * m + 2
  closed := m % 2 == 0

/-- Whether grid point `d` reads back, where a quarter is `num / den` grid steps long. -/
def Interval.holds (i : Interval) (num den d : Nat) : Bool :=
  if i.closed then i.low * num ≤ d * den && d * den ≤ i.high * num
  else i.low * num < d * den && d * den < i.high * num

/-- The neighbour on the grid that reads back: of two the nearer, on a tie the even one. -/
def Interval.pick (i : Interval) (num den : Nat) : Option Nat :=
  let d := i.centre * num / den
  let rest := i.centre * num % den
  match i.holds num den d, i.holds num den (d + 1) with
  | true, true => some (if 2 * rest < den || (2 * rest == den && d % 2 == 0) then d else d + 1)
  | true, false => some d
  | false, true => some (d + 1)
  | false, false => none

def powers (two ten : Int) : Nat :=
  Binary64.twoTo two.toNat * Binary64.tenTo ten.toNat

/-- Digits and exponent of ten of the shortest decimal for a positive number. Seventeen digits
always suffice. -/
def decimal (m : Nat) (e : Int) : Nat × Int :=
  let i := interval m e
  let top := decimalExponent (m * powers e 0) (powers (-e) 0)
  let hit := (List.range 17).findSome? fun (p : Nat) =>
    let k := top - (p : Int)
    (i.pick (powers (e - 2) (-k)) (powers (2 - e) k)).map fun d => (d, k)
  hit.getD (0, 0)

end Shortest

/-- How numbers are written: positional from `10 ^ least` up to below `10 ^ limit`, otherwise with
an exponent of at least two digits. -/
structure NumberLayout where
  least : Int
  limit : Int
  nan : String
  infinite : String

namespace NumberLayout

def zeros (n : Int) : String :=
  String.ofList (List.replicate n.toNat '0')

def exponentText (n : Int) : String :=
  let digits := toString n.natAbs
  (if n < 0 then "e-" else "e+") ++ (if digits.length < 2 then "0" ++ digits else digits)

/-- A positional number has digits on both sides of the point. -/
def positional (digits : List Char) (point : Int) : String :=
  if point ≤ 0 then "0." ++ zeros (-point) ++ String.ofList digits
  else if Int.ofNat digits.length ≤ point then
    String.ofList digits ++ zeros (point - Int.ofNat digits.length) ++ ".0"
  else
    String.ofList (digits.take point.toNat) ++ "." ++ String.ofList (digits.drop point.toNat)

def scientific (digits : List Char) (point : Int) : String :=
  let fraction := match digits.drop 1 with
    | [] => ""
    | rest => "." ++ String.ofList rest
  String.ofList (digits.take 1) ++ fraction ++ exponentText (point - 1)

/-- Trailing zeros of the digits move into the exponent. -/
def magnitude (layout : NumberLayout) (m : Nat) (e : Int) : String :=
  if m = 0 then "0.0"
  else
    let (n, k) := Shortest.decimal m e
    let all := Nat.toDigits 10 n
    let digits := (all.reverse.dropWhile (· == '0')).reverse
    let point := Int.ofNat all.length + k
    if layout.least < point && point ≤ layout.limit then positional digits point
    else scientific digits point

def render (layout : NumberLayout) : Binary64 → String
  | .nan => layout.nan
  | .infinite negative => (if negative then "-" else "") ++ layout.infinite
  | .finite negative m e => (if negative then "-" else "") ++ layout.magnitude m e

end NumberLayout

end TypeStencil
