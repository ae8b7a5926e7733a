import TypeStencil.Template.Comparison

/-!
The operators of templates: exact arithmetic of whole numbers, arithmetic of broken numbers rounded
once, and sums and multiples of texts, lists and tuples.
-/
namespace TypeStencil

namespace Binary64

/-- The number as a fraction, if it is finite. -/
def toRat? : Binary64 → Option Rat
  | .finite negative m e => some (mkRat (units negative m e) (twoTo 1074))
  | _ => none

def ofRat (x : Rat) : Binary64 :=
  if x.num = 0 then zero false else ofRatio (x.num < 0) x.num.natAbs x.den

def negate : Binary64 → Binary64
  | .nan => .nan
  | .infinite negative => .infinite !negative
  | .finite negative m e => .finite (!negative) m e

end Binary64

namespace Template

inductive Number where
  | int (n : Int)
  | float (x : Binary64)

namespace Number

def toRat? : Number → Option Rat
  | int n => some n
  | float x => x.toRat?

def toDatum : Number → Datum
  | int n => .value (.int n)
  | float x => .value (.float x)

/-- The number a datum is; truth values are numbers. -/
def ofDatum? : Datum → Option Number
  | .value (.float x) => some (float x)
  | .value v => v.index?.map int
  | _ => none

/-- The greatest exponent with which powers are worked out. -/
def mostPower : Nat := 65536

/-- A power of a fraction. Those of zero, one and minus one depend on little of the exponent. -/
def powerOf? (x : Rat) (e : Int) : Option Rat :=
  let short := (x == 0 || x == 1 || x == -1) && e != 0
  let size := if short then 2 - e.natAbs % 2 else e.natAbs
  if mostPower < size then none else some (if e < 0 then (x ^ size)⁻¹ else x ^ size)

/-- What the operator makes of two fractions; powers need a whole exponent that is not too great. -/
def ofFractions? (op : Operator) (x y : Rat) : Option Rat :=
  match op with
  | .plus => some (x + y)
  | .minus => some (x - y)
  | .times => some (x * y)
  | .quotient => some (x / y)
  | .wholeQuotient => some (x / y).floor
  | .remainder => some (x - y * (x / y).floor)
  | .power => if y.den = 1 then powerOf? x y.num else none

/-- Why two numbers have no quotient, remainder or power. -/
def refusal (op : Operator) (whole : Bool) : OperandFault :=
  .noDivision <| match op, whole with
    | .wholeQuotient, true => "integer division or modulo by zero"
    | .remainder, true => "integer modulo by zero"
    | .quotient, true => "division by zero"
    | .wholeQuotient, false => "float floor division by zero"
    | .remainder, false => "float modulo"
    | .power, _ => "0.0 cannot be raised to a negative power"
    | _, _ => "float division by zero"

def isRefused (op : Operator) (x y : Rat) : Bool :=
  match op with
  | .quotient | .wholeQuotient | .remainder => y == 0
  | .power => x == 0 && y < 0
  | _ => false

/-- Whole numbers stay whole, except in quotients and in powers with negative exponents. -/
def combine (op : Operator) (a b : Number) : Except Fault Number :=
  let whole := match a, b with
    | int _, int _ => true
    | _, _ => false
  match a.toRat?, b.toRat? with
  | some x, some y =>
    if isRefused op x y then Datum.refuse (refusal op whole)
    else
      match ofFractions? op x y with
      | none => .ok (float .nan)
      | some z =>
        if whole && op != .quotient && z.den = 1 && !(op == .power && y < 0) then .ok (int z.num)
        else match Binary64.ofRat z with
          | .infinite _ =>
            if whole && op == .quotient then
              Datum.refuse (.noDivision "integer division result too large for a float")
            else .ok (float (Binary64.ofRat z))
          | z => .ok (float z)
  | _, _ => .ok (float .nan)

end Number

namespace Datum

/-- The items that a text, list or tuple is put together from, and how to put others together. -/
def parts? : Datum → Option (List Datum × (List Datum → Datum))
  | value (.list vs) => some (vs.map value, ofItems)
  | list items => some (items, ofItems)
  | tuple items => some (items, tuple)
  | _ => none

/-- A text, list or tuple several times over, if the datum is one. -/
def repeated? (d : Datum) : Option (Nat → Datum) :=
  match d with
  | value (.str s) =>
    some fun n => value (.str (String.ofList (List.replicate n s.toList).flatten))
  | d => d.parts?.map fun (items, make) => fun n => make (List.replicate n items).flatten

/-- The sum of two texts, lists or tuples. -/
def sum? (a b : Datum) : Option (Except Fault Datum) :=
  match a, b with
  | value (.str s), value (.str t) => some (.ok (value (.str (s ++ t))))
  | value (.str _), b => some (refuse (.notJoined "str" b.kindName))
  | a, b =>
    a.parts?.map fun (items, make) =>
      match b.parts? with
      | some (others, _) =>
        if a.kindName == b.kindName then .ok (make (items ++ others))
        else refuse (.notJoined a.kindName b.kindName)
      | none => refuse (.notJoined a.kindName b.kindName)

/-- A text without places for the parts of a datum; only a datum without parts of its own would
need one. -/
def filled? (a b : Datum) : Option (Except Fault Datum) :=
  match a with
  | value (.str s) =>
    if s.contains '%' then none
    else match b with
      | value (.list _) | value (.table _) | list _ | table _ | tuple [] | undefined _ | blank _ =>
        some (.ok a)
      | _ => some (refuse .notFilledIn)
  | _ => none

/-- What the operator makes of two sequences or a sequence and a number. -/
def combineSequences? (op : Operator) (a b : Datum) : Option (Except Fault Datum) :=
  match op with
  | .plus => sum? a b
  | .times =>
    match a.repeated?, b.repeated? with
    | some make, _ => some (make <$> b.repeatCount)
    | none, some make => some (make <$> a.repeatCount)
    | none, none => none
  | _ => none

/-- What the operator makes of two data, neither of which may be undefined. -/
def combinePlain (op : Operator) (a b : Datum) : Except Fault Datum :=
  match a, b with
  | undefined cause, _ => .error (.template cause)
  | blank cause, _ => .error (.template cause)
  | _, undefined cause => .error (.template cause)
  | _, blank cause => .error (.template cause)
  | a, b =>
    match Number.ofDatum? a, Number.ofDatum? b with
    | some m, some n => Number.toDatum <$> Number.combine op m n
    | _, _ =>
      (combineSequences? op a b).getD (refuse (.unsupported op.title a.kindName b.kindName))

def combine (op : Operator) (a b : Datum) : Except Fault Datum :=
  match if op = .remainder then filled? a b else none with
  | some result => result
  | none => combinePlain op a b

/-- A number with a sign in front. -/
def signed (negative : Bool) (d : Datum) : Except Fault Datum :=
  match d with
  | undefined cause => .error (.template cause)
  | blank cause => .error (.template cause)
  | d =>
    match Number.ofDatum? d with
    | some (.int n) => .ok (value (.int (if negative then -n else n)))
    | some (.float x) => .ok (value (.float (if negative then x.negate else x)))
    | none => refuse (.unsupportedUnary (if negative then "-" else "+") d.kindName)

end Datum

end Template

end TypeStencil
