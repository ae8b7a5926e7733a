import TypeStencil.Template.Datum

/-!
Parts of texts, lists and tuples between two positions, in steps. Positions from the end are
negative, and those outside count as the nearer end.
-/
namespace TypeStencil.Template.Datum

/-- An end of a range in a sequence; left out, it is the given one. -/
def sliceBound (default : Int) : Datum → Except Fault Int
  | value .null => .ok default
  | value v =>
    match v.index? with
    | some n => .ok n
    | none => refuse .sliceBound
  | _ => refuse .sliceBound

/-- A position that counts from the end if it is negative, kept between two limits. -/
def clamp (low high length n : Int) : Int :=
  max low (min high (if n < 0 then n + length else n))

/-- The positions of a range. -/
def slicePositions (length : Nat) (start stop step : Datum) : Except Fault (List Nat) := do
  let step ← sliceBound 1 step
  if step = 0 then refuse .sliceStep
  let (low, high) : Int × Int := if 0 < step then (0, length) else (-1, length - 1)
  let first ← match start with
    | value .null => pure (if 0 < step then low else high)
    | start => do pure (clamp low high length (← sliceBound 0 start))
  let last ← match stop with
    | value .null => pure (if 0 < step then high else low)
    | stop => do pure (clamp low high length (← sliceBound 0 stop))
  let distance := if 0 < step then last - first else first - last
  let count := (distance + step.natAbs - 1) / step.natAbs
  return (List.range count.toNat).map fun (k : Nat) => (first + (k : Int) * step).toNat

/-- How a range is written. -/
def sliceText (start stop step : Datum) : String :=
  "slice(" ++ start.quoted ++ ", " ++ stop.quoted ++ ", " ++ step.quoted ++ ")"

/-- The part of a sequence in a range. -/
def slice (d start stop step : Datum) : Except Fault Datum :=
  let part (items : List Datum) : Except Fault (List Datum) := do
    return (← slicePositions items.length start stop step).filterMap (items[·]?)
  match d with
  | undefined cause => .error (.template cause)
  | blank cause => .error (.template cause)
  | value (.str s) => do
    let items := s.toList
    let positions ← slicePositions items.length start stop step
    return value (.str (String.ofList (positions.filterMap (items[·]?))))
  | value (.list items) => do return ofItems (← part (items.map value))
  | list items => do return list (← part items)
  | tuple items => do return tuple (← part items)
  | thing (.global .dict) => return thing (.generic (sliceText start stop step))
  | value (.table _) => refuse (.unhashable "slice")
  | table _ => refuse (.unhashable "slice")
  | d => refuse (.notIndexable d.kindName)

end TypeStencil.Template.Datum
