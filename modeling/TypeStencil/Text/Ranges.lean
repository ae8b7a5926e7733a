/-!
Sets of characters given by tables of code point ranges.
-/
namespace TypeStencil.Text

/-- Whether a character is in one of the ranges, each given by its first and last code point. -/
def inRanges (ranges : List (Nat × Nat)) (c : Char) : Bool :=
  ranges.any fun (first, last) => first ≤ c.toNat && c.toNat ≤ last

end TypeStencil.Text
