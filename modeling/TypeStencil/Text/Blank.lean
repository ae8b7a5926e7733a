/-!
White space as text that shows nothing: the Unicode spaces, the line and paragraph separators, and
the controls that move the print position or separate records.
-/
namespace TypeStencil.Text

def isBlank (c : Char) : Bool :=
  let n := c.toNat
  (0x09 ≤ n && n ≤ 0x0D) || (0x1C ≤ n && n ≤ 0x20) || n == 0x85 || n == 0xA0 || n == 0x1680 ||
    (0x2000 ≤ n && n ≤ 0x200A) || n == 0x2028 || n == 0x2029 || n == 0x202F || n == 0x205F ||
    n == 0x3000

/-- A line is blank if it holds white space only. -/
def isBlankLine (line : List Char) : Bool :=
  line.all isBlank

/-- A text without the white space at its end. -/
def stripEnd (s : List Char) : List Char :=
  (s.reverse.dropWhile isBlank).reverse

/-- A text without the white space at its ends. -/
def strip (s : List Char) : List Char :=
  stripEnd (s.dropWhile isBlank)

end TypeStencil.Text
