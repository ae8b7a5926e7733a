import TypeStencil.Number.Shortest
import TypeStencil.Text.Quoted
import TypeStencil.Value

/-!
The text of values: as it stands in a message or a template, and quoted, as it stands inside the
text of a list or table.
-/
namespace TypeStencil

namespace Scalar

/-- Numbers are positional from `0.0001` up to below `10 ^ 16`. -/
def numberLayout : NumberLayout := ⟨-4, 16, "nan", "inf"⟩

def quoted : Scalar → String
  | null => "None"
  | bool b => if b then "True" else "False"
  | int n => toString n
  | float x => numberLayout.render x
  | str s => Text.quoted s

def text : Scalar → String
  | str s => s
  | s => s.quoted

end Scalar

namespace Value

mutual

def quoted : Value → String
  | .scalar s => s.quoted
  | .list items => "[" ++ String.intercalate ", " (quotedItems items) ++ "]"
  | .table entries => "\x7b" ++ String.intercalate ", " (quotedEntries entries) ++ "\x7d"

def quotedItems : List Value → List String
  | [] => []
  | v :: rest => quoted v :: quotedItems rest

def quotedEntries : List (Scalar × Value) → List String
  | [] => []
  | (k, v) :: rest => (k.quoted ++ ": " ++ quoted v) :: quotedEntries rest

end

def text : Value → String
  | .scalar s => s.text
  | v => v.quoted

end Value

end TypeStencil
