/-!
Tabs written out as spaces. A tab leads to the next stop, which stands at every multiple of the tab
size; a line break starts the count anew.
-/
namespace TypeStencil.Text

/-- Writes out the tabs of a text that begins at a column. -/
def expandFrom (size : Nat) : Nat → List Char → List Char
  | _, [] => []
  | column, c :: r =>
    if c = '\t' then
      let step := size - column % size
      List.replicate step ' ' ++ expandFrom size (column + step) r
    else if c = '\n' ∨ c = '\r' then c :: expandFrom size 0 r
    else c :: expandFrom size (column + 1) r

/-- Writes out the tabs of a text. -/
def expandTabs (size : Nat) (s : List Char) : List Char :=
  expandFrom size 0 s

/-- No tab is left. -/
theorem tab_not_mem_expandFrom (size column : Nat) (s : List Char) :
    '\t' ∉ expandFrom size column s := by
  induction s generalizing column with
  | nil => simp [expandFrom]
  | cons c r ih =>
    unfold expandFrom
    split
    · simp [ih]
    · split <;> simp_all [eq_comm]

end TypeStencil.Text
