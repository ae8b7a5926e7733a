import TypeStencil.Display.Markup
import TypeStencil.Display.Wrap
import TypeStencil.Text.Tabs

/-!
How texts are laid out on a terminal: messages, rules with a title, and listings of generated code.
-/
namespace TypeStencil.Display

/-- The lines of a message on a terminal of some width. -/
def messageLines (width : Nat) (message : String) : Except MarkupFault (List (List Char)) := do
  return wrap .fold width (← Markup.plain message)

/-- A horizontal line. -/
def dashes (n : Nat) : List Char :=
  List.replicate n '─'

/-- A horizontal line over the whole width with a title in its middle. -/
def rule (width : Nat) (title : String) : Except MarkupFault (List Char) := do
  if title.isEmpty then return dashes width
  let shown := (← Markup.plain title).map fun c => if c = '\n' then ' ' else c
  let label := shorten .ellipsis (width - 4) (spaceTabs shown)
  let side := (width - Text.width label) / 2
  return Text.crop width (dashes (side - 1) ++ ' ' :: label ++ ' ' :: dashes (side + 1))

/-- Code begins behind the mark of its encoding, if it has one. -/
def dropEncodingMark : List Char → List Char
  | '\uFEFF' :: r => r
  | s => s

/-- The lines of a listing, whose tab stops are four characters apart. Code that does not end with
a line break is ended with one first; what a line has no room for is cut off. -/
def listingLines (width : Nat) (code : String) : List (List Char) :=
  let ended := code.endsWith "\n"
  let source := if ended then code.toList else code.toList ++ ['\n']
  let s := dropEncodingMark (Text.unifyBreaks (Text.expandTabs 4 source))
  let lines := Text.splitAt '\n' (s.filter fun c => !Markup.isTerminalControl c)
  (if ended then lines else lines.dropLast).map (Text.crop width)

end TypeStencil.Display
