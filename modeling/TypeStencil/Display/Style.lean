import TypeStencil.Display.Colour
import TypeStencil.Text.Words

/-!
How text looks: whether it is bold, its colours, and the like. Each style has one normal name, so
that tags can be told apart by what they do and not by how they are written.
-/
namespace TypeStencil.Display

/-- A style leaves open what it does not name. -/
structure Style where
  traits : List (String × Bool) := []
  colour : Option (List Char) := none
  background : Option (List Char) := none
  link : Option (List Char) := none
  deriving DecidableEq, Repr

namespace Style

/-- The traits that a style can have, in the order of a normal name. -/
def traitNames : List String := [
  "bold", "dim", "italic", "underline", "blink", "blink2", "reverse", "conceal", "strike",
  "underline2", "frame", "encircle", "overline"]

def shortNames : List (String × String) := [
  ("b", "bold"), ("d", "dim"), ("i", "italic"), ("u", "underline"), ("uu", "underline2"),
  ("o", "overline"), ("s", "strike"), ("r", "reverse"), ("c", "conceal")]

def trait? (word : List Char) : Option String :=
  let name := String.ofList word
  if traitNames.contains name then some name else shortNames.lookup name

/-- Switches a trait on or off, whatever it was before. -/
def set (style : Style) (trait : String) (on : Bool) : Style :=
  { style with traits := (trait, on) :: style.traits }

/-- What some words add to a style. -/
def read (style : Style) : List (List Char) → Except ColourFault Style
  | [] => .ok style
  | [word] => readLast style word
  | word :: next :: rest =>
    let name := String.ofList (Text.lower word)
    if name = "on" then
      match Colour.ofWord next with
      | .ok colour => read { style with background := some colour } rest
      | .error f => .error f
    else if name = "not" then
      match trait? next with
      | some trait => read (style.set trait false) rest
      | none => .error .unknown
    else if name = "link" then read { style with link := some next } rest
    else
      match readLast style word with
      | .ok style => read style (next :: rest)
      | .error f => .error f
where
  /-- What a word adds to a style that needs no other word behind it. -/
  readLast (style : Style) (word : List Char) : Except ColourFault Style :=
    match trait? (Text.lower word) with
    | some trait => .ok (style.set trait true)
    | none =>
      match Colour.ofWord word with
      | .ok colour => .ok { style with colour := some colour }
      | .error f => .error f

def ofText (s : List Char) : Except ColourFault Style :=
  read {} (Text.words s)

def traitTexts (style : Style) : List (List Char) :=
  traitNames.filterMap fun name =>
    (style.traits.lookup name).map fun on => (if on then name else "not " ++ name).toList

/-- The normal name of a style; one that says nothing is called none. -/
def name (style : Style) : List Char :=
  let parts := style.traitTexts ++ style.colour.toList ++
    (style.background.map fun colour => "on ".toList ++ colour).toList ++
    (style.link.map fun target => "link ".toList ++ target).toList
  if parts.isEmpty then "none".toList else Text.joinWith [' '] parts

/-- The name that a tag is told apart by: that of its style, or its own text where it has none. -/
def nameOf (s : List Char) : Except ColourFault (List Char) :=
  match ofText s with
  | .ok style => .ok style.name
  | .error .unknown => .ok (Text.lower (Text.strip s))
  | .error f => .error f

end Style

end TypeStencil.Display
