import TypeStencil.Value.Text

/-!
Writing values as JSON, on one line or with every item on a line of its own. Characters outside
ASCII stand as they are.
-/
namespace TypeStencil.Json

def escape (c : Char) : List Char :=
  match c with
  | '"' => ['\\', '"']
  | '\\' => ['\\', '\\']
  | '\n' => ['\\', 'n']
  | '\r' => ['\\', 'r']
  | '\t' => ['\\', 't']
  | '\x08' => ['\\', 'b']
  | '\x0c' => ['\\', 'f']
  | c => if c.toNat < 0x20 then ['\\', 'u'] ++ Text.hexDigits c.toNat 4 else [c]

def quote (s : String) : String :=
  String.ofList ('"' :: s.toList.flatMap escape ++ ['"'])

/-- Numbers as in the text of values, with the words of the reader for those that are not finite. -/
def numberLayout : NumberLayout :=
  { Scalar.numberLayout with nan := "NaN", infinite := "Infinity" }

def scalar : Scalar → String
  | .null => "null"
  | .bool b => if b then "true" else "false"
  | .int n => toString n
  | .float x => numberLayout.render x
  | .str s => quote s

/-- Names of entries are always strings. -/
def name : Scalar → String
  | .str s => quote s
  | s => quote (scalar s)

/-- How the items of a list or table are set apart: each on its own line, indented by so many
places a level, or all on one line. -/
structure Layout where
  step : Option Nat

def Layout.lineBreak (layout : Layout) (level : Nat) : String :=
  match layout.step with
  | none => ""
  | some n => "\n" ++ String.ofList (List.replicate (n * level) ' ')

def Layout.separator (layout : Layout) (level : Nat) : String :=
  match layout.step with
  | none => ", "
  | some _ => "," ++ layout.lineBreak level

def Layout.enclose (layout : Layout) (level : Nat) (opening closing : String)
    (items : List String) : String :=
  if items.isEmpty then opening ++ closing
  else
    opening ++ layout.lineBreak (level + 1) ++
      String.intercalate (layout.separator (level + 1)) items ++
      layout.lineBreak level ++ closing

mutual

def writeAt (layout : Layout) (level : Nat) : Value → String
  | .scalar s => scalar s
  | .list items => layout.enclose level "[" "]" (writeItems layout (level + 1) items)
  | .table entries =>
    layout.enclose level "\x7b" "\x7d" (writeEntries layout (level + 1) entries)

def writeItems (layout : Layout) (level : Nat) : List Value → List String
  | [] => []
  | v :: rest => writeAt layout level v :: writeItems layout level rest

def writeEntries (layout : Layout) (level : Nat) : List (Scalar × Value) → List String
  | [] => []
  | (k, v) :: rest => (name k ++ ": " ++ writeAt layout level v) :: writeEntries layout level rest

end

def write (layout : Layout) (v : Value) : String :=
  writeAt layout 0 v

def oneLine : Layout := ⟨none⟩

/-- Two places a level. -/
def indented : Layout := ⟨some 2⟩

end TypeStencil.Json
