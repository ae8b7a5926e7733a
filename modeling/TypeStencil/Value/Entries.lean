import TypeStencil.Value.Same

/-!
Entries kept in the order in which their names first came. Putting a value under a known name
replaces the value and keeps the place and the spelling of the name.
-/
namespace TypeStencil

abbrev Entries (α : Type) := List (Scalar × α)

namespace Entries

variable {α : Type}

def find? (entries : Entries α) (name : Scalar) : Option α :=
  (List.find? (fun e => e.1.same name) entries).map Prod.snd

def contains (entries : Entries α) (name : Scalar) : Bool :=
  List.any entries fun e => e.1.same name

def put : Entries α → Scalar → α → Entries α
  | [], name, value => [(name, value)]
  | e :: rest, name, value =>
    if e.1.same name then (e.1, value) :: rest else e :: put rest name value

/-- Puts the entries of a second list one after another. -/
def update (entries more : Entries α) : Entries α :=
  more.foldl (fun acc e => acc.put e.1 e.2) entries

def names (entries : Entries α) : List Scalar :=
  entries.map Prod.fst

end Entries

namespace Value

/-- The value under a string name of a table. -/
def field? (entries : Entries Value) (name : String) : Option Value :=
  Entries.find? entries (.str name)

def field (entries : Entries Value) (name : String) : Value :=
  (field? entries name).getD .null

end Value

end TypeStencil
