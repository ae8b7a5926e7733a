import TypeStencil.Template.Datum
import TypeStencil.Template.Expr

/-!
How what expressions stand for compares: sameness, order and membership. Something undefined refuses
all of them; texts, numbers, lists and tuples have an order, each among themselves.
-/
namespace TypeStencil.Template

namespace Datum

mutual

def sameValue : Value → Datum → Except Fault Bool
  | _, undefined cause => .error (.template cause)
  | v, value w => .ok (v.equal w)
  | .list vs, list ds => if vs.length == ds.length then sameValues vs ds else .ok false
  | .table fields, table entries =>
    if fields.length == entries.length then sameFields fields entries else .ok false
  | _, _ => .ok false
termination_by structural v => v

def sameValues : List Value → List Datum → Except Fault Bool
  | v :: vs, d :: ds => do if ← sameValue v d then sameValues vs ds else return false
  | _, _ => .ok true
termination_by structural l => l

/-- Every field has the same value among the entries. -/
def sameFields : List (Scalar × Value) → Entries Datum → Except Fault Bool
  | [], _ => .ok true
  | (k, v) :: rest, entries =>
    match Entries.find? entries k with
    | some d => do if ← sameValue v d then sameFields rest entries else return false
    | none => .ok false
termination_by structural l => l

end

mutual

def same : Datum → Datum → Except Fault Bool
  | undefined cause, _ => .error (.template cause)
  | _, undefined cause => .error (.template cause)
  | value v, d => sameValue v d
  | blank _, blank _ => .ok true
  | tuple ds, tuple es => sameItems ds es
  | list ds, list es => sameItems ds es
  | list ds, value (.list vs) => sameItems ds (vs.map value)
  | table ds, table es => sameEntries ds es
  | table ds, value (.table fields) => sameEntries ds (fields.map fun (k, v) => (k, value v))
  | loop i ds, loop j es => .ok (i == j && ds.length == es.length)
  | thing t, thing u => .ok (t.same u)
  | _, _ => .ok false
termination_by structural d => d

def sameItems : List Datum → List Datum → Except Fault Bool
  | [], es => .ok es.isEmpty
  | _ :: _, [] => .ok false
  | d :: ds, e :: es => do if ← same d e then sameItems ds es else return false
termination_by structural l => l

/-- Every entry has the same datum in the other table. -/
def sameEntries : List (Scalar × Datum) → Entries Datum → Except Fault Bool
  | [], _ => .ok true
  | (k, d) :: rest, entries =>
    match Entries.find? entries k with
    | some e => do if ← same d e then sameEntries rest entries else return false
    | none => .ok false
termination_by structural l => l

end

end Datum

namespace Relation

/-- Whether the relation holds between two things, of which the first comes before the second, or
after it, or is the same. -/
def admits (r : Relation) (before after same : Bool) : Bool :=
  match r with
  | less => before
  | lessEqual => before || same
  | greater => after
  | greaterEqual => after || same
  | _ => false

/-- Between a list that ends where another one still has `left` items. -/
def admitsShorter (r : Relation) (left : Nat) : Bool :=
  r.admits (left != 0) false (left == 0)

def unordered (r : Relation) (left right : String) : Except Fault Bool :=
  Datum.refuse (.unordered r.sign left right)

def ordersScalars (r : Relation) (a b : Scalar) : Except Fault Bool :=
  match a, b with
  | .str s, .str t => .ok (r.admits (s < t) (t < s) (s == t))
  | a, b =>
    match a.measure?, b.measure? with
    | some m, some n => .ok (r.admits (m.lt n) (n.lt m) (m == n && m != .unordered))
    | _, _ => r.unordered a.kind.name b.kind.name

open Datum

mutual

def ordersValue (r : Relation) : Value → Datum → Except Fault Bool
  | _, undefined cause => .error (.template cause)
  | _, blank cause => .error (.template cause)
  | .scalar a, value (.scalar b) => r.ordersScalars a b
  | .list vs, value (.list ws) => r.ordersValues vs (ws.map value)
  | .list vs, list ds => r.ordersValues vs ds
  | v, d => r.unordered v.kind.name d.kindName
termination_by structural v => v

/-- The first items that differ decide, or else the lengths. -/
def ordersValues (r : Relation) : List Value → List Datum → Except Fault Bool
  | [], ds => .ok (r.admitsShorter ds.length)
  | _ :: _, [] => .ok (r.admits false true false)
  | v :: vs, d :: ds => do
    if ← sameValue v d then r.ordersValues vs ds else r.ordersValue v d
termination_by structural l => l

end

mutual

def orders (r : Relation) : Datum → Datum → Except Fault Bool
  | undefined cause, _ => .error (.template cause)
  | blank cause, _ => .error (.template cause)
  | _, undefined cause => .error (.template cause)
  | _, blank cause => .error (.template cause)
  | value v, d => r.ordersValue v d
  | tuple ds, tuple es => r.ordersItems ds es
  | list ds, list es => r.ordersItems ds es
  | list ds, value (.list vs) => r.ordersItems ds (vs.map value)
  | d, e => r.unordered d.kindName e.kindName
termination_by structural d => d

/-- The first items that differ decide, or else the lengths. -/
def ordersItems (r : Relation) : List Datum → List Datum → Except Fault Bool
  | [], es => .ok (r.admitsShorter es.length)
  | _ :: _, [] => .ok (r.admits false true false)
  | d :: ds, e :: es => do if ← same d e then r.ordersItems ds es else r.orders d e
termination_by structural l => l

end

/-- Whether a text occurs in another one. -/
def occursIn (part : List Char) : List Char → Bool
  | [] => part.isEmpty
  | c :: r => part.isPrefixOf (c :: r) || occursIn part r

/-- Whether a table has a name for a datum. -/
def isNameIn {α : Type} (d : Datum) (entries : Entries α) : Except Fault Bool :=
  match d with
  | tuple _ | blank _ | loop .. | thing _ => .ok false
  | d => do return entries.contains (← d.hashable)

/-- Whether a datum is in another one: an item of a sequence, a name of a table, or a part of a
text. -/
def isWithin (d owner : Datum) : Except Fault Bool :=
  match owner with
  | undefined cause => .error (.template cause)
  | value (.str s) =>
    match d with
    | value (.str part) => .ok (occursIn part.toList s.toList)
    | d => refuse (.notTextMember d.kindName)
  | value (.table entries) => isNameIn d entries
  | table entries => isNameIn d entries
  | value (.scalar s) => refuse (.notContainer s.kind.name)
  | thing (.template _) => .error (.key (.int 0))
  | thing t => refuse (.notContainer t.kindName)
  | owner => do (← owner.items).anyM fun item => item.same d

def holds (r : Relation) (a b : Datum) : Except Fault Bool :=
  match r with
  | equal => a.same b
  | unequal => do return !(← a.same b)
  | within => isWithin a b
  | notWithin => do return !(← isWithin a b)
  | r => r.orders a b

end Relation

end TypeStencil.Template
