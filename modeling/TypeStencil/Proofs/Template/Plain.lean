import Mathlib.Data.List.Basic
import TypeStencil.Proofs.Template.Width

/-!
Plain templates: texts, printed names, choices between texts, texts moved to the right, conditions
and loops, none of them nested deeply and no texts in a row too long for a line. Nothing in them is
refused by itself, whatever the size of an indentation is.
-/
namespace TypeStencil.Template

namespace Program

/-- How deeply the nodes of a template may be nested, whatever else they hold. -/
def room : Nat := 20

end Program

namespace Expr

/-- Whether an expression depends on a name, whatever the name stands for. -/
def isOpen : Expr → Bool
  | .name _ => true
  | .member e _ => e.isOpen
  | .negation e => e.isOpen
  | .filtered e _ _ => e.isOpen
  | .choice c _ _ => c.isOpen
  | _ => false
termination_by structural e => e

/-- Whether an expression is nested at most so deeply, with filters that are known and without
arguments, and with choices that depend on names. -/
def isPlain : Nat → Expr → Bool
  | _, .name _ => true
  | _, .const _ => true
  | room + 1, .member e _ => e.isPlain room
  | room + 1, .negation e => e.isPlain room
  | room + 1, .filtered e n [] => e.isPlain room && (Filter.ofName? n).isSome
  | room + 1, .choice c y n => c.isOpen && c.isPlain room && y.isPlain room && n.isPlain room
  | _, _ => false

/-- Whether an expression is a text of one line that is moved to the right. -/
def isIndented : Expr → Bool
  | .filtered (.const (.str s)) "indent" [] => !s.toList.contains '\n'
  | _ => false

/-- The columns of the text of an indented expression that is moved at most so far. -/
def knownColumns (widest : Nat) : Expr → Nat
  | .filtered (.const (.str s)) _ [] => widest + innerColumns s.toList
  | _ => 0

variable {indentSize : Value}

theorem constant?_of_isOpen {e : Expr} (h : e.isOpen = true) : e.constant? indentSize = none := by
  have herror : ∃ f, e.eval ⟨indentSize, fun n => .error (.template (.undefinedName n)),
      fun line => .error (.template (.noAlternative line none))⟩ = .error f := by
    fun_induction isOpen e with
    | case1 n => exact ⟨_, rfl⟩
    | case2 e n ih =>
        obtain ⟨f, hf⟩ := ih h
        exact ⟨f, by rw [eval, hf, error_bind]⟩
    | case3 e ih =>
        obtain ⟨f, hf⟩ := ih h
        exact ⟨f, by rw [eval, hf, error_bind]⟩
    | case4 e n args ih =>
        obtain ⟨f, hf⟩ := ih h
        exact ⟨f, by rw [eval, hf, error_bind]⟩
    | case5 c y n ih =>
        obtain ⟨f, hf⟩ := ih h
        exact ⟨f, by rw [eval, hf, error_bind]⟩
    | case6 => cases h
  obtain ⟨f, hf⟩ := herror
  rw [constant?, hf]
  rfl

theorem text?_of_isOpen {e : Expr} (h : e.isOpen = true) : e.text? indentSize = none := by
  rw [text?, constant?_of_isOpen h, Option.bind_none]

/-- What the filter makes of a text without names is known if lines can be moved at all. -/
theorem text?_indented {s : String} (h : '\n' ∉ s.toList) :
    (Expr.filtered (.const (.str s)) "indent" []).text? indentSize =
      (Datum.repeatCount (.value indentSize)).toOption.map fun count => indentedLine count s := by
  have hconstant : (Expr.filtered (.const (.str s)) "indent" []).constant? indentSize =
      (do return Datum.value (.str
        (← Filter.run .indent indentSize (.value (.str s)) none))).toOption := rfl
  rw [text?, hconstant]
  cases hcount : Datum.repeatCount (.value indentSize) with
  | error cause =>
      have hrun : Filter.run .indent indentSize (.value (.str s)) none = .error cause := by
        simp only [Filter.run, hcount, error_bind]
      rw [hrun]
      rfl
  | ok count =>
      rw [run_indent hcount h]
      rfl

theorem text?_columns_le {e : Expr} {widest : Nat} (h : e.isIndented = true)
    (hwidest : ∀ count, Datum.repeatCount (.value indentSize) = .ok count → count ≤ widest)
    {text : String} (htext : e.text? indentSize = some text) :
    innerColumns text.toList ≤ e.knownColumns widest := by
  fun_cases isIndented e with
  | case1 s =>
      rw [isIndented, Bool.not_eq_true', List.contains_eq_mem, decide_eq_false_iff_not] at h
      rw [text?_indented h] at htext
      cases hcount : Datum.repeatCount (.value indentSize) with
      | error cause =>
          rw [hcount] at htext
          cases htext
      | ok count =>
          rw [hcount] at htext
          cases htext
          exact Nat.le_trans (innerColumns_indentedLine_le count s)
            (Nat.add_le_add_right (hwidest count hcount) _)
  | case2 => simp_all [isIndented]

variable {room : Nat} {e : Expr}

theorem foldFault?_of_isPlain (h : e.isPlain room = true) : e.foldFault? indentSize = none := by
  fun_induction isPlain room e with
  | case6 room c y n =>
      simp only [Bool.and_eq_true] at h
      simp only [foldFault?, constant?_of_isOpen h.1.1.1, Option.map_none]
  | case7 => cases h
  | _ => rfl

theorem unknown?_of_isPlain (h : e.isPlain room = true) : e.unknown? = none := by
  fun_induction isPlain room e with
  | case5 room e n =>
      simp only [Bool.and_eq_true, Option.isSome_iff_ne_none, ne_eq] at h
      simp [unknown?, h.2]
  | case7 => cases h
  | _ => rfl

/-- A part that is plain and stands in at most so many brackets. -/
structure PlainPart (most : Nat) (part : Part) : Prop where
  expr : ∃ room, part.expr.isPlain room = true
  brackets : part.brackets ≤ most

namespace PlainPart

variable {brackets : Nat} {part : Part}

theorem itself (h : e.isPlain room = true) (optional : Bool) (brackets : Nat) :
    PlainPart (brackets + room) ⟨optional, brackets, e⟩ :=
  ⟨⟨room, h⟩, Nat.le_add_right brackets room⟩

theorem outward (h : PlainPart (brackets + 1 + room) part) :
    PlainPart (brackets + (room + 1)) part := by
  have hle := h.brackets
  exact ⟨h.expr, by omega⟩

/-- The parts of an expression that is closed or not: itself, and those below it. -/
theorem all_of_below {most : Nat} {closed : Bool} {head : Part} {below : List Part}
    (hhead : PlainPart most head) (hbelow : ∀ part ∈ below, PlainPart most part) :
    ∀ part ∈ head :: (if closed then [] else below), PlainPart most part := by
  intro part hpart
  rw [List.mem_cons] at hpart
  rcases hpart with rfl | hpart
  · exact hhead
  · cases closed with
    | true => cases hpart
    | false => exact hbelow part hpart

end PlainPart

/-- The parts of a plain expression are plain and not deep in brackets. -/
theorem parts_of_isPlain (closed : Expr → Bool) (h : e.isPlain room = true) (optional : Bool)
    (brackets : Nat) : ∀ part ∈ e.parts closed optional brackets,
      PlainPart (brackets + room) part := by
  -- The cases of the induction evaluate `h`, so what it says of `e` itself is kept here.
  have hitself := PlainPart.itself h
  fun_induction isPlain room e generalizing optional brackets with
  | case1 | case2 =>
      rw [parts]
      exact PlainPart.all_of_below (hitself _ _) fun part hp => nomatch hp
  | case3 room e n ih | case4 room e ih =>
      have hbelow := ih h optional (brackets + 1) (.itself h)
      rw [parts]
      exact PlainPart.all_of_below (hitself _ _) fun part hp => (hbelow part hp).outward
  | case5 room e n ih =>
      rw [Bool.and_eq_true] at h
      have hbelow := ih h.1 optional (brackets + 1) (.itself h.1)
      simp only [parts, partsOfArgs, List.append_nil]
      exact PlainPart.all_of_below (hitself _ _) fun part hp => (hbelow part hp).outward
  | case6 room c y n ihc ihy ihn =>
      simp only [Bool.and_eq_true] at h
      obtain ⟨⟨⟨-, hc⟩, hy⟩, hn⟩ := h
      have hcondition := ihc hc true (brackets + 1) (.itself hc)
      have hyes := ihy hy true (brackets + 1) (.itself hy)
      have hno := ihn hn true (brackets + 1) (.itself hn)
      rw [parts]
      refine PlainPart.all_of_below (hitself _ _) fun part hp => PlainPart.outward ?_
      rw [List.mem_append, List.mem_append] at hp
      rcases hp with (hp | hp) | hp
      · exact hcondition part hp
      · exact hyes part hp
      · exact hno part hp
  | case7 => cases h

theorem check_of_isPlain (h : e.isPlain room = true) (optional : Bool) :
    e.check indentSize optional = .ok () := by
  have hfold : e.all.findSome? (foldFault? indentSize) = none := by
    rw [List.findSome?_eq_none_iff]
    intro inner hinner
    obtain ⟨part, hpart, rfl⟩ := List.mem_map.mp hinner
    obtain ⟨room', hplain⟩ := (parts_of_isPlain _ h _ _ part hpart).expr
    exact foldFault?_of_isPlain hplain
  have hknown : (e.openParts indentSize optional).findSome? (fun part =>
      if part.optional then none else part.expr.unknown?) = none := by
    rw [List.findSome?_eq_none_iff]
    intro part hpart
    obtain ⟨room', hplain⟩ := (parts_of_isPlain _ h _ _ part hpart).expr
    rw [unknown?_of_isPlain hplain, ite_self]
  rw [check, hfold, hknown]
  rfl

theorem repeatedArgument?_of_isPlain (h : e.isPlain room = true) :
    e.repeatedArgument? indentSize = none := by
  rw [repeatedArgument?, Option.map_eq_none_iff, List.findSome?_eq_none_iff]
  intro part hpart
  obtain ⟨room', hplain⟩ := (parts_of_isPlain _ h _ _ part hpart).expr
  rcases part with ⟨optional, brackets, e⟩
  fun_induction isPlain room' e with
  | case5 room e n => exact ite_self none
  | case7 => cases hplain
  | _ => rfl

theorem foldl_max_le {l : List Nat} {bound first : Nat} (hfirst : first ≤ bound)
    (h : ∀ n ∈ l, n ≤ bound) : l.foldl max first ≤ bound := by
  induction l generalizing first with
  | nil => exact hfirst
  | cons n rest ih =>
      rw [List.forall_mem_cons] at h
      exact ih (Nat.max_le.mpr ⟨hfirst, h.1⟩) h.2

theorem depth_le (h : e.isPlain room = true) (set : List String) :
    e.depth indentSize set ≤ room + 2 := by
  refine foldl_max_le (Nat.zero_le _) fun n hn => ?_
  obtain ⟨part, hpart, rfl⟩ := List.mem_map.mp hn
  have hle := (parts_of_isPlain _ h _ _ part hpart).brackets
  split
  · split <;> omega
  · omega
  · omega

end Expr

/-- The columns of what a node is known to print, if texts are moved at most so far. -/
def Node.knownColumns (widest : Nat) : Node → Nat
  | .text s => innerColumns s
  | .print e => e.knownColumns widest
  | _ => 0

/-- The columns of all that some nodes in a row are known to print. -/
def rowColumns (widest : Nat) : List Node → Nat
  | [] => 0
  | node :: rest => node.knownColumns widest + rowColumns widest rest

/-- Whether the texts that some nodes in a row are known to print are short enough for a line, where
so much room is left. -/
def fitInRow (widest room : Nat) (nodes : List Node) : Bool :=
  4 * (Program.room + 1 - room) + 8 + rowColumns widest nodes < Program.columnLimit

/-- Nodes that are nested at most so deeply, are made of plain expressions, and do not name the
state of a loop. Texts are moved by `widest?` at most, and are not moved at all if there is none. -/
inductive Node.Plain (widest? : Option Nat) : Nat → Node → Prop where
  | text (room : Nat) (s : List Char) : Plain widest? room (.text s)
  | print {room : Nat} {e : Expr} (h : e.isPlain room = true)
      (hknown : e.isOpen = true ∨ widest?.isSome = true ∧ e.isIndented = true) :
      Plain widest? room (.print e)
  | condition {room : Nat} {test : Expr} {body : List Node} (h : test.isPlain room = true)
      (hfit : fitInRow (widest?.getD 0) room body = true)
      (hbody : ∀ node ∈ body, node.Plain widest? room) :
      Plain widest? (room + 1) (.condition test body [] [])
  | loop {room : Nat} {x : String} {source : Expr} {body : List Node} (hx : x ≠ "loop")
      (h : source.isPlain room = true) (hfit : fitInRow (widest?.getD 0) room body = true)
      (hbody : ∀ node ∈ body, node.Plain widest? room) :
      Plain widest? (room + 1) (.loop (.name x) source none body [])

/-- Whether a node is plain. -/
def Node.isPlain (widest? : Option Nat) : Nat → Node → Bool
  | _, .text _ => true
  | room, .print e => e.isPlain room && (e.isOpen || widest?.isSome && e.isIndented)
  | room + 1, .condition test body [] [] =>
    test.isPlain room && fitInRow (widest?.getD 0) room body &&
      body.all (Node.isPlain widest? room)
  | room + 1, .loop (.name x) source none body [] =>
    x != "loop" && source.isPlain room && fitInRow (widest?.getD 0) room body &&
      body.all (Node.isPlain widest? room)
  | _, _ => false

theorem Node.plain_of_isPlain {widest? : Option Nat} (room : Nat) (node : Node)
    (h : node.isPlain widest? room = true) : node.Plain widest? room := by
  fun_cases isPlain widest? room node with
  | case1 => exact .text room _
  | case2 e =>
      rw [isPlain, Bool.and_eq_true, Bool.or_eq_true, Bool.and_eq_true] at h
      exact .print h.1 h.2
  | case3 room test body =>
      simp only [isPlain, Bool.and_eq_true, List.all_eq_true] at h
      exact .condition h.1.1 h.1.2 fun node hnode => plain_of_isPlain room node (h.2 node hnode)
  | case4 room x source body =>
      simp only [isPlain, Bool.and_eq_true, bne_iff_ne, List.all_eq_true] at h
      exact .loop h.1.1.1 h.1.1.2 h.1.2 fun node hnode =>
        plain_of_isPlain room node (h.2 node hnode)
  | case5 => simp_all [isPlain]
termination_by room

theorem setsName_append (n : String) (a b : List Step) :
    Step.setsName n (a ++ b) = (Step.setsName n a || Step.setsName n b) :=
  List.any_append

theorem setsName_stepsOfNodes {n : String} {nodes : List Node}
    (h : ∀ node ∈ nodes, Step.setsName n node.steps = false) :
    Step.setsName n (stepsOfNodes nodes) = false := by
  induction nodes with
  | nil => rfl
  | cons node rest ih =>
      rw [List.forall_mem_cons] at h
      rw [stepsOfNodes, setsName_append, h.1, ih h.2, Bool.or_false]

theorem checkNodes_ok {indentSize : Value} {optional : Bool} {nodes : List Node}
    (h : ∀ node ∈ nodes, node.check indentSize optional = .ok ()) :
    checkNodes indentSize optional nodes = .ok () := by
  induction nodes with
  | nil => rfl
  | cons node rest ih =>
      rw [List.forall_mem_cons] at h
      rw [checkNodes, h.1, ok_bind, ih h.2]

namespace Node.Plain

variable {widest? : Option Nat} {room : Nat} {node : Node} {indentSize : Value}

/-- No loop of a plain node names the state of a loop. -/
theorem setsName_steps (h : node.Plain widest? room) : Step.setsName "loop" node.steps = false := by
  induction h with
  | text => rfl
  | print => rfl
  | condition h hfit hbody ih =>
      have hsteps := setsName_stepsOfNodes ih
      simpa [steps, stepsOfBranches, stepsOfNodes, Step.setsName] using hsteps
  | loop hx h hfit hbody ih =>
      have hsteps := setsName_stepsOfNodes ih
      simpa [steps, stepsOfNodes, Step.setsName, Target.names, hx] using hsteps

theorem check_ok (h : node.Plain widest? room) (optional : Bool) :
    node.check indentSize optional = .ok () := by
  induction h generalizing optional with
  | text => rfl
  | print h =>
      rw [check, Expr.check_of_isPlain h, ite_self]
  | condition h hfit hbody ih =>
      rw [check, Expr.check_of_isPlain h, ok_bind,
        checkNodes_ok fun node hnode => ih node hnode true]
      rfl
  | loop hx h hfit hbody ih =>
      have hnodes := checkNodes_ok fun node hnode => ih node hnode false
      have hsets := setsName_stepsOfNodes fun node hnode => (hbody node hnode).setsName_steps
      simp only [check, Target.names, List.contains_cons, List.contains_nil, Bool.or_false, hsets,
        stepsOfNodes, Expr.check_of_isPlain h, hnodes, checkNodes, ok_bind]
      rw [beq_eq_false_iff_ne.mpr hx.symm]
      rfl

end Node.Plain

end TypeStencil.Template
