import TypeStencil.ClassModel
import TypeStencil.Proofs.Template.Members

/-!
The class around its members: import lines, a comment block, a head, the blocks of the members moved
to the right, and a closing brace. The packaged class template prints this layout, or fails if the
lines cannot be moved as far as they should.
-/
namespace TypeStencil

open Template Template.Packaged

theorem ended_flatMap {α : Type} (lines : α → List String) (xs : List α) :
    ended (xs.flatMap lines) = String.join (xs.map fun x => ended (lines x)) := by
  induction xs with
  | nil => rfl
  | cons x rest ih => rw [List.flatMap_cons, ended_append, ih, List.map_cons, String.join_cons]

theorem ended_unless (b : Bool) (lines : List String) :
    ended (if b then [] else lines) = if !b then ended lines else "" := by
  cases b <;> rfl

section

variable {f : Frame} {scope : Scope} {count : Nat}

theorem writes_indented (hcount : Datum.repeatCount (.value f.indentSize) = .ok count)
    {line : String} (h : '\n' ∉ line.toList) {e : Expr}
    (he : e.evalIn f scope = .ok (.value (.str line))) :
    (indented e).Writes f scope (indentedLine count line) :=
  writes_filtered .indent he (run_indent hcount h)

/-- The lines of a member, moved to the right. -/
theorem writes_block (hcount : Datum.repeatCount (.value f.indentSize) = .ok count)
    {block : List String} (hblock : scope.lookup "block" = .value (.strings block))
    (h : ∀ line ∈ block, '\n' ∉ line.toList) :
    blockTree.Writes f scope (ended (block.map (indentedLine count))) := by
  rw [ended_map]
  refine writes_each .str hblock fun state line hline => ?_
  refine .of_eq (.cons
      (writes_indented hcount (h line hline) (evalIn_name Scope.lookup_cons_self)) <|
    .cons (writes_lit _) writes_nil) ?_
  rw [String.append_empty]

end

/-- What goes into the text of a class: its name, its import lines, the lines of its description,
and the blocks of its members. -/
structure Layout where
  typeName : String
  imports : List String
  description : List String
  functions : List (List String)
  properties : List (List String)

namespace Layout

/-- A class without functions is an interface. -/
def view (l : Layout) : ClassModel.ClassView where
  typeName := l.typeName
  isInterface := l.functions.isEmpty
  imports := l.imports.map .str
  description := l.description
  functions := l.functions
  properties := l.properties

/-- The view of a layout whose import lines are given as values of any kind. -/
def viewWith (l : Layout) (imports : List Value) : ClassModel.ClassView :=
  { l.view with imports }

theorem map_text_imports (l : Layout) : (l.imports.map Value.str).map Value.text = l.imports := by
  rw [List.map_map]
  exact List.map_id _

/-- The blocks of the functions, each after an empty line. -/
def functionLines (l : Layout) (count : Nat) : List String :=
  (if l.properties.isEmpty then [] else [""]) ++ [indentedLine count constructorLine] ++
    l.functions.flatMap fun block => "" :: block.map (indentedLine count)

/-- The text of a class whose members are moved so far to the right. -/
def text (l : Layout) (count : Nat) : String :=
  joinLines (
    (if l.imports.isEmpty then [] else l.imports ++ [""]) ++
    (if l.description.isEmpty then [] else comment l.description) ++
    ["export " ++ (if l.functions.isEmpty then "interface" else "class") ++ " " ++ l.typeName ++
      " \x7b"] ++
    l.properties.flatMap (fun block => block.map (indentedLine count)) ++
    (if l.functions.isEmpty then [] else l.functionLines count) ++
    ["\x7d"])

/-- No line of a block has a newline in it. -/
def IsCut (l : Layout) : Prop :=
  ∀ block ∈ l.functions ++ l.properties, ∀ line ∈ block, '\n' ∉ line.toList

/-- Blocks that are the lines of texts have no newline in them. -/
theorem isCut_of_lines {l : Layout} (functionTexts propertyTexts : List String)
    (hf : l.functions = functionTexts.map Text.lines)
    (hp : l.properties = propertyTexts.map Text.lines) : l.IsCut := by
  intro block hblock line hline
  rw [hf, hp, ← List.map_append] at hblock
  obtain ⟨text, -, rfl⟩ := List.mem_map.mp hblock
  exact Text.newline_not_mem_lines hline

section

variable {l : Layout} {imports : List Value} {f : Frame} {count : Nat}

theorem writes_imports (himports : imports.map Value.text = l.imports) :
    importsTree.Writes f (Scope.ofContext (l.viewWith imports).toContext)
      (ended (if l.imports.isEmpty then [] else l.imports ++ [""])) := by
  have hnames : (Scope.ofContext (l.viewWith imports).toContext).lookup "imports" =
      .value (.list (imports.map id)) := by
    rw [List.map_id]
    exact Scope.lookup_ofContext rfl
  rw [ended_unless, ended_append, ← himports, List.isEmpty_map]
  refine writes_onlyIf (b := !imports.isEmpty) (Scope.lookup_ofContext rfl) fun _ => ?_
  refine .of_eq (.cons (writes_each id hnames fun state line _ =>
    .cons (writes_name Scope.lookup_cons_self) <| .cons (writes_lit _) writes_nil) <|
    .cons (writes_lit _) writes_nil) ?_
  rw [String.append_empty, ended_map]
  rfl

theorem writes_properties (hcut : l.IsCut)
    (hcount : l.properties ≠ [] → Datum.repeatCount (.value f.indentSize) = .ok count) :
    propertiesTree.Writes f (Scope.ofContext (l.viewWith imports).toContext)
      (ended (l.properties.flatMap fun block => block.map (indentedLine count))) := by
  have hempty : ended (l.properties.flatMap fun block => block.map (indentedLine count)) =
      if !l.properties.isEmpty then
        ended (l.properties.flatMap fun block => block.map (indentedLine count)) else "" := by
    cases l.properties <;> rfl
  rw [hempty, ended_flatMap]
  refine writes_onlyIf (b := !l.properties.isEmpty) (Scope.lookup_ofContext ?_) fun hb => ?_
  · show some (Value.bool !(l.properties).isEmpty) = _
    rfl
  · have hcount' := hcount (by simpa using hb)
    refine .of_eq (.cons (writes_each Value.strings (Scope.lookup_ofContext rfl)
      fun state block hblock =>
        .cons (writes_block hcount' Scope.lookup_cons_self
          (hcut block (List.mem_append_right _ hblock))) writes_nil) writes_nil) ?_
    simp only [String.append_empty]
    rfl

theorem writes_functions (hcut : l.IsCut)
    (hcount : l.functions ≠ [] → Datum.repeatCount (.value f.indentSize) = .ok count) :
    functionsTree.Writes f (Scope.ofContext (l.viewWith imports).toContext)
      (ended (if l.functions.isEmpty then [] else l.functionLines count)) := by
  rw [ended_unless, functionLines, ended_append, ended_append, ended_unless, ended_flatMap]
  refine writes_onlyIf (b := !l.functions.isEmpty) (Scope.lookup_ofContext rfl) fun hb => ?_
  have hcount' := hcount (by simpa using hb)
  have hconstructor : '\n' ∉ constructorLine.toList := by decide +kernel
  refine .of_eq (.cons (writes_onlyIf (b := !l.properties.isEmpty) (Scope.lookup_ofContext rfl)
      fun _ => .cons (writes_lit _) writes_nil) <|
    .cons (writes_indented hcount' hconstructor rfl) <|
    .cons (writes_lit _) <|
    .cons (writes_each Value.strings (Scope.lookup_ofContext rfl)
      fun state block hblock => .cons (writes_lit _) <|
        .cons (writes_block hcount' Scope.lookup_cons_self
          (hcut block (List.mem_append_left _ hblock))) writes_nil) writes_nil) ?_
  simp only [ended_cons, ended_nil, String.append_empty, String.empty_append, String.append_assoc]
  rfl

theorem writes_text (himports : imports.map Value.text = l.imports) (hcut : l.IsCut)
    (hcount : l.functions ≠ [] ∨ l.properties ≠ [] →
      Datum.repeatCount (.value f.indentSize) = .ok count) :
    Writes f (Scope.ofContext (l.viewWith imports).toContext) classTree (l.text count) := by
  refine .of_eq (.cons (writes_imports himports) <|
    .cons (writes_comment (b := !l.description.isEmpty) (Scope.lookup_ofContext rfl)
      (Scope.lookup_ofContext rfl)) <|
    .cons (writes_lit _) <|
    .cons (writes_pick (b := l.functions.isEmpty) (Scope.lookup_ofContext rfl)) <|
    .cons (writes_lit _) <| .cons (writes_name (Scope.lookup_ofContext rfl)) <|
    .cons (writes_lit _) <|
    .cons (writes_properties hcut fun h => hcount (.inr h)) <|
    .cons (writes_functions hcut fun h => hcount (.inl h)) <|
    .cons (writes_lit _) writes_nil) ?_
  unfold text
  simp only [joinLines_append, ended_append, ended_unless l.description.isEmpty, ended_cons,
    ended_nil, String.append_assoc, String.append_empty]
  rfl

section

variable {cause : Fault} (hcount : Datum.repeatCount (.value f.indentSize) = .error cause)

include hcount

theorem indented_fails {scope : Scope} {e : Expr} {v : Value}
    (he : e.evalIn f scope = .ok (.value v)) :
    (indented e).render f scope = .error cause := by
  have hfilter : Filter.apply .indent f.indentSize (.value v) [] [] = .error cause := by
    show (do
      let count ← Datum.repeatCount (.value f.indentSize)
      Filter.onText (.value v) (Filter.indentText count)) = _
    rw [hcount, error_bind]
  have heval : (Expr.filtered e "indent" []).evalIn f scope = .error cause := by
    rw [Expr.evalIn] at he
    rw [Expr.evalIn, Expr.eval, he, ok_bind, evalArgs, ok_bind]
    show (do return Datum.value (.str (← Filter.apply .indent f.indentSize (.value v) [] []))) = _
    rw [hfilter, error_bind]
  rw [indented, Node.render, heval, error_bind]

theorem block_fails {scope : Scope} {block : List String} (hne : block ≠ [])
    (hblock : scope.lookup "block" = .value (.strings block)) :
    blockTree.render f scope = .error cause := by
  cases block with
  | nil => exact absurd rfl hne
  | cons line rest =>
      exact each_fails .str hblock fun state =>
        .first (indented_fails hcount (evalIn_name Scope.lookup_cons_self))

/-- A layout with members fails if their lines cannot be moved to the right. -/
theorem text_fails (himports : imports.map Value.text = l.imports) (hcut : l.IsCut)
    (hblocks : ∀ block ∈ l.properties, block ≠ [])
    (h : l.functions ≠ [] ∨ l.properties ≠ []) :
    Fails f (Scope.ofContext (l.viewWith imports).toContext) classTree cause := by
  refine .after (writes_imports himports) <|
    .after (writes_comment (b := !l.description.isEmpty) (Scope.lookup_ofContext rfl)
      (Scope.lookup_ofContext rfl)) <|
    .after (writes_lit _) <|
    .after (writes_pick (b := l.functions.isEmpty) (Scope.lookup_ofContext rfl)) <|
    .after (writes_lit _) <| .after (writes_name (Scope.lookup_ofContext rfl)) <|
    .after (writes_lit _) ?_
  by_cases hp : l.properties = []
  · -- Without properties the constructor is the first line that is moved.
    have hf : l.functions ≠ [] := h.resolve_right (fun hne => hne hp)
    have hflag : (Scope.ofContext (l.viewWith imports).toContext).lookup "has_functions" =
        .value (.bool true) := by
      refine Scope.lookup_ofContext ?_
      show some (Value.bool !l.functions.isEmpty) = _
      rw [List.isEmpty_eq_false_iff.mpr hf, Bool.not_false]
    have hnone : l.properties ≠ [] → Datum.repeatCount (.value f.indentSize) = .ok 0 :=
      fun hne => absurd hp hne
    refine .after (writes_properties hcut hnone) <| .first (onlyIf_fails hflag ?_)
    exact .after (writes_onlyIf (b := !l.properties.isEmpty) (Scope.lookup_ofContext rfl)
      fun _ => .cons (writes_lit _) writes_nil) <|
      .first (indented_fails hcount (v := .str constructorLine) rfl)
  · have hflag : (Scope.ofContext (l.viewWith imports).toContext).lookup "has_properties" =
        .value (.bool true) := by
      refine Scope.lookup_ofContext ?_
      show some (Value.bool !l.properties.isEmpty) = _
      rw [List.isEmpty_eq_false_iff.mpr hp, Bool.not_false]
    obtain ⟨block, rest, hsplit⟩ := List.exists_cons_of_ne_nil hp
    have hblock : block ≠ [] := hblocks block (hsplit ▸ List.mem_cons_self)
    have hproperties : (Scope.ofContext (l.viewWith imports).toContext).lookup "properties" =
        .value (.list ((block :: rest).map Value.strings)) := by
      rw [← hsplit]
      exact Scope.lookup_ofContext rfl
    exact .first (onlyIf_fails hflag (.first (each_fails Value.strings hproperties fun state =>
      .first (block_fails hcount hblock Scope.lookup_cons_self))))

end

/-- The packaged class template prints a layout whose lines can be moved to the right. -/
theorem render_fits (hcut : l.IsCut) {n : Nat}
    (h : n ≤ widest ∨ 2 ^ 63 ≤ n ∧ l.functions = [] ∧ l.properties = []) :
    (TemplateEngine.packaged (.int n)).render (.str className) l.view.toContext =
      .ok (l.text n) := by
  refine class_stands.render_ok rfl (class_check_of_size (h.imp_right And.left))
    (l.writes_text l.map_text_imports hcut fun hmembers => repeatCount_of_lt ?_)
  have hn : n ≤ widest := h.resolve_right fun hbare =>
    hmembers.elim (· hbare.2.1) (· hbare.2.2)
  simp only [widest, Program.columnLimit] at hn
  omega

theorem render_exceeds (hcut : l.IsCut)
    (hblocks : ∀ block ∈ l.properties, block ≠ []) {n : Nat} (hn : 2 ^ 63 ≤ n)
    (h : ¬ (l.functions = [] ∧ l.properties = [])) :
    (TemplateEngine.packaged (.int n)).render (.str className) l.view.toContext =
      .error (.rendering className .wideCount) :=
  class_stands.render_error rfl (class_check_of_size (.inr hn))
    (l.text_fails (repeatCount_of_le hn) l.map_text_imports hcut hblocks
      (Decidable.not_and_iff_or_not.mp h))

/-- With a constructor that is too wide there is no program for any class. -/
theorem render_refused (l : Layout) {n : Nat} (hwide : widest < n) (hsized : n < 2 ^ 63) :
    ∃ problem line, (TemplateEngine.packaged (.int n)).render (.str className) l.view.toContext =
      .error (.rendering className (.template (.program problem className line))) := by
  obtain ⟨problem, line, hcheck⟩ :=
    class_check_of_wide (repeatCount_of_lt hsized) hwide className
  exact ⟨problem, line, class_stands.render_refused rfl hcheck⟩

end

end Layout

end TypeStencil
