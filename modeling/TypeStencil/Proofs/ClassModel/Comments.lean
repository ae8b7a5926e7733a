import TypeStencil.Proofs.ClassModel.Content
import TypeStencil.Proofs.ClassModel.Printing
import TypeStencil.Proofs.Sorting.Permutation
import TypeStencil.Proofs.Template.Views
import TypeStencil.Proofs.Text.Comments

/-!
Comment blocks in the text of a class. The description of the class and that of each member stands
in a block of its own, right before what it describes. A description is written as it is, so that a
comment goes as far as its block if and only if no end of a comment is in the description.
-/
namespace TypeStencil

open Template Template.Packaged Text

/-- The spaces in front of a line that is moved to the right. -/
def margin (width : Nat) : String :=
  String.ofList (List.replicate width ' ')

/-- A comment block in a text: what stands before it, how far it is moved to the right, its lines,
the lines of the declaration after it, and the rest. -/
structure CommentBlock where
  before : String
  width : Nat
  lines : List String
  declaration : List String
  after : String

namespace CommentBlock

/-- What the template puts between the two ends of a comment. -/
def inside (b : CommentBlock) : String :=
  "\n" ++ ended (b.lines.map fun line => margin b.width ++ " * " ++ line) ++ margin b.width ++ " "

/-- What the template puts after a comment. -/
def beyond (b : CommentBlock) : String :=
  "\n" ++ ended b.declaration ++ b.after

def text (b : CommentBlock) : String :=
  b.before ++ "/**" ++ b.inside ++ "*/" ++ b.beyond

/-- The first end of a comment after the opening is the one that the template writes. -/
def IsClosed (b : CommentBlock) : Prop :=
  cutAtEnd? (b.inside ++ "*/" ++ b.beyond).toList = some (b.inside.toList, b.beyond.toList)

end CommentBlock

theorem not_holdsEnd_of_not_mem {s : List Char} (h : '/' ∉ s) : ¬ HoldsEnd s :=
  fun hend => h (hend.subset (by decide))

/-- The end of a comment is in one of some lines, or in what comes after them. -/
theorem holdsEnd_ended {ls : List String} {rest : String} :
    HoldsEnd (ended ls ++ rest).toList ↔
      (∃ line ∈ ls, HoldsEnd line.toList) ∨ HoldsEnd rest.toList := by
  induction ls with
  | nil => simp [ended_nil]
  | cons line ls ih =>
      have hcut : (ended (line :: ls) ++ rest).toList =
          line.toList ++ '\n' :: (ended ls ++ rest).toList := by
        simp [ended_cons, String.toList_append]
      rw [hcut, holdsEnd_append_cons (by decide) (by decide), ih, List.exists_mem_cons_iff,
        or_assoc]

theorem not_holdsEnd_margin (width : Nat) : ¬ HoldsEnd (margin width).toList := by
  refine not_holdsEnd_of_not_mem fun h => ?_
  rw [margin, String.toList_ofList] at h
  cases List.eq_of_mem_replicate h

/-- The end of a comment is in a line of a block if it is in the line of the description. -/
theorem holdsEnd_starred {width : Nat} {line : String} :
    HoldsEnd (margin width ++ " * " ++ line).toList ↔ HoldsEnd line.toList := by
  have hcut : (margin width ++ " * " ++ line).toList =
      (margin width).toList ++ ' ' :: (['*'] ++ ' ' :: line.toList) := by
    simp [String.toList_append]
  rw [hcut, holdsEnd_append_cons (by decide) (by decide),
    holdsEnd_append_cons (by decide) (by decide)]
  simp [not_holdsEnd_margin, not_holdsEnd_of_not_mem]

/-- A comment goes as far as its block if and only if its lines do not end it. -/
theorem CommentBlock.isClosed_iff {b : CommentBlock} :
    b.IsClosed ↔ ∀ line ∈ b.lines, ¬ HoldsEnd line.toList := by
  have hcut : (b.inside ++ "*/" ++ b.beyond).toList =
      b.inside.toList ++ '*' :: '/' :: b.beyond.toList := by
    simp [String.toList_append]
  have hinside : b.inside.toList ++ ['*'] = [] ++ '\n' :: ((ended (b.lines.map fun line =>
      margin b.width ++ " * " ++ line) ++ margin b.width).toList ++ ' ' :: ['*']) := by
    simp [inside, String.toList_append]
  have hlines : (∃ line ∈ b.lines.map fun line => margin b.width ++ " * " ++ line,
      HoldsEnd line.toList) ↔ ∃ line ∈ b.lines, HoldsEnd line.toList := by
    simp only [List.mem_map, exists_exists_and_eq_and, holdsEnd_starred]
  rw [IsClosed, hcut, cutAtEnd?_eq_some, hinside, holdsEnd_append_cons (by decide) (by decide),
    holdsEnd_append_cons (by decide) (by decide), holdsEnd_ended, hlines]
  simp [not_holdsEnd_margin, not_holdsEnd_of_not_mem]

theorem holdsEnd_chomped {line : String} :
    HoldsEnd (chomped line).toList ↔ HoldsEnd line.toList := by
  rw [chomped, String.toList_ofList, holdsEnd_chomp]

/-- The end of a comment is in a text if it is in a line that comes out of two cuts. -/
theorem forall_lines_chomped {t : String} :
    (∀ line ∈ (lines t).map chomped, ¬ HoldsEnd line.toList) ↔ ¬ HoldsEnd t.toList := by
  rw [List.forall_mem_map, ← forall_lines_not_holdsEnd]
  exact forall₂_congr fun line _ => not_congr holdsEnd_chomped

theorem forall_flatMap_lines {texts : List String} :
    (∀ line ∈ texts.flatMap lines, ¬ HoldsEnd line.toList) ↔
      ∀ t ∈ texts, ¬ HoldsEnd t.toList := by
  rw [List.forall_mem_flatMap]
  exact forall₂_congr fun t _ => forall_lines_not_holdsEnd

/-- Lines that are cut once more, with the text after them. -/
theorem lines_ended {ls : List String} (h : ∀ line ∈ ls, '\n' ∉ line.toList) {rest : String}
    (hrest : rest ≠ "") : lines (ended ls ++ rest) = ls.map chomped ++ lines rest := by
  induction ls with
  | nil => rw [ended_nil, String.empty_append, List.map_nil, List.nil_append]
  | cons line ls ih =>
      rw [List.forall_mem_cons] at h
      have hne : ended ls ++ rest ≠ "" := fun hempty =>
        hrest (String.append_eq_empty_iff.mp hempty).2
      rw [ended_cons, String.append_assoc, String.append_assoc, lines_append h.1 hne, ih h.2,
        List.map_cons, List.cons_append]

theorem newline_not_mem_comment {ls : List String} (h : ∀ line ∈ ls, '\n' ∉ line.toList) :
    ∀ line ∈ comment ls, '\n' ∉ line.toList := by
  simp only [comment, List.mem_append, List.mem_cons, List.mem_map, List.not_mem_nil, or_false]
  rintro line ((rfl | ⟨line, hline, rfl⟩) | rfl)
  · decide
  · simp [String.toList_append, h line hline]
  · decide

theorem map_chomped_comment (ls : List String) :
    (comment ls).map chomped = comment (ls.map chomped) := by
  have hline : (chomped ∘ fun line => " * " ++ line) = (fun line => " * " ++ line) ∘ chomped :=
    funext fun line => chomped_append (by decide) line
  rw [comment, List.map_append, List.map_cons, List.map_map, hline, ← List.map_map]
  rfl

/-- The lines of a member that has a description: those of the comment, and those of the
declaration. -/
theorem lines_commentIf {ls : List String} (h : ∀ line ∈ ls, '\n' ∉ line.toList)
    {declaration : String} (hne : declaration ≠ "") :
    lines (commentIf true ls ++ declaration) = comment (ls.map chomped) ++ lines declaration := by
  rw [commentIf, if_pos rfl, lines_ended (newline_not_mem_comment h) hne, map_chomped_comment]

/-- A line with something other than white space at its start is not blank. -/
theorem indentedLine_append {width : Nat} {s : String} (h : isBlankLine s.toList = false)
    (line : String) : indentedLine width (s ++ line) = margin width ++ (s ++ line) := by
  have hline : isBlankLine (s ++ line).toList = false := by
    rw [isBlankLine] at h ⊢
    rw [String.toList_append, List.all_append, h, Bool.false_and]
  rw [indentedLine, hline, if_neg Bool.false_ne_true, margin]

/-- A comment whose lines are moved to the right. -/
theorem ended_moved_comment (width : Nat) (ls : List String) :
    ended ((comment ls).map (indentedLine width)) =
      margin width ++ "/**" ++ ("\n" ++
        ended (ls.map fun line => margin width ++ " * " ++ line) ++ margin width ++ " ") ++ "*/" ++
        "\n" := by
  have hline : (indentedLine width ∘ fun line => " * " ++ line) =
      fun line => margin width ++ " * " ++ line := by
    refine funext fun line => ?_
    rw [Function.comp_apply, indentedLine_append (by decide), String.append_assoc]
  have hopening : indentedLine width "/**" = margin width ++ "/**" :=
    indentedLine_append (s := "/**") (by decide) ""
  have hclosing : indentedLine width " */" = margin width ++ (" " ++ "*/") :=
    indentedLine_append (s := " */") (by decide) ""
  rw [comment, List.map_append, List.map_cons, List.map_map, hline, List.map_cons, List.map_nil,
    hopening, hclosing, ended_append, ended_cons, ended_cons, ended_nil]
  simp only [String.append_assoc, String.append_empty]

/-- A text has a comment block of some lines right before a declaration. The comment goes as far as
the block if and only if `closed` holds. -/
def HasComment (text : String) (width : Nat) (lines declaration : List String) (closed : Prop) :
    Prop :=
  ∃ before after, (CommentBlock.mk before width lines declaration after).text = text ∧
    ((CommentBlock.mk before width lines declaration after).IsClosed ↔ closed)

theorem HasComment.congr {text : String} {width : Nat} {ls declaration : List String}
    {closed closed' : Prop} (h : HasComment text width ls declaration closed)
    (heq : closed ↔ closed') : HasComment text width ls declaration closed' :=
  propext heq ▸ h

theorem hasComment_of_infix {width : Nat} {ls declaration all : List String} {last : String}
    {closed : Prop} (h : (comment ls).map (indentedLine width) ++ declaration <:+: all)
    (hclosed : (∀ line ∈ ls, ¬ HoldsEnd line.toList) ↔ closed) :
    HasComment (joinLines (all ++ [last])) width ls declaration closed := by
  obtain ⟨before, after, rfl⟩ := h
  refine ⟨ended before ++ margin width, ended after ++ last, ?_,
    CommentBlock.isClosed_iff.trans hclosed⟩
  rw [joinLines_append, ended_append, ended_append, ended_append, ended_moved_comment]
  simp only [CommentBlock.text, CommentBlock.inside, CommentBlock.beyond, String.append_assoc]

theorem map_indentedLine_zero (ls : List String) :
    (comment ls).map (indentedLine 0) = comment ls := by
  have hstart {s : String} (h : isBlankLine s.toList = false) (line : String) :
      indentedLine 0 (s ++ line) = s ++ line :=
    (indentedLine_append h line).trans String.empty_append
  have hline : (indentedLine 0 ∘ fun line => " * " ++ line) = fun line => " * " ++ line :=
    funext fun line => hstart (by decide) line
  have hopening : indentedLine 0 "/**" = "/**" := hstart (s := "/**") (by decide) ""
  have hclosing : indentedLine 0 " */" = " */" := hstart (s := " */") (by decide) ""
  rw [comment, List.map_append, List.map_cons, List.map_map, hline, List.map_cons, List.map_nil,
    hopening, hclosing]

namespace Layout

/-- The line that a class begins with. -/
def head (l : Layout) : String :=
  "export " ++ (if l.functions.isEmpty then "interface" else "class") ++ " " ++ l.typeName ++
    " \x7b"

/-- All lines of a class but the last. -/
def body (l : Layout) (count : Nat) : List String :=
  (if l.imports.isEmpty then [] else l.imports ++ [""]) ++
    (if l.description.isEmpty then [] else comment l.description) ++
    [l.head] ++
    l.properties.flatMap (fun block => block.map (indentedLine count)) ++
    (if l.functions.isEmpty then [] else l.functionLines count)

variable {l : Layout} {count : Nat}

theorem text_eq_body : l.text count = joinLines (l.body count ++ ["\x7d"]) := rfl

theorem description_infix (h : l.description ≠ []) :
    (comment l.description).map (indentedLine 0) ++ [l.head] <:+: l.body count := by
  rw [map_indentedLine_zero, body, List.isEmpty_eq_false_iff.mpr h, if_neg Bool.false_ne_true,
    List.append_assoc, List.append_assoc, List.append_assoc, ← List.append_assoc (comment _),
    ← List.append_assoc]
  exact List.infix_append _ _ _

theorem property_infix {block : List String} (h : block ∈ l.properties) :
    block.map (indentedLine count) <:+: l.body count := by
  have hblock : block.map (indentedLine count) <:+:
      (l.properties.map fun block => block.map (indentedLine count)).flatten :=
    List.infix_of_mem_flatten (List.mem_map_of_mem h)
  rw [body, List.flatMap_def]
  exact hblock.trans (List.infix_append _ _ _)

theorem function_infix {block : List String} (h : block ∈ l.functions) :
    block.map (indentedLine count) <:+: l.body count := by
  have hlast : block.map (indentedLine count) <:+: "" :: block.map (indentedLine count) :=
    (List.suffix_cons _ _).isInfix
  have hblock : "" :: block.map (indentedLine count) <:+:
      (l.functions.map fun block => "" :: block.map (indentedLine count)).flatten :=
    List.infix_of_mem_flatten (List.mem_map_of_mem h)
  rw [body, functionLines, List.flatMap_def, List.isEmpty_eq_false_iff.mpr (List.ne_nil_of_mem h),
    if_neg Bool.false_ne_true]
  exact ((hlast.trans hblock).trans (List.suffix_append _ _).isInfix).trans
    (List.suffix_append _ _).isInfix

/-- The comment of a member, where its block begins with one. -/
theorem hasComment_of_block {block ls declaration : List String} {closed : Prop}
    (h : block ∈ l.functions ++ l.properties) (hblock : block = comment ls ++ declaration)
    (hclosed : (∀ line ∈ ls, ¬ HoldsEnd line.toList) ↔ closed) :
    HasComment (l.text count) count ls (declaration.map (indentedLine count)) closed := by
  have hinfix : block.map (indentedLine count) <:+: l.body count :=
    (List.mem_append.mp h).elim function_infix property_infix
  rw [hblock, List.map_append] at hinfix
  exact hasComment_of_infix hinfix hclosed

/-- What the packaged template makes of a layout is its text with some number of spaces. -/
theorem text_of_render {imports : List Value} {indentSize : Value} {text : String}
    (himports : imports.map Value.text = l.imports) (hcut : l.IsCut)
    (hblocks : ∀ block ∈ l.properties, block ≠ [])
    (h : (TemplateEngine.packaged indentSize).render (.str className)
      (l.viewWith imports).toContext = .ok text) :
    ∃ count, text = l.text count ∧ (l.functions ≠ [] ∨ l.properties ≠ [] →
      Datum.repeatCount (.value indentSize) = .ok count) := by
  let frame : Frame := ⟨indentSize, some className⟩
  have hcheck := class_stands.check_of_render rfl h
  by_cases hmembers : l.functions ≠ [] ∨ l.properties ≠ []
  · cases hcount : Datum.repeatCount (.value indentSize) with
    | ok count =>
        have hprinted := l.writes_text (f := frame) himports hcut fun _ => hcount
        have hok := class_stands.render_ok rfl hcheck hprinted
        exact ⟨count, Except.ok.inj (h.symm.trans hok), fun _ => rfl⟩
    | error cause =>
        have hfails := l.text_fails (f := frame) hcount himports hcut hblocks hmembers
        cases h.symm.trans (class_stands.render_error rfl hcheck hfails)
  · -- Without members no line is moved, and any number of spaces does.
    have hnone : l.functions ≠ [] ∨ l.properties ≠ [] →
        Datum.repeatCount (.value indentSize) = .ok 0 := fun hne => absurd hne hmembers
    have hprinted := l.writes_text (f := frame) himports hcut hnone
    have hok := class_stands.render_ok rfl hcheck hprinted
    exact ⟨0, Except.ok.inj (h.symm.trans hok), hnone⟩

end Layout

/-- The lines of a member whose description is a text. -/
theorem lines_of_described {described : Bool} {t declaration : String} {ls : List String}
    (h : (Value.str t).lines = .ok ls) (hd : described = (Value.str t).isPresent) (ht : t ≠ "")
    (hne : declaration ≠ "") :
    lines (commentIf described ls ++ declaration) =
      comment ((lines t).map chomped) ++ lines declaration := by
  obtain rfl := Except.ok.inj ((Value.lines_ofText (some t)).symm.trans h)
  have hpresent : (Value.str t).isPresent = true := (Value.isPresent_str t).mpr ht
  rw [hd, hpresent]
  exact lines_commentIf (fun line => newline_not_mem_lines) hne

theorem FunctionView.lines_text {d : FunctionDescriptor} {v : FunctionView} {t : String}
    (h : FunctionView.ofDescriptor d = .ok v) (hd : d.description = .str t) (ht : t ≠ "") :
    lines v.text = comment ((lines t).map chomped) ++ lines v.declaration := by
  obtain ⟨_, -, h⟩ := bind_eq_ok.mp h
  obtain ⟨_, -, h⟩ := bind_eq_ok.mp h
  obtain ⟨description, hlines, h⟩ := bind_eq_ok.mp h
  obtain rfl := Except.ok.inj h
  rw [hd] at hlines
  exact lines_of_described hlines (congrArg Value.isPresent hd) ht (declaration_ne_empty _)

theorem PropertyView.lines_text {d : PropertyDescriptor} {v : PropertyView} {t : String}
    (h : PropertyView.ofDescriptor d = .ok v) (hd : d.description = .str t) (ht : t ≠ "") :
    lines v.text = comment ((lines t).map chomped) ++ lines v.declaration := by
  obtain ⟨description, hlines, h⟩ := bind_eq_ok.mp h
  obtain rfl := Except.ok.inj h
  rw [hd] at hlines
  exact lines_of_described hlines (congrArg Value.isPresent hd) ht (declaration_ne_empty _)

namespace ClassModel

/-- The line that a class begins with. -/
def head (m : ClassModel) : String :=
  "export " ++ (if m.isInterface then "interface" else "class") ++ " " ++
    m.identifiers.typeName ++ " \x7b"

/-- A layout holds what a model does. The blocks of the members are what the packaged templates
print for them, in any order. -/
structure IsLaidOut (m : ClassModel) (l : Layout) : Prop where
  typeName : l.typeName = m.identifiers.typeName
  description : l.description = m.description
  functions : l.functions.Perm (m.functions.map fun e => lines e.2.view.text)
  properties : l.properties.Perm (m.properties.map fun e => lines e.2.view.text)

variable {m : ClassModel} {l : Layout} {indentSize : Value}

theorem IsLaidOut.isEmpty_functions (h : m.IsLaidOut l) : l.functions.isEmpty = m.isInterface := by
  rw [h.functions.isEmpty_eq, List.isEmpty_map, isInterface]

theorem IsLaidOut.functions_eq_nil (h : m.IsLaidOut l) : l.functions = [] ↔ m.functions = [] := by
  rw [← List.isEmpty_iff, h.isEmpty_functions, isInterface, List.isEmpty_iff]

theorem IsLaidOut.properties_eq_nil (h : m.IsLaidOut l) :
    l.properties = [] ↔ m.properties = [] := by
  rw [← List.isEmpty_iff, h.properties.isEmpty_eq, List.isEmpty_map, List.isEmpty_iff]

theorem IsLaidOut.head_eq (h : m.IsLaidOut l) : l.head = m.head := by
  rw [Layout.head, head, h.isEmpty_functions, h.typeName]

/-- The lines of some members that a template is asked for in the order of their names. -/
theorem perm_of_mapM {α : Type} {render : Renderer} {template : Value} (context : α → Context)
    {text : α → String} (htext : ∀ x, render template (context x) = .ok (text x))
    {members : Entries α} {sorted : List (Scalar × α)} (hsorted : sortMembers members = .ok sorted)
    {ys : List (α × String)} (h : (sorted.mapM fun e : Scalar × α => do
      return (e.2, ← renderTemplate render template (context e.2))).result = .ok ys) :
    (ys.map fun y => lines y.2).Perm
      (members.map fun e : Scalar × α => lines (text e.2)) := by
  have hanswers := (mapM_renderTemplate _ _ _ _ _ h).2.1
  have hok : Function.Injective (Except.ok : String → Except Fault String) :=
    fun _ _ heq => Except.ok.inj heq
  have htexts : ys.map Prod.snd = sorted.map fun e => text e.2 := by
    refine List.map_injective_iff.mpr hok (hanswers.symm.trans ?_)
    rw [List.map_map]
    exact List.map_congr_left fun (e : Scalar × α) _ => htext e.2
  have hlines : (ys.map fun y => lines y.2) = sorted.map fun e => lines (text e.2) := by
    rw [← Function.comp_def lines Prod.snd, ← List.map_map, htexts, List.map_map, Function.comp_def]
  exact hlines ▸ (Sorting.perm_sortByKey hsorted).map _

/-- The blocks of the members. -/
theorem perm_of_renderMembers {texts : RenderedMembers}
    (h : (m.renderMembers (TemplateEngine.packaged indentSize).render
      Config.default.templateNames).result = .ok texts) :
    (texts.functions.map fun f => lines f.2).Perm (m.functions.map fun e => lines e.2.view.text) ∧
    (texts.properties.map fun p => lines p.2).Perm
      (m.properties.map fun e => lines e.2.view.text) := by
  obtain ⟨functions, hfunctions, h⟩ := Traced.bind_eq_ok.mp h
  obtain ⟨functionTexts, hft, h⟩ := Traced.bind_eq_ok.mp h
  obtain ⟨properties, hproperties, h⟩ := Traced.bind_eq_ok.mp h
  obtain ⟨propertyTexts, hpt, h⟩ := Traced.bind_eq_ok.mp h
  obtain rfl := Except.ok.inj h
  have htemplates : Config.default.templateNames =
      ⟨.str functionName, .str propertyName, .str className⟩ := rfl
  rw [htemplates] at hft hpt
  exact ⟨perm_of_mapM (fun f : RegisteredFunction => f.view.toContext)
      (fun f => f.view.render_text indentSize) hfunctions hft,
    perm_of_mapM (fun p : RegisteredProperty => p.view.toContext)
      (fun p => p.view.render_text indentSize) hproperties hpt⟩

/-- What is rendered with the packaged templates is a layout of the model. -/
theorem exists_layout {artifact : Artifact}
    (h : (m.render (TemplateEngine.packaged indentSize).render
      Config.default.templateNames).2.result = .ok artifact) :
    ∃ l count, m.IsLaidOut l ∧ artifact.text = l.text count ∧
      (l.functions ≠ [] ∨ l.properties ≠ [] →
        Datum.repeatCount (.value indentSize) = .ok count) := by
  obtain ⟨texts, htexts, hclass, -⟩ := render_calls h
  obtain ⟨v, hview, hclass⟩ := Traced.bind_eq_ok.mp hclass
  obtain ⟨text, htext, hclass⟩ := Traced.bind_eq_ok.mp hclass
  obtain ⟨-, -, hclass⟩ := Traced.bind_eq_ok.mp hclass
  obtain rfl := Except.ok.inj hclass
  obtain ⟨imports, -, hview⟩ := bind_eq_ok.mp hview
  obtain ⟨hfunctions, hproperties⟩ := perm_of_renderMembers htexts
  let l : Layout := ⟨m.identifiers.typeName, imports.map Value.text, m.description,
    texts.functions.map fun f => lines f.2, texts.properties.map fun p => lines p.2⟩
  have hl : m.IsLaidOut l := ⟨rfl, rfl, hfunctions, hproperties⟩
  have hcut : l.IsCut := by
    refine Layout.isCut_of_lines (texts.functions.map Prod.snd) (texts.properties.map Prod.snd)
      ?_ ?_
    · rw [List.map_map]
      rfl
    · rw [List.map_map]
      rfl
  have hblocks : ∀ block ∈ l.properties, block ≠ [] := by
    intro block hblock
    obtain ⟨e, -, rfl⟩ := List.mem_map.mp (hproperties.mem_iff.mp hblock)
    exact lines_ne_nil e.2.view.text_ne_empty
  have hanswer : (TemplateEngine.packaged indentSize).render (.str className)
      (l.viewWith imports).toContext = .ok text := by
    have hv : l.viewWith imports = v := by
      rw [← Except.ok.inj hview, Layout.viewWith, Layout.view, hl.isEmpty_functions]
      rfl
    have hclassName : Config.default.templateNames.artifact = .str className := rfl
    rw [result_renderTemplate, hclassName] at htext
    rw [hv, htext]
  obtain ⟨count, htext, hcount⟩ := Layout.text_of_render rfl hcut hblocks hanswer
  exact ⟨l, count, hl, htext, hcount⟩

/-- Comments in what is rendered with the packaged templates. The description of the class stands in
a comment before the head of the class, and the description of each member in one before the member.
A comment goes as far as its block if and only if no end of a comment is in the description. -/
theorem comments_closed_iff {artifact : Artifact}
    (h : (m.render (TemplateEngine.packaged indentSize).render
      Config.default.templateNames).2.result = .ok artifact) :
    ∃ width,
      (m.functions ≠ [] ∨ m.properties ≠ [] →
        Datum.repeatCount (.value indentSize) = .ok width) ∧
      (∀ texts : List String, m.description = texts.flatMap lines → m.description ≠ [] →
        HasComment artifact.text 0 m.description [m.head] (∀ t ∈ texts, ¬ HoldsEnd t.toList)) ∧
      (∀ e ∈ m.functions, ∀ d t, FunctionView.ofDescriptor d = .ok e.2.view →
        d.description = .str t → t ≠ "" →
        HasComment artifact.text width ((lines t).map chomped)
          ((lines e.2.view.declaration).map (indentedLine width)) (¬ HoldsEnd t.toList)) ∧
      (∀ e ∈ m.properties, ∀ d t, PropertyView.ofDescriptor d = .ok e.2.view →
        d.description = .str t → t ≠ "" →
        HasComment artifact.text width ((lines t).map chomped)
          ((lines e.2.view.declaration).map (indentedLine width)) (¬ HoldsEnd t.toList)) := by
  obtain ⟨l, width, hl, htext, hwidth⟩ := exists_layout h
  rw [htext]
  refine ⟨width, fun hmembers => hwidth ?_, ?_, ?_, ?_⟩
  · rwa [ne_eq, ne_eq, hl.functions_eq_nil, hl.properties_eq_nil]
  · intro texts htexts hne
    rw [← hl.description] at hne
    rw [← hl.description, ← hl.head_eq, Layout.text_eq_body]
    refine hasComment_of_infix (Layout.description_infix hne) ?_
    rw [hl.description, htexts]
    exact forall_flatMap_lines
  · intro e he d t hd hdescription ht
    have hblock : lines e.2.view.text ∈ l.functions :=
      hl.functions.mem_iff.mpr (List.mem_map_of_mem he)
    exact Layout.hasComment_of_block (List.mem_append_left _ hblock)
      (FunctionView.lines_text hd hdescription ht) forall_lines_chomped
  · intro e he d t hd hdescription ht
    have hblock : lines e.2.view.text ∈ l.properties :=
      hl.properties.mem_iff.mpr (List.mem_map_of_mem he)
    exact Layout.hasComment_of_block (List.mem_append_right _ hblock)
      (PropertyView.lines_text hd hdescription ht) forall_lines_chomped

/-- A class with a comment of each kind. -/
theorem comments_closed_users :
    let find : Operation := ⟨"find", "get", "/users", [], [], some "Finds one.", none, none, .null,
      none, .null, .null, []⟩
    let key : Field := ⟨"key", "string", .bool true, .bool false, some "A key.\nUnique.", none⟩
    let users : Sheet := ⟨⟨"Users", "users"⟩, ["All users."], [], [find], [key], .nil,
      List.nodup_singleton _, List.nodup_singleton _⟩
    HasComment (users.text 4) 0 ["All users."] ["export class Users \x7b"] True ∧
    HasComment (users.text 4) 4 ["Finds one."]
      ((lines find.view.declaration).map (indentedLine 4)) True ∧
    HasComment (users.text 4) 4 ["A key.", "Unique."] ["    key: string;"] True := by
  intro find key users
  have hrendered := Sheet.render_fits (s := users) (n := 4) (.inl (by decide))
  obtain ⟨width, hwidth, hclass, hfunctions, hproperties⟩ := comments_closed_iff hrendered
  have hfour : Datum.repeatCount (.value (.int (4 : Nat))) = .ok 4 :=
    repeatCount_of_lt (by decide)
  obtain rfl : 4 = width :=
    Except.ok.inj (hfour.symm.trans (hwidth (.inl (List.cons_ne_nil _ _))))
  have hdescription : users.model.description = ["All users."].flatMap lines := by decide +kernel
  have hhead : users.model.head = "export class Users \x7b" := by decide +kernel
  have hcomment := hclass ["All users."] hdescription (List.cons_ne_nil _ _)
  have hfind := hfunctions _ List.mem_cons_self find.descriptor "Finds one." find.ofDescriptor_eq
    rfl (by decide)
  have hkey := hproperties _ List.mem_cons_self key.descriptor "A key.\nUnique."
    key.ofDescriptor_eq rfl (by decide)
  have hfindLines : (lines "Finds one.").map chomped = ["Finds one."] := by decide +kernel
  have hkeyLines : (lines "A key.\nUnique.").map chomped = ["A key.", "Unique."] := by
    decide +kernel
  have hkeyDeclaration : (lines key.view.declaration).map (indentedLine 4) =
      ["    key: string;"] := by decide +kernel
  rw [hhead] at hcomment
  rw [hfindLines] at hfind
  rw [hkeyLines] at hkey
  refine ⟨hcomment.congr (by decide +kernel), hfind.congr (by decide +kernel), ?_⟩
  rw [← hkeyDeclaration]
  exact hkey.congr (by decide +kernel)

/-- Not every comment goes as far as its block: a description that has the end of a comment in it
stands half outside, and so does what the template writes after it. -/
theorem comment_cut_short :
    let key : Field := ⟨"key", "string", .bool true, .bool false, some "a */ b", none⟩
    let users : Sheet := ⟨⟨"Users", "users"⟩, [], [], [], [key], .nil, .nil,
      List.nodup_singleton _⟩
    (users.model.render (TemplateEngine.packaged (.int 4)).render
      Config.default.templateNames).2.result =
        .ok ⟨"Users", "users", "export interface Users \x7b\n    /**" ++
          "\n     * a */ b\n     */\n    key: string;\n\x7d"⟩ ∧
      cutAtEnd? "\n     * a */ b\n     */\n    key: string;\n\x7d".toList =
        some ("\n     * a ".toList, " b\n     */\n    key: string;\n\x7d".toList) ∧
      ¬ HasComment (users.text 4) 4 ["a */ b"] ["    key: string;"] True := by
  intro key users
  have htext : users.text 4 = "export interface Users \x7b\n    /**" ++
      "\n     * a */ b\n     */\n    key: string;\n\x7d" := by decide +kernel
  refine ⟨htext ▸ Sheet.render_fits (s := users) (n := 4) (.inl (by decide)), by decide +kernel, ?_⟩
  rintro ⟨before, after, -, hclosed⟩
  exact CommentBlock.isClosed_iff.mp (hclosed.mpr trivial) "a */ b" List.mem_cons_self
    (by decide +kernel)

end ClassModel

end TypeStencil
