import TypeStencil.Proofs.ClassModel.Content
import TypeStencil.Proofs.ClassModel.Printing
import TypeStencil.Proofs.Template.Views

/-!
Contents in general, printed with the packaged templates. A class is printed whatever its members
are, unless its lines should be moved further to the right than there is room for.
-/
namespace TypeStencil.Content

open Template Template.Packaged

/-- A class without members. -/
def IsBare (c : Content) : Prop :=
  c.functions = [] ∧ c.properties = []

instance (c : Content) : Decidable c.IsBare :=
  inferInstanceAs (Decidable (_ ∧ _))

/-- The class as it is laid out around the texts of its members. -/
def layout (c : Content) (functionTexts propertyTexts : List String) : Layout where
  typeName := c.identifiers.typeName
  imports := c.imports
  description := c.description
  functions := functionTexts.map Text.lines
  properties := propertyTexts.map Text.lines

theorem layout_isCut (c : Content) (functionTexts propertyTexts : List String) :
    (c.layout functionTexts propertyTexts).IsCut :=
  Layout.isCut_of_lines functionTexts propertyTexts rfl rfl

theorem layout_view {c : Content} {functionTexts propertyTexts : List String}
    (h : functionTexts.length = c.functions.length) :
    (c.layout functionTexts propertyTexts).view = c.classView functionTexts propertyTexts := by
  have hempty : (functionTexts.map Text.lines).isEmpty = c.functions.isEmpty := by
    rw [List.isEmpty_map, Bool.eq_iff_iff, List.isEmpty_iff_length_eq_zero,
      List.isEmpty_iff_length_eq_zero, h]
  rw [Layout.view, layout, classView, hempty]

/-- The members of a class are always printed, so that the rest is up to the class template. -/
theorem exists_layout (c : Content) (n : Nat) : ∃ l : Layout, l.IsCut ∧
    (∀ block ∈ l.properties, block ≠ []) ∧ (l.functions = [] ∧ l.properties = [] ↔ c.IsBare) ∧
    c.print (TemplateEngine.packaged (.int n)).render Config.default.templateNames =
      ((TemplateEngine.packaged (.int n)).render (.str className) l.view.toContext).map
        fun text => ⟨c.identifiers.typeName, c.identifiers.fileName, text⟩ := by
  obtain ⟨functionTexts, hf, -⟩ := exists_mapM_eq_ok (q := fun _ => True)
    fun v (_ : v ∈ c.functions) => ⟨_, v.render_text (.int n), trivial⟩
  obtain ⟨propertyTexts, hp, hne⟩ := exists_mapM_eq_ok (q := fun text => text ≠ "")
    fun v (_ : v ∈ c.properties) => ⟨_, v.render_text (.int n), v.text_ne_empty⟩
  have hflength := (mapM_eq_ok.mp hf).length_eq
  have hplength := (mapM_eq_ok.mp hp).length_eq
  have htemplates : Config.default.templateNames =
      ⟨.str functionName, .str propertyName, .str className⟩ := rfl
  refine ⟨c.layout functionTexts propertyTexts, c.layout_isCut functionTexts propertyTexts, ?_, ?_,
    ?_⟩
  · intro block hblock
    obtain ⟨text, htext, rfl⟩ := List.mem_map.mp hblock
    exact Text.lines_ne_nil (hne text htext)
  · rw [IsBare, layout, List.map_eq_nil_iff, List.map_eq_nil_iff, ← List.length_eq_zero_iff,
      ← List.length_eq_zero_iff, ← hflength, ← hplength, List.length_eq_zero_iff,
      List.length_eq_zero_iff]
  · rw [print, htemplates, hf, ok_bind, hp, ok_bind, ← layout_view hflength.symm]
    cases (TemplateEngine.packaged (.int n)).render (.str className)
      (c.layout functionTexts propertyTexts).view.toContext <;> rfl

variable (c : Content) {n : Nat}

/-- With the packaged templates a class is printed, unless it has members whose lines should be
moved further to the right than can be counted. -/
theorem print_packaged (h : n ≤ widest ∨ 2 ^ 63 ≤ n) : ∃ text,
    c.print (TemplateEngine.packaged (.int n)).render Config.default.templateNames =
      if n ≤ widest ∨ c.IsBare then .ok ⟨c.identifiers.typeName, c.identifiers.fileName, text⟩
      else .error (.rendering className .wideCount) := by
  obtain ⟨l, hcut, hblocks, hbare, hprint⟩ := c.exists_layout n
  refine ⟨l.text n, ?_⟩
  rw [hprint]
  split
  case isTrue hfits =>
    have hlayout : n ≤ widest ∨ 2 ^ 63 ≤ n ∧ l.functions = [] ∧ l.properties = [] :=
      hfits.elim .inl fun hnone => h.imp_right fun hn => ⟨hn, hbare.mpr hnone⟩
    rw [Layout.render_fits hcut hlayout]
    rfl
  case isFalse hexceeds =>
    rw [not_or] at hexceeds
    rw [Layout.render_exceeds hcut hblocks (h.resolve_left hexceeds.1)
      (mt hbare.mp hexceeds.2)]
    rfl

theorem print_refused (hwide : widest < n) (hsized : n < 2 ^ 63) : ∃ problem line,
    c.print (TemplateEngine.packaged (.int n)).render Config.default.templateNames =
      .error (.rendering className (.template (.program problem className line))) := by
  obtain ⟨l, -, -, -, hprint⟩ := c.exists_layout n
  obtain ⟨problem, line, hrefused⟩ := l.render_refused hwide hsized
  refine ⟨problem, line, ?_⟩
  rw [hprint, hrefused]
  rfl

end TypeStencil.Content
