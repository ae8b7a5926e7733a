import Mathlib.Data.List.Dedup
import TypeStencil.Proofs.ClassModel.Calls
import TypeStencil.Proofs.ClassModel.Layout
import TypeStencil.Proofs.ClassModel.Sheets

/-!
Models whose texts are texts, rendered with the packaged templates: the text of the class is given
directly by what the model holds.
-/
namespace TypeStencil

open Template Template.Packaged

/-- Items in the order of their texts. -/
def inOrder {α : Type} (key : α → String) (xs : List α) : List α :=
  xs.mergeSort fun a b => decide (key a ≤ key b)

section

variable {α β : Type} {key : α → String} {xs : List α}

theorem inOrder_perm : (inOrder key xs).Perm xs := List.mergeSort_perm xs _

theorem inOrder_eq_nil : inOrder key xs = [] ↔ xs = [] := by
  rw [← List.isEmpty_iff, inOrder_perm.isEmpty_eq, List.isEmpty_iff]

theorem inOrder_increasing (h : (xs.map key).Nodup) :
    ((inOrder key xs).map key).Pairwise (· < ·) := by
  have hle : (inOrder key xs).Pairwise fun a b => key a ≤ key b := by
    have htrans : ∀ a b c : α, decide (key a ≤ key b) = true → decide (key b ≤ key c) = true →
        decide (key a ≤ key c) = true := fun a b c hab hbc =>
      decide_eq_true (le_trans (of_decide_eq_true hab) (of_decide_eq_true hbc))
    have htotal : ∀ a b : α, (decide (key a ≤ key b) || decide (key b ≤ key a)) = true := by
      intro a b
      rw [Bool.or_eq_true, decide_eq_true_eq, decide_eq_true_eq]
      exact le_total (key a) (key b)
    exact (List.pairwise_mergeSort htrans htotal xs).imp of_decide_eq_true
  have hne : ((inOrder key xs).map key).Nodup := (inOrder_perm.map key).nodup_iff.mpr h
  refine List.pairwise_map.mpr ((hle.and (List.pairwise_map.mp hne)).imp ?_)
  exact fun h => lt_of_le_of_ne h.1 h.2

/-- Images of items are in order if the items are. -/
theorem eq_map_inOrder {f : α → β} {text : β → String} {sorted : List β}
    (hperm : sorted.Perm (xs.map f)) (hinc : (sorted.map text).Pairwise (· < ·))
    (hkey : ∀ x, text (f x) = key x) : sorted = (inOrder key xs).map f := by
  have htexts : ∀ zs : List α, (zs.map f).map text = zs.map key := fun zs => by
    rw [List.map_map]
    exact List.map_congr_left fun x _ => hkey x
  have hnodup : (xs.map key).Nodup := htexts xs ▸
    (hperm.map text).nodup_iff.mp (hinc.imp ne_of_lt)
  refine Sorting.eq_of_perm (hperm.trans (inOrder_perm.map f).symm) hinc ?_
  rw [htexts]
  exact inOrder_increasing hnodup

end

namespace ClassModel

/-- Members that are sorted by their names. -/
theorem sortMembers_inOrder {α β : Type} {key : α → String} (register : α → β) {xs : List α}
    (hn : (xs.map key).Nodup) :
    sortMembers (Entries.named (xs.map fun x => (key x, register x))) =
      .ok ((inOrder key xs).map fun x => (.str (key x), register x)) := by
  have hn' : ((xs.map fun x => (key x, register x)).map Prod.fst).Nodup := by
    rwa [List.map_map]
  obtain ⟨sorted, hok, hperm, hinc⟩ := sortByKey_named hn'
  rw [sortMembers, Entries.named, hok, eq_map_inOrder hperm hinc fun _ => rfl, List.map_map]
  rfl

/-- The texts of some members, if the template prints every one of them. -/
theorem mapM_renderTemplate_result {α β γ : Type} {render : Renderer} (template : Value)
    (member : α → β) (keep : β → γ) (context : β → Context) {text : α → String} {xs : List α}
    (h : ∀ x ∈ xs, render template (context (member x)) = .ok (text x)) :
    ((xs.map member).mapM fun e => do
      return (keep e, ← renderTemplate render template (context e))).result =
      .ok (xs.map fun x => (keep (member x), text x)) := by
  induction xs with
  | nil => rfl
  | cons x rest ih =>
      rw [List.forall_mem_cons] at h
      have hx : (renderTemplate render template (context (member x))).result = .ok (text x) := h.1
      have hfirst : (do
          return (keep (member x), ← renderTemplate render template (context (member x))) :
            Traced _).result = .ok (keep (member x), text x) := by
        rw [Traced.result_bind hx, Traced.result_pure]
      rw [List.map_cons, List.mapM_cons, Traced.result_bind hfirst, Traced.result_bind (ih h.2),
        Traced.result_pure, List.map_cons]

end ClassModel

namespace Sheet

/-- The import lines that the members ask for. -/
def asked (s : Sheet) : List String :=
  (s.operations.flatMap Operation.imports ++ s.fields.filterMap Field.importLine).filter (· ≠ "")

/-- The class as it is laid out: import lines and members in order. -/
def layout (s : Sheet) : Layout where
  typeName := s.identifiers.typeName
  imports := inOrder id (s.imports ++ s.asked).dedup
  description := s.description
  functions := (inOrder Operation.name s.operations).map fun o => Text.lines o.text
  properties := (inOrder Field.name s.fields).map fun p => Text.lines p.text

/-- The text of the class whose members are moved so far to the right. -/
def text (s : Sheet) (count : Nat) : String := s.layout.text count

variable {s : Sheet} {indentSize : Value}

/-- The members of a sheet with their texts. -/
def members (s : Sheet) : ClassModel.RenderedMembers where
  functions := (inOrder Operation.name s.operations).map fun o => (o.registered, o.text)
  properties := (inOrder Field.name s.fields).map fun p => (p.registered, p.text)

variable (s indentSize) in
theorem renderMembers_result :
    (s.model.renderMembers (TemplateEngine.packaged indentSize).render
      Config.default.templateNames).result = .ok s.members := by
  have hfunctions := ClassModel.mapM_renderTemplate_result (.str functionName)
    (fun o : Operation => (Scalar.str o.name, o.registered)) Prod.snd
    (fun e => e.2.view.toContext) fun o (_ : o ∈ inOrder Operation.name s.operations) =>
      o.render_text indentSize
  have hproperties := ClassModel.mapM_renderTemplate_result (.str propertyName)
    (fun p : Field => (Scalar.str p.name, p.registered)) Prod.snd
    (fun e => e.2.view.toContext) fun p (_ : p ∈ inOrder Field.name s.fields) =>
      p.render_text indentSize
  have hsortf := ClassModel.sortMembers_inOrder Operation.registered s.operations_nodup
  have hsortp := ClassModel.sortMembers_inOrder Field.registered s.fields_nodup
  simp only [ClassModel.renderMembers, model, hsortf, hsortp, Traced.of_ok_bind]
  exact (Traced.result_bind hfunctions).trans (Traced.result_bind hproperties)

theorem members_functions :
    s.members.functions.map Prod.fst =
      (inOrder Operation.name s.operations).map Operation.registered := List.map_map

theorem members_properties :
    s.members.properties.map Prod.fst = (inOrder Field.name s.fields).map Field.registered :=
  List.map_map

theorem imports_isText : ∀ v ∈ s.members.imports, v.isText = true := by
  refine ClassModel.RenderedMembers.imports_isText ?_ ?_
  · rw [members_functions]
    intro f hf v hv _
    obtain ⟨o, -, rfl⟩ := List.mem_map.mp hf
    obtain ⟨line, -, rfl⟩ := List.mem_map.mp hv
    rfl
  · rw [members_properties]
    intro p hp hpresent
    obtain ⟨p, -, rfl⟩ := List.mem_map.mp hp
    exact Value.isText_ofText hpresent

theorem mem_asked {line : String} :
    line ∈ s.asked ↔ .str line ∈ s.members.imports := by
  have hfunctions : (∃ f ∈ (inOrder Operation.name s.operations).map Operation.registered,
      .str line ∈ f.imports) ↔ ∃ o ∈ s.operations, line ∈ o.imports := by
    simp [inOrder_perm.mem_iff, Operation.registered]
  have hproperties : (∃ p ∈ (inOrder Field.name s.fields).map Field.registered,
      p.importName = .str line) ↔ ∃ p ∈ s.fields, p.importLine = some line := by
    simp [inOrder_perm.mem_iff, Field.registered, Value.ofText_eq_str]
  rw [ClassModel.RenderedMembers.mem_imports, members_functions, members_properties, hfunctions,
    hproperties, asked, List.mem_filter, List.mem_append, List.mem_flatMap, List.mem_filterMap,
    decide_eq_true_eq, and_comm]

/-- The import lines of the members come to those of the model. -/
theorem addImports_members :
    (s.model.addImports s.members.imports).1.imports.Gathers (s.imports ++ s.asked) ∧
      (s.model.addImports s.members.imports).2 = .ok () := by
  have hgathers : s.model.imports.Gathers s.imports :=
    ⟨UniqueList.inStep_ofTexts s.imports_nodup, s.imports, rfl, s.imports_nodup, fun _ => Iff.rfl⟩
  obtain ⟨hpushed, hok⟩ := hgathers.pushAll (s.members.imports.filterMap Value.str?)
  rw [Value.map_str_of_isText imports_isText] at hpushed hok
  refine ⟨hpushed.congr fun line => ?_, hok⟩
  rw [List.mem_append, List.mem_append, Value.mem_filterMap_str, mem_asked]

theorem view_eq {l : UniqueList} (h : l.Gathers (s.imports ++ s.asked)) :
    ClassModel.view { s.model with imports := l } s.members = .ok s.layout.view := by
  obtain ⟨sorted, hok, hinc, hmem⟩ := h.exists_sorted
  have hsorted : sorted = s.layout.imports := by
    refine Sorting.eq_of_increasing id (by rwa [List.map_id]) ?_ fun line => ?_
    · exact inOrder_increasing (by rw [List.map_id]; exact List.nodup_dedup _)
    · rw [hmem]
      exact (List.mem_dedup.symm.trans inOrder_perm.mem_iff.symm)
  have hempty : s.model.isInterface = s.layout.functions.isEmpty := by
    rw [ClassModel.isInterface, model, Entries.named, layout, List.isEmpty_map, List.isEmpty_map,
      List.isEmpty_map, inOrder_perm.isEmpty_eq]
  have hfunctions : s.members.functions.map (fun f => Text.lines f.2) = s.layout.functions := by
    simp only [members, layout, List.map_map, Function.comp_def]
  have hproperties : s.members.properties.map (fun p => Text.lines p.2) = s.layout.properties := by
    simp only [members, layout, List.map_map, Function.comp_def]
  simp only [ClassModel.view, hok, ok_bind, hsorted, hfunctions, hproperties]
  rw [Layout.view, ← hempty]
  rfl

/-- A rendering comes to what the class template makes of the layout. -/
theorem render_result :
    (s.model.render (TemplateEngine.packaged indentSize).render
      Config.default.templateNames).2.result =
      ((TemplateEngine.packaged indentSize).render (.str className) s.layout.view.toContext).map
        fun text => ⟨s.identifiers.typeName, s.identifiers.fileName, text⟩ := by
  obtain ⟨hgathers, hadded⟩ := s.addImports_members
  have hmembers := s.renderMembers_result indentSize
  have hview : ClassModel.view (s.model.addImports s.members.imports).1 s.members =
      .ok s.layout.view := view_eq hgathers
  have hclass : Config.default.templateNames.artifact = .str className := rfl
  simp only [ClassModel.render, hmembers, hadded]
  rw [Traced.result_bind hmembers, Traced.result_bind (m := Traced.ofType (.ok ())) rfl,
    ClassModel.renderClass, hview, Traced.of_ok_bind, hclass]
  cases htext : (TemplateEngine.packaged indentSize).render (.str className)
      s.layout.view.toContext with
  | error cause =>
      rw [Traced.bind_eq_error ((ClassModel.result_renderTemplate _ _ _).trans htext)]
      rfl
  | ok text =>
      rw [Traced.result_bind ((ClassModel.result_renderTemplate _ _ _).trans htext),
        Traced.result_bind rfl]
      rfl

theorem layout_isCut : s.layout.IsCut := by
  refine Layout.isCut_of_lines ((inOrder Operation.name s.operations).map Operation.text)
    ((inOrder Field.name s.fields).map Field.text) ?_ ?_
  · rw [List.map_map]
    rfl
  · rw [List.map_map]
    rfl

theorem property_block_ne_nil : ∀ block ∈ s.layout.properties, block ≠ [] := by
  intro block hblock
  obtain ⟨p, -, rfl⟩ := List.mem_map.mp hblock
  exact Text.lines_ne_nil p.text_ne_empty

/-- Whether the class has no lines that are moved to the right. -/
theorem layout_bare : s.layout.functions = [] ∧ s.layout.properties = [] ↔
    s.operations = [] ∧ s.fields = [] := by
  rw [layout, List.map_eq_nil_iff, List.map_eq_nil_iff, inOrder_eq_nil, inOrder_eq_nil]

theorem render_fits {n : Nat} (h : n ≤ widest ∨ 2 ^ 63 ≤ n ∧ s.operations = [] ∧ s.fields = []) :
    (s.model.render (TemplateEngine.packaged (.int n)).render
      Config.default.templateNames).2.result =
      .ok ⟨s.identifiers.typeName, s.identifiers.fileName, s.text n⟩ := by
  rw [render_result, Layout.render_fits layout_isCut
    (h.imp_right fun hbare => ⟨hbare.1, layout_bare.mpr hbare.2⟩)]
  rfl

theorem render_exceeds {n : Nat} (hn : 2 ^ 63 ≤ n) (h : ¬ (s.operations = [] ∧ s.fields = [])) :
    (s.model.render (TemplateEngine.packaged (.int n)).render
      Config.default.templateNames).2.result = .error (.rendering className .wideCount) := by
  rw [render_result, Layout.render_exceeds layout_isCut property_block_ne_nil hn
    (mt layout_bare.mp h)]
  rfl

theorem render_refused {n : Nat} (hwide : widest < n) (hsized : n < 2 ^ 63) :
    ∃ problem line, (s.model.render (TemplateEngine.packaged (.int n)).render
      Config.default.templateNames).2.result =
      .error (.rendering className (.template (.program problem className line))) := by
  obtain ⟨problem, line, hrefused⟩ := s.layout.render_refused hwide hsized
  refine ⟨problem, line, ?_⟩
  rw [render_result, hrefused]
  rfl

/-- The packaged templates print every sheet, as far as its lines can be moved to the right. Sizes
in between are left out: they make the class template too wide for a program. -/
theorem prints_class (s : Sheet) {n : Nat} (h : n ≤ widest ∨ 2 ^ 63 ≤ n) :
    (s.model.render (TemplateEngine.packaged (.int n)).render
      Config.default.templateNames).2.result =
      if n ≤ widest ∨ s.operations = [] ∧ s.fields = [] then
        .ok ⟨s.identifiers.typeName, s.identifiers.fileName, s.text n⟩
      else .error (.rendering className .wideCount) := by
  split
  case isTrue hfits =>
    exact render_fits (hfits.elim .inl fun hbare => h.imp_right fun hn => ⟨hn, hbare⟩)
  case isFalse hexceeds =>
    rw [not_or] at hexceeds
    exact render_exceeds (h.resolve_left hexceeds.1) hexceeds.2

/-- A class without members. -/
def bare : Sheet :=
  ⟨⟨"User", "user"⟩, [], [], [], [], List.nodup_nil, List.nodup_nil, List.nodup_nil⟩

/-- A class with a single field. -/
def user : Sheet :=
  { bare with
    fields := [⟨"id", "string", .bool true, .bool false, none, none⟩]
    fields_nodup := List.nodup_singleton _ }

/-- Both kinds of sizes: the field gets four spaces, but no more than 63 bits can count. -/
theorem prints_class_user :
    (user.model.render (TemplateEngine.packaged (.int 4)).render
      Config.default.templateNames).2.result =
      .ok ⟨"User", "user", "export interface User \x7b\n    id: string;\n\x7d"⟩ ∧
    (user.model.render (TemplateEngine.packaged (.int (2 ^ 63 : Nat))).render
      Config.default.templateNames).2.result = .error (.rendering className .wideCount) ∧
    (bare.model.render (TemplateEngine.packaged (.int (2 ^ 63 : Nat))).render
      Config.default.templateNames).2.result =
      .ok ⟨"User", "user", "export interface User \x7b\n\x7d"⟩ := by
  have hfits := prints_class user (n := 4) (.inl (by decide))
  have hexceeds := prints_class user (n := 2 ^ 63) (.inr (le_refl _))
  have hbare := prints_class bare (n := 2 ^ 63) (.inr (le_refl _))
  rw [if_pos (by decide)] at hfits hbare
  rw [if_neg (by decide)] at hexceeds
  have htext : user.text 4 = "export interface User \x7b\n    id: string;\n\x7d" := by
    decide +kernel
  have hempty : bare.text (2 ^ 63) = "export interface User \x7b\n\x7d" := by decide +kernel
  rw [htext] at hfits
  rw [hempty] at hbare
  exact ⟨hfits, hexceeds, hbare⟩

/-- Not every size of an indentation fits: a field is not printed with one of more than 63 bits, and
nothing at all with one that is too wide for a program. -/
theorem not_prints_wide :
    ¬ (user.model.render (TemplateEngine.packaged (.int (2 ^ 63 : Nat))).render
        Config.default.templateNames).2.result =
        .ok ⟨"User", "user", user.text (2 ^ 63)⟩ ∧
    ¬ (bare.model.render (TemplateEngine.packaged (.int (2 ^ 31 - 112 : Nat))).render
        Config.default.templateNames).2.result =
        .ok ⟨"User", "user", bare.text (2 ^ 31 - 112)⟩ := by
  constructor
  · rw [render_exceeds (le_refl _) (by decide)]
    exact nofun
  · obtain ⟨problem, line, hrefused⟩ := render_refused (s := bare) (n := 2 ^ 31 - 112)
      (by decide) (by decide)
    rw [hrefused]
    exact nofun

end Sheet

end TypeStencil
