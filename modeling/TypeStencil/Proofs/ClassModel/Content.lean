import Mathlib.Data.Set.Defs
import TypeStencil.Proofs.ClassModel.Calls

/-!
What a class is printed from. A model whose names and import lines are texts shows its members
and import lines in order, so that its text is settled by the last member under each name and by
which import lines there are.
-/
namespace TypeStencil

/-- All that the templates are shown of a class, in the order in which they are shown it. -/
structure Content where
  identifiers : Identifiers
  description : List String
  imports : List String
  functions : List FunctionView
  properties : List PropertyView

namespace Content

def classView (c : Content) (functionTexts propertyTexts : List String) : ClassModel.ClassView where
  typeName := c.identifiers.typeName
  isInterface := c.functions.isEmpty
  imports := c.imports.map .str
  description := c.description
  functions := functionTexts.map Text.lines
  properties := propertyTexts.map Text.lines

/-- Prints a class: the functions, then the properties, and the class around them. -/
def print (render : Renderer) (templates : TemplateNames) (c : Content) : Except Fault Artifact := do
  let functionTexts ← c.functions.mapM fun v => render templates.function v.toContext
  let propertyTexts ← c.properties.mapM fun v => render templates.property v.toContext
  let text ← render templates.artifact (c.classView functionTexts propertyTexts).toContext
  return ⟨c.identifiers.typeName, c.identifiers.fileName, text⟩

end Content

/-- What a function comes to in a class: what is shown of it, and the import lines it asks for. -/
def RegisteredFunction.part (f : RegisteredFunction) : FunctionView × Set String :=
  (f.view, {line | .str line ∈ f.imports})

/-- What a property comes to in a class: what is shown of it, and the import line it asks for. -/
def RegisteredProperty.part (p : RegisteredProperty) : PropertyView × Set String :=
  (p.view, {line | p.importName = .str line})

namespace Content

/-- The content of a class with the last part under each name and some import lines of its own. -/
structure Fits (c : Content) (function? : String → Option (FunctionView × Set String))
    (property? : String → Option (PropertyView × Set String)) (lines : Set String) : Prop where
  shown : ∃ functions properties, ClassModel.Roster function? functions ∧
    ClassModel.Roster property? properties ∧
    c.functions = functions.map (fun f => f.2.1) ∧
    c.properties = properties.map (fun p => p.2.1) ∧
    ∀ line, line ∈ c.imports ↔ line ∈ lines ∨ line ≠ "" ∧
      ((∃ f ∈ functions, line ∈ f.2.2) ∨ ∃ p ∈ properties, line ∈ p.2.2)
  increasing : c.imports.Pairwise (· < ·)

/-- The members and import lines of a class are settled by its parts. -/
theorem Fits.unique {c c' : Content} {function? : String → Option (FunctionView × Set String)}
    {property? : String → Option (PropertyView × Set String)} {lines : Set String}
    (h : c.Fits function? property? lines) (h' : c'.Fits function? property? lines)
    (hidentifiers : c.identifiers = c'.identifiers) (hdescription : c.description = c'.description) :
    c = c' := by
  obtain ⟨⟨functions, properties, hf, hp, hfc, hpc, hmem⟩, hinc⟩ := h
  obtain ⟨⟨functions', properties', hf', hp', hfc', hpc', hmem'⟩, hinc'⟩ := h'
  obtain rfl := hf.unique hf' fun _ => rfl
  obtain rfl := hp.unique hp' fun _ => rfl
  have himports : c.imports = c'.imports := by
    refine Sorting.eq_of_increasing id (by rwa [List.map_id]) (by rwa [List.map_id]) fun line => ?_
    rw [hmem, hmem']
  cases c
  cases c'
  simp_all

end Content

namespace ClassModel

theorem lookup_map {α β : Type} (f : α → β) (given : List (String × α)) (name : String) :
    (given.map fun e => (e.1, f e.2)).lookup name = (given.lookup name).map f := by
  induction given with
  | nil => rfl
  | cons e rest ih =>
      rw [List.map_cons, List.lookup_cons, List.lookup_cons, ih]
      cases name == e.1 <;> rfl

/-- Members that are turned into something else are in the order of the same names. -/
theorem Roster.map {α β : Type} {last? : String → Option α} {members : List (String × α)}
    (h : Roster last? members) (f : α → β) :
    Roster (fun name => (last? name).map f) (members.map fun e => (e.1, f e.2)) := by
  have hnames : (members.map fun e => (e.1, f e.2)).map Prod.fst = members.map Prod.fst :=
    List.map_map
  refine ⟨hnames ▸ h.increasing, fun name y => ?_⟩
  simp only [List.mem_map, Prod.mk.injEq, Prod.exists, Option.map_eq_some_iff]
  constructor
  · rintro ⟨_, x, hmem, rfl, rfl⟩
    exact ⟨x, (h.mem_iff _ x).mp hmem, rfl⟩
  · rintro ⟨x, hx, rfl⟩
    exact ⟨name, x, (h.mem_iff name x).mpr hx, rfl, rfl⟩

variable {render : Renderer} {templates : TemplateNames}

theorem mapM_named {α β : Type} (template : Value) (view : α → β) (context : β → Context)
    (members : List (String × α)) :
    ((Entries.named members).mapM fun e =>
      render template (context (view e.2)) >>= fun text => .ok (e.2, text)) =
      ((members.map fun e => view e.2).mapM fun v => render template (context v)).map fun texts =>
        (members.map Prod.snd).zip texts := by
  rw [mapM_beside, Entries.named, List.mapM_map, List.mapM_map, List.map_map]
  rfl

/-- Where the members are rendered, the class around them settles the rest. -/
theorem render_of_members {m m' : ClassModel} {texts : RenderedMembers}
    (htexts : (m.renderMembers render templates).result = .ok texts)
    (hadded : m.addImports texts.imports = (m', .ok ())) :
    (m.render render templates).2.result = (m'.renderClass render templates texts).result := by
  simp only [ClassModel.render, htexts, hadded]
  rw [Traced.result_bind htexts]
  exact Traced.result_bind rfl

theorem renderClass_of_view {m : ClassModel} {texts : RenderedMembers} {v : ClassView}
    (hview : m.view texts = .ok v) :
    (m.renderClass render templates texts).result = (do
      let text ← render templates.artifact v.toContext
      return ⟨m.identifiers.typeName, m.identifiers.fileName, text⟩) := by
  rw [renderClass, hview, Traced.of_ok_bind, Traced.result_sequence, result_renderTemplate]
  cases render templates.artifact v.toContext <;> rfl

/-- A model holds members under texts, and shows the class template what a content does. -/
structure Shows (m : ClassModel) (c : Content) (functions : List (String × RegisteredFunction))
    (properties : List (String × RegisteredProperty)) : Prop where
  identifiers : m.identifiers = c.identifiers
  description : m.description = c.description
  isInterface : m.isInterface = functions.isEmpty
  sorted_functions : sortMembers m.functions = .ok (Entries.named functions)
  sorted_properties : sortMembers m.properties = .ok (Entries.named properties)
  functions : c.functions = functions.map fun f => f.2.view
  properties : c.properties = properties.map fun p => p.2.view

section

variable {m : ClassModel} {c : Content} {functions : List (String × RegisteredFunction)}
  {properties : List (String × RegisteredProperty)} (h : m.Shows c functions properties)

include h

/-- The members of a model with their texts. -/
theorem Shows.renderMembers_result :
    (m.renderMembers render templates).result = (do
      let functionTexts ← c.functions.mapM fun v => render templates.function v.toContext
      let propertyTexts ← c.properties.mapM fun v => render templates.property v.toContext
      return ⟨(functions.map Prod.snd).zip functionTexts,
        (properties.map Prod.snd).zip propertyTexts⟩) := by
  simp only [renderMembers, h.sorted_functions, h.sorted_properties, Traced.of_ok_bind,
    Traced.result_sequence, Traced.result_mapM, result_renderTemplate, Traced.result_pure]
  rw [mapM_named templates.function RegisteredFunction.view FunctionView.toContext,
    mapM_named templates.property RegisteredProperty.view PropertyView.toContext, ← h.functions,
    ← h.properties]
  cases c.functions.mapM fun v => render templates.function v.toContext with
  | error e => rfl
  | ok functionTexts =>
      cases c.properties.mapM fun v => render templates.property v.toContext <;> rfl

theorem Shows.view_eq {l : UniqueList} {functionTexts propertyTexts : List String}
    (hsorted : sortValues (.list l.toList) = .ok (c.imports.map .str))
    {functionMembers : List (RegisteredFunction × String)}
    {propertyMembers : List (RegisteredProperty × String)}
    (hf : functionMembers.map Prod.snd = functionTexts)
    (hp : propertyMembers.map Prod.snd = propertyTexts) :
    ClassModel.view { m with imports := l } ⟨functionMembers, propertyMembers⟩ =
      .ok (c.classView functionTexts propertyTexts) := by
  have hinterface : m.isInterface = c.functions.isEmpty := by
    rw [h.isInterface, h.functions, List.isEmpty_map]
  simp only [ClassModel.view, hsorted, ok_bind, Content.classView, ← hf, ← hp,
    List.map_map, ← hinterface, ← h.identifiers, ← h.description]
  rfl

/-- A rendering prints the content of a model, whose import lines are in order. -/
theorem Shows.render_result {l : UniqueList}
    (hadded : m.addImports (askedLines (functions.map Prod.snd) (properties.map Prod.snd)) =
      ({ m with imports := l }, .ok ()))
    (hsorted : sortValues (.list l.toList) = .ok (c.imports.map .str)) :
    (m.render render templates).2.result = c.print render templates := by
  have hmembers : (m.renderMembers render templates).result = _ := h.renderMembers_result
  rw [Content.print]
  cases hft : c.functions.mapM fun v => render templates.function v.toContext with
  | error e =>
      rw [hft, error_bind] at hmembers
      simp only [ClassModel.render, hmembers]
      rfl
  | ok functionTexts =>
      rw [hft, ok_bind] at hmembers
      cases hpt : c.properties.mapM fun v => render templates.property v.toContext with
      | error e =>
          rw [hpt, error_bind] at hmembers
          simp only [ClassModel.render, hmembers]
          rfl
      | ok propertyTexts =>
          rw [hpt, ok_bind] at hmembers
          have hflength : (functions.map Prod.snd).length = functionTexts.length := by
            rw [← (mapM_eq_ok.mp hft).length_eq, h.functions, List.length_map, List.length_map]
          have hplength : (properties.map Prod.snd).length = propertyTexts.length := by
            rw [← (mapM_eq_ok.mp hpt).length_eq, h.properties, List.length_map, List.length_map]
          have hlines : RenderedMembers.imports
              ⟨(functions.map Prod.snd).zip functionTexts,
                (properties.map Prod.snd).zip propertyTexts⟩ =
              askedLines (functions.map Prod.snd) (properties.map Prod.snd) := by
            rw [RenderedMembers.imports_eq_askedLines]
            exact congrArg₂ askedLines (List.map_fst_zip hflength.le)
              (List.map_fst_zip hplength.le)
          have hview := h.view_eq hsorted (List.map_snd_zip hflength.ge)
            (List.map_snd_zip hplength.ge)
          rw [← hlines] at hadded
          rw [render_of_members hmembers hadded, renderClass_of_view hview, ok_bind, ok_bind,
            h.identifiers]

end

end ClassModel

end TypeStencil
