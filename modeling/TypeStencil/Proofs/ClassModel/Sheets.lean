import TypeStencil.Proofs.ClassModel.Registration
import TypeStencil.Proofs.Template.Members

/-!
Sheets: what a model holds if all that is registered with it consists of texts. A history of such
registrations leads from the model of one sheet to that of another, in which a member takes the
place of the one that had its name.
-/
namespace TypeStencil

/-- Puts an item in the place of the one with its text, or at the end. -/
def enrol {α : Type} (key : α → String) : List α → α → List α
  | [], x => [x]
  | y :: rest, x => if key y = key x then x :: rest else y :: enrol key rest x

section

variable {α β : Type} (key : α → String) (xs : List α) (x : α)

theorem map_key_enrol : (enrol key xs x).map key =
    if key x ∈ xs.map key then xs.map key else xs.map key ++ [key x] := by
  induction xs with
  | nil => rfl
  | cons y rest ih =>
      rw [enrol]
      by_cases h : key y = key x
      · rw [if_pos h, List.map_cons, List.map_cons, h, if_pos List.mem_cons_self]
      · rw [if_neg h, List.map_cons, List.map_cons, ih]
        by_cases hmem : key x ∈ rest.map key
        · rw [if_pos hmem, if_pos (List.mem_cons_of_mem _ hmem)]
        · rw [if_neg hmem, if_neg (List.not_mem_cons_of_ne_of_not_mem (Ne.symm h) hmem),
            List.cons_append]

variable {key xs} in
theorem nodup_enrol (h : (xs.map key).Nodup) : ((enrol key xs x).map key).Nodup := by
  rw [map_key_enrol]
  split
  · exact h
  · rename_i hnot
    exact List.nodup_append.mpr ⟨h, List.pairwise_singleton _ _, by simpa using hnot⟩

theorem put_enrol (register : α → β) :
    (Entries.named (xs.map fun y => (key y, register y))).put (.str (key x)) (register x) =
      Entries.named ((enrol key xs x).map fun y => (key y, register y)) := by
  induction xs with
  | nil => rfl
  | cons y rest ih =>
      rw [enrol]
      by_cases h : key y = key x
      · simp [Entries.named, Entries.put, Scalar.same_str, h]
      · simpa [Entries.named, Entries.put, Scalar.same_str, h] using ih

end

theorem nodup_enrol_id {lines : List String} (h : lines.Nodup) (line : String) :
    (enrol id lines line).Nodup := by
  have hnext : ((enrol id lines line).map id).Nodup := nodup_enrol line (by rwa [List.map_id])
  rwa [List.map_id] at hnext

namespace UniqueList

/-- The list of some texts that are all different. -/
def ofTexts (lines : List String) : UniqueList :=
  ⟨lines.map .str, .named (lines.map fun line => (line, ()))⟩

theorem inStep_ofTexts {lines : List String} (h : lines.Nodup) : (ofTexts lines).InStep := by
  have hnames : (ofTexts lines).seen.names = lines.map .str := by
    rw [ofTexts, Entries.named, Entries.names, List.map_map, List.map_map]
    rfl
  refine ⟨hnames, ?_⟩
  rw [Entries.Distinct, hnames, List.map_map]
  refine h.map fun s t heq => ?_
  exact eq_of_beq ((Scalar.same_str s t).symm.trans (Scalar.same_iff.mpr heq))

theorem push_ofTexts {lines : List String} (h : lines.Nodup) (line : String) :
    (ofTexts lines).push (.str line) = ofTexts (enrol id lines line) := by
  have hhas : (ofTexts lines).has (.str line) = true ↔ line ∈ lines := by
    rw [(inStep_ofTexts h).has_eq, ofTexts]
    simp [Scalar.same_str]
  have henrol := map_key_enrol id lines line
  rw [List.map_id, List.map_id, id_eq] at henrol
  rw [push]
  by_cases hmem : line ∈ lines
  · rw [if_pos (hhas.mpr hmem), henrol, if_pos hmem]
  · rw [if_neg fun h => hmem (hhas.mp h)]
    refine congrArg₂ UniqueList.mk ?_ (put_enrol id lines line fun _ => ())
    rw [henrol, if_neg hmem, List.map_append]
    rfl

theorem pushAll_ofTexts {lines : List String} (h : lines.Nodup) (more : List String) :
    ((ofTexts lines).pushAll (more.map .str)).1 = ofTexts (more.foldl (enrol id) lines) := by
  induction more generalizing lines with
  | nil => rfl
  | cons line rest ih =>
      rw [List.map_cons, pushAll, push_ofTexts h, ih (nodup_enrol_id h line), List.foldl_cons]

end UniqueList

theorem Value.isText_ofText {t : Option String} (h : (Value.ofText t).isPresent = true) :
    (Value.ofText t).isText = true := by
  cases t with
  | none => cases h
  | some line => rfl

/-- What an operation is registered as. -/
def Operation.registered (o : Operation) : RegisteredFunction := ⟨o.view, o.imports.map .str⟩

theorem Operation.registered_eq (o : Operation) :
    RegisteredFunction.ofDescriptor o.descriptor = .ok o.registered := by
  rw [RegisteredFunction.ofDescriptor, o.ofDescriptor_eq, ok_bind, descriptor, listItems_strings,
    ok_bind]
  rfl

/-- What a field is registered as. -/
def Field.registered (p : Field) : RegisteredProperty := ⟨p.view, .ofText p.importLine⟩

theorem Field.registered_eq (p : Field) :
    RegisteredProperty.ofDescriptor p.descriptor = .ok p.registered := by
  rw [RegisteredProperty.ofDescriptor, p.ofDescriptor_eq, ok_bind]
  rfl

/-- The texts that a model holds: import lines, operations and fields once each. -/
structure Sheet where
  identifiers : Identifiers
  description : List String
  imports : List String
  operations : List Operation
  fields : List Field
  imports_nodup : imports.Nodup
  operations_nodup : (operations.map Operation.name).Nodup
  fields_nodup : (fields.map Field.name).Nodup

namespace Sheet

/-- The sheet of a model that nothing is registered with. -/
def blank (identifiers : Identifiers) : Sheet :=
  ⟨identifiers, [], [], [], [], .nil, .nil, .nil⟩

/-- The model that holds the texts of a sheet. -/
def model (s : Sheet) : ClassModel where
  identifiers := s.identifiers
  description := s.description
  imports := .ofTexts s.imports
  functions := .named (s.operations.map fun o => (o.name, o.registered))
  properties := .named (s.fields.map fun p => (p.name, p.registered))

/-- Something made of texts that is registered with a model. -/
inductive Entry where
  | description (text : String)
  | imports (lines : List String)
  | operation (o : Operation)
  | field (p : Field)

def Entry.step : Entry → ClassModel.Step
  | .description text => .description (.str text)
  | .imports lines => .imports (lines.map .str)
  | .operation o => .function o.descriptor
  | .field p => .property p.descriptor

theorem nodup_foldl_enrol {lines : List String} (h : lines.Nodup) (more : List String) :
    (more.foldl (enrol id) lines).Nodup := by
  induction more generalizing lines with
  | nil => exact h
  | cons line rest ih => exact ih (nodup_enrol_id h line)

/-- The sheet after one more registration. -/
def register (s : Sheet) : Entry → Sheet
  | .description text => { s with description := s.description ++ Text.lines text }
  | .imports lines => { s with
      imports := lines.foldl (enrol id) s.imports
      imports_nodup := nodup_foldl_enrol s.imports_nodup lines }
  | .operation o => { s with
      operations := enrol Operation.name s.operations o
      operations_nodup := nodup_enrol o s.operations_nodup }
  | .field p => { s with
      fields := enrol Field.name s.fields p
      fields_nodup := nodup_enrol p s.fields_nodup }

theorem function?_operation (o : Operation) :
    ClassModel.Step.function? (.function o.descriptor) = some (o.name, o.registered) := by
  rw [ClassModel.Step.function?, o.registered_eq]
  rfl

theorem property?_field (p : Field) :
    ClassModel.Step.property? (.property p.descriptor) = some (p.name, p.registered) := by
  rw [ClassModel.Step.property?, p.registered_eq]
  rfl

variable (renderer : Renderer) (templates : TemplateNames)

theorem isNamed_step (e : Entry) : e.step.IsNamed := by
  cases e with
  | description text => exact trivial
  | imports lines =>
      intro v hv
      obtain ⟨line, -, rfl⟩ := List.mem_map.mp hv
      rfl
  | operation o =>
      refine ⟨rfl, fun f hf v hv _ => ?_⟩
      rw [o.registered_eq] at hf
      cases hf
      obtain ⟨line, -, rfl⟩ := List.mem_map.mp hv
      rfl
  | field p =>
      refine ⟨rfl, fun p' hp hpresent => ?_⟩
      rw [p.registered_eq] at hp
      cases hp
      exact Value.isText_ofText hpresent

/-- A registration of texts leads from the model of a sheet to that of the next one. -/
theorem step_model (s : Sheet) (e : Entry) :
    (s.model.step renderer templates e.step).1 = (s.register e).model := by
  rw [ClassModel.step_eq renderer templates (isNamed_step e)]
  cases e with
  | description text =>
      have hlines : ClassModel.Step.lines (.description (.str text)) = Text.lines text :=
        congrArg (fun r => (Except.toOption r).getD []) (Value.lines_ofText (some text))
      rw [Entry.step, hlines]
      rfl
  | imports lines =>
      have hlines : ClassModel.Step.importLines (.imports (lines.map .str)) = lines := by
        rw [ClassModel.Step.importLines, List.filterMap_map]
        exact List.filterMap_some
      have hnone : ClassModel.Step.lines (.imports (lines.map .str)) = [] := rfl
      rw [Entry.step, hlines, hnone, List.append_nil]
      exact congrArg (fun imports => { s.model with imports })
        (UniqueList.pushAll_ofTexts s.imports_nodup lines)
  | operation o =>
      have hnone : ClassModel.Step.lines (.function o.descriptor) = [] := rfl
      rw [Entry.step, function?_operation, hnone, List.append_nil]
      exact congrArg (fun functions => { s.model with functions })
        (put_enrol Operation.name s.operations o Operation.registered)
  | field p =>
      have hnone : ClassModel.Step.lines (.property p.descriptor) = [] := rfl
      rw [Entry.step, property?_field, hnone, List.append_nil]
      exact congrArg (fun properties => { s.model with properties })
        (put_enrol Field.name s.fields p Field.registered)

theorem run_model (s : Sheet) (entries : List Entry) :
    (s.model.run renderer templates (entries.map Entry.step)).1 =
      (entries.foldl register s).model := by
  induction entries generalizing s with
  | nil => rfl
  | cons e rest ih =>
      rw [List.map_cons, List.foldl_cons, ← ih, ← step_model renderer templates]
      rfl

end Sheet

end TypeStencil
