import TypeStencil.Proofs.ClassModel.Sheets
import TypeStencil.Proofs.Document.Contents
import TypeStencil.Proofs.Document.Registered
import TypeStencil.Proofs.Generation.Concatenation

/-!
Well-formed class entries: the texts in them are texts or left out, and every member is accepted by
its descriptor. Such an entry can be read, and its warnings can be told.
-/
namespace TypeStencil

namespace Document

/-- A member that is accepted as a property. Its name is a text, and so are its description and
its import line if they are given; each name that it may be checked under can be one. -/
def IsProperty (member : Value) : Prop :=
  ∃ (entries : Entries Value) (d : PropertyDescriptor) (name : String)
    (description line : Option String),
    member = .table entries ∧ PropertyDescriptor.ofEntries entries = .ok d ∧
      d.propertyName = .str name ∧ d.description = .ofText description ∧
      d.importName = .ofText line ∧ (checkedName? propertySpellings member).isSome = true

/-- A member that is accepted as a function. Its name is a text, its description is one if it is
given, and its lists consist of texts, but for nulls among the import lines. -/
def IsFunction (member : Value) : Prop :=
  ∃ (entries : Entries Value) (d : FunctionDescriptor) (name : String)
    (description : Option String) (urlParameters queryParameters : List String)
    (lines : List (Option String)),
    member = .table entries ∧ FunctionDescriptor.ofEntries entries = .ok d ∧
      d.functionName = .str name ∧ d.description = .ofText description ∧
      d.urlParameters = .strings urlParameters ∧ d.queryParameters = .strings queryParameters ∧
      d.imports = .list (lines.map .ofText) ∧
      (checkedName? functionSpellings member).isSome = true

/-- A list that may be left out, as a value. -/
def ofList (items : Option (List Value)) : Value := items.elim .null .list

/-- A class entry that is well-formed: it has a name, which may be any value. -/
structure WellFormed (entries : Entries Value) : Prop where
  name : (Value.field? entries "name").isSome = true
  description : ∃ text, Value.field entries "description" = .ofText text
  imports : ∃ lines : Option (List String),
    Value.field entries "imports" = ofList (lines.map (List.map .str))
  properties : ∃ members, Value.field entries "properties" = ofList members ∧
    ∀ v ∈ members.getD [], IsProperty v
  functions : ∃ members, Value.field entries "functions" = ofList members ∧
    ∀ v ∈ members.getD [], IsFunction v

variable {entries : Entries Value}

theorem memberList_of_ofList {key : String} {items : Option (List Value)}
    (h : Value.field entries key = ofList items) :
    memberList entries key = .ok (items.getD []) := by
  rw [memberList, h]
  cases items with
  | none => rfl
  | some items => cases items <;> rfl

/-- Texts that may be left out are all import lines. -/
theorem memberList_of_texts {key : String} {texts : Option (List String)}
    (h : Value.field entries key = ofList (texts.map (List.map .str))) :
    memberList entries key = .ok ((texts.getD []).map .str) := by
  rw [memberList_of_ofList h]
  cases texts <;> rfl

theorem IsProperty.exists_reads {member : Value} (h : IsProperty member) :
    ∃ e, ReadsProperty member e ∧ (∃ name, e.1 = .str name) ∧ e.2.AsksText := by
  obtain ⟨entries, d, name, description, line, rfl, hd, hname, hdescription, himport, -⟩ := h
  obtain ⟨view, hview⟩ : ∃ view, PropertyView.ofDescriptor d = .ok view := by
    rw [PropertyView.ofDescriptor, hdescription, Value.lines_ofText]
    exact ⟨_, rfl⟩
  refine ⟨(.str name, ⟨view, d.importName⟩), ⟨entries, d, rfl, hd, hname, ?_⟩, ⟨name, rfl⟩, ?_⟩
  · rw [RegisteredProperty.ofDescriptor, hview]
    rfl
  · intro hpresent
    rw [himport] at hpresent ⊢
    exact Value.isText_ofText hpresent

theorem IsFunction.exists_reads {member : Value} (h : IsFunction member) :
    ∃ e, ReadsFunction member e ∧ (∃ name, e.1 = .str name) ∧ e.2.AsksTexts := by
  obtain ⟨entries, d, name, description, urlParameters, queryParameters, lines, rfl, hd, hname,
    hdescription, hurl, hquery, himports, -⟩ := h
  obtain ⟨view, hview⟩ : ∃ view, FunctionView.ofDescriptor d = .ok view := by
    rw [FunctionView.ofDescriptor, hurl, Operation.listItems_strings, ok_bind, hquery,
      Operation.listItems_strings, ok_bind, hdescription, Value.lines_ofText]
    exact ⟨_, rfl⟩
  have hlines : FunctionView.listItems d.imports = .ok (lines.map .ofText) := by
    rw [himports, FunctionView.listItems_list]
  refine ⟨(.str name, ⟨view, lines.map .ofText⟩), ⟨entries, d, rfl, hd, hname, ?_⟩, ⟨name, rfl⟩,
    ?_⟩
  · rw [RegisteredFunction.ofDescriptor, hview, ok_bind, hlines]
    rfl
  · intro line hline hpresent
    obtain ⟨text, -, rfl⟩ := List.mem_map.mp hline
    exact Value.isText_ofText hpresent

/-- The warnings about a well-formed entry can be told. -/
theorem WellFormed.exists_warnings (h : WellFormed entries) :
    ∃ ws, warningsOf (.table entries) = .ok ws := by
  obtain ⟨properties, hproperties, hp⟩ := h.properties
  obtain ⟨functions, hfunctions, hf⟩ := h.functions
  refine exists_entryWarnings (memberList_of_ofList hproperties) (memberList_of_ofList hfunctions)
    (fun t ht => ?_) fun t ht => ?_
  · obtain ⟨_, _, _, _, _, -, -, -, -, -, hchecked⟩ := hp _ ht
    exact hchecked
  · obtain ⟨_, _, _, _, _, _, _, -, -, -, -, -, -, -, hchecked⟩ := hf _ ht
    exact hchecked

/-- A well-formed entry can be read, and its parts are texts. -/
theorem WellFormed.exists_parts (h : WellFormed entries) :
    ∃ parts, ReadsAs entries parts ∧ parts.AreTexts ∧
      (parts.properties = [] ↔ memberList entries "properties" = .ok []) ∧
      (parts.functions = [] ↔ memberList entries "functions" = .ok []) := by
  obtain ⟨description, hdescription⟩ := h.description
  obtain ⟨lines, hlines⟩ := h.imports
  obtain ⟨properties, hproperties, hp⟩ := h.properties
  obtain ⟨functions, hfunctions, hf⟩ := h.functions
  replace hlines := memberList_of_texts hlines
  replace hproperties := memberList_of_ofList hproperties
  replace hfunctions := memberList_of_ofList hfunctions
  obtain ⟨ps, hps, hptexts⟩ := exists_forall₂ fun v hv => (hp v hv).exists_reads
  obtain ⟨fs, hfs, hftexts⟩ := exists_forall₂ fun v hv => (hf v hv).exists_reads
  have hpushed := (UniqueList.gathers_empty.pushAll (lines.getD [])).2
  have hempty : ∀ {α : Type} {reads : Value → α → Prop} {members : List Value} {registered : List α},
      List.Forall₂ reads members registered → (registered = [] ↔
        (Except.ok members : Except TypeFault (List Value)) = .ok []) := fun hall => by
    rw [Except.ok.injEq, ← List.length_eq_zero_iff, ← hall.length_eq, List.length_eq_zero_iff]
  let parts : Parts := ⟨Text.lines (description.getD ""), (lines.getD []).map .str, ps, fs⟩
  have hdescribed : (Value.field entries "description").lines = .ok parts.lines := by
    rw [hdescription, Value.lines_ofText]
  have htexts : ∀ v ∈ parts.imports, v.isText = true := by
    intro v hv
    obtain ⟨line, -, rfl⟩ := List.mem_map.mp hv
    rfl
  refine ⟨parts, ⟨hdescribed, hlines, hpushed, ⟨_, hproperties, hps⟩, _, hfunctions, hfs⟩,
    ⟨htexts, hftexts, hptexts⟩, ?_, ?_⟩
  · rw [hproperties]
    exact hempty hps
  · rw [hfunctions]
    exact hempty hfs

end Document

end TypeStencil
