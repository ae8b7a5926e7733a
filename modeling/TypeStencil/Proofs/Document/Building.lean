import Mathlib.Data.List.Forall2
import TypeStencil.Document
import TypeStencil.Proofs.ClassModel.Registration
import TypeStencil.Proofs.Sequencing

/-!
Building the model of a class entry. An entry is read part by part, every member by itself, and the
model is what all the parts put together come to; it is built exactly if every part can be read.
-/
namespace TypeStencil

namespace ClassModel

variable {m m' : ClassModel}

theorem addFunction_eq_ok {d : FunctionDescriptor} {u : Unit} :
    (addFunction d m).2.result = .ok u ↔ ∃ e, RegisteredFunction.entry d = .ok e := by
  rw [addFunction_result]
  cases RegisteredFunction.entry d <;> simp [Except.map, Except.mapError]

theorem addFunction_of_entry {d : FunctionDescriptor} {e : Scalar × RegisteredFunction}
    (h : RegisteredFunction.entry d = .ok e) :
    (addFunction d m).1 = { m with functions := m.functions.put e.1 e.2 } := by
  rw [addFunction_state, h]

theorem addProperty_eq_ok {d : PropertyDescriptor} {u : Unit} :
    (addProperty d m).2.result = .ok u ↔ ∃ e, RegisteredProperty.entry d = .ok e := by
  rw [addProperty_result]
  cases RegisteredProperty.entry d <;> simp [Except.map, Except.mapError]

theorem addProperty_of_entry {d : PropertyDescriptor} {e : Scalar × RegisteredProperty}
    (h : RegisteredProperty.entry d = .ok e) :
    (addProperty d m).1 = { m with properties := m.properties.put e.1 e.2 } := by
  rw [addProperty_state, h]

end ClassModel

namespace Document

/-- A member is registered as a function under a name. -/
def ReadsFunction (v : Value) (e : Scalar × RegisteredFunction) : Prop :=
  ∃ entries d, v = .table entries ∧ FunctionDescriptor.ofEntries entries = .ok d ∧
    d.functionName = .scalar e.1 ∧ RegisteredFunction.ofDescriptor d = .ok e.2

/-- A member is registered as a property under a name. -/
def ReadsProperty (v : Value) (e : Scalar × RegisteredProperty) : Prop :=
  ∃ entries d, v = .table entries ∧ PropertyDescriptor.ofEntries entries = .ok d ∧
    d.propertyName = .scalar e.1 ∧ RegisteredProperty.ofDescriptor d = .ok e.2

/-- What a class entry puts together. -/
structure Parts where
  lines : List String
  imports : List Value
  properties : Entries RegisteredProperty
  functions : Entries RegisteredFunction

/-- The model under some names that is put together of parts. -/
def Parts.model (parts : Parts) (identifiers : Identifiers) : ClassModel where
  identifiers
  description := parts.lines
  imports := (UniqueList.empty.pushAll parts.imports).1
  functions := Entries.update [] parts.functions
  properties := Entries.update [] parts.properties

@[simp]
theorem Parts.identifiers_model (parts : Parts) (identifiers : Identifiers) :
    (parts.model identifiers).identifiers = identifiers := rfl

/-- A class entry reads as some parts. -/
structure ReadsAs (entries : Entries Value) (parts : Parts) : Prop where
  lines : (Value.field entries "description").lines = .ok parts.lines
  imports : memberList entries "imports" = .ok parts.imports
  pushed : (UniqueList.empty.pushAll parts.imports).2 = .ok ()
  properties : ∃ members, memberList entries "properties" = .ok members ∧
    List.Forall₂ ReadsProperty members parts.properties
  functions : ∃ members, memberList entries "functions" = .ok members ∧
    List.Forall₂ ReadsFunction members parts.functions

section

variable {m m' : ClassModel} {members : List Value} {entries : Entries Value}

theorem memberEntries_eq_ok {v : Value} : memberEntries v = .ok entries ↔ v = .table entries := by
  cases v <;> simp [memberEntries]

/-- Functions are put under their names, one after another. -/
theorem addFunctions_eq_ok : (addFunctions m members).result = .ok m' ↔
    ∃ functions : Entries RegisteredFunction, List.Forall₂ ReadsFunction members functions ∧
      m' = { m with functions := m.functions.update functions } := by
  induction members generalizing m with
  | nil =>
      simp only [addFunctions, Traced.result_pure, Except.ok.injEq, List.forall₂_nil_left_iff,
        exists_eq_left]
      exact eq_comm
  | cons v rest ih =>
      simp only [addFunctions, Traced.bind_eq_ok, Traced.ofType_eq_ok, memberEntries_eq_ok,
        ClassModel.addFunction_eq_ok, ih, List.forall₂_cons_left_iff]
      constructor
      · rintro ⟨entries, rfl, d, hd, -, ⟨e, he⟩, functions, hrest, rfl⟩
        obtain ⟨hname, hf⟩ := RegisteredFunction.entry_eq_ok.mp he
        rw [ClassModel.addFunction_of_entry he]
        exact ⟨e :: functions, ⟨e, functions, ⟨entries, d, rfl, hd, hname, hf⟩, hrest, rfl⟩, rfl⟩
      · rintro ⟨_, ⟨e, functions, ⟨entries, d, rfl, hd, hname, hf⟩, hrest, rfl⟩, rfl⟩
        have he := RegisteredFunction.entry_eq_ok.mpr ⟨hname, hf⟩
        refine ⟨entries, rfl, d, hd, (), ⟨e, he⟩, functions, hrest, ?_⟩
        rw [ClassModel.addFunction_of_entry he]
        rfl

/-- Properties are put under their names, one after another. -/
theorem addProperties_eq_ok : (addProperties m members).result = .ok m' ↔
    ∃ properties : Entries RegisteredProperty, List.Forall₂ ReadsProperty members properties ∧
      m' = { m with properties := m.properties.update properties } := by
  induction members generalizing m with
  | nil =>
      simp only [addProperties, Traced.result_pure, Except.ok.injEq, List.forall₂_nil_left_iff,
        exists_eq_left]
      exact eq_comm
  | cons v rest ih =>
      simp only [addProperties, Traced.bind_eq_ok, Traced.ofType_eq_ok, memberEntries_eq_ok,
        ClassModel.addProperty_eq_ok, ih, List.forall₂_cons_left_iff]
      constructor
      · rintro ⟨entries, rfl, d, hd, -, ⟨e, he⟩, properties, hrest, rfl⟩
        obtain ⟨hname, hp⟩ := RegisteredProperty.entry_eq_ok.mp he
        rw [ClassModel.addProperty_of_entry he]
        exact ⟨e :: properties, ⟨e, properties, ⟨entries, d, rfl, hd, hname, hp⟩, hrest, rfl⟩, rfl⟩
      · rintro ⟨_, ⟨e, properties, ⟨entries, d, rfl, hd, hname, hp⟩, hrest, rfl⟩, rfl⟩
        have he := RegisteredProperty.entry_eq_ok.mpr ⟨hname, hp⟩
        refine ⟨entries, rfl, d, hd, (), ⟨e, he⟩, properties, hrest, ?_⟩
        rw [ClassModel.addProperty_of_entry he]
        rfl

theorem addDescription_eq_ok {text : Value} {u : Unit} :
    (ClassModel.addDescription text m).2.result = .ok u ↔ ∃ lines, text.lines = .ok lines := by
  rw [ClassModel.addDescription_result]
  cases text.lines <;> simp [Except.map, Except.mapError]

theorem addDescription_of_lines {text : Value} {lines : List String} (h : text.lines = .ok lines) :
    (ClassModel.addDescription text m).1 = { m with description := m.description ++ lines } := by
  rw [ClassModel.addDescription_state, h]
  rfl

theorem addImportLines_eq_ok : (addImportLines m entries).result = .ok m' ↔
    ∃ lines, memberList entries "imports" = .ok lines ∧ (m.imports.pushAll lines).2 = .ok () ∧
      m' = { m with imports := (m.imports.pushAll lines).1 } := by
  simp only [addImportLines, ClassModel.addImports, Traced.bind_eq_ok, Traced.ofType_eq_ok,
    Traced.result_pure, Except.ok.injEq]
  constructor
  · rintro ⟨lines, hlines, ⟨⟩, hpushed, rfl⟩
    exact ⟨lines, hlines, hpushed, rfl⟩
  · rintro ⟨lines, hlines, hpushed, rfl⟩
    exact ⟨lines, hlines, (), hpushed, rfl⟩

/-- An entry gives a model exactly if all its parts can be read. -/
theorem modelOf_eq_ok {identifiers : Identifiers} {name : Value} :
    (modelOf identifiers entries name).result = .ok m ↔
      ∃ parts, ReadsAs entries parts ∧ m = parts.model identifiers := by
  simp only [modelOf, addMembers, Traced.bind_eq_ok, Traced.mapFault, mapError_eq_ok,
    Traced.ofType_eq_ok, addDescription_eq_ok, addImportLines_eq_ok, addProperties_eq_ok,
    addFunctions_eq_ok]
  constructor
  · rintro ⟨-, ⟨lines, hlines⟩, _, ⟨imports, himports, hpushed, rfl⟩, properties, hproperties, _,
      ⟨ps, hps, rfl⟩, functions, hfunctions, fs, hfs, rfl⟩
    rw [addDescription_of_lines hlines] at hpushed ⊢
    exact ⟨⟨lines, imports, ps, fs⟩, ⟨hlines, himports, hpushed, ⟨properties, hproperties, hps⟩,
      functions, hfunctions, hfs⟩, rfl⟩
  · rintro ⟨⟨lines, imports, ps, fs⟩, ⟨hlines, himports, hpushed, ⟨properties, hproperties, hps⟩,
      functions, hfunctions, hfs⟩, rfl⟩
    rw [addDescription_of_lines hlines]
    exact ⟨(), ⟨lines, hlines⟩, _, ⟨imports, himports, hpushed, rfl⟩, properties, hproperties, _,
      ⟨ps, hps, rfl⟩, functions, hfunctions, fs, hfs, rfl⟩

end

end Document

end TypeStencil
