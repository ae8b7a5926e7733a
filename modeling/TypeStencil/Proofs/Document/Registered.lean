import Mathlib.Data.List.Forall2
import TypeStencil.Proofs.Descriptor.Fields
import TypeStencil.Proofs.Document.Building
import TypeStencil.Proofs.Value.Sameness

/-!
Names of members. A member is registered under the name that it spells last, while the check for
repeats reads the first of the spellings in a fixed order. What a model holds under a name is what
was registered there last, so it has as many members as there are different registered names.
-/
namespace TypeStencil

open Scalar

namespace Document

/-- The values under any of some spellings, in the order of the entries. -/
def spelledValues (spellings : List String) (entries : Entries Value) : List Value :=
  entries.filterMap fun e =>
    match e.1 with
    | .str name => if name ∈ spellings then some e.2 else none
    | _ => none

/-- The name that the check for repeats goes by. -/
def checkedName? (spellings : List String) : Value → Option Scalar
  | .table entries => ((firstSpelling? entries spellings).getD .null).scalar?
  | _ => none

/-- The name that a member is registered under. -/
def registeredName? (spellings : List String) : Value → Option Scalar
  | .table entries => (spelledValues spellings entries).getLast?.bind Value.scalar?
  | _ => none

/-- The spellings of the name of a member do not contradict each other. -/
def NamesAgree (spellings : List String) : Value → Prop
  | .table entries =>
    ∀ x ∈ spelledValues spellings entries, ∀ y ∈ spelledValues spellings entries, x = y
  | _ => True

theorem eq_str_of_same {name : Scalar} {s : String} (h : name.same (.str s) = true) :
    name = .str s := by
  cases name <;> simp_all [same, measure?]

theorem mem_spelledValues {spellings : List String} {entries : Entries Value} {v : Value} :
    v ∈ spelledValues spellings entries ↔ ∃ k ∈ spellings, (.str k, v) ∈ entries := by
  rw [spelledValues, List.mem_filterMap]
  constructor
  · rintro ⟨⟨name, w⟩, hmem, hv⟩
    cases name with
    | str k =>
        simp only [Option.ite_none_right_eq_some, Option.some.injEq] at hv
        obtain ⟨hk, rfl⟩ := hv
        exact ⟨k, hk, hmem⟩
    | _ => cases hv
  · rintro ⟨k, hk, hmem⟩
    exact ⟨_, hmem, if_pos hk⟩

theorem mem_of_field? {entries : Entries Value} {k : String} {v : Value}
    (h : Value.field? entries k = some v) : (.str k, v) ∈ entries := by
  obtain ⟨⟨name, w⟩, hfind, rfl⟩ := Option.map_eq_some_iff.mp h
  have hsame := List.find?_some hfind
  rw [← eq_str_of_same hsame]
  exact List.mem_of_find?_eq_some hfind

theorem field?_isSome {entries : Entries Value} {k : String} {v : Value}
    (h : (.str k, v) ∈ entries) : (Value.field? entries k).isSome = true := by
  rw [Value.field?, Entries.find?, Option.isSome_map, List.find?_isSome]
  exact ⟨_, h, same_iff.mpr rfl⟩

theorem firstSpelling?_mem {entries : Entries Value} {spellings : List String} {v : Value}
    (h : firstSpelling? entries spellings = some v) : v ∈ spelledValues spellings entries := by
  rw [mem_spelledValues]
  induction spellings with
  | nil => cases h
  | cons k rest ih =>
      rw [firstSpelling?, Option.or_eq_some_iff] at h
      rcases h with h | ⟨-, h⟩
      · exact ⟨k, List.mem_cons_self, mem_of_field? h⟩
      · obtain ⟨k', hk', hmem⟩ := ih h
        exact ⟨k', List.mem_cons_of_mem _ hk', hmem⟩

theorem firstSpelling?_isSome {entries : Entries Value} {spellings : List String} {v : Value}
    (h : v ∈ spelledValues spellings entries) :
    (firstSpelling? entries spellings).isSome = true := by
  obtain ⟨k, hk, hmem⟩ := mem_spelledValues.mp h
  induction spellings with
  | nil => cases hk
  | cons k' rest ih =>
      rw [firstSpelling?, Option.isSome_or, Bool.or_eq_true]
      rcases List.mem_cons.mp hk with rfl | hrest
      · exact .inl (field?_isSome hmem)
      · exact .inr (ih (mem_spelledValues.mpr ⟨k, hrest, hmem⟩) hrest)

/-- A member whose spellings agree is checked under the name that it is registered under. -/
theorem NamesAgree.checkedName?_eq {spellings : List String} {member : Value} {name : Scalar}
    (h : NamesAgree spellings member) (hname : registeredName? spellings member = some name) :
    checkedName? spellings member = some name := by
  cases member with
  | scalar s => cases hname
  | list items => cases hname
  | table entries =>
      obtain ⟨last, hlast, hscalar⟩ := Option.bind_eq_some_iff.mp hname
      have hmem := List.mem_of_getLast? hlast
      obtain ⟨first, hfirst⟩ := Option.isSome_iff_exists.mp (firstSpelling?_isSome hmem)
      rw [checkedName?, hfirst, Option.getD_some, h first (firstSpelling?_mem hfirst) last hmem,
        hscalar]

/-- A member whose names are scalars is checked under one of them, or under null. -/
theorem checkedName?_isSome {spellings : List String} {entries : Entries Value}
    (h : ∀ v ∈ spelledValues spellings entries, v.scalar?.isSome = true) :
    (checkedName? spellings (.table entries)).isSome = true := by
  rw [checkedName?]
  cases hfirst : firstSpelling? entries spellings with
  | none => rfl
  | some v => exact h v (firstSpelling?_mem hfirst)

theorem hashable_of_checkedName? {spellings : List String} {entries : Entries Value} {key : Scalar}
    (h : checkedName? spellings (.table entries) = some key) :
    ((firstSpelling? entries spellings).getD .null).hashable = .ok key := by
  rw [checkedName?] at h
  cases hfirst : (firstSpelling? entries spellings).getD .null <;> rw [hfirst] at h <;> cases h
  rfl

theorem exists_duplicateWarnings {spellings : List String} {members : List Value}
    (h : ∀ t, .table t ∈ members → (checkedName? spellings (.table t)).isSome = true)
    (kind : String) (className : Value) (seen : List Scalar) :
    ∃ ws, duplicateWarnings kind spellings className seen members = .ok ws := by
  induction members generalizing seen with
  | nil => exact ⟨[], rfl⟩
  | cons v rest ih =>
      have hrest := ih fun t ht => h t (List.mem_cons_of_mem _ ht)
      rcases v with s | items | entries
      · exact hrest seen
      · exact hrest seen
      · obtain ⟨key, hkey⟩ := Option.isSome_iff_exists.mp (h entries List.mem_cons_self)
        obtain ⟨ws, hws⟩ := hrest (key :: seen)
        rw [duplicateWarnings, hashable_of_checkedName? hkey, ok_bind, hws, ok_bind]
        exact ⟨_, rfl⟩

/-- An entry whose members have names that can be checked has warnings. -/
theorem exists_entryWarnings {entries : Entries Value} {properties functions : List Value}
    (hproperties : memberList entries "properties" = .ok properties)
    (hfunctions : memberList entries "functions" = .ok functions)
    (hp : ∀ t, .table t ∈ properties → (checkedName? propertySpellings (.table t)).isSome = true)
    (hf : ∀ t, .table t ∈ functions → (checkedName? functionSpellings (.table t)).isSome = true) :
    ∃ ws, entryWarnings entries = .ok ws := by
  rw [memberList] at hproperties hfunctions
  obtain ⟨onProperties, hps⟩ := exists_duplicateWarnings hp "property"
    ((Value.field? entries "name").getD (.str "<unnamed>")) []
  obtain ⟨onFunctions, hfs⟩ := exists_duplicateWarnings hf "function"
    ((Value.field? entries "name").getD (.str "<unnamed>")) []
  simp only [entryWarnings, hproperties, hfunctions, ok_bind, hps, hfs]
  exact ⟨_, rfl⟩

theorem isTable_of_registeredName? {spellings : List String} {members : List Value}
    {names : List Scalar} (h : members.map (registeredName? spellings) = names.map some) :
    ∀ v ∈ members, ∃ entries, v = .table entries := by
  intro v hv
  have hname : registeredName? spellings v ∈ names.map some := h ▸ List.mem_map_of_mem hv
  obtain ⟨name, -, hname⟩ := List.mem_map.mp hname
  cases v with
  | table entries => exact ⟨entries, rfl⟩
  | _ => cases hname

theorem entryName_eq_ok {entry name : Value} {entries : Entries Value}
    (h : entryName entry = .ok (entries, name)) :
    entry = .table entries ∧ Value.field? entries "name" = some name := by
  unfold entryName at h
  split at h
  · split at h
    · next hfield =>
        cases h
        exact ⟨rfl, hfield⟩
    · cases h
  · cases h

/-- The values of a field are those under its spellings, if its spellings are told apart. -/
theorem valuesOf_eq_spelledValues {F : Type} [DecidableEq F] {fieldOf? : String → Option F} {f : F}
    {spellings : List String} (h : ∀ s, fieldOf? s = some f ↔ s ∈ spellings)
    (entries : Entries Value) :
    Descriptor.valuesOf fieldOf? f entries = spelledValues spellings entries := by
  refine List.filterMap_congr fun e _ => ?_
  rcases e with ⟨name, v⟩
  cases name with
  | str s => simp only [Descriptor.spelledField?, h]
  | _ => rfl

theorem valuesOf_propertyName (entries : Entries Value) :
    Descriptor.valuesOf PropertyField.ofSpelling? .propertyName entries =
      spelledValues propertySpellings entries :=
  valuesOf_eq_spelledValues (fun _ => PropertyField.ofSpelling?_eq_some) entries

theorem valuesOf_functionName (entries : Entries Value) :
    Descriptor.valuesOf FunctionField.ofSpelling? .functionName entries =
      spelledValues functionSpellings entries :=
  valuesOf_eq_spelledValues (fun _ => FunctionField.ofSpelling?_eq_some) entries

theorem ReadsProperty.registeredName?_eq {v : Value} {e : Scalar × RegisteredProperty}
    (h : ReadsProperty v e) : registeredName? propertySpellings v = some e.1 := by
  obtain ⟨entries, d, rfl, hd, hname, -⟩ := h
  have hlast := PropertyDescriptor.get_of_ok hd (f := .propertyName) (by decide)
  rw [PropertyDescriptor.given?, valuesOf_propertyName, PropertyDescriptor.get, hname] at hlast
  rw [registeredName?, hlast]
  rfl

theorem ReadsFunction.registeredName?_eq {v : Value} {e : Scalar × RegisteredFunction}
    (h : ReadsFunction v e) : registeredName? functionSpellings v = some e.1 := by
  obtain ⟨entries, d, rfl, hd, hname, -⟩ := h
  have hlast := FunctionDescriptor.get_of_ok hd (f := .functionName) (by decide)
  rw [valuesOf_functionName, FunctionDescriptor.get, hname] at hlast
  rw [registeredName?, hlast]
  rfl

/-- Members are put under their registered names. -/
theorem map_registeredName? {α : Type} {spellings : List String} {reads : Value → Scalar × α → Prop}
    (hreads : ∀ {v e}, reads v e → registeredName? spellings v = some e.1) {members : List Value}
    {registered : Entries α} (h : List.Forall₂ reads members registered) :
    members.map (registeredName? spellings) = registered.names.map some := by
  induction h with
  | nil => rfl
  | cons hv _ ih =>
      rw [List.map_cons, hreads hv, ih]
      rfl

end Document

end TypeStencil
