import Mathlib.Data.List.Induction
import Mathlib.Data.List.Nodup
import TypeStencil.Descriptor

/-!
Reading the fields of a descriptor. Of the entries that spell a field the last one gives its value,
and a descriptor is read off a table only if the table spells every field that a descriptor needs.
-/
namespace TypeStencil

namespace Descriptor

theorem missing_eq_nil {F : Type} {given? : F → Option Value} {needed : List F} :
    (needed.filter fun f => (given? f).isNone) = [] ↔ ∀ f ∈ needed, (given? f).isSome = true := by
  simp only [List.filter_eq_nil_iff, Option.isNone_iff_eq_none, Option.ne_none_iff_isSome]

/-- The field found for a spelling is the one that has it, if no spelling is found for another. -/
theorem find?_spelling {F : Type} {all : List F} {spellings : F → List String}
    (h : ∀ f ∈ all, ∀ s ∈ spellings f, (all.find? fun g => (spellings g).contains s) = some f)
    {f : F} (hf : f ∈ all) {s : String} :
    (all.find? fun g => (spellings g).contains s) = some f ↔ s ∈ spellings f := by
  constructor
  · intro hfind
    have hspelled := List.find?_some hfind
    exact List.contains_iff_mem.mp hspelled
  · exact h f hf s

variable {F : Type} [DecidableEq F]

/-- The field that an entry of a table spells. -/
def spelledField? (fieldOf? : String → Option F) (e : Scalar × Value) : Option F :=
  match e.1 with
  | .str name => fieldOf? name
  | _ => none

/-- The values that a table gives to a field, in the order of its entries. -/
def valuesOf (fieldOf? : String → Option F) (f : F) (entries : Entries Value) : List Value :=
  entries.filterMap fun e => if spelledField? fieldOf? e = some f then some e.2 else none

theorem normalize_snoc (fieldOf? : String → Option F) (before : Entries Value)
    (e : Scalar × Value) : normalize fieldOf? (before ++ [e]) =
      match spelledField? fieldOf? e with
      | some f => setField (normalize fieldOf? before) f e.2
      | none => normalize fieldOf? before := by
  obtain ⟨name, v⟩ := e
  rw [normalize, List.foldl_append]
  cases name <;> rfl

theorem lookup_setField (fields : List (F × Value)) (f g : F) (v : Value) :
    (setField fields f v).lookup g = if g = f then some v else fields.lookup g := by
  induction fields with
  | nil =>
      rw [setField, List.lookup_cons]
      by_cases h : g = f
      · simp [h]
      · simp [h, beq_eq_false_iff_ne.mpr h]
  | cons e rest ih =>
      obtain ⟨first, w⟩ := e
      by_cases hf : first = f
      · rw [setField, if_pos hf, List.lookup_cons, List.lookup_cons, hf]
        by_cases h : g = f
        · simp [h]
        · simp [h, beq_eq_false_iff_ne.mpr h]
      · rw [setField, if_neg hf, List.lookup_cons, List.lookup_cons, ih]
        by_cases h : g = first
        · simp [h, hf]
        · rw [beq_eq_false_iff_ne.mpr h]

/-- The value of a field is the last one that the table gives to it. -/
theorem lookup_normalize (fieldOf? : String → Option F) (entries : Entries Value) (f : F) :
    (normalize fieldOf? entries).lookup f = (valuesOf fieldOf? f entries).getLast? := by
  induction entries using List.reverseRecOn with
  | nil => rfl
  | append_singleton before e ih =>
      rw [valuesOf] at ih
      rw [normalize_snoc, valuesOf, List.filterMap_append, List.getLast?_append, ← ih]
      cases hfield : spelledField? fieldOf? e with
      | none => simp [hfield]
      | some g =>
          rw [lookup_setField]
          by_cases h : f = g
          · simp [hfield, h]
          · simp [hfield, h, Ne.symm h]

theorem map_fst_setField (fields : List (F × Value)) (f : F) (v : Value) :
    (setField fields f v).map Prod.fst =
      if f ∈ fields.map Prod.fst then fields.map Prod.fst else fields.map Prod.fst ++ [f] := by
  induction fields with
  | nil => rfl
  | cons e rest ih =>
      rw [setField]
      by_cases h : e.1 = f
      · rw [if_pos h, List.map_cons, List.map_cons, h, if_pos List.mem_cons_self]
      · rw [if_neg h, List.map_cons, List.map_cons, ih]
        by_cases hmem : f ∈ rest.map Prod.fst
        · rw [if_pos hmem, if_pos (List.mem_cons_of_mem _ hmem)]
        · rw [if_neg hmem, if_neg (List.not_mem_cons_of_ne_of_not_mem (Ne.symm h) hmem),
            List.cons_append]

/-- Every field is collected once. -/
theorem nodup_normalize (fieldOf? : String → Option F) (entries : Entries Value) :
    ((normalize fieldOf? entries).map Prod.fst).Nodup := by
  induction entries using List.reverseRecOn with
  | nil => exact List.nodup_nil
  | append_singleton before e ih =>
      rw [normalize_snoc]
      split
      · next f hf =>
          rw [map_fst_setField]
          split
          · exact ih
          · next hnew =>
              rw [← List.concat_eq_append]
              exact ih.concat hnew
      · exact ih

theorem lookup_eq_none_of_notMem {fields : List (F × Value)} {f : F}
    (h : f ∉ fields.map Prod.fst) : fields.lookup f = none := by
  refine List.lookup_eq_none_iff.mpr fun e he => bne_iff_ne.mpr fun heq => h ?_
  exact heq ▸ List.mem_map_of_mem he

/-- What is looked up among those of some fields that are kept. -/
theorem lookup_filter {fields : List (F × Value)} (h : (fields.map Prod.fst).Nodup)
    (keep : F × Value → Bool) (f : F) :
    (fields.filter keep).lookup f = (fields.lookup f).filter fun v => keep (f, v) := by
  induction fields with
  | nil => rfl
  | cons e rest ih =>
      obtain ⟨first, v⟩ := e
      rw [List.map_cons, List.nodup_cons] at h
      rw [List.filter_cons, List.lookup_cons]
      by_cases hf : f = first
      · subst hf
        have hnone : (rest.filter keep).lookup f = none := by
          rw [ih h.2, lookup_eq_none_of_notMem h.1, Option.filter_none]
        cases hkeep : keep (f, v) <;> simp [Option.filter, hkeep, hnone]
      · split <;> simp [List.lookup_cons, beq_eq_false_iff_ne.mpr hf, ih h.2]

end Descriptor

open Descriptor

theorem PropertyField.ofSpelling?_eq_some {f : PropertyField} {s : String} :
    ofSpelling? s = some f ↔ s ∈ f.spellings :=
  find?_spelling (by decide) (by cases f <;> decide)

theorem FunctionField.ofSpelling?_eq_some {f : FunctionField} {s : String} :
    ofSpelling? s = some f ↔ s ∈ f.spellings :=
  find?_spelling (by decide) (by cases f <;> decide)

namespace PropertyDescriptor

/-- The value that a table gives to a field of a property. -/
def given? (entries : Entries Value) (f : PropertyField) : Option Value :=
  (valuesOf PropertyField.ofSpelling? f entries).getLast?

/-- A property is read off a table that gives every mandatory field; the others have defaults. -/
theorem ofEntries_eq_ok {entries : Entries Value} {d : PropertyDescriptor} :
    ofEntries entries = .ok d ↔
      (∀ f ∈ PropertyField.mandatory, (given? entries f).isSome = true) ∧
        d = ofFunction fun f => (given? entries f).getD f.default := by
  have hlookup : ∀ f, (normalize PropertyField.ofSpelling? entries).lookup f = given? entries f :=
    lookup_normalize _ _
  simp only [ofEntries, hlookup, ← missing_eq_nil]
  cases hmissing : PropertyField.mandatory.filter fun f => (given? entries f).isNone with
  | nil => simp only [Except.ok.injEq, true_and, eq_comm]
  | cons f rest => simp only [reduceCtorEq, false_and]

/-- A property has its name and its value from the table. -/
theorem get_of_ok {entries : Entries Value} {d : PropertyDescriptor}
    (h : ofEntries entries = .ok d) {f : PropertyField} (hf : f ∈ PropertyField.mandatory) :
    given? entries f = some (d.get f) := by
  obtain ⟨hgiven, rfl⟩ := ofEntries_eq_ok.mp h
  obtain ⟨v, hv⟩ := Option.isSome_iff_exists.mp (hgiven f hf)
  rw [get_ofFunction, hv, Option.getD_some]

end PropertyDescriptor

namespace FunctionDescriptor

/-- The value that a table gives to a field of a function; null is none for a field of lists. -/
def given? (entries : Entries Value) (f : FunctionField) : Option Value :=
  (valuesOf FunctionField.ofSpelling? f entries).getLast?.filter fun v =>
    !(f.isListField && v matches .null)

/-- A function is read off a table that gives every required field; the others have defaults. -/
theorem ofEntries_eq_ok {entries : Entries Value} {d : FunctionDescriptor} :
    ofEntries entries = .ok d ↔
      (∀ f ∈ FunctionField.required, (given? entries f).isSome = true) ∧
        d = ofFunction fun f => (given? entries f).getD f.default := by
  simp only [ofEntries, lookup_filter (nodup_normalize _ _), lookup_normalize, ← missing_eq_nil]
  split
  · next hmissing =>
      rw [Except.ok.injEq]
      exact ⟨fun h => ⟨hmissing, h.symm⟩, fun h => h.2.symm⟩
  · next hmissing =>
      refine iff_of_false (fun h => ?_) fun h => hmissing h.1
      cases h

/-- A function has its name, its method and its path from the table. -/
theorem get_of_ok {entries : Entries Value} {d : FunctionDescriptor}
    (h : ofEntries entries = .ok d) {f : FunctionField} (hf : f ∈ FunctionField.required) :
    (valuesOf FunctionField.ofSpelling? f entries).getLast? = some (d.get f) := by
  obtain ⟨hgiven, rfl⟩ := ofEntries_eq_ok.mp h
  obtain ⟨v, hv⟩ := Option.isSome_iff_exists.mp (hgiven f hf)
  rw [get_ofFunction, hv, Option.getD_some]
  exact (Option.filter_eq_some_iff.mp hv).1

end FunctionDescriptor

end TypeStencil
