import TypeStencil.Proofs.Descriptor.Fields

/-!
Descriptors by the last spellings. Of the names of a table that spell a field the last one decides,
in the order of the table, and no other name is looked at. A descriptor is refused only for the
fields that it needs and that no name spells.
-/
namespace TypeStencil

namespace Descriptor

/-- Whether an entry goes by one of some spellings. -/
def spells (spellings : List String) (e : Scalar × Value) : Bool :=
  match e.1 with
  | .str s => spellings.contains s
  | _ => false

/-- The value of the last entry that goes by one of some spellings. -/
def lastSpelled? (spellings : List String) (entries : Entries Value) : Option Value :=
  (entries.reverse.find? (spells spellings)).map Prod.snd

/-- The fields of a kind of descriptors. Both lists are in the order of declaration; fields of lists
are not required, and empty by default. -/
structure Schema (F : Type) [DecidableEq F] where
  title : String
  fields : List F
  required : List F
  isListField : F → Bool
  name : F → String
  spellings : F → List String
  default : F → Value
  complete : ∀ f, f ∈ fields
  declared : fields.filter (· ∈ required) = required
  optional : ∀ f ∈ required, isListField f = false
  empty : ∀ f, isListField f = true → default f = .list []

namespace Schema

variable {F D : Type} [DecidableEq F] (schema : Schema F) (entries : Entries Value)

/-- The value of a field. A null that is chosen for a list stands for the empty one. -/
def chosen (f : F) : Value :=
  match lastSpelled? (schema.spellings f) entries with
  | some v => if schema.isListField f && v matches .null then .list [] else v
  | none => schema.default f

/-- The required fields that no entry spells. -/
def missing : List F :=
  schema.fields.filter fun f =>
    f ∈ schema.required && (lastSpelled? (schema.spellings f) entries).isNone

/-- The entries that spell a field. -/
def known : Entries Value :=
  entries.filter fun e => schema.fields.any fun f => spells (schema.spellings f) e

/-- Descriptors are read by the last spellings of their fields. -/
structure IsReadBy (read : Entries Value → Except TypeFault D) (get : D → F → Value) : Prop where
  chosen : ∀ entries d, read entries = .ok d → ∀ f, get d f = schema.chosen entries f
  known : ∀ entries, read (schema.known entries) = read entries
  refused : ∀ entries fault, read entries = .error fault ↔ schema.missing entries ≠ [] ∧
    fault = .missingFields schema.title ((schema.missing entries).map schema.name)

/-- The value that a table gives to a field; null is none for a field of lists. -/
def given? (f : F) : Option Value :=
  (lastSpelled? (schema.spellings f) entries).filter fun v =>
    !(schema.isListField f && v matches .null)

end Schema

section

variable {F D : Type} [DecidableEq F] {schema : Schema F} {spellings : List String}

theorem lastSpelled?_snoc (before : Entries Value) (e : Scalar × Value) :
    lastSpelled? spellings (before ++ [e]) =
      if spells spellings e then some e.2 else lastSpelled? spellings before := by
  rw [lastSpelled?, List.reverse_append, List.reverse_singleton, List.singleton_append,
    List.find?_cons]
  cases spells spellings e <;> rfl

/-- Entries that go by no spelling do not matter. -/
theorem lastSpelled?_filter {keep : Scalar × Value → Bool}
    (hkeep : ∀ e, spells spellings e = true → keep e = true) (entries : Entries Value) :
    lastSpelled? spellings (entries.filter keep) = lastSpelled? spellings entries := by
  induction entries using List.reverseRecOn with
  | nil => rfl
  | append_singleton before e ih =>
      rw [List.filter_append, List.filter_singleton, lastSpelled?_snoc]
      cases he : spells spellings e with
      | true => rw [hkeep e he, cond_true, lastSpelled?_snoc, he, ih]
      | false =>
          cases keep e with
          | true => rw [cond_true, lastSpelled?_snoc, he, ih]
          | false => rw [cond_false, List.append_nil, ih, if_neg Bool.false_ne_true]

/-- The last value that is given to a field is that of its last spelling. -/
theorem getLast?_valuesOf {fieldOf? : String → Option F} {f : F}
    (hspelling : ∀ s, fieldOf? s = some f ↔ s ∈ spellings) (entries : Entries Value) :
    (valuesOf fieldOf? f entries).getLast? = lastSpelled? spellings entries := by
  have hentry (e : Scalar × Value) :
      spelledField? fieldOf? e = some f ↔ spells spellings e = true := by
    obtain ⟨name, v⟩ := e
    cases name <;> simp [spelledField?, spells, hspelling]
  induction entries using List.reverseRecOn with
  | nil => rfl
  | append_singleton before e ih =>
      rw [lastSpelled?_snoc, ← ih, valuesOf, List.filterMap_append, List.getLast?_append, valuesOf]
      by_cases h : spells spellings e = true
      · simp [h, (hentry e).mpr h]
      · simp [h, mt (hentry e).mp h]

namespace Schema

theorem lastSpelled?_known (entries : Entries Value) (f : F) :
    lastSpelled? (schema.spellings f) (schema.known entries) =
      lastSpelled? (schema.spellings f) entries :=
  lastSpelled?_filter (fun _ he => List.any_eq_true.mpr ⟨f, schema.complete f, he⟩) entries

theorem chosen_known (entries : Entries Value) :
    schema.chosen (schema.known entries) = schema.chosen entries := by
  funext f
  rw [chosen, lastSpelled?_known, chosen]

theorem missing_known (entries : Entries Value) :
    schema.missing (schema.known entries) = schema.missing entries := by
  simp only [missing, lastSpelled?_known]

theorem getD_given? (entries : Entries Value) (f : F) :
    (schema.given? entries f).getD (schema.default f) = schema.chosen entries f := by
  rw [given?, chosen]
  cases lastSpelled? (schema.spellings f) entries with
  | none => rfl
  | some v =>
      rw [Option.filter_some]
      dsimp only
      cases hnull : schema.isListField f && v matches .null with
      | true =>
          rw [Bool.not_true, if_neg Bool.false_ne_true, if_pos rfl, Option.getD_none]
          exact schema.empty f (Bool.and_eq_true_iff.mp hnull).1
      | false => rfl

theorem filter_given? (entries : Entries Value) :
    (schema.required.filter fun f => (schema.given? entries f).isNone) =
      schema.missing entries := by
  have hgiven : ∀ f ∈ schema.required, (schema.given? entries f).isNone =
      (lastSpelled? (schema.spellings f) entries).isNone := by
    intro f hf
    rw [given?]
    simp [schema.optional f hf]
  rw [List.filter_congr hgiven, ← schema.declared, List.filter_filter, missing]
  exact List.filter_congr fun f _ => Bool.and_comm _ _

/-- What is refused for the fields that are not given, and else built of the given ones and of
defaults, is read by the last spellings. -/
theorem isReadBy_of_eq {read : Entries Value → Except TypeFault D} {get : D → F → Value}
    {build : (F → Value) → D} (hget : ∀ value f, get (build value) f = value f)
    (hread : ∀ entries,
      let ungiven := schema.required.filter fun f => (schema.given? entries f).isNone
      read entries =
        if ungiven = [] then .ok (build fun f => (schema.given? entries f).getD (schema.default f))
        else .error (.missingFields schema.title (ungiven.map schema.name))) :
    schema.IsReadBy read get := by
  simp only [filter_given?, getD_given?] at hread
  constructor
  case chosen =>
    intro entries d hd f
    rw [hread] at hd
    split at hd
    · obtain rfl := Except.ok.inj hd
      exact hget _ f
    · cases hd
  case known =>
    intro entries
    rw [hread, hread, missing_known, chosen_known]
  case refused =>
    intro entries fault
    rw [hread]
    cases schema.missing entries with
    | nil => simp
    | cons f rest => simp [eq_comm]

end Schema

end

end Descriptor

open Descriptor

def FunctionField.schema : Schema FunctionField where
  title := "FunctionDescriptor"
  fields := all
  required := required
  isListField := isListField
  name := name
  spellings := spellings
  default := default
  complete f := by cases f <;> decide
  declared := by decide
  optional := by decide
  empty f hf := by cases f <;> first | rfl | cases hf

def PropertyField.schema : Schema PropertyField where
  title := "PropertyDescriptor"
  fields := all
  required := mandatory
  isListField _ := false
  name := name
  spellings := spellings
  default := default
  complete f := by cases f <;> decide
  declared := by decide
  optional _ _ := rfl
  empty _ hf := by cases hf

theorem FunctionField.getLast?_valuesOf (f : FunctionField) (entries : Entries Value) :
    (valuesOf ofSpelling? f entries).getLast? = lastSpelled? (schema.spellings f) entries :=
  Descriptor.getLast?_valuesOf (fun _ => ofSpelling?_eq_some) entries

theorem PropertyField.given?_eq (f : PropertyField) (entries : Entries Value) :
    schema.given? entries f = (valuesOf ofSpelling? f entries).getLast? := by
  rw [Descriptor.getLast?_valuesOf (fun _ => ofSpelling?_eq_some), Schema.given?]
  show (lastSpelled? f.spellings entries).filter _ = lastSpelled? f.spellings entries
  cases lastSpelled? f.spellings entries <;> rfl

/-- Functions and properties are read off a table by the last spellings of their fields. -/
theorem Descriptor.last_spelling_decides :
    FunctionField.schema.IsReadBy FunctionDescriptor.ofEntries FunctionDescriptor.get ∧
      PropertyField.schema.IsReadBy PropertyDescriptor.ofEntries PropertyDescriptor.get := by
  constructor
  · refine Schema.isReadBy_of_eq FunctionDescriptor.get_ofFunction fun entries => ?_
    simp only [FunctionDescriptor.ofEntries, lookup_filter (nodup_normalize _ _), lookup_normalize,
      FunctionField.getLast?_valuesOf]
    split
    · next hgiven => exact (if_pos hgiven).symm
    · next hungiven => exact (if_neg hungiven).symm
  · refine Schema.isReadBy_of_eq PropertyDescriptor.get_ofFunction fun entries => ?_
    simp only [PropertyDescriptor.ofEntries, lookup_normalize, PropertyField.given?_eq]
    split
    · next hgiven => exact (if_pos hgiven).symm
    · next hungiven => exact (if_neg hungiven).symm

/-- A null that comes last is not passed over for an earlier list. -/
example : FunctionField.schema.chosen [(.str "urlParameters", .strings ["id"]),
    (.str "url_parameters", .null)] .urlParameters = .list [] := rfl

end TypeStencil
