import TypeStencil.Proofs.Descriptor.Relaid
import TypeStencil.Proofs.Document.Contents
import TypeStencil.Proofs.Document.Registered

/-!
Digests of class entries: the name, the lines of the description, the set of import lines, and the
last part under each name of a member. A digest has no trace of how the entry is laid out, and where
names and import lines are texts it settles the model that is built.
-/
namespace TypeStencil

open Descriptor

/-- What a field of a function may be among texts: a name or import lines only if they are texts. -/
def FunctionField.Proper (f : FunctionField) (v : Value) : Prop :=
  match f with
  | .functionName => v.isText = true
  | .imports => ∀ lines, v.items = .ok lines →
    ∀ line ∈ lines, line.isPresent = true → line.isText = true
  | _ => True

/-- What a field of a property may be among texts: a name or an import line only if it is one. -/
def PropertyField.Proper (f : PropertyField) (v : Value) : Prop :=
  match f with
  | .propertyName => v.isText = true
  | .importName => v.isPresent = true → v.isText = true
  | _ => True

theorem FunctionView.items_of_listItems {v : Value} {items : List Value}
    (h : listItems v = .ok items) {item : Value} (hitem : item ∈ items) : v.items = .ok items := by
  cases hv : v.isPresent with
  | true => rwa [listItems, Value.orElse, if_pos hv] at h
  | false =>
      rw [listItems, Value.orElse, hv, if_neg Bool.false_ne_true] at h
      cases h
      cases hitem

namespace Document

/-- What a member comes to as a function of a class, and its name. -/
def functionPart? : Value → Option (String × FunctionView × Set String)
  | .table entries => do
    let d ← (FunctionDescriptor.ofEntries entries).toOption
    let name ← d.functionName.str?
    let f ← (RegisteredFunction.ofDescriptor d).toOption
    return (name, f.part)
  | _ => none

/-- What a member comes to as a property of a class, and its name. -/
def propertyPart? : Value → Option (String × PropertyView × Set String)
  | .table entries => do
    let d ← (PropertyDescriptor.ofEntries entries).toOption
    let name ← d.propertyName.str?
    let p ← (RegisteredProperty.ofDescriptor d).toOption
    return (name, p.part)
  | _ => none

theorem functionPart?_eq_some {v : Value} {name : String} {part : FunctionView × Set String} :
    functionPart? v = some (name, part) ↔ ∃ f, ReadsFunction v (.str name, f) ∧ f.part = part := by
  rcases v with s | items | entries
  · simp [functionPart?, ReadsFunction]
  · simp [functionPart?, ReadsFunction]
  · simp only [functionPart?, ReadsFunction, Value.table.injEq, Option.bind_eq_bind,
      Option.bind_eq_some_iff, toOption_eq_some, Value.str?_eq_some, Option.pure_def,
      Option.some.injEq, Prod.mk.injEq]
    constructor
    · rintro ⟨d, hd, _, hname, f, hf, rfl, hpart⟩
      exact ⟨f, ⟨_, d, rfl, hd, hname, hf⟩, hpart⟩
    · rintro ⟨f, ⟨_, d, rfl, hd, hname, hf⟩, hpart⟩
      exact ⟨d, hd, name, hname, f, hf, rfl, hpart⟩

theorem propertyPart?_eq_some {v : Value} {name : String} {part : PropertyView × Set String} :
    propertyPart? v = some (name, part) ↔ ∃ p, ReadsProperty v (.str name, p) ∧ p.part = part := by
  rcases v with s | items | entries
  · simp [propertyPart?, ReadsProperty]
  · simp [propertyPart?, ReadsProperty]
  · simp only [propertyPart?, ReadsProperty, Value.table.injEq, Option.bind_eq_bind,
      Option.bind_eq_some_iff, toOption_eq_some, Value.str?_eq_some, Option.pure_def,
      Option.some.injEq, Prod.mk.injEq]
    constructor
    · rintro ⟨d, hd, _, hname, p, hp, rfl, hpart⟩
      exact ⟨p, ⟨_, d, rfl, hd, hname, hp⟩, hpart⟩
    · rintro ⟨p, ⟨_, d, rfl, hd, hname, hp⟩, hpart⟩
      exact ⟨d, hd, name, hname, p, hp, rfl, hpart⟩

/-- A function of texts is registered under a text, and asks for texts. -/
theorem ReadsFunction.isTexts {entries : Entries Value} {e : Scalar × RegisteredFunction}
    (h : ReadsFunction (.table entries) e)
    (hplain : Plain FunctionField.ofSpelling? FunctionField.Proper entries) :
    (∃ name, e.1 = .str name) ∧ e.2.AsksTexts := by
  obtain ⟨_, d, ⟨⟩, hd, hname, hf⟩ := h
  have hgiven := FunctionDescriptor.get_of_ok hd (f := .functionName) (by decide)
  obtain ⟨name, htext⟩ :=
    Value.isText_iff.mp (hplain.proper .functionName _ (List.mem_of_getLast? hgiven))
  refine ⟨⟨name, Value.scalar.inj (hname.symm.trans htext)⟩, fun line hline => ?_⟩
  have hlist := (RegisteredFunction.ofDescriptor_eq_ok.mp hf).2
  have hitems := FunctionView.items_of_listItems hlist hline
  obtain ⟨-, rfl⟩ := FunctionDescriptor.ofEntries_eq_ok.mp hd
  cases himports : FunctionDescriptor.given? entries .imports with
  | none =>
      rw [FunctionDescriptor.ofFunction, himports] at hitems
      have hnil : [] = e.2.imports := Except.ok.inj hitems
      rw [← hnil] at hline
      cases hline
  | some v =>
      rw [FunctionDescriptor.ofFunction, himports] at hitems
      have hmem := List.mem_of_getLast? (Option.filter_eq_some_iff.mp himports).1
      exact hplain.proper .imports v hmem _ hitems line hline

/-- A property of texts is registered under a text, and asks for a text. -/
theorem ReadsProperty.isTexts {entries : Entries Value} {e : Scalar × RegisteredProperty}
    (h : ReadsProperty (.table entries) e)
    (hplain : Plain PropertyField.ofSpelling? PropertyField.Proper entries) :
    (∃ name, e.1 = .str name) ∧ e.2.AsksText := by
  obtain ⟨_, d, ⟨⟩, hd, hname, hp⟩ := h
  have hgiven := PropertyDescriptor.get_of_ok hd (f := .propertyName) (by decide)
  obtain ⟨name, htext⟩ :=
    Value.isText_iff.mp (hplain.proper .propertyName _ (List.mem_of_getLast? hgiven))
  refine ⟨⟨name, Value.scalar.inj (hname.symm.trans htext)⟩, ?_⟩
  rw [RegisteredProperty.AsksText, (RegisteredProperty.ofDescriptor_eq_ok.mp hp).2]
  obtain ⟨-, rfl⟩ := PropertyDescriptor.ofEntries_eq_ok.mp hd
  cases himport : PropertyDescriptor.given? entries .importName with
  | none =>
      rw [PropertyDescriptor.ofFunction, himport]
      exact fun h => nomatch h
  | some v =>
      rw [PropertyDescriptor.ofFunction, himport]
      exact hplain.proper .importName v (List.mem_of_getLast? himport)

/-- The last part under each name, if every member comes to a part. -/
def collect? {P : Type} (part? : Value → Option (String × P)) (members : List Value) :
    Option (String → Option P) :=
  if members.all fun v => (part? v).isSome then
    some fun name => (members.filterMap part?).reverse.lookup name
  else none

section

variable {α P : Type} {part? : Value → Option (String × P)} {reads : Value → Scalar × α → Prop}
  {toPart : α → P} {members : List Value}

theorem collect?_of_reads
    (hpart : ∀ {v name p}, part? v = some (name, p) ↔ ∃ x, reads v (.str name, x) ∧ toPart x = p)
    {registered : Entries α} (h : List.Forall₂ reads members registered)
    (htexts : ∀ e ∈ registered, ∃ name, e.1 = .str name) :
    collect? part? members =
      some fun name => (registered.texts.reverse.lookup name).map toPart := by
  have hparts : (members.all fun v => (part? v).isSome) = true ∧
      members.filterMap part? = registered.texts.map fun e => (e.1, toPart e.2) := by
    induction h with
    | nil => exact ⟨rfl, rfl⟩
    | @cons v e members registered hv _ ih =>
        obtain ⟨⟨name, hname⟩, hrest⟩ := List.forall_mem_cons.mp htexts
        obtain ⟨first, x⟩ := e
        obtain rfl : first = .str name := hname
        obtain ⟨hall, hmap⟩ := ih hrest
        have hsome : part? v = some (name, toPart x) := hpart.mpr ⟨x, hv, rfl⟩
        exact ⟨by simp [hsome, hall], by simp [hsome, hmap, Entries.texts]⟩
  rw [collect?, if_pos hparts.1, hparts.2]
  refine congrArg some (funext fun name => ?_)
  rw [← List.map_reverse, ClassModel.lookup_map]

theorem exists_reads_of_collect?
    (hpart : ∀ {v name p}, part? v = some (name, p) ↔ ∃ x, reads v (.str name, x) ∧ toPart x = p)
    {last? : String → Option P} (h : collect? part? members = some last?) :
    ∃ registered, List.Forall₂ reads members registered := by
  have hall : ∀ v ∈ members, (part? v).isSome = true := by
    by_contra hnot
    rw [collect?, if_neg (by simpa using hnot)] at h
    cases h
  obtain ⟨registered, hreads, -⟩ := exists_forall₂ (R := reads) (q := fun _ => True) fun v hv => by
    obtain ⟨⟨name, p⟩, hsome⟩ := Option.isSome_iff_exists.mp (hall v hv)
    obtain ⟨x, hx, -⟩ := hpart.mp hsome
    exact ⟨_, hx, trivial⟩
  exact ⟨registered, hreads⟩

end

/-- What a class entry comes to. -/
structure Digest where
  name : Value
  lines : List String
  imports : Set String
  function? : String → Option (FunctionView × Set String)
  property? : String → Option (PropertyView × Set String)

def digest? (entries : Entries Value) : Option Digest := do
  let name ← Value.field? entries "name"
  let lines ← (Value.field entries "description").lines.toOption
  let imports ← (memberList entries "imports").toOption.map fun lines => {line | .str line ∈ lines}
  let function? ← (memberList entries "functions").toOption.bind (collect? functionPart?)
  let property? ← (memberList entries "properties").toOption.bind (collect? propertyPart?)
  return ⟨name, lines, imports, function?, property?⟩

def Parts.digest (parts : Parts) (name : Value) : Digest :=
  ⟨name, parts.lines, parts.importLines, parts.function?, parts.property?⟩


section

variable {entries : Entries Value} {parts : Parts} {name : Value}

theorem digest?_of_readsAs (hname : Value.field? entries "name" = some name)
    (h : ReadsAs entries parts) (htexts : parts.AreTexts) :
    digest? entries = some (parts.digest name) := by
  obtain ⟨properties, hproperties, hps⟩ := h.properties
  obtain ⟨functions, hfunctions, hfs⟩ := h.functions
  have hf := collect?_of_reads functionPart?_eq_some hfs fun e he => (htexts.functions e he).1
  have hp := collect?_of_reads propertyPart?_eq_some hps fun e he => (htexts.properties e he).1
  simp only [digest?, hname, h.lines, h.imports, hfunctions, hproperties, Except.toOption,
    Option.bind_eq_bind, Option.bind_some, Option.map_some, hf, hp]
  rfl

/-- An entry with a digest can be read. -/
theorem exists_readsAs_of_digest? {d : Digest} (h : digest? entries = some d)
    (himports : ∀ lines, memberList entries "imports" = .ok lines → ∀ v ∈ lines, v.isText = true) :
    Value.field? entries "name" = some d.name ∧ ∃ parts, ReadsAs entries parts := by
  simp only [digest?, Option.bind_eq_bind, Option.bind_eq_some_iff, Option.map_eq_some_iff,
    toOption_eq_some, Option.pure_def, Option.some.injEq] at h
  obtain ⟨name, hname, lines, hlines, _, ⟨imports, hlist, rfl⟩, _, ⟨functions, hfunctions, hf⟩, _,
    ⟨properties, hproperties, hp⟩, rfl⟩ := h
  obtain ⟨fs, hfs⟩ := exists_reads_of_collect? functionPart?_eq_some hf
  obtain ⟨ps, hps⟩ := exists_reads_of_collect? propertyPart?_eq_some hp
  have hpushed := (UniqueList.gathers_empty.pushAll (imports.filterMap Value.str?)).2
  rw [Value.map_str_of_isText (himports imports hlist)] at hpushed
  exact ⟨hname, ⟨lines, imports, ps, fs⟩, hlines, hlist, hpushed, ⟨properties, hproperties, hps⟩,
    functions, hfunctions, hfs⟩

end

/-- A class entry made of texts, whose members spell every field once. -/
structure PlainEntry (entries : Entries Value) : Prop where
  distinct : entries.Distinct
  imports : ∀ lines, memberList entries "imports" = .ok lines → ∀ v ∈ lines, v.isText = true
  functions : ∀ members, memberList entries "functions" = .ok members → ∀ t, .table t ∈ members →
    Plain FunctionField.ofSpelling? FunctionField.Proper t
  properties : ∀ members, memberList entries "properties" = .ok members → ∀ t, .table t ∈ members →
    Plain PropertyField.ofSpelling? PropertyField.Proper t

theorem PlainEntry.areTexts {entries : Entries Value} {parts : Parts} (h : PlainEntry entries)
    (hreads : ReadsAs entries parts) : parts.AreTexts := by
  obtain ⟨functions, hfunctions, hfs⟩ := hreads.functions
  obtain ⟨properties, hproperties, hps⟩ := hreads.properties
  refine ⟨h.imports _ hreads.imports, forall_mem_right hfs ?_, forall_mem_right hps ?_⟩
  · intro v hv e he
    obtain ⟨t, -, rfl, -⟩ := id he
    exact he.isTexts (h.functions _ hfunctions t hv)
  · intro v hv e he
    obtain ⟨t, -, rfl, -⟩ := id he
    exact he.isTexts (h.properties _ hproperties t hv)

end Document

end TypeStencil
