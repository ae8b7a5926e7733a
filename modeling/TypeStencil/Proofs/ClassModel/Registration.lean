import Mathlib.Data.List.Basic
import TypeStencil.ClassModel
import TypeStencil.Proofs.Sequencing
import TypeStencil.Proofs.Sorting.Texts
import TypeStencil.Proofs.UniqueList.Pushes

/-!
Histories of registrations. What a model holds after a history depends on the last member that was
registered under each name, on which import lines were given, and on the lines of the descriptions,
but not on the order of the rest.
-/
namespace TypeStencil

def Value.isText (v : Value) : Bool :=
  v.str?.isSome

theorem Value.str?_eq_some {v : Value} {s : String} : v.str? = some s ↔ v = .str s := by
  constructor
  · intro h
    rcases v with t | items | entries
    · cases t with
      | str t =>
          cases h
          rfl
      | _ => cases h
    · cases h
    · cases h
  · rintro rfl
    rfl

theorem Value.isText_iff {v : Value} : v.isText = true ↔ ∃ s, v = .str s := by
  simp only [isText, Option.isSome_iff_exists, str?_eq_some]

theorem Value.isPresent_str (s : String) : (Value.str s).isPresent = true ↔ s ≠ "" := by
  simp only [Value.isPresent, Scalar.isPresent, Bool.not_eq_true', String.isEmpty_eq_false_iff,
    ne_eq]

theorem Value.map_str_of_isText {items : List Value} (h : ∀ v ∈ items, v.isText = true) :
    (items.filterMap Value.str?).map .str = items := by
  induction items with
  | nil => rfl
  | cons v rest ih =>
      rw [List.forall_mem_cons] at h
      obtain ⟨s, rfl⟩ := isText_iff.mp h.1
      simpa [Value.str?] using ih h.2

theorem Value.mem_filterMap_str {items : List Value} {s : String} :
    s ∈ items.filterMap Value.str? ↔ .str s ∈ items := by
  simp only [List.mem_filterMap, str?_eq_some, exists_eq_right]

theorem Scalar.same_str (s t : String) : (Scalar.str s).same (.str t) = (s == t) := by
  simp [Scalar.same, Scalar.measure?]

namespace Entries

variable {α : Type}

/-- Entries under texts. -/
def named (members : List (String × α)) : Entries α :=
  members.map fun e => (.str e.1, e.2)

theorem map_named {β : Type} (f : Scalar × α → β) (members : List (String × α)) :
    (named members).map f = members.map fun e => f (.str e.1, e.2) :=
  List.map_map

/-- The entries hold, under each name once, the value that was given last under it. -/
def Enrols (entries : Entries α) (given : List (String × α)) : Prop :=
  ∃ members : List (String × α), entries = named members ∧ (members.map Prod.fst).Nodup ∧
    ∀ name x, (name, x) ∈ members ↔ given.reverse.lookup name = some x

theorem put_named (members : List (String × α)) (name : String) (x : α)
    (hn : (members.map Prod.fst).Nodup) :
    ∃ members', (named members).put (.str name) x = named members' ∧
      (members'.map Prod.fst).Nodup ∧
      (∀ n, n ∈ members'.map Prod.fst ↔ n = name ∨ n ∈ members.map Prod.fst) ∧
      ∀ n y, (n, y) ∈ members' ↔ if n = name then y = x else (n, y) ∈ members := by
  induction members with
  | nil => exact ⟨[(name, x)], rfl, by simp, by simp, by grind⟩
  | cons e rest ih =>
      obtain ⟨first, z⟩ := e
      rw [List.map_cons, List.nodup_cons] at hn
      by_cases heq : first = name
      · subst heq
        refine ⟨(first, x) :: rest, ?_, List.nodup_cons.mpr hn, by simp, ?_⟩
        · simp [named, put, Scalar.same_str]
        · intro n y
          have hnot : ∀ w, (first, w) ∉ rest := fun w h =>
            hn.1 (List.mem_map.mpr ⟨(first, w), h, rfl⟩)
          grind
      · obtain ⟨rest', hput, hnodup, hnames, hmem⟩ := ih hn.2
        refine ⟨(first, z) :: rest', ?_, ?_, ?_, ?_⟩
        · simpa [named, put, Scalar.same_str, heq] using hput
        · refine List.nodup_cons.mpr ⟨fun h => ?_, hnodup⟩
          rcases (hnames first).mp h with h' | h'
          · exact heq h'
          · exact hn.1 h'
        · intro n
          simp only [List.map_cons, List.mem_cons, hnames n]
          tauto
        · intro n y
          simp only [List.mem_cons, hmem n y]
          grind

theorem enrols_nil : Enrols ([] : Entries α) [] :=
  ⟨[], rfl, List.nodup_nil, by simp⟩

theorem Enrols.put {entries : Entries α} {given : List (String × α)} (h : entries.Enrols given)
    (name : String) (x : α) : (entries.put (.str name) x).Enrols (given ++ [(name, x)]) := by
  obtain ⟨members, rfl, hn, hmem⟩ := h
  obtain ⟨members', hput, hn', -, hmem'⟩ := put_named members name x hn
  refine ⟨members', hput, hn', fun n y => ?_⟩
  rw [hmem' n y, List.reverse_append, List.reverse_singleton, List.singleton_append,
    List.lookup_cons]
  by_cases heq : n = name
  · subst heq
    simp [eq_comm]
  · rw [if_neg heq, hmem n y, beq_eq_false_iff_ne.mpr heq]

@[simp]
theorem update_named_nil (entries : Entries α) : entries.update (named []) = entries := rfl

@[simp]
theorem update_named_singleton (entries : Entries α) (name : String) (x : α) :
    entries.update (named [(name, x)]) = entries.put (.str name) x := rfl

theorem Enrols.update {entries : Entries α} {given : List (String × α)} (h : entries.Enrols given)
    (more : List (String × α)) : (entries.update (named more)).Enrols (given ++ more) := by
  induction more generalizing entries given with
  | nil => simpa [Entries.update, named] using h
  | cons e rest ih => simpa [Entries.update, named] using ih (h.put e.1 e.2)

end Entries

namespace UniqueList

/-- The list holds some texts once each. -/
def Gathers (l : UniqueList) (texts : List String) : Prop :=
  l.InStep ∧ ∃ lines : List String, l.items = lines.map .str ∧ lines.Nodup ∧
    ∀ t, t ∈ lines ↔ t ∈ texts

theorem gathers_empty : empty.Gathers [] :=
  ⟨inStep_empty, [], rfl, List.nodup_nil, by simp⟩

theorem Gathers.push {l : UniqueList} {texts : List String} (h : l.Gathers texts) (s : String) :
    (l.push (.str s)).Gathers (texts ++ [s]) := by
  obtain ⟨hstep, lines, hitems, hn, hmem⟩ := h
  have hpushed := hstep.items_push (.str s)
  have hany : l.items.any (·.same (.str s)) = true ↔ s ∈ lines := by
    simp [hitems, Scalar.same_str]
  refine ⟨hstep.push _, ?_⟩
  by_cases hs : s ∈ lines
  · rw [if_pos (hany.mpr hs), List.append_nil] at hpushed
    refine ⟨lines, hpushed.trans hitems, hn, fun t => ?_⟩
    rw [List.mem_append, List.mem_singleton, ← hmem t]
    constructor
    · exact .inl
    · rintro (ht | rfl)
      · exact ht
      · exact hs
  · rw [if_neg (fun h => hs (hany.mp h))] at hpushed
    refine ⟨lines ++ [s], by simp [hpushed, hitems], ?_, fun t => ?_⟩
    · refine List.nodup_append.mpr ⟨hn, List.pairwise_singleton _ s, ?_⟩
      rintro a ha b hb rfl
      exact hs (List.mem_singleton.mp hb ▸ ha)
    · rw [List.mem_append, List.mem_append, hmem t]

theorem Gathers.pushAll {l : UniqueList} {texts : List String} (h : l.Gathers texts)
    (more : List String) :
    (l.pushAll (more.map .str)).1.Gathers (texts ++ more) ∧
      (l.pushAll (more.map .str)).2 = .ok () := by
  induction more generalizing l texts with
  | nil => simpa [UniqueList.pushAll] using h
  | cons s rest ih => simpa [UniqueList.pushAll] using ih (h.push s)

theorem Gathers.congr {l : UniqueList} {texts texts' : List String} (h : l.Gathers texts)
    (hmem : ∀ t, t ∈ texts ↔ t ∈ texts') : l.Gathers texts' := by
  obtain ⟨hstep, lines, hitems, hnodup, hlines⟩ := h
  exact ⟨hstep, lines, hitems, hnodup, fun t => (hlines t).trans (hmem t)⟩

/-- Texts that are gathered can be sorted, and each of them comes out once. -/
theorem Gathers.exists_sorted {l : UniqueList} {texts : List String} (h : l.Gathers texts) :
    ∃ sorted : List String, sortValues (.list l.toList) = .ok (sorted.map .str) ∧
      sorted.Pairwise (· < ·) ∧ ∀ t, t ∈ sorted ↔ t ∈ texts := by
  obtain ⟨-, lines, hitems, hnodup, hlines⟩ := h
  obtain ⟨sorted, hok, hperm, hinc⟩ := sortValues_texts hnodup
  refine ⟨sorted, ?_, hinc, fun t => hperm.mem_iff.trans (hlines t)⟩
  rw [toList, hitems, List.map_map, ← hok]
  rfl

end UniqueList

/-- The import lines that a function asks for are texts. -/
def RegisteredFunction.AsksTexts (f : RegisteredFunction) : Prop :=
  ∀ v ∈ f.imports, v.isPresent = true → v.isText = true

/-- The import line that a property asks for is a text. -/
def RegisteredProperty.AsksText (p : RegisteredProperty) : Prop :=
  p.importName.isPresent = true → p.importName.isText = true

/-- What a descriptor of an operation is registered as. -/
def RegisteredFunction.ofDescriptor (d : FunctionDescriptor) :
    Except TypeFault RegisteredFunction := do
  return ⟨← FunctionView.ofDescriptor d, ← FunctionView.listItems d.imports⟩

/-- What a descriptor of an operation is registered under and as. -/
def RegisteredFunction.entry (d : FunctionDescriptor) :
    Except TypeFault (Scalar × RegisteredFunction) := do
  return (← d.functionName.hashable, ← ofDescriptor d)

/-- What a descriptor of a field is registered as. -/
def RegisteredProperty.ofDescriptor (d : PropertyDescriptor) :
    Except TypeFault RegisteredProperty := do
  return ⟨← PropertyView.ofDescriptor d, d.importName⟩

/-- What a descriptor of a field is registered under and as. -/
def RegisteredProperty.entry (d : PropertyDescriptor) :
    Except TypeFault (Scalar × RegisteredProperty) := do
  return (← d.propertyName.hashable, ← ofDescriptor d)

theorem Value.hashable_eq_ok {v : Value} {name : Scalar} :
    v.hashable = .ok name ↔ v = .scalar name := by
  cases v <;> simp [hashable]

theorem RegisteredFunction.entry_eq_ok {d : FunctionDescriptor} {e : Scalar × RegisteredFunction} :
    entry d = .ok e ↔ d.functionName = .scalar e.1 ∧ ofDescriptor d = .ok e.2 := by
  simp only [entry, bind_eq_ok, Value.hashable_eq_ok]
  constructor
  · rintro ⟨name, hname, f, hf, ⟨⟩⟩
    exact ⟨hname, hf⟩
  · rintro ⟨hname, hf⟩
    exact ⟨_, hname, _, hf, rfl⟩

theorem RegisteredProperty.entry_eq_ok {d : PropertyDescriptor} {e : Scalar × RegisteredProperty} :
    entry d = .ok e ↔ d.propertyName = .scalar e.1 ∧ ofDescriptor d = .ok e.2 := by
  simp only [entry, bind_eq_ok, Value.hashable_eq_ok]
  constructor
  · rintro ⟨name, hname, p, hp, ⟨⟩⟩
    exact ⟨hname, hp⟩
  · rintro ⟨hname, hp⟩
    exact ⟨_, hname, _, hp, rfl⟩

theorem FunctionView.listItems_list (items : List Value) : listItems (.list items) = .ok items := by
  cases items <;> rfl

theorem RegisteredFunction.ofDescriptor_eq_ok {d : FunctionDescriptor} {f : RegisteredFunction} :
    ofDescriptor d = .ok f ↔
      FunctionView.ofDescriptor d = .ok f.view ∧
        FunctionView.listItems d.imports = .ok f.imports := by
  simp only [ofDescriptor, bind_eq_ok]
  constructor
  · rintro ⟨view, hview, imports, himports, ⟨⟩⟩
    exact ⟨hview, himports⟩
  · rintro ⟨hview, himports⟩
    exact ⟨_, hview, _, himports, rfl⟩

theorem RegisteredProperty.ofDescriptor_eq_ok {d : PropertyDescriptor} {p : RegisteredProperty} :
    ofDescriptor d = .ok p ↔
      PropertyView.ofDescriptor d = .ok p.view ∧ p.importName = d.importName := by
  simp only [ofDescriptor, bind_eq_ok]
  constructor
  · rintro ⟨view, hview, ⟨⟩⟩
    exact ⟨hview, rfl⟩
  · rintro ⟨hview, himport⟩
    exact ⟨_, hview, by rw [← himport]; rfl⟩

namespace ClassModel

namespace Step

/-- The function that a step registers, and its name; a refused one does not count. -/
def function? : Step → Option (String × RegisteredFunction)
  | .function d => do
    return (← d.functionName.str?, ← (RegisteredFunction.ofDescriptor d).toOption)
  | _ => none

/-- The property that a step registers, and its name; a refused one does not count. -/
def property? : Step → Option (String × RegisteredProperty)
  | .property d => do
    return (← d.propertyName.str?, ← (RegisteredProperty.ofDescriptor d).toOption)
  | _ => none

/-- The lines that a step adds to the description. -/
def lines : Step → List String
  | .description text => text.lines.toOption.getD []
  | _ => []

/-- The import lines that a step gives. -/
def importLines : Step → List String
  | .imports items => items.filterMap Value.str?
  | _ => []

/-- A step that registers something, under a name that is a text and with imports that are texts. -/
def IsNamed : Step → Prop
  | .description _ => True
  | .imports items => ∀ v ∈ items, v.isText = true
  | .function d => d.functionName.isText = true ∧
    ∀ f, RegisteredFunction.ofDescriptor d = .ok f → f.AsksTexts
  | .property d => d.propertyName.isText = true ∧
    ∀ p, RegisteredProperty.ofDescriptor d = .ok p → p.AsksText
  | .render => False

end Step

/-- The function that a history has registered last under a name. -/
def lastFunction? (history : List Step) (name : String) : Option RegisteredFunction :=
  (history.filterMap Step.function?).reverse.lookup name

/-- The property that a history has registered last under a name. -/
def lastProperty? (history : List Step) (name : String) : Option RegisteredProperty :=
  (history.filterMap Step.property?).reverse.lookup name

theorem mem_of_last {α : Type} {given : List (String × α)} {name : String} {x : α}
    (h : given.reverse.lookup name = some x) : (name, x) ∈ given := by
  obtain ⟨before, after, hsplit, -⟩ := List.lookup_eq_some_iff.mp h
  rw [← List.mem_reverse, hsplit]
  exact List.mem_append_right before List.mem_cons_self

theorem Step.IsNamed.function_asksTexts {s : Step} (hs : s.IsNamed) {name : String}
    {f : RegisteredFunction} (h : s.function? = some (name, f)) : f.AsksTexts := by
  cases s with
  | function d =>
      obtain ⟨text, hname⟩ := Value.isText_iff.mp hs.1
      cases hd : RegisteredFunction.ofDescriptor d with
      | error e => simp [function?, hname, hd, Value.str?, Except.toOption] at h
      | ok f' =>
          simp only [function?, hname, hd, Value.str?, Except.toOption, Option.bind_eq_bind,
            Option.bind_some, Option.pure_def, Option.some.injEq, Prod.mk.injEq] at h
          exact h.2 ▸ hs.2 f' hd
  | _ => cases h

theorem Step.IsNamed.property_asksText {s : Step} (hs : s.IsNamed) {name : String}
    {p : RegisteredProperty} (h : s.property? = some (name, p)) : p.AsksText := by
  cases s with
  | property d =>
      obtain ⟨text, hname⟩ := Value.isText_iff.mp hs.1
      cases hd : RegisteredProperty.ofDescriptor d with
      | error e => simp [property?, hname, hd, Value.str?, Except.toOption] at h
      | ok p' =>
          simp only [property?, hname, hd, Value.str?, Except.toOption, Option.bind_eq_bind,
            Option.bind_some, Option.pure_def, Option.some.injEq, Prod.mk.injEq] at h
          exact h.2 ▸ hs.2 p' hd
  | _ => cases h

theorem lastFunction?_asksTexts {history : List Step} (hs : ∀ s ∈ history, s.IsNamed)
    {name : String} {f : RegisteredFunction} (h : lastFunction? history name = some f) :
    f.AsksTexts := by
  obtain ⟨s, hmem, hf⟩ := List.mem_filterMap.mp (mem_of_last h)
  exact (hs s hmem).function_asksTexts hf

theorem lastProperty?_asksText {history : List Step} (hs : ∀ s ∈ history, s.IsNamed)
    {name : String} {p : RegisteredProperty} (h : lastProperty? history name = some p) :
    p.AsksText := by
  obtain ⟨s, hmem, hp⟩ := List.mem_filterMap.mp (mem_of_last h)
  exact (hs s hmem).property_asksText hp

/-- A model as a history of registrations has left it. -/
structure Follows (ids : Identifiers) (history : List Step) (m : ClassModel) : Prop where
  identifiers : m.identifiers = ids
  description : m.description = history.flatMap Step.lines
  imports : m.imports.Gathers (history.flatMap Step.importLines)
  functions : m.functions.Enrols (history.filterMap Step.function?)
  properties : m.properties.Enrols (history.filterMap Step.property?)

theorem follows_nil (ids : Identifiers) : Follows ids [] (ofIdentifiers ids) :=
  ⟨rfl, rfl, UniqueList.gathers_empty, Entries.enrols_nil, Entries.enrols_nil⟩

theorem filterMap_snoc {α β : Type} (f : α → Option β) (past : List α) (s : α) :
    (past ++ [s]).filterMap f = past.filterMap f ++ (f s).toList := by
  cases h : f s <;> simp [h]

section

variable {m : ClassModel} (renderer : Renderer) (templates : TemplateNames)

theorem logReplaced_result {α : Type} (kind : String) (members : Entries α) (name : Scalar) :
    (m.logReplaced kind members name).result = .ok () := by
  unfold logReplaced
  split <;> rfl

theorem addDescription_result (text : Value) :
    (addDescription text m).2.result = (text.lines.map fun _ => ()).mapError .type := by
  rw [addDescription, Change.result_of_bind]
  cases text.lines <;> rfl

theorem addDescription_state (text : Value) :
    (addDescription text m).1 =
      { m with description := m.description ++ text.lines.toOption.getD [] } := by
  rw [addDescription, Change.state_of_bind]
  cases text.lines with
  | error e =>
      exact congrArg (fun lines => { m with description := lines }) (List.append_nil _).symm
  | ok lines => rfl

theorem addFunction_result (d : FunctionDescriptor) :
    (addFunction d m).2.result =
      ((RegisteredFunction.entry d).map fun _ => ()).mapError .type := by
  rw [addFunction, Change.get_bind, RegisteredFunction.entry, RegisteredFunction.ofDescriptor]
  simp only [Change.result_of_bind, logReplaced_result]
  cases d.functionName.hashable with
  | error e => rfl
  | ok name =>
      cases FunctionView.ofDescriptor d with
      | error e => rfl
      | ok view => cases FunctionView.listItems d.imports <;> rfl

/-- The functions are touched by nothing but the assignment at the end of a registration. -/
theorem addFunction_state (d : FunctionDescriptor) :
    (addFunction d m).1 = match RegisteredFunction.entry d with
      | .ok e => { m with functions := m.functions.put e.1 e.2 }
      | .error _ => m := by
  rw [addFunction, Change.get_bind, RegisteredFunction.entry, RegisteredFunction.ofDescriptor]
  simp only [Change.state_of_bind, logReplaced_result]
  cases d.functionName.hashable with
  | error e => rfl
  | ok name =>
      cases FunctionView.ofDescriptor d with
      | error e => rfl
      | ok view => cases FunctionView.listItems d.imports <;> rfl

theorem addProperty_result (d : PropertyDescriptor) :
    (addProperty d m).2.result =
      ((RegisteredProperty.entry d).map fun _ => ()).mapError .type := by
  rw [addProperty, Change.get_bind, RegisteredProperty.entry, RegisteredProperty.ofDescriptor]
  simp only [Change.result_of_bind, logReplaced_result]
  cases d.propertyName.hashable with
  | error e => rfl
  | ok name => cases PropertyView.ofDescriptor d <;> rfl

theorem addProperty_state (d : PropertyDescriptor) :
    (addProperty d m).1 = match RegisteredProperty.entry d with
      | .ok e => { m with properties := m.properties.put e.1 e.2 }
      | .error _ => m := by
  rw [addProperty, Change.get_bind, RegisteredProperty.entry, RegisteredProperty.ofDescriptor]
  simp only [Change.state_of_bind, logReplaced_result]
  cases d.propertyName.hashable with
  | error e => rfl
  | ok name => cases PropertyView.ofDescriptor d <;> rfl

/-- A description that cannot be read leaves the model as it is. -/
theorem addDescription_of_not_ok {text : Value}
    (h : (addDescription text m).2.result.isOk = false) : (addDescription text m).1 = m := by
  rw [addDescription_result] at h
  rw [addDescription_state]
  cases hlines : text.lines with
  | error e => exact congrArg (fun lines => { m with description := lines }) (List.append_nil _)
  | ok lines =>
      rw [hlines] at h
      cases h

/-- A function that is refused leaves the model as it is. -/
theorem addFunction_of_not_ok {d : FunctionDescriptor}
    (h : (addFunction d m).2.result.isOk = false) : (addFunction d m).1 = m := by
  rw [addFunction_result] at h
  rw [addFunction_state]
  cases hentry : RegisteredFunction.entry d with
  | error e => rfl
  | ok e =>
      rw [hentry] at h
      cases h

/-- A property that is refused leaves the model as it is. -/
theorem addProperty_of_not_ok {d : PropertyDescriptor}
    (h : (addProperty d m).2.result.isOk = false) : (addProperty d m).1 = m := by
  rw [addProperty_result] at h
  rw [addProperty_state]
  cases hentry : RegisteredProperty.entry d with
  | error e => rfl
  | ok e =>
      rw [hentry] at h
      cases h

/-- All that a step does to a model. -/
theorem step_eq {s : Step} (hs : s.IsNamed) :
    (m.step renderer templates s).1 =
      { m with
        description := m.description ++ s.lines
        imports := (m.imports.pushAll (s.importLines.map .str)).1
        functions := m.functions.update (Entries.named s.function?.toList)
        properties := m.properties.update (Entries.named s.property?.toList) } := by
  cases s with
  | description text =>
      simp [ClassModel.step, step.registered, addDescription_state, Step.lines, Step.importLines,
        Step.function?, Step.property?, UniqueList.pushAll]
  | imports items =>
      simp only [Step.importLines, Value.map_str_of_isText hs]
      simp [ClassModel.step, addImports, Step.lines, Step.function?, Step.property?]
  | function d =>
      obtain ⟨name, hname⟩ := Value.isText_iff.mp hs.1
      simp only [ClassModel.step, step.registered, addFunction_state, RegisteredFunction.entry,
        Step.function?, hname, Value.str?]
      cases RegisteredFunction.ofDescriptor d <;> simp [Value.hashable, Except.toOption, Step.lines,
        Step.importLines, Step.property?, UniqueList.pushAll, ok_bind]
  | property d =>
      obtain ⟨name, hname⟩ := Value.isText_iff.mp hs.1
      simp only [ClassModel.step, step.registered, addProperty_state, RegisteredProperty.entry,
        Step.property?, hname, Value.str?]
      cases RegisteredProperty.ofDescriptor d <;> simp [Value.hashable, Except.toOption, Step.lines,
        Step.importLines, Step.function?, UniqueList.pushAll, ok_bind]
  | render => exact hs.elim

/-- A step that registers something keeps the model in line with its history. -/
theorem Follows.step {ids : Identifiers} {past : List Step} (h : Follows ids past m) {s : Step}
    (hs : s.IsNamed) : Follows ids (past ++ [s]) (m.step renderer templates s).1 := by
  obtain ⟨hids, hdesc, himports, hfunctions, hproperties⟩ := h
  rw [step_eq renderer templates hs]
  refine ⟨hids, ?_, ?_, ?_, ?_⟩
  · rw [List.flatMap_append, List.flatMap_singleton, hdesc]
  · rw [List.flatMap_append, List.flatMap_singleton]
    exact (himports.pushAll s.importLines).1
  · rw [filterMap_snoc]
    exact hfunctions.update _
  · rw [filterMap_snoc]
    exact hproperties.update _

theorem Follows.run {ids : Identifiers} {past future : List Step} (h : Follows ids past m)
    (hs : ∀ s ∈ future, s.IsNamed) :
    Follows ids (past ++ future) (m.run renderer templates future).1 := by
  induction future generalizing past m with
  | nil => simpa only [ClassModel.run, List.append_nil] using h
  | cons s rest ih =>
      rw [List.forall_mem_cons] at hs
      have hrun := ih (h.step renderer templates hs.1) hs.2
      rwa [List.append_assoc, List.singleton_append] at hrun

end

end ClassModel

end TypeStencil
