import TypeStencil.Proofs.Document.WellFormed

/-!
Class entries that are refused. Whether a member is refused is told from its table alone, by what it
lacks and by the kinds of what it gives. An entry is refused for any of its members, with a fault
that names the class, and an entry of which every member is accepted gives a model.
-/
namespace TypeStencil

namespace Value

/-- Strings, lists and tables have items. -/
def IsIterable (v : Value) : Prop :=
  v.kind ∈ [Kind.str, .list, .table]

instance (v : Value) : Decidable v.IsIterable :=
  inferInstanceAs (Decidable (_ ∈ _))

theorem exists_items_iff {v : Value} : (∃ found, v.items = .ok found) ↔ v.IsIterable := by
  rcases v with s | found | entries
  · cases s <;> simp [items, IsIterable, kind, Scalar.kind]
  · simp [items, IsIterable, kind]
  · simp [items, IsIterable, kind]

theorem exists_lines_iff {v : Value} :
    (∃ found, v.lines = .ok found) ↔ ¬ (v.isPresent = true ∧ v.kind ≠ .str) := by
  unfold lines
  cases v.isPresent with
  | false => simp
  | true =>
      rcases v with s | found | entries
      · cases s <;> simp [kind, Scalar.kind]
      · simp [kind]
      · simp [kind]

theorem exists_hashable_iff {v : Value} :
    (∃ name, v = .scalar name) ↔ ¬ (v.kind = .list ∨ v.kind = .table) := by
  rcases v with s | found | entries
  · cases s <;> simp [kind, Scalar.kind]
  · simp [kind]
  · simp [kind]

end Value

theorem FunctionView.exists_listItems_iff {v : Value} :
    (∃ found, listItems v = .ok found) ↔ ¬ (v.isPresent = true ∧ ¬ v.IsIterable) := by
  rw [listItems, Value.orElse]
  cases hpresent : v.isPresent with
  | false => simp [Value.items]
  | true => simp [Value.exists_items_iff]

/-- What counts as absent has no items, if it has any. -/
theorem Value.eq_nil_of_items {v : Value} {members : List Value} (habsent : v.isPresent = false)
    (h : v.items = .ok members) : members = [] := by
  rcases v with s | found | entries
  · cases s <;> simp_all [items, isPresent, Scalar.isPresent]
  · simp_all [items, isPresent]
  · simp_all [items, isPresent]

theorem FunctionView.listItems_eq_ok {v : Value} {members : List Value} :
    listItems v = .ok members ↔
      v.items = .ok members ∨ v.isPresent = false ∧ members = [] := by
  rw [listItems, Value.orElse]
  cases hpresent : v.isPresent with
  | true => simp
  | false =>
      constructor
      · intro h
        exact .inr ⟨rfl, (Except.ok.inj h).symm⟩
      · rintro (h | ⟨-, rfl⟩)
        · rw [Value.eq_nil_of_items hpresent h]
          rfl
        · rfl

/-- What a field of a function has by default counts as an empty list. -/
theorem FunctionField.listItems_default (f : FunctionField) :
    FunctionView.listItems f.default = .ok [] := by
  cases f <;> rfl

namespace Traced

variable {α β : Type}

/-- A computation that only fails over a value of the wrong kind. -/
def FailsByType (m : Traced α) : Prop :=
  ∀ f, m.result = .error f → ∃ cause, f = .type cause

theorem failsByType_of_ok {m : Traced α} {a : α} (h : m.result = .ok a) : m.FailsByType := by
  intro f hf
  rw [h] at hf
  cases hf

theorem failsByType_ofType (r : Except TypeFault α) : (Traced.ofType r).FailsByType := by
  intro f hf
  cases r with
  | error cause => exact ⟨cause, (Except.error.inj hf).symm⟩
  | ok a => cases hf

theorem FailsByType.bind {m : Traced α} {next : α → Traced β} (hm : m.FailsByType)
    (hnext : ∀ a, (next a).FailsByType) : (m >>= next).FailsByType := by
  intro f hf
  rw [result_sequence] at hf
  cases hresult : m.result with
  | error e =>
      rw [hresult, error_bind] at hf
      cases hf
      exact hm f hresult
  | ok a =>
      rw [hresult, ok_bind] at hf
      exact hnext a f hf

end Traced

open Traced

theorem ClassModel.failsByType_addProperty (m : ClassModel) (d : PropertyDescriptor) :
    (addProperty d m).2.FailsByType :=
  fun f hf => failsByType_ofType _ f ((addProperty_result d).symm.trans hf)

theorem ClassModel.failsByType_addFunction (m : ClassModel) (d : FunctionDescriptor) :
    (addFunction d m).2.FailsByType :=
  fun f hf => failsByType_ofType _ f ((addFunction_result d).symm.trans hf)

namespace Document

/-- The value that counts among those under any of some spellings. -/
def lastSpelled? (spellings : List String) (entries : Entries Value) : Option Value :=
  (spelledValues spellings entries).getLast?

/-- The spellings of what members of one kind need, their name first, and of their lists. -/
structure MemberRules where
  name : List String
  others : List (List String)
  lists : List (List String)

def propertyRules : MemberRules where
  name := ["property_name", "propertyName"]
  others := [["value"]]
  lists := []

def functionRules : MemberRules where
  name := ["function_name", "functionName"]
  others := [["http_method", "httpMethod"], ["original_path", "originalPath"]]
  lists := [["url_parameters", "urlParameter", "urlParameters"],
    ["query_parameters", "queryParameters"], ["imports"]]

/-- A member that is no table, lacks what it needs, has a list or a table for its name, is described
by what is no string, or has for one of its lists what has no items. What counts as absent is
neither a description nor a list. -/
def IsBad (rules : MemberRules) : Value → Prop
  | .table entries =>
    (∃ spellings ∈ rules.name :: rules.others, (lastSpelled? spellings entries).isNone = true) ∨
    (∃ v ∈ lastSpelled? rules.name entries, v.kind = .list ∨ v.kind = .table) ∨
    (∃ v ∈ lastSpelled? ["description"] entries, v.isPresent = true ∧ v.kind ≠ .str) ∨
    ∃ spellings ∈ rules.lists, ∃ v ∈ lastSpelled? spellings entries,
      v.isPresent = true ∧ ¬ v.IsIterable
  | _ => True

instance (rules : MemberRules) : (v : Value) → Decidable (IsBad rules v)
  | .table _ => inferInstanceAs (Decidable (_ ∨ _))
  | .scalar _ => .isTrue trivial
  | .list _ => .isTrue trivial

/-- Members are refused as a whole or for one of them. -/
def AreRefused (rules : MemberRules) (members : Value) : Prop :=
  (members.isPresent = true ∧ ¬ members.IsIterable) ∨
    ∃ items ∈ members.items.toOption, ∃ v ∈ items, IsBad rules v

instance (rules : MemberRules) (members : Value) : Decidable (AreRefused rules members) :=
  inferInstanceAs (Decidable (_ ∨ _))

/-- An entry is refused for its properties or for its functions. -/
def IsRefused (entries : Entries Value) : Prop :=
  AreRefused propertyRules (Value.field entries "properties") ∨
    AreRefused functionRules (Value.field entries "functions")

instance (entries : Entries Value) : Decidable (IsRefused entries) :=
  inferInstanceAs (Decidable (_ ∨ _))

/-- The table of a member that is accepted. -/
structure Accepts (rules : MemberRules) (entries : Entries Value) : Prop where
  needed : ∀ spellings ∈ rules.name :: rules.others,
    (lastSpelled? spellings entries).isSome = true
  name : ∀ v ∈ lastSpelled? rules.name entries, ∃ name, v = .scalar name
  description : ∀ v ∈ lastSpelled? ["description"] entries, ∃ lines, v.lines = .ok lines
  lists : ∀ spellings ∈ rules.lists, ∀ v ∈ lastSpelled? spellings entries,
    ∃ items, FunctionView.listItems v = .ok items

/-- What a table is read as if it has all that a property needs. -/
def propertyOf (entries : Entries Value) : PropertyDescriptor :=
  .ofFunction fun f => (PropertyDescriptor.given? entries f).getD f.default

/-- What a table is read as if it has all that a function needs. -/
def functionOf (entries : Entries Value) : FunctionDescriptor :=
  .ofFunction fun f => (FunctionDescriptor.given? entries f).getD f.default

section

variable {rules : MemberRules} {entries : Entries Value}

theorem accepts_iff : Accepts rules entries ↔ ¬ IsBad rules (.table entries) := by
  constructor
  · rintro ⟨hneeded, hname, hdescription, hlists⟩
    rintro (⟨spellings, hs, hnone⟩ | ⟨v, hv, hbad⟩ | ⟨v, hv, hbad⟩ | ⟨spellings, hs, v, hv, hbad⟩)
    · rw [← Option.not_isSome, hneeded spellings hs] at hnone
      cases hnone
    · exact Value.exists_hashable_iff.mp (hname v hv) hbad
    · exact Value.exists_lines_iff.mp (hdescription v hv) hbad
    · exact FunctionView.exists_listItems_iff.mp (hlists spellings hs v hv) hbad
  · intro h
    exact {
      needed := fun spellings hs => Option.isSome_iff_ne_none.mpr fun hnone =>
        h (.inl ⟨spellings, hs, Option.isNone_iff_eq_none.mpr hnone⟩)
      name := fun v hv => Value.exists_hashable_iff.mpr fun hbad => h (.inr (.inl ⟨v, hv, hbad⟩))
      description := fun v hv => Value.exists_lines_iff.mpr fun hbad =>
        h (.inr (.inr (.inl ⟨v, hv, hbad⟩)))
      lists := fun spellings hs v hv => FunctionView.exists_listItems_iff.mpr fun hbad =>
        h (.inr (.inr (.inr ⟨spellings, hs, v, hv, hbad⟩))) }

theorem given?_property (entries : Entries Value) (f : PropertyField) :
    PropertyDescriptor.given? entries f = lastSpelled? f.spellings entries := by
  rw [PropertyDescriptor.given?,
    valuesOf_eq_spelledValues fun _ => PropertyField.ofSpelling?_eq_some, lastSpelled?]

theorem given?_function (entries : Entries Value) (f : FunctionField) :
    FunctionDescriptor.given? entries f =
      (lastSpelled? f.spellings entries).filter fun v => !(f.isListField && v matches .null) := by
  rw [FunctionDescriptor.given?,
    valuesOf_eq_spelledValues fun _ => FunctionField.ofSpelling?_eq_some]
  rfl

/-- What a property has in one of its fields, by what its table gives there. -/
theorem property_field_iff {P : Value → Prop} {f : PropertyField} (hdefault : P f.default) :
    P ((propertyOf entries).get f) ↔ ∀ v ∈ lastSpelled? f.spellings entries, P v := by
  rw [propertyOf, PropertyDescriptor.get_ofFunction, given?_property]
  cases lastSpelled? f.spellings entries with
  | none => simpa using hdefault
  | some v => simp

/-- What a function has in one of its fields; a null may stand for the default there. -/
theorem function_field_iff {P : Value → Prop} {f : FunctionField} (hdefault : P f.default)
    (hnull : P .null) :
    P ((functionOf entries).get f) ↔ ∀ v ∈ lastSpelled? f.spellings entries, P v := by
  rw [functionOf, FunctionDescriptor.get_ofFunction, given?_function]
  cases lastSpelled? f.spellings entries with
  | none => simpa using hdefault
  | some v =>
      cases f.isListField with
      | false => simp [Option.filter]
      | true =>
          -- Null is the one value that is given and still leaves the field to its default.
          rcases v with s | items | entries
          · cases s <;> simp [Option.filter, hdefault, hnull]
          · simp [Option.filter]
          · simp [Option.filter]

theorem propertyOf_iff {d : PropertyDescriptor} : PropertyDescriptor.ofEntries entries = .ok d ↔
    (∀ spellings ∈ propertyRules.name :: propertyRules.others,
      (lastSpelled? spellings entries).isSome = true) ∧ d = propertyOf entries := by
  have hspellings : propertyRules.name :: propertyRules.others =
      PropertyField.mandatory.map PropertyField.spellings := rfl
  rw [PropertyDescriptor.ofEntries_eq_ok, hspellings, List.forall_mem_map]
  refine and_congr_left fun _ => forall₂_congr fun f _ => ?_
  rw [given?_property]

theorem functionOf_iff {d : FunctionDescriptor} : FunctionDescriptor.ofEntries entries = .ok d ↔
    (∀ spellings ∈ functionRules.name :: functionRules.others,
      (lastSpelled? spellings entries).isSome = true) ∧ d = functionOf entries := by
  have hspellings : functionRules.name :: functionRules.others =
      FunctionField.required.map FunctionField.spellings := rfl
  have hplain : ∀ f ∈ FunctionField.required, f.isListField = false := by decide
  rw [FunctionDescriptor.ofEntries_eq_ok, hspellings, List.forall_mem_map]
  refine and_congr_left fun _ => forall₂_congr fun f hf => ?_
  rw [given?_function, hplain f hf]
  cases lastSpelled? f.spellings entries <;> simp [Option.filter]

theorem exists_registeredProperty_iff {d : PropertyDescriptor} :
    (∃ p, RegisteredProperty.ofDescriptor d = .ok p) ↔
      ∃ lines, d.description.lines = .ok lines := by
  simp only [RegisteredProperty.ofDescriptor, PropertyView.ofDescriptor, bind_eq_ok]
  constructor
  · rintro ⟨_, _, ⟨lines, hlines, -⟩, -⟩
    exact ⟨lines, hlines⟩
  · rintro ⟨lines, hlines⟩
    exact ⟨_, _, ⟨lines, hlines, rfl⟩, rfl⟩

theorem exists_registeredFunction_iff {d : FunctionDescriptor} :
    (∃ f, RegisteredFunction.ofDescriptor d = .ok f) ↔
      (∃ lines, d.description.lines = .ok lines) ∧
        ∀ f ∈ [FunctionField.urlParameters, .queryParameters, .imports],
          ∃ items, FunctionView.listItems (d.get f) = .ok items := by
  simp only [RegisteredFunction.ofDescriptor, FunctionView.ofDescriptor, bind_eq_ok,
    List.forall_mem_cons]
  constructor
  · rintro ⟨_, _, ⟨_, hurl, _, hquery, lines, hlines, -⟩, _, himports, -⟩
    exact ⟨⟨lines, hlines⟩, ⟨_, hurl⟩, ⟨_, hquery⟩, ⟨_, himports⟩, List.forall_mem_nil _⟩
  · rintro ⟨⟨lines, hlines⟩, ⟨_, hurl⟩, ⟨_, hquery⟩, ⟨_, himports⟩, -⟩
    exact ⟨_, _, ⟨_, hurl, _, hquery, lines, hlines, rfl⟩, _, himports, rfl⟩

/-- A table is read as a property exactly if it is accepted. -/
theorem exists_readsProperty_iff :
    (∃ e, ReadsProperty (.table entries) e) ↔ Accepts propertyRules entries := by
  have hname : (∃ name, (propertyOf entries).propertyName = .scalar name) ↔
      ∀ v ∈ lastSpelled? propertyRules.name entries, ∃ name, v = .scalar name :=
    property_field_iff (P := fun v => ∃ name, v = .scalar name) (f := .propertyName) ⟨.null, rfl⟩
  have hdescription : (∃ lines, (propertyOf entries).description.lines = .ok lines) ↔
      ∀ v ∈ lastSpelled? ["description"] entries, ∃ lines, v.lines = .ok lines :=
    property_field_iff (P := fun v => ∃ lines, v.lines = .ok lines) (f := .description) ⟨[], rfl⟩
  constructor
  · rintro ⟨⟨name, p⟩, entries', d, heq, hd, hscalar, hp⟩
    obtain rfl := Value.table.inj heq
    obtain ⟨hneeded, rfl⟩ := propertyOf_iff.mp hd
    exact ⟨hneeded, hname.mp ⟨name, hscalar⟩,
      hdescription.mp (exists_registeredProperty_iff.mp ⟨p, hp⟩), List.forall_mem_nil _⟩
  · rintro ⟨hneeded, hscalar, hdescribed, -⟩
    obtain ⟨name, hscalar⟩ := hname.mpr hscalar
    obtain ⟨p, hp⟩ := exists_registeredProperty_iff.mpr (hdescription.mpr hdescribed)
    exact ⟨(name, p), entries, _, rfl, propertyOf_iff.mpr ⟨hneeded, rfl⟩, hscalar, hp⟩

/-- A table is read as a function exactly if it is accepted. -/
theorem exists_readsFunction_iff :
    (∃ e, ReadsFunction (.table entries) e) ↔ Accepts functionRules entries := by
  have hname : (∃ name, (functionOf entries).functionName = .scalar name) ↔
      ∀ v ∈ lastSpelled? functionRules.name entries, ∃ name, v = .scalar name :=
    function_field_iff (P := fun v => ∃ name, v = .scalar name) (f := .functionName) ⟨.null, rfl⟩
      ⟨.null, rfl⟩
  have hdescription : (∃ lines, (functionOf entries).description.lines = .ok lines) ↔
      ∀ v ∈ lastSpelled? ["description"] entries, ∃ lines, v.lines = .ok lines :=
    function_field_iff (P := fun v => ∃ lines, v.lines = .ok lines) (f := .description) ⟨[], rfl⟩
      ⟨[], rfl⟩
  have hlists : (∀ f ∈ [FunctionField.urlParameters, .queryParameters, .imports],
      ∃ items, FunctionView.listItems ((functionOf entries).get f) = .ok items) ↔
        ∀ spellings ∈ functionRules.lists, ∀ v ∈ lastSpelled? spellings entries,
          ∃ items, FunctionView.listItems v = .ok items := by
    have hspellings : functionRules.lists =
        [FunctionField.urlParameters, .queryParameters, .imports].map FunctionField.spellings := rfl
    rw [hspellings, List.forall_mem_map]
    exact forall₂_congr fun f _ => function_field_iff
      (P := fun v => ∃ items, FunctionView.listItems v = .ok items) ⟨[], f.listItems_default⟩
      ⟨[], rfl⟩
  constructor
  · rintro ⟨⟨name, r⟩, entries', d, heq, hd, hscalar, hr⟩
    obtain rfl := Value.table.inj heq
    obtain ⟨hneeded, rfl⟩ := functionOf_iff.mp hd
    obtain ⟨hdescribed, hitems⟩ := exists_registeredFunction_iff.mp ⟨r, hr⟩
    exact ⟨hneeded, hname.mp ⟨name, hscalar⟩, hdescription.mp hdescribed, hlists.mp hitems⟩
  · rintro ⟨hneeded, hscalar, hdescribed, hitems⟩
    obtain ⟨name, hscalar⟩ := hname.mpr hscalar
    obtain ⟨r, hr⟩ := exists_registeredFunction_iff.mpr
      ⟨hdescription.mpr hdescribed, hlists.mpr hitems⟩
    exact ⟨(name, r), entries, _, rfl, functionOf_iff.mpr ⟨hneeded, rfl⟩, hscalar, hr⟩

/-- What is read off accepted tables only is read off all that is not bad. -/
theorem exists_iff_not_isBad {α : Type} {reads : Value → α → Prop}
    (htable : ∀ {v e}, reads v e → ∃ entries, v = .table entries)
    (haccepts : ∀ {entries}, (∃ e, reads (.table entries) e) ↔ Accepts rules entries) (v : Value) :
    (∃ e, reads v e) ↔ ¬ IsBad rules v := by
  cases v with
  | table entries => exact haccepts.trans accepts_iff
  | _ =>
      refine iff_of_false ?_ fun hgood => hgood trivial
      rintro ⟨e, he⟩
      obtain ⟨entries, h⟩ := htable he
      cases h

/-- Members are read one by one, and so they are refused for one of them. -/
theorem exists_members_iff {α : Type} {reads : Value → α → Prop}
    (hreads : ∀ v, (∃ e, reads v e) ↔ ¬ IsBad rules v) (key : String) :
    (∃ es members, memberList entries key = .ok members ∧ List.Forall₂ reads members es) ↔
      ¬ AreRefused rules (Value.field entries key) := by
  constructor
  · rintro ⟨es, members, hmembers, hall⟩
    rintro (habsent | ⟨items, hitems, v, hv, hbad⟩)
    · exact FunctionView.exists_listItems_iff.mp ⟨members, hmembers⟩ habsent
    · have hlisted : memberList entries key = .ok items :=
        FunctionView.listItems_eq_ok.mpr (.inl (toOption_eq_some.mp hitems))
      obtain rfl := Except.ok.inj (hmembers.symm.trans hlisted)
      have hread : ∀ v ∈ members, ∃ e, reads v e :=
        forall_mem_right hall.flip fun e _ v hve => ⟨e, hve⟩
      exact (hreads v).mp (hread v hv) hbad
  · intro h
    -- Members that count as absent are read as none, and there is nothing to ask of those.
    obtain ⟨members, hmembers⟩ := FunctionView.exists_listItems_iff.mpr fun habsent =>
      h (.inl habsent)
    have hgood : ∀ v ∈ members, ∃ e, reads v e ∧ True := by
      intro v hv
      rcases FunctionView.listItems_eq_ok.mp hmembers with hitems | ⟨-, rfl⟩
      · obtain ⟨e, he⟩ := (hreads v).mpr fun hbad =>
          h (.inr ⟨members, toOption_eq_some.mpr hitems, v, hv, hbad⟩)
        exact ⟨e, he, trivial⟩
      · cases hv
    obtain ⟨es, hes, -⟩ := exists_forall₂ hgood
    exact ⟨es, members, hmembers, hes⟩

end

section

variable {entries : Entries Value}

theorem failsByType_addProperties (m : ClassModel) (members : List Value) :
    (addProperties m members).FailsByType := by
  induction members generalizing m with
  | nil => exact failsByType_of_ok rfl
  | cons v rest ih =>
      refine (failsByType_ofType _).bind fun _ => ?_
      refine (failsByType_ofType _).bind fun d => ?_
      exact (m.failsByType_addProperty d).bind fun _ => ih _

theorem failsByType_addFunctions (m : ClassModel) (members : List Value) :
    (addFunctions m members).FailsByType := by
  induction members generalizing m with
  | nil => exact failsByType_of_ok rfl
  | cons v rest ih =>
      refine (failsByType_ofType _).bind fun _ => ?_
      refine (failsByType_ofType _).bind fun d => ?_
      exact (m.failsByType_addFunction d).bind fun _ => ih _

theorem failsByType_addMembers (m : ClassModel) : (addMembers entries m).FailsByType := by
  refine (failsByType_ofType _).bind fun properties => ?_
  refine (failsByType_addProperties m properties).bind fun m => ?_
  refine (failsByType_ofType _).bind fun functions => ?_
  exact failsByType_addFunctions m functions

/-- The members of an entry are all registered unless one of them is refused. -/
theorem exists_addMembers_iff (m : ClassModel) :
    (∃ built, (addMembers entries m).result = .ok built) ↔ ¬ IsRefused entries := by
  have hproperty := exists_iff_not_isBad (fun ⟨entries, _, h, _⟩ => ⟨entries, h⟩)
    exists_readsProperty_iff
  have hfunction := exists_iff_not_isBad (fun ⟨entries, _, h, _⟩ => ⟨entries, h⟩)
    exists_readsFunction_iff
  rw [IsRefused, not_or, ← exists_members_iff hproperty, ← exists_members_iff hfunction]
  simp only [addMembers, Traced.bind_eq_ok, Traced.ofType_eq_ok, addProperties_eq_ok,
    addFunctions_eq_ok]
  constructor
  · rintro ⟨_, properties, hproperties, _, ⟨ps, hps, rfl⟩, functions, hfunctions, fs, hfs, rfl⟩
    exact ⟨⟨ps, properties, hproperties, hps⟩, fs, functions, hfunctions, hfs⟩
  · rintro ⟨⟨ps, properties, hproperties, hps⟩, fs, functions, hfunctions, hfs⟩
    exact ⟨_, properties, hproperties, _, ⟨ps, hps, rfl⟩, functions, hfunctions, fs, hfs, rfl⟩

/-- The description of an entry and its import lines are texts or left out. -/
structure IsIntroduced (entries : Entries Value) : Prop where
  description : ∃ text, Value.field entries "description" = .ofText text
  imports : ∃ lines : Option (List String),
    Value.field entries "imports" = ofList (lines.map (List.map .str))

/-- Only the members of such an entry are left to be refused. -/
theorem IsIntroduced.exists_modelOf (h : IsIntroduced entries) (name : Value)
    (identifiers : Identifiers) :
    ∃ m, (modelOf identifiers entries name).result =
      (addMembers entries m).result.mapError (inClass name) := by
  obtain ⟨text, htext⟩ := h.description
  obtain ⟨lines, hlines⟩ := h.imports
  let m := ClassModel.ofIdentifiers identifiers
  let described := { m with description := m.description ++ Text.lines (text.getD "") }
  have htexts : (Value.field entries "description").lines = .ok (Text.lines (text.getD "")) := by
    rw [htext, Value.lines_ofText]
  have hdescribed : (ClassModel.addDescription (Value.field entries "description") m).2.result =
      .ok () := addDescription_eq_ok.mpr ⟨_, htexts⟩
  have hpushed : (described.imports.pushAll ((lines.getD []).map .str)).2 = .ok () :=
    (UniqueList.gathers_empty.pushAll (lines.getD [])).2
  have himported := addImportLines_eq_ok.mpr ⟨_, memberList_of_texts hlines, hpushed, rfl⟩
  rw [modelOf, Traced.result_bind hdescribed, addDescription_of_lines htexts,
    Traced.result_bind himported]
  exact ⟨_, rfl⟩

end

theorem buildModel_result (names : NameService) {entries : Entries Value} {name : Value}
    (hname : Value.field? entries "name" = some name) :
    (buildModel names (.table entries)).result =
      ((modelOf (names.identifiers name).2 entries name).result >>= fun m =>
        .ok ((names.identifiers name).1, m)) := by
  simp only [buildModel, entryName, hname, Except.mapError, Traced.of_ok_bind,
    Traced.result_sequence]
  rfl

/-- Whatever its members are, an entry gives a model unless one of them is refused, and then it
fails with the fault that names the class and in no other way. -/
theorem refuses_exactly (names : NameService) (entries : Entries Value) (name : Value)
    (hname : Value.field? entries "name" = some name) (h : IsIntroduced entries) :
    (IsRefused entries → ∃ cause,
      (buildModel names (.table entries)).result = .error (.generator (.member name cause))) ∧
    (¬ IsRefused entries → ∃ built, (buildModel names (.table entries)).result = .ok built) := by
  obtain ⟨m, hm⟩ := h.exists_modelOf name (names.identifiers name).2
  have hbuild := buildModel_result names hname
  rw [hm] at hbuild
  cases hresult : (addMembers entries m).result with
  | ok built =>
      have haccepted : ¬ IsRefused entries := (exists_addMembers_iff m).mp ⟨built, hresult⟩
      refine ⟨fun hrefused => absurd hrefused haccepted, fun _ => ?_⟩
      rw [hbuild, hresult]
      exact ⟨_, rfl⟩
  | error e =>
      obtain ⟨cause, rfl⟩ := failsByType_addMembers m e hresult
      refine ⟨fun _ => ⟨cause, ?_⟩, fun haccepted => ?_⟩
      · rw [hbuild, hresult]
        rfl
      · obtain ⟨built, hbuilt⟩ := (exists_addMembers_iff m).mpr haccepted
        rw [hresult] at hbuilt
        cases hbuilt

/-- Of two spellings the last one counts, and a string has items, but none of them is a table. -/
theorem refuses_exactly_strings :
    let accepted : Entries Value := [(.str "name", .int 7),
      (.str "properties", .list [.object [("property_name", .list []), ("propertyName", .str "id"),
        ("value", .null)]]),
      (.str "functions", .list [.object [("functionName", .null), ("httpMethod", .int 1),
        ("originalPath", .table []), ("urlParameter", .str "ab"), ("imports", .bool false)]])]
    let refused : Entries Value := [(.str "name", .str "Pet"), (.str "description", .null),
      (.str "imports", .strings ["import x"]), (.str "functions", .str "ab")]
    (IsIntroduced accepted ∧ ¬ IsRefused accepted ∧
      ∃ built, (buildModel .fresh (.table accepted)).result = .ok built) ∧
    IsIntroduced refused ∧ IsRefused refused ∧
      ∃ cause, (buildModel .fresh (.table refused)).result =
        .error (.generator (.member (.str "Pet") cause)) := by
  intro accepted refused
  have haccepted : IsIntroduced accepted := ⟨⟨none, rfl⟩, none, rfl⟩
  have hrefused : IsIntroduced refused := ⟨⟨none, rfl⟩, some ["import x"], rfl⟩
  have hgood : ¬ IsRefused accepted := by decide
  have hbad : IsRefused refused := by decide
  obtain ⟨-, hbuilt⟩ := refuses_exactly .fresh accepted (.int 7) rfl haccepted
  obtain ⟨hfault, -⟩ := refuses_exactly .fresh refused (.str "Pet") rfl hrefused
  exact ⟨⟨haccepted, hgood, hbuilt hgood⟩, hrefused, hbad, hfault hbad⟩

end Document

end TypeStencil
