import Mathlib.Data.List.Forall2
import TypeStencil.Proofs.Document.Registered
import TypeStencil.Proofs.Generation.Concatenation

/-!
Warnings about members whose names come again. Every member that the check finds to repeat a name
brings one warning, and every member that is registered under a name in use replaces another, so
warnings and replacements are equally many as far as the check and the registration see equally
many different names.
-/
namespace TypeStencil

open Scalar

namespace Document

section

variable {kind : String} {spellings : List String} {className : Value}

/-- A warning about a name that comes again starts with its kind. -/
def Announces (kind : String) (warning : String) : Prop :=
  ∃ rest, warning = "Duplicate " ++ kind ++ " '" ++ rest

/-- Every member whose name is no new one brings one warning. -/
theorem duplicateWarnings_eq_ok {seen : List Scalar} {members : List Value} {ws : List String}
    (htables : ∀ v ∈ members, ∃ entries, v = .table entries)
    (h : duplicateWarnings kind spellings className seen members = .ok ws) :
    ∃ names : List Scalar, members.map (checkedName? spellings) = names.map some ∧
      ws.length + countDifferent (names.reverse ++ seen) = names.length + countDifferent seen ∧
      ∀ w ∈ ws, Announces kind w := by
  induction members generalizing seen ws with
  | nil =>
      cases h
      exact ⟨[], rfl, by simp, by simp⟩
  | cons v rest ih =>
      rw [List.forall_mem_cons] at htables
      obtain ⟨⟨entries, rfl⟩, htables⟩ := htables
      obtain ⟨name, hname, h⟩ := bind_eq_ok.mp h
      obtain ⟨more, hmore, h⟩ := bind_eq_ok.mp h
      obtain ⟨names, hnames, hcount, hannounce⟩ := ih htables hmore
      have hchecked : checkedName? spellings (.table entries) = some name := by
        rw [checkedName?]
        cases hfirst : (firstSpelling? entries spellings).getD .null <;> rw [hfirst] at hname <;>
          cases hname
        rfl
      rw [countDifferent_cons] at hcount
      refine ⟨name :: names, by rw [List.map_cons, List.map_cons, hchecked, hnames], ?_⟩
      rw [List.reverse_cons, List.append_assoc, List.singleton_append, List.length_cons]
      obtain rfl := Except.ok.inj h
      cases hseen : seen.any (·.same name) with
      | true =>
          rw [hseen, if_pos rfl] at hcount
          rw [if_pos rfl, List.length_cons, List.forall_mem_cons]
          exact ⟨by omega, ⟨_, by simp only [String.append_assoc]; rfl⟩, hannounce⟩
      | false =>
          rw [hseen, if_neg Bool.false_ne_true] at hcount
          rw [if_neg Bool.false_ne_true]
          exact ⟨by omega, hannounce⟩

end

theorem filterMap_of_map_eq {α β : Type} {f : α → Option β} {l : List α} {l' : List β}
    (h : l.map f = l'.map some) : l.filterMap f = l' := by
  calc
    l.filterMap f = (l.map f).filterMap id := by rw [List.filterMap_map, Function.id_comp]
    _ = l' := by rw [h, List.filterMap_map, Function.id_comp, List.filterMap_some]

/-- The warning about a class without members. -/
def noMembers (name : Value) : String :=
  "Class '" ++ name.text ++ "' has no members - will generate empty interface"

/-- The warnings about names of a kind that come again. -/
def repeatsOf (kind : String) (ws : List String) : List String :=
  ws.filter fun w => ("Duplicate " ++ kind).toList.isPrefixOf w.toList

theorem repeatsOf_append (kind : String) (ws more : List String) :
    repeatsOf kind (ws ++ more) = repeatsOf kind ws ++ repeatsOf kind more :=
  List.filter_append _ _

theorem repeatsOf_of_announces {kind : String} {ws : List String} (h : ∀ w ∈ ws, Announces kind w) :
    repeatsOf kind ws = ws := by
  refine List.filter_eq_self.mpr fun w hw => ?_
  obtain ⟨rest, rfl⟩ := h w hw
  have happend : "Duplicate " ++ kind ++ " '" ++ rest = "Duplicate " ++ kind ++ (" '" ++ rest) :=
    String.append_assoc
  rw [List.isPrefixOf_iff_prefix, happend, String.toList_append (s := "Duplicate " ++ kind)]
  exact List.prefix_append _ _

theorem repeatsOf_property {ws : List String} (h : ∀ w ∈ ws, Announces "function" w) :
    repeatsOf "property" ws = [] := by
  refine List.filter_eq_nil_iff.mpr fun w hw => ?_
  obtain ⟨rest, rfl⟩ := h w hw
  simp

theorem repeatsOf_function {ws : List String} (h : ∀ w ∈ ws, Announces "property" w) :
    repeatsOf "function" ws = [] := by
  refine List.filter_eq_nil_iff.mpr fun w hw => ?_
  obtain ⟨rest, rfl⟩ := h w hw
  simp

theorem repeatsOf_noMembers (kind : String) (name : Value) :
    repeatsOf kind [noMembers name] = [] := by
  refine List.filter_eq_nil_iff.mpr fun w hw => ?_
  obtain rfl := List.mem_singleton.mp hw
  simp [noMembers]

theorem noMembers_not_announces (kind : String) (name : Value) :
    ¬ Announces kind (noMembers name) := by
  rintro ⟨rest, h⟩
  have hlist := congrArg String.toList h
  simp [noMembers] at hlist

/-- A list of members is empty exactly if it counts as absent. -/
theorem isEmpty_items {v : Value} {items : List Value}
    (h : (v.orElse (.list [])).items = .ok items) :
    items.isEmpty = !(v.orElse (.list [])).isPresent := by
  cases hv : v.isPresent with
  | false =>
      rw [Value.orElse, hv, if_neg Bool.false_ne_true] at h ⊢
      cases h
      rfl
  | true =>
      rw [Value.orElse, hv, if_pos rfl] at h ⊢
      rw [hv]
      rcases v with s | xs | entries
      · cases s with
        | str s =>
            cases h
            simpa [Value.isPresent, isPresent] using hv
        | _ => cases h
      · cases h
        simpa [Value.isPresent] using hv
      · cases h
        simpa [Value.isPresent] using hv

theorem entryWarnings_eq_ok {entries : Entries Value} {ws : List String} {name : Value}
    {properties functions : List Value} (hname : Value.field? entries "name" = some name)
    (hproperties : memberList entries "properties" = .ok properties)
    (hfunctions : memberList entries "functions" = .ok functions)
    (h : entryWarnings entries = .ok ws) :
    ∃ onProperties onFunctions,
      duplicateWarnings "property" propertySpellings name [] properties = .ok onProperties ∧
      duplicateWarnings "function" functionSpellings name [] functions = .ok onFunctions ∧
      ws = (if properties.isEmpty && functions.isEmpty then [noMembers name] else []) ++
        onProperties ++ onFunctions := by
  have hempty := isEmpty_items hproperties
  have hempty' := isEmpty_items hfunctions
  simp only [entryWarnings, hname, Option.getD_some] at h
  obtain ⟨ps, hps, h⟩ := bind_eq_ok.mp h
  obtain rfl := Except.ok.inj (hproperties.symm.trans hps)
  obtain ⟨onProperties, hp, h⟩ := bind_eq_ok.mp h
  obtain ⟨fs, hfs, h⟩ := bind_eq_ok.mp h
  obtain rfl := Except.ok.inj (hfunctions.symm.trans hfs)
  obtain ⟨onFunctions, hf, h⟩ := bind_eq_ok.mp h
  refine ⟨onProperties, onFunctions, hp, hf, ?_⟩
  rw [← Except.ok.inj h, hempty, hempty']
  rfl

/-- How many repeats of a kind are announced, against how many members of the kind there are and
how many of them are registered. -/
structure CountsRepeats (kind : String) (spellings : List String) (members : List Value)
    (registered : Nat) (ws : List String) : Prop where
  exactly : (repeatsOf kind ws).length + registered = members.length ↔
    countDifferent (members.filterMap (checkedName? spellings)) =
      countDifferent (members.filterMap (registeredName? spellings))
  of_agree : (∀ v ∈ members, NamesAgree spellings v) →
    (repeatsOf kind ws).length + registered = members.length

theorem countsRepeats_of_ok {kind : String} {spellings : List String} {className : Value}
    {members : List Value} {ws : List String} {α : Type} {registered : Entries α}
    (hregistered : members.map (registeredName? spellings) = registered.names.map some)
    (h : duplicateWarnings kind spellings className [] members = .ok ws) {all : List String}
    (hall : repeatsOf kind all = ws) :
    CountsRepeats kind spellings members (Entries.update [] registered).length all := by
  obtain ⟨checked, hchecked, hcount, -⟩ :=
    duplicateWarnings_eq_ok (isTable_of_registeredName? hregistered) h
  have hlength : members.length = checked.length := by
    simpa using congrArg List.length hchecked
  rw [List.append_nil, countDifferent_perm (List.reverse_perm checked)] at hcount
  have hzero : countDifferent [] = 0 := rfl
  have hexactly : (repeatsOf kind all).length + (Entries.update [] registered).length =
      members.length ↔ countDifferent checked = countDifferent registered.names := by
    rw [hall, Entries.length_update_nil, hlength]
    omega
  refine ⟨?_, fun hagree => hexactly.mpr ?_⟩
  · rw [filterMap_of_map_eq hchecked, filterMap_of_map_eq hregistered]
    exact hexactly
  · have hsame :
        members.map (checkedName? spellings) = members.map (registeredName? spellings) := by
      refine List.map_congr_left fun v hv => ?_
      have hname : registeredName? spellings v ∈ registered.names.map some :=
        hregistered ▸ List.mem_map_of_mem hv
      obtain ⟨name, -, hname⟩ := List.mem_map.mp hname
      rw [(hagree v hv).checkedName?_eq hname.symm, hname]
    rw [hchecked, hregistered] at hsame
    rw [List.map_injective_iff.mpr (Option.some_injective _) hsame]

/-- Nothing is registered exactly if there is nothing to register. -/
theorem update_nil_eq_nil_iff {α : Type} {spellings : List String} {members : List Value}
    {registered : Entries α}
    (h : members.map (registeredName? spellings) = registered.names.map some) :
    Entries.update [] registered = [] ↔ members.isEmpty = true := by
  have hlength : members.length = registered.length := by
    simpa [Entries.names] using congrArg List.length h
  rw [Entries.update_nil_eq_nil, List.isEmpty_iff, ← List.length_eq_zero_iff,
    ← List.length_eq_zero_iff, hlength]

/-- What the warnings about an entry say of the model that is built of it. -/
def WarnsOf (entry : Value) (ws : List String) : Prop :=
  ∃ entries name names m properties functions,
    entryName entry = .ok (entries, name) ∧ (buildModel .fresh entry).result = .ok (names, m) ∧
    memberList entries "properties" = .ok properties ∧
    memberList entries "functions" = .ok functions ∧
    warningsOf entry = .ok ws ∧
    CountsRepeats "property" propertySpellings properties m.properties.length ws ∧
    CountsRepeats "function" functionSpellings functions m.functions.length ws ∧
    (noMembers name ∈ ws ↔ m.properties = [] ∧ m.functions = [])

theorem warnsOf_of_ok {entry : Value} {names : NameService} {m : ClassModel} {ws : List String}
    (hmodel : (buildModel .fresh entry).result = .ok (names, m))
    (hws : warningsOf entry = .ok ws) : WarnsOf entry ws := by
  obtain ⟨entries, name, hentry, -, hm⟩ :=
    (buildModel_eq_ok NameService.faithful_fresh).mp hmodel
  obtain ⟨rfl, hname⟩ := entryName_eq_ok hentry
  obtain ⟨parts, ⟨-, -, -, ⟨properties, hproperties, hps⟩, functions, hfunctions, hfs⟩, hparts⟩ :=
    modelOf_eq_ok.mp hm
  have hmp : m.properties = Entries.update [] parts.properties :=
    congrArg ClassModel.properties hparts
  have hmf : m.functions = Entries.update [] parts.functions :=
    congrArg ClassModel.functions hparts
  have hps := map_registeredName? ReadsProperty.registeredName?_eq hps
  have hfs := map_registeredName? ReadsFunction.registeredName?_eq hfs
  obtain ⟨onProperties, onFunctions, hp, hf, hall⟩ :=
    entryWarnings_eq_ok hname hproperties hfunctions hws
  obtain ⟨-, -, -, hannounceP⟩ := duplicateWarnings_eq_ok (isTable_of_registeredName? hps) hp
  obtain ⟨-, -, -, hannounceF⟩ := duplicateWarnings_eq_ok (isTable_of_registeredName? hfs) hf
  have hempty : ∀ kind, repeatsOf kind
      (if properties.isEmpty && functions.isEmpty then [noMembers name] else []) = [] := by
    intro kind
    split
    · exact repeatsOf_noMembers kind name
    · rfl
  refine ⟨entries, name, names, m, properties, functions, hentry, hmodel, hproperties, hfunctions,
    hws, ?_, ?_, ?_⟩
  · rw [hmp]
    refine countsRepeats_of_ok hps hp ?_
    rw [hall, repeatsOf_append, repeatsOf_append, hempty, repeatsOf_of_announces hannounceP,
      repeatsOf_property hannounceF, List.nil_append, List.append_nil]
  · rw [hmf]
    refine countsRepeats_of_ok hfs hf ?_
    rw [hall, repeatsOf_append, repeatsOf_append, hempty, repeatsOf_function hannounceP,
      repeatsOf_of_announces hannounceF, List.nil_append, List.nil_append]
  · have hnotP : noMembers name ∉ onProperties := fun h =>
      noMembers_not_announces "property" name (hannounceP _ h)
    have hnotF : noMembers name ∉ onFunctions := fun h =>
      noMembers_not_announces "function" name (hannounceF _ h)
    rw [hmp, hmf, update_nil_eq_nil_iff hps, update_nil_eq_nil_iff hfs, ← Bool.and_eq_true, hall]
    cases properties.isEmpty && functions.isEmpty <;> simp [hnotP, hnotF]

end Document

namespace Generation

variable {c : Config}

theorem warnsOf_of_output {render : Renderer} {entry : Value} {o : Output} {ws : List String}
    (ho : (outputOfEntry render c entry).result = .ok o)
    (hws : Document.warningsOf entry = .ok ws) : Document.WarnsOf entry ws := by
  obtain ⟨entries, name, m, hentry, hm, -⟩ := outputOfEntry_eq_ok.mp ho
  exact Document.warnsOf_of_ok ((Document.buildModel_eq_ok NameService.faithful_fresh).mpr
    ⟨entries, name, hentry, rfl, hm⟩) hws

theorem forall₂_warnsOf {render : Renderer} {classes : List Value} {os : List Output}
    {all : List String}
    (hos : List.Forall₂ (fun entry o => (outputOfEntry render c entry).result = .ok o) classes os)
    (hall : Document.listWarnings classes = .ok all) :
    ∃ warnings, all = warnings.flatten ∧ List.Forall₂ Document.WarnsOf classes warnings := by
  induction hos generalizing all with
  | nil =>
      cases hall
      exact ⟨[], rfl, .nil⟩
  | cons ho _ ih =>
      rw [Document.listWarnings_cons] at hall
      obtain ⟨first, hfirst, hall⟩ := bind_eq_ok.mp hall
      obtain ⟨more, hmore, hall⟩ := bind_eq_ok.mp hall
      obtain rfl := Except.ok.inj hall
      obtain ⟨warnings, rfl, hwarnings⟩ := ih hmore
      exact ⟨first :: warnings, rfl, .cons (warnsOf_of_output ho hfirst) hwarnings⟩

/-- Where a document is generated, its warnings are those about its entries, one entry after
another, and tell how many of the members of an entry are registered as far as validation and
registration go by the same names. -/
theorem warnings_of_generated {fs : FileSystem} {given : Option Renderer} {document : Value}
    {g : Generated} (h : (run fs c given document).result = .ok g) :
    ∃ classes warnings, classEntries document = .ok classes ∧ g.warnings = warnings.flatten ∧
      List.Forall₂ Document.WarnsOf classes warnings := by
  obtain ⟨classes, render, hclasses, -, hwarnings, houtputs, -⟩ := runWith_eq_ok.mp h
  obtain ⟨warnings, hflatten, hwarns⟩ :=
    forall₂_warnsOf ((outputs_eq_ok NameService.faithful_fresh).mp houtputs) hwarnings
  exact ⟨classes, warnings, hclasses, hflatten, hwarns⟩

/-- A class with a property that is registered twice, and one without members. -/
theorem warnings_of_repeated :
    let render : Renderer := fun template _ => .ok template.text
    let field (value : String) : Value :=
      .object [("property_name", .str "id"), ("value", .str value)]
    let document := documentOf [
      .object [("name", .str "User"), ("properties", .list [field "string", field "number"])],
      .object [("name", .str "Nothing")]]
    let g : Generated := {
      outputs := [
        ⟨⟨"User", "user", "service-class.ts.j2"⟩, .ofString "generated/interface/user.ts", true⟩,
        ⟨⟨"Nothing", "nothing", "service-class.ts.j2"⟩,
          .ofString "generated/interface/nothing.ts", true⟩]
      warnings := ["Duplicate property 'id' in class 'User' - last one wins",
        "Class 'Nothing' has no members - will generate empty interface"] }
    (run ⟨[], []⟩ Config.default (some render) document).result = .ok g ∧
      ∃ classes warnings, classEntries document = .ok classes ∧ g.warnings = warnings.flatten ∧
        List.Forall₂ Document.WarnsOf classes warnings := by
  intro render field document g
  have hok : (run ⟨[], []⟩ Config.default (some render) document).result = .ok g := by
    with_unfolding_all rfl
  exact ⟨hok, warnings_of_generated hok⟩

/-- A repeat of a name that is checked under another spelling goes without a warning: of two
properties only one is registered. -/
theorem repeat_not_announced :
    let render : Renderer := fun template _ => .ok template.text
    let properties : List Value := [
      .object [("property_name", .str "a"), ("propertyName", .str "b"), ("value", .str "string")],
      .object [("property_name", .str "b"), ("value", .str "number")]]
    let entry : Value := .object [("name", .str "User"), ("properties", .list properties)]
    (run ⟨[], []⟩ Config.default (some render) (documentOf [entry])).result.map
        Generated.warnings = .ok [] ∧
      ((Document.buildModel .fresh entry).result.map fun built =>
        properties.length - built.2.properties.length) = .ok 1 := by
  intro render properties entry
  refine ⟨?_, ?_⟩
  · with_unfolding_all rfl
  · with_unfolding_all rfl

end Generation

end TypeStencil
