import Mathlib.Data.List.Nodup
import Mathlib.Data.List.Perm.Basic
import TypeStencil.Proofs.Document.Digests
import TypeStencil.Proofs.Value.Sameness

/-!
Layouts of documents. The keys of a class entry may come in any order, its import lines too, each
of its members may be laid out in any way, and members of different names may be exchanged. A plain
entry keeps its digest.
-/
namespace TypeStencil

namespace Entries

theorem Distinct.perm {entries entries' : Entries Value} (h : entries.Distinct)
    (hperm : entries.Perm entries') : entries'.Distinct :=
  ((hperm.map Prod.fst).map Scalar.identity).nodup_iff.mp h

/-- Where no two names are the same, a name has the value that stands beside it. -/
theorem Distinct.field?_eq_some {entries : Entries Value} (h : entries.Distinct) {name : String}
    {v : Value} : Value.field? entries name = some v ↔ (.str name, v) ∈ entries := by
  refine ⟨Document.mem_of_field?, fun hmem => ?_⟩
  obtain ⟨w, hw⟩ := Option.isSome_iff_exists.mp (Document.field?_isSome hmem)
  rw [Distinct, names, List.map_map] at h
  have heq := List.inj_on_of_nodup_map h (Document.mem_of_field? hw) hmem rfl
  rw [hw, (Prod.mk.inj heq).2]

theorem Distinct.field?_perm {entries entries' : Entries Value} (h : entries.Distinct)
    (hperm : entries.Perm entries') (name : String) :
    Value.field? entries' name = Value.field? entries name := by
  refine Option.ext fun v => ?_
  rw [(h.perm hperm).field?_eq_some, h.field?_eq_some, hperm.mem_iff]

section

variable {before after : Entries Value} {name : String} {v : Value}

theorem Distinct.replaced (h : Distinct (before ++ (.str name, v) :: after)) (w : Value) :
    Distinct (before ++ (.str name, w) :: after) := by
  simpa only [Distinct, names, List.map_append, List.map_cons] using h

/-- A value that takes the place of another stands under its name. -/
theorem Distinct.field?_replaced (h : Distinct (before ++ (.str name, v) :: after)) (w : Value) :
    Value.field? (before ++ (.str name, w) :: after) name = some w :=
  (h.replaced w).field?_eq_some.mpr (List.mem_append_right _ List.mem_cons_self)

theorem Distinct.field?_beside (h : Distinct (before ++ (.str name, v) :: after)) (w : Value)
    {other : String} (hother : other ≠ name) :
    Value.field? (before ++ (.str name, w) :: after) other =
      Value.field? (before ++ (.str name, v) :: after) other := by
  refine Option.ext fun x => ?_
  rw [(h.replaced w).field?_eq_some, h.field?_eq_some]
  simp [hother]

end

end Entries

namespace Document

open Descriptor

/-- One change to the order of the members of a list, or to the layout of one of them. Members of
the same name keep their order. -/
inductive MembersRelaid (spellings : List String) (relaid : Entries Value → Entries Value → Prop) :
    List Value → List Value → Prop where
  | member (before after : List Value) {entries entries' : Entries Value}
      (h : relaid entries entries') :
      MembersRelaid spellings relaid (before ++ .table entries :: after)
        (before ++ .table entries' :: after)
  | order {members members' : List Value} (hperm : members.Perm members')
      (hnames : ∀ name : Scalar,
        members'.filter (fun v => registeredName? spellings v = some name) =
          members.filter fun v => registeredName? spellings v = some name) :
      MembersRelaid spellings relaid members members'

def FunctionsRelaid : List Value → List Value → Prop :=
  MembersRelaid functionSpellings (Relaid FunctionField.ofSpelling? fun f => f = .imports)

def PropertiesRelaid : List Value → List Value → Prop :=
  MembersRelaid propertySpellings (Relaid PropertyField.ofSpelling? fun _ => False)

/-- One change to the layout of a class entry. -/
inductive EntryRelaid : Entries Value → Entries Value → Prop where
  | keys {entries entries' : Entries Value} (h : entries.Perm entries') :
      EntryRelaid entries entries'
  | imports (before after : Entries Value) {lines lines' : List Value} (h : lines.Perm lines') :
      EntryRelaid (before ++ (.str "imports", .list lines) :: after)
        (before ++ (.str "imports", .list lines') :: after)
  | functions (before after : Entries Value) {members members' : List Value}
      (h : FunctionsRelaid members members') :
      EntryRelaid (before ++ (.str "functions", .list members) :: after)
        (before ++ (.str "functions", .list members') :: after)
  | properties (before after : Entries Value) {members members' : List Value}
      (h : PropertiesRelaid members members') :
      EntryRelaid (before ++ (.str "properties", .list members) :: after)
        (before ++ (.str "properties", .list members') :: after)

section

variable {t t' : Entries Value}

theorem functionPart?_of_sameValues
    (h : ∀ f, SameValues (f = .imports) (valuesOf FunctionField.ofSpelling? f t)
      (valuesOf FunctionField.ofSpelling? f t'))
    {x : String × FunctionView × Set String} (hx : functionPart? (.table t) = some x) :
    functionPart? (.table t') = some x := by
  obtain ⟨name, part⟩ := x
  obtain ⟨f, ⟨_, d, ⟨⟩, hd, hname, hf⟩, hpart⟩ := functionPart?_eq_some.mp hx
  refine functionPart?_eq_some.mpr ?_
  rcases FunctionDescriptor.ofEntries_of_sameValues h hd with
    hd' | ⟨items, items', hperm, hitems, hd'⟩
  · exact ⟨f, ⟨t', d, rfl, hd', hname, hf⟩, hpart⟩
  · obtain ⟨hview, himports⟩ := RegisteredFunction.ofDescriptor_eq_ok.mp hf
    rw [hitems, FunctionView.listItems_list] at himports
    refine ⟨⟨f.view, items'⟩, ⟨t', _, rfl, hd', hname, ?_⟩, ?_⟩
    · exact RegisteredFunction.ofDescriptor_eq_ok.mpr
        ⟨hview, FunctionView.listItems_list items'⟩
    · rw [← hpart, RegisteredFunction.part, RegisteredFunction.part, ← Except.ok.inj himports]
      simp only [hperm.mem_iff]

theorem propertyPart?_of_sameValues
    (h : ∀ f, SameValues False (valuesOf PropertyField.ofSpelling? f t)
      (valuesOf PropertyField.ofSpelling? f t'))
    {x : String × PropertyView × Set String} (hx : propertyPart? (.table t) = some x) :
    propertyPart? (.table t') = some x := by
  obtain ⟨name, part⟩ := x
  obtain ⟨p, ⟨_, d, ⟨⟩, hd, hname, hp⟩, hpart⟩ := propertyPart?_eq_some.mp hx
  have hd' := PropertyDescriptor.ofEntries_of_sameValues h hd
  exact propertyPart?_eq_some.mpr ⟨p, ⟨t', d, rfl, hd', hname, hp⟩, hpart⟩

/-- A layout does not change what a function comes to. -/
theorem functionPart?_relaid (hplain : Plain FunctionField.ofSpelling? FunctionField.Proper t)
    (h : Relaid FunctionField.ofSpelling? (fun f => f = .imports) t t') :
    functionPart? (.table t') = functionPart? (.table t) := by
  have hsame := fun f => h.sameValues (hplain.once f)
  refine Option.ext fun x => ⟨?_, functionPart?_of_sameValues hsame⟩
  exact functionPart?_of_sameValues fun f => (hsame f).symm

/-- A layout does not change what a property comes to. -/
theorem propertyPart?_relaid (hplain : Plain PropertyField.ofSpelling? PropertyField.Proper t)
    (h : Relaid PropertyField.ofSpelling? (fun _ => False) t t') :
    propertyPart? (.table t') = propertyPart? (.table t) := by
  have hsame := fun f => h.sameValues (hplain.once f)
  refine Option.ext fun x => ⟨?_, propertyPart?_of_sameValues hsame⟩
  exact propertyPart?_of_sameValues fun f => (hsame f).symm

theorem FunctionField.Proper.perm {f : FunctionField} {items items' : List Value}
    (hf : f = .imports) (hperm : items.Perm items') (h : f.Proper (.list items)) :
    f.Proper (.list items') := by
  subst hf
  intro lines hlines line hline
  obtain rfl : items' = lines := Except.ok.inj hlines
  exact h items rfl line (hperm.mem_iff.mpr hline)

end

section

variable {P : Type} {part? : Value → Option (String × P)} {spellings : List String}
  {relaid : Entries Value → Entries Value → Prop} {members members' : List Value}

/-- The last part under a name is that of the last member that is registered under it. -/
theorem lookup_parts
    (hname : ∀ {v name p}, part? v = some (name, p) →
      registeredName? spellings v = some (.str name)) (name : String) :
    (members.filterMap part?).reverse.lookup name =
      ((members.filter fun v => registeredName? spellings v = some (.str name)).filterMap fun v =>
        (part? v).bind fun e => if name == e.1 then some e.2 else none).getLast? := by
  rw [List.lookup_eq_findSome?, ← List.head?_filterMap, List.filterMap_reverse,
    List.head?_reverse, List.filterMap_filterMap, List.filterMap_filter]
  refine congrArg List.getLast? (List.filterMap_congr fun v _ => ?_)
  cases hv : part? v with
  | none => simp
  | some e =>
      by_cases heq : name = e.1
      · simp [hname hv, heq]
      · simp [heq]

/-- A layout of the members does not change which part comes last under each name. -/
theorem MembersRelaid.collect?_eq (h : MembersRelaid spellings relaid members members')
    (hrelaid : ∀ {t t'}, .table t ∈ members → relaid t t' → part? (.table t') = part? (.table t))
    (hname : ∀ {v name p}, part? v = some (name, p) →
      registeredName? spellings v = some (.str name)) :
    collect? part? members' = collect? part? members := by
  cases h with
  | member before after h =>
      have heq := hrelaid (List.mem_append_right _ List.mem_cons_self) h
      simp only [collect?, List.all_append, List.all_cons, List.filterMap_append,
        List.filterMap_cons, heq]
  | order hperm hnames =>
      have hlast : ∀ name, (members'.filterMap part?).reverse.lookup name =
          (members.filterMap part?).reverse.lookup name := fun name => by
        rw [lookup_parts hname, lookup_parts hname, hnames]
      simp only [collect?, hperm.symm.all_eq, hlast]

/-- A layout of members turns a table among them into one that it was or was laid out from. -/
theorem MembersRelaid.forall_tables {q : Entries Value → Prop}
    (h : MembersRelaid spellings relaid members members')
    (hrelaid : ∀ {t t'}, relaid t t' → q t → q t') (hq : ∀ t, .table t ∈ members → q t) :
    ∀ t, .table t ∈ members' → q t := by
  cases h with
  | @member before after entries entries' h =>
      intro t ht
      rcases List.mem_append.mp ht with ht | ht
      · exact hq t (List.mem_append_left _ ht)
      · rcases List.mem_cons.mp ht with ht | ht
        · obtain rfl := Value.table.inj ht
          exact hrelaid h (hq entries (List.mem_append_right _ List.mem_cons_self))
        · exact hq t (List.mem_append_right _ (List.mem_cons_of_mem _ ht))
  | order hperm hnames => exact fun t ht => hq t (hperm.mem_iff.mpr ht)

end

section

variable {entries entries' : Entries Value}

theorem memberList_congr {key : String} (h : Value.field? entries' key = Value.field? entries key) :
    memberList entries' key = memberList entries key := by
  rw [memberList, Value.field, h, memberList, Value.field]

theorem memberList_list {key : String} {items : List Value}
    (h : Value.field? entries key = some (.list items)) : memberList entries key = .ok items := by
  rw [memberList, Value.field, h, Option.getD_some]
  exact FunctionView.listItems_list items

/-- The lists under a key of two entries are the same, or related. -/
def ListsRelated (R : List Value → List Value → Prop) (key : String)
    (entries entries' : Entries Value) : Prop :=
  memberList entries' key = memberList entries key ∨ ∃ items items',
    memberList entries key = .ok items ∧ memberList entries' key = .ok items' ∧ R items items'

theorem listsRelated_of_field? {R : List Value → List Value → Prop} {key : String}
    (h : Value.field? entries' key = Value.field? entries key) :
    ListsRelated R key entries entries' :=
  .inl (memberList_congr h)

theorem listsRelated_replaced {R : List Value → List Value → Prop} {key : String}
    {before after : Entries Value} {items items' : List Value}
    (hd : Entries.Distinct (before ++ (.str key, .list items) :: after)) (h : R items items') :
    ListsRelated R key (before ++ (.str key, .list items) :: after)
      (before ++ (.str key, .list items') :: after) :=
  .inr ⟨items, items', memberList_list (hd.field?_replaced _), memberList_list
    (hd.field?_replaced _), h⟩

/-- What a layout of an entry keeps. -/
structure EntryKept (entries entries' : Entries Value) : Prop where
  distinct : entries'.Distinct
  name : Value.field? entries' "name" = Value.field? entries "name"
  description : Value.field? entries' "description" = Value.field? entries "description"
  imports : ListsRelated List.Perm "imports" entries entries'
  functions : ListsRelated FunctionsRelaid "functions" entries entries'
  properties : ListsRelated PropertiesRelaid "properties" entries entries'

theorem EntryRelaid.kept (h : EntryRelaid entries entries') (hd : entries.Distinct) :
    EntryKept entries entries' := by
  cases h with
  | keys h =>
      have hfield := hd.field?_perm h
      exact ⟨hd.perm h, hfield _, hfield _, listsRelated_of_field? (hfield _),
        listsRelated_of_field? (hfield _), listsRelated_of_field? (hfield _)⟩
  | imports before after h =>
      exact ⟨hd.replaced _, hd.field?_beside _ (by decide), hd.field?_beside _ (by decide),
        listsRelated_replaced hd h, listsRelated_of_field? (hd.field?_beside _ (by decide)),
        listsRelated_of_field? (hd.field?_beside _ (by decide))⟩
  | functions before after h =>
      exact ⟨hd.replaced _, hd.field?_beside _ (by decide), hd.field?_beside _ (by decide),
        listsRelated_of_field? (hd.field?_beside _ (by decide)), listsRelated_replaced hd h,
        listsRelated_of_field? (hd.field?_beside _ (by decide))⟩
  | properties before after h =>
      exact ⟨hd.replaced _, hd.field?_beside _ (by decide), hd.field?_beside _ (by decide),
        listsRelated_of_field? (hd.field?_beside _ (by decide)),
        listsRelated_of_field? (hd.field?_beside _ (by decide)), listsRelated_replaced hd h⟩

theorem ListsRelated.forall_items {R : List Value → List Value → Prop} {key : String}
    {q : List Value → Prop} (h : ListsRelated R key entries entries')
    (hR : ∀ {items items'}, R items items' → q items → q items')
    (hq : ∀ items, memberList entries key = .ok items → q items) :
    ∀ items, memberList entries' key = .ok items → q items := by
  intro items hitems
  rcases h with heq | ⟨before, after, hbefore, hafter, hrelated⟩
  · exact hq items (heq ▸ hitems)
  · obtain rfl := Except.ok.inj (hafter.symm.trans hitems)
    exact hR hrelated (hq before hbefore)

theorem EntryKept.plain (h : EntryKept entries entries') (hplain : PlainEntry entries) :
    PlainEntry entries' := by
  refine ⟨h.distinct, h.imports.forall_items ?_ hplain.imports,
    h.functions.forall_items ?_ hplain.functions, h.properties.forall_items ?_ hplain.properties⟩
  · exact fun hperm hall v hv => hall v (hperm.mem_iff.mpr hv)
  · exact fun hrelaid =>
      hrelaid.forall_tables fun hrelaid hplain => hplain.relaid FunctionField.Proper.perm hrelaid
  · exact fun hrelaid =>
      hrelaid.forall_tables fun hrelaid hplain => hplain.relaid (fun hf => hf.elim) hrelaid

theorem ListsRelated.bind_eq {R : List Value → List Value → Prop} {key : String} {β : Type}
    {f : List Value → Option β} (h : ListsRelated R key entries entries')
    (hf : ∀ {items items'}, memberList entries key = .ok items → R items items' →
      f items' = f items) :
    (memberList entries' key).toOption.bind f = (memberList entries key).toOption.bind f := by
  rcases h with heq | ⟨before, after, hbefore, hafter, hrelated⟩
  · rw [heq]
  · rw [hbefore, hafter]
    exact hf hbefore hrelated

/-- A layout does not change the digest of a plain entry. -/
theorem EntryKept.digest?_eq (h : EntryKept entries entries') (hplain : PlainEntry entries) :
    digest? entries' = digest? entries := by
  have himports := h.imports.bind_eq (f := some ∘ fun lines => {line | Value.str line ∈ lines})
    fun _ hperm => by simp only [Function.comp_apply, hperm.mem_iff]
  rw [← Option.map_eq_bind, ← Option.map_eq_bind] at himports
  have hfunctions := h.functions.bind_eq (f := collect? functionPart?) fun hlist hrelaid =>
    hrelaid.collect?_eq (fun ht => functionPart?_relaid (hplain.functions _ hlist _ ht))
      fun hsome => by
        obtain ⟨f, hf, -⟩ := functionPart?_eq_some.mp hsome
        exact hf.registeredName?_eq
  have hproperties := h.properties.bind_eq (f := collect? propertyPart?) fun hlist hrelaid =>
    hrelaid.collect?_eq (fun ht => propertyPart?_relaid (hplain.properties _ hlist _ ht))
      fun hsome => by
        obtain ⟨p, hp, -⟩ := propertyPart?_eq_some.mp hsome
        exact hp.registeredName?_eq
  simp only [digest?, Value.field, h.name, h.description, himports, hfunctions, hproperties]

end

end Document

end TypeStencil
