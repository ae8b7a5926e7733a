import Mathlib.Logic.Relation
import TypeStencil.Proofs.Document.Layouts
import TypeStencil.Proofs.Generation.Concatenation
import TypeStencil.Proofs.Generation.Contents

/-!
Generation and the layout of a document. The output of a class entry of texts goes by the digest of
the entry, so that documents that differ in their layouts only give the same artifacts.
-/
namespace TypeStencil

namespace Document

/-- What is generated of the entries with some digest. -/
def Digest.Gives (render : Renderer) (c : Config) (d : Digest) (o : Output) : Prop :=
  ∃ content : Content, content.identifiers = Identifiers.ofName d.name ∧
    content.description = d.lines ∧ content.Fits d.function? d.property? d.imports ∧
    content.output render c = .ok o

/-- The digest of a class entry; what is no table has none. -/
def digestOf? : Value → Option Digest
  | .table entries => digest? entries
  | _ => none

/-- A class entry made of texts, if it is a table. -/
def IsPlain (entry : Value) : Prop :=
  ∀ entries, entry = .table entries → PlainEntry entries

theorem exists_warningsOf {entry : Value} (hplain : IsPlain entry) {d : Digest}
    (h : digestOf? entry = some d) : ∃ ws, warningsOf entry = .ok ws := by
  rcases entry with s | items | entries
  · exact ⟨[], rfl⟩
  · exact ⟨[], rfl⟩
  · have hentry := hplain entries rfl
    obtain ⟨-, parts, hreads⟩ := exists_readsAs_of_digest? h hentry.imports
    obtain ⟨properties, hproperties, -⟩ := hreads.properties
    obtain ⟨functions, hfunctions, -⟩ := hreads.functions
    have hscalar : ∀ {v : Value}, v.isText = true → v.scalar?.isSome = true := fun hv => by
      obtain ⟨s, rfl⟩ := Value.isText_iff.mp hv
      rfl
    refine exists_entryWarnings hproperties hfunctions (fun t ht => ?_) fun t ht => ?_
    · have ht := (hentry.properties _ hproperties t ht).proper .propertyName
      rw [valuesOf_propertyName] at ht
      exact checkedName?_isSome fun v hv => hscalar (ht v hv)
    · have ht := (hentry.functions _ hfunctions t ht).proper .functionName
      rw [valuesOf_functionName] at ht
      exact checkedName?_isSome fun v hv => hscalar (ht v hv)

/-- A document whose class entries are made of texts. -/
def PlainDocument : Value → Prop
  | .table top => Entries.Distinct top ∧
    ∀ classes, Value.field? top "classes" = some (.list classes) → ∀ entry ∈ classes, IsPlain entry
  | _ => True

/-- One change to the layout of a document. -/
inductive DocumentRelaid : Value → Value → Prop where
  | entry (above below : Entries Value) (before after : List Value) {entries entries' : Entries Value}
      (h : EntryRelaid entries entries') :
      DocumentRelaid
        (.table (above ++
          (.str "classes", .list (before ++ .table entries :: after)) :: below))
        (.table (above ++
          (.str "classes", .list (before ++ .table entries' :: after)) :: below))

/-- Documents that differ in their layouts only. -/
def SameUpToLayout : Value → Value → Prop :=
  Relation.ReflTransGen DocumentRelaid

end Document

namespace Generation

open Descriptor Document

variable {render : Renderer} {c : Config}

theorem outputOf_eq_ok_iff {parts : Parts} (h : parts.AreTexts) (name : Value) {o : Output} :
    (outputOf render c (parts.model (.ofName name))).result = .ok o ↔
      (parts.digest name).Gives render c o := by
  obtain ⟨content, hids, hdescription, hfits, -, houtput⟩ := exists_output h name
  rw [houtput]
  constructor
  · exact fun ho => ⟨content, hids, hdescription, hfits, ho⟩
  · rintro ⟨content', hids', hdescription', hfits', ho⟩
    rwa [hfits.unique hfits' (hids.trans hids'.symm) (hdescription.trans hdescription'.symm)]

/-- The output of an entry goes by its digest. -/
theorem outputOfEntry_eq_ok_iff {entry : Value} (hplain : IsPlain entry) {o : Output} :
    (outputOfEntry render c entry).result = .ok o ↔
      ∃ d, digestOf? entry = some d ∧ d.Gives render c o := by
  rw [outputOfEntry_eq_ok]
  constructor
  · rintro ⟨entries, name, m, hentry, hm, ho⟩
    obtain ⟨rfl, hname⟩ := entryName_eq_ok hentry
    obtain ⟨parts, hreads, rfl⟩ := modelOf_eq_ok.mp hm
    have htexts := (hplain entries rfl).areTexts hreads
    exact ⟨parts.digest name, digest?_of_readsAs hname hreads htexts,
      (outputOf_eq_ok_iff htexts name).mp ho⟩
  · rintro ⟨d, hd, ho⟩
    rcases entry with s | items | entries
    · cases hd
    · cases hd
    · obtain ⟨hname, parts, hreads⟩ :=
        exists_readsAs_of_digest? hd (hplain entries rfl).imports
      have htexts := (hplain entries rfl).areTexts hreads
      have hdigest : parts.digest d.name = d :=
        Option.some.inj ((digest?_of_readsAs hname hreads htexts).symm.trans hd)
      exact ⟨entries, _, _, by rw [entryName, hname], modelOf_eq_ok.mpr ⟨parts, hreads, rfl⟩,
        (outputOf_eq_ok_iff htexts _).mpr (hdigest ▸ ho)⟩

section

variable {fs : FileSystem} {given : Option Renderer} {document document' : Value}

/-- The entries of a document of texts are made of texts. -/
theorem isPlain_of_classEntries {classes : List Value} (hplain : PlainDocument document)
    (h : classEntries document = .ok classes) : ∀ entry ∈ classes, IsPlain entry := by
  rcases document with s | items | top
  · cases h
  · cases h
  · refine hplain.2 classes ?_
    simp only [classEntries] at h
    split at h
    · next hfield => rw [hfield, Except.ok.inj h]
    · cases h

/-- A document of texts is generated by the digests of its entries. -/
theorem runWith_eq_ok_iff {names : NameService} (hnames : names.Faithful)
    (hplain : PlainDocument document) {os : List Output} :
    (∃ ws, (runWith names fs c given document).result = .ok ⟨os, ws⟩) ↔
      ∃ digests render, (classEntries document).map (List.map digestOf?) = .ok digests ∧
        (rendererOf fs c given).result = .ok render ∧
        List.Forall₂ (fun d? o => ∃ d, d? = some d ∧ d.Gives render c o) digests os ∧
        (os.map fun o => o.artifact.fileName).Nodup := by
  have hforall : ∀ {classes render}, classEntries document = .ok classes →
      (List.Forall₂ (fun entry o => (outputOfEntry render c entry).result = .ok o) classes os ↔
        List.Forall₂ (fun d? o => ∃ d, d? = some d ∧ d.Gives render c o)
          (classes.map digestOf?) os) := by
    intro classes render hclasses
    rw [List.forall₂_map_left_iff]
    have hentries := isPlain_of_classEntries hplain hclasses
    constructor
    · exact fun h => ((List.forall₂_and_left _ _).mpr ⟨hentries, h⟩).imp fun entry o h =>
        (outputOfEntry_eq_ok_iff h.1).mp h.2
    · exact fun h => ((List.forall₂_and_left _ _).mpr ⟨hentries, h⟩).imp fun entry o h =>
        (outputOfEntry_eq_ok_iff h.1).mpr h.2
  simp only [runWith_eq_ok, outputs_eq_ok hnames, Generated.artifacts, List.map_map]
  constructor
  · rintro ⟨ws, classes, render, hclasses, hrender, -, hos, hnodup⟩
    exact ⟨_, render, by rw [hclasses]; rfl, hrender, (hforall hclasses).mp hos, hnodup⟩
  · rintro ⟨digests, render, hdigests, hrender, hos, hnodup⟩
    cases hclasses : classEntries document with
    | error f =>
        rw [hclasses] at hdigests
        cases hdigests
    | ok classes =>
        rw [hclasses] at hdigests
        obtain rfl : classes.map digestOf? = digests := Except.ok.inj hdigests
        have hentries := List.forall₂_map_left_iff.mp hos
        have hdigest : ∀ entry ∈ classes, ∃ d, digestOf? entry = some d :=
          forall_mem_right hentries.flip fun _ _ _ hd => hd.imp fun _ h => h.1
        obtain ⟨ws, hws⟩ := exists_listWarnings fun entry hentry =>
          (hdigest entry hentry).elim fun _ =>
            exists_warningsOf (isPlain_of_classEntries hplain hclasses entry hentry)
        exact ⟨ws, classes, render, rfl, hrender, hws, (hforall hclasses).mpr hos, hnodup⟩

/-- A change of layout keeps a document one of texts, and the digests of its entries. -/
theorem DocumentRelaid.kept (h : DocumentRelaid document document')
    (hplain : PlainDocument document) :
    PlainDocument document' ∧ (classEntries document').map (List.map digestOf?) =
      (classEntries document).map (List.map digestOf?) := by
  obtain @⟨above, below, before, after, entries, entries', h⟩ := h
  obtain ⟨hdistinct, hentries⟩ := hplain
  have hfield := hdistinct.field?_replaced (.list (before ++ .table entries :: after))
  have hfield' := hdistinct.field?_replaced (.list (before ++ .table entries' :: after))
  have hentries := hentries _ hfield
  have hentry : PlainEntry entries :=
    hentries _ (List.mem_append_right _ List.mem_cons_self) entries rfl
  have hkept := h.kept hentry.distinct
  refine ⟨⟨hdistinct.replaced _, fun classes hclasses => ?_⟩, ?_⟩
  · obtain rfl := Value.list.inj (Option.some.inj (hfield'.symm.trans hclasses))
    simp only [List.forall_mem_append, List.forall_mem_cons] at hentries ⊢
    refine ⟨hentries.1, fun t ht => ?_, hentries.2.2⟩
    obtain rfl := Value.table.inj ht
    exact hkept.plain hentry
  · simp only [classEntries, hfield, hfield', Except.map, List.map_append, List.map_cons,
      digestOf?, hkept.digest?_eq hentry]

theorem SameUpToLayout.kept (h : SameUpToLayout document document')
    (hplain : PlainDocument document) :
    PlainDocument document' ∧ (classEntries document').map (List.map digestOf?) =
      (classEntries document).map (List.map digestOf?) := by
  induction h with
  | refl => exact ⟨hplain, rfl⟩
  | tail _ hstep ih =>
      obtain ⟨hplain, hdigests⟩ := ih
      obtain ⟨hplain', hdigests'⟩ := DocumentRelaid.kept hstep hplain
      exact ⟨hplain', hdigests'.trans hdigests⟩

theorem report_congr {x x' : Except Fault Generated}
    (h : ∀ os, (∃ ws, x = .ok ⟨os, ws⟩) ↔ ∃ ws, x' = .ok ⟨os, ws⟩) :
    (Report.of x').success = (Report.of x).success ∧
      (Report.of x').artifacts = (Report.of x).artifacts ∧
      (Report.of x').paths = (Report.of x).paths ∧
      (Report.of x').counts = (Report.of x).counts := by
  cases x with
  | ok g =>
      obtain ⟨ws, rfl⟩ := (h g.outputs).mp ⟨g.warnings, rfl⟩
      exact ⟨rfl, rfl, rfl, rfl⟩
  | error f =>
      cases x' with
      | ok g =>
          obtain ⟨ws, hws⟩ := (h g.outputs).mpr ⟨g.warnings, rfl⟩
          cases hws
      | error f' => exact ⟨rfl, rfl, rfl, rfl⟩

/-- Documents of texts that differ in their layouts only are generated alike: both or neither, with
the same artifacts, paths and counts. -/
theorem report_of_layout (asked asked' : List Value) (fs : FileSystem) (c : Config)
    (given : Option Renderer) (hplain : PlainDocument document)
    (h : SameUpToLayout document document') :
    let report := Report.of (runWith (.asked asked) fs c given document).result
    let report' := Report.of (runWith (.asked asked') fs c given document').result
    report'.success = report.success ∧ report'.artifacts = report.artifacts ∧
      report'.paths = report.paths ∧ report'.counts = report.counts := by
  obtain ⟨hplain', hdigests⟩ := SameUpToLayout.kept h hplain
  refine report_congr fun os => ?_
  rw [runWith_eq_ok_iff (NameService.faithful_asked asked) hplain,
    runWith_eq_ok_iff (NameService.faithful_asked asked') hplain', hdigests]

/-- A class whose keys are reversed, with a field that is respelled, a name that spells no field,
and import lines that are exchanged. -/
theorem report_of_layout_reversed :
    let id (spelling : String) : Entries Value := [(.str spelling, .str "id"),
      (.str "value", .str "string"), (.str "import", .str "import c;")]
    let load (more : Entries Value) (lines : List String) : Entries Value :=
      [(.str "functionName", .str "load"), (.str "httpMethod", .str "get"),
        (.str "originalPath", .str "/users")] ++ more ++ [(.str "imports", .strings lines)]
    let user (spelling : String) (more : Entries Value) (lines : List String) : Entries Value :=
      [(.str "name", .str "User"), (.str "properties", .list [.table (id spelling)]),
        (.str "functions", .list [.table (load more lines)])]
    let note : Entries Value := [(.str "note", .int 1)]
    let document := documentOf [.table (user "property_name" [] ["import a;", "import b;"])]
    let document' :=
      documentOf [.table (user "propertyName" note ["import b;", "import a;"]).reverse]
    PlainDocument document ∧ SameUpToLayout document document' ∧
      let report := Report.of (runWith (.asked []) ⟨[], []⟩ .default none document).result
      let report' := Report.of
        (runWith (.asked [.str "Role"]) ⟨[], []⟩ .default none document').result
      report'.success = report.success ∧ report'.artifacts = report.artifacts ∧
        report'.paths = report.paths ∧ report'.counts = report.counts := by
  intro id load user note document document'
  have hproperty : Plain PropertyField.ofSpelling? PropertyField.Proper (id "property_name") := by
    refine ⟨fun f => by cases f <;> decide, fun f v hv => ?_⟩
    cases f with
    | propertyName =>
        obtain rfl : v = .str "id" := List.mem_singleton.mp hv
        rfl
    | importName =>
        obtain rfl : v = .str "import c;" := List.mem_singleton.mp hv
        exact fun _ => rfl
    | _ => trivial
  have hfunction : Plain FunctionField.ofSpelling? FunctionField.Proper
      (load [] ["import a;", "import b;"]) := by
    refine ⟨fun f => by cases f <;> decide, fun f v hv => ?_⟩
    cases f with
    | functionName =>
        obtain rfl : v = .str "load" := List.mem_singleton.mp hv
        rfl
    | imports =>
        obtain rfl : v = .strings ["import a;", "import b;"] := List.mem_singleton.mp hv
        rintro _ ⟨⟩ line hline -
        obtain ⟨text, -, rfl⟩ := List.mem_map.mp hline
        rfl
    | _ => trivial
  have hplain : PlainDocument document := by
    refine ⟨by decide, ?_⟩
    rintro _ ⟨⟩ entry hentry entries rfl
    obtain rfl := Value.table.inj (List.mem_singleton.mp hentry)
    refine ⟨by decide, ?_, ?_, ?_⟩
    · rintro _ ⟨⟩ v hv
      cases hv
    · rintro _ ⟨⟩ t ht
      exact Value.table.inj (List.mem_singleton.mp ht) ▸ hfunction
    · rintro _ ⟨⟩ t ht
      exact Value.table.inj (List.mem_singleton.mp ht) ▸ hproperty
  have hlayout : SameUpToLayout document document' := by
    have hstep : ∀ {entries entries'}, EntryRelaid entries entries' →
        SameUpToLayout (documentOf [.table entries]) (documentOf [.table entries']) :=
      fun h => .single (.entry [] [] [] [] h)
    have hspelled : EntryRelaid (user "property_name" [] ["import a;", "import b;"])
        (user "propertyName" [] ["import a;", "import b;"]) :=
      .properties [_] [_] (MembersRelaid.member [] [] (.spelling [] [_, _] _ rfl rfl))
    have hnoted : EntryRelaid (user "propertyName" [] ["import a;", "import b;"])
        (user "propertyName" note ["import a;", "import b;"]) :=
      .functions [_, _] [] (MembersRelaid.member [] [] (.unknown [_, _, _] [_] rfl))
    have hexchanged : EntryRelaid (user "propertyName" note ["import a;", "import b;"])
        (user "propertyName" note ["import b;", "import a;"]) :=
      .functions [_, _] [] (MembersRelaid.member [] []
        (.list [_, _, _, _] [] rfl rfl (.swap _ _ [])))
    exact (hstep hspelled).trans ((hstep hnoted).trans ((hstep hexchanged).trans
      (hstep (.keys (List.reverse_perm _).symm))))
  exact ⟨hplain, hlayout, report_of_layout [] [.str "Role"] ⟨[], []⟩ .default none hplain hlayout⟩

end

end Generation

end TypeStencil
