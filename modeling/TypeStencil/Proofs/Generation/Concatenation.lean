import Mathlib.Algebra.GroupWithZero.Nat
import Mathlib.Data.List.Forall2
import TypeStencil.Generation
import TypeStencil.Proofs.Naming.Remembering
import TypeStencil.Proofs.Sequencing

/-!
Generation entry by entry. A document with several class entries gives what the documents with one
of them each give, one after the other, as long as no two of the files have the same name.
-/
namespace TypeStencil

namespace Document

/-- The warnings about one entry of a document. -/
def warningsOf : Value → Except TypeFault (List String)
  | .table entries => entryWarnings entries
  | _ => .ok []

theorem listWarnings_cons (entry : Value) (rest : List Value) :
    listWarnings (entry :: rest) = do
      return (← warningsOf entry) ++ (← listWarnings rest) := by
  rcases entry with s | items | entries
  · simp [listWarnings, warningsOf, ok_bind]
  · simp [listWarnings, warningsOf, ok_bind]
  · rfl

/-- The warnings about all entries can be told if those about each one can. -/
theorem exists_listWarnings {classes : List Value}
    (h : ∀ entry ∈ classes, ∃ ws, warningsOf entry = .ok ws) :
    ∃ ws, listWarnings classes = .ok ws := by
  induction classes with
  | nil => exact ⟨[], rfl⟩
  | cons entry rest ih =>
      rw [List.forall_mem_cons] at h
      obtain ⟨first, hfirst⟩ := h.1
      obtain ⟨more, hmore⟩ := ih h.2
      exact ⟨first ++ more, by rw [listWarnings_cons, hfirst, ok_bind, hmore]; rfl⟩

theorem buildModel_eq_ok {names names' : NameService} (h : names.Faithful) {entry : Value}
    {m : ClassModel} :
    (buildModel names entry).result = .ok (names', m) ↔
      ∃ entries name, entryName entry = .ok (entries, name) ∧
        names' = (names.identifiers name).1 ∧
        (modelOf (Identifiers.ofName name) entries name).result = .ok m := by
  simp only [buildModel, Traced.bind_eq_ok]
  constructor
  · rintro ⟨⟨entries, name⟩, hentry, m', hm, hout⟩
    cases hout
    rw [(h.identifiers name).1] at hm
    exact ⟨entries, name, mapError_eq_ok.mp hentry, rfl, hm⟩
  · rintro ⟨entries, name, hentry, rfl, hm⟩
    rw [← (h.identifiers name).1] at hm
    exact ⟨(entries, name), mapError_eq_ok.mpr hentry, m, hm, rfl⟩

end Document

namespace Generation

variable {render : Renderer} {c : Config}

/-- The output of one entry of a document. -/
def outputOfEntry (render : Renderer) (c : Config) (entry : Value) : Traced Output := do
  let (entries, name) ← Traced.of ((Document.entryName entry).mapError .generator)
  let m ← Document.modelOf (Identifiers.ofName name) entries name
  outputOf render c m

theorem outputOfEntry_eq_ok {entry : Value} {output : Output} :
    (outputOfEntry render c entry).result = .ok output ↔
      ∃ entries name m, Document.entryName entry = .ok (entries, name) ∧
        (Document.modelOf (Identifiers.ofName name) entries name).result = .ok m ∧
        (outputOf render c m).result = .ok output := by
  simp only [outputOfEntry, Traced.bind_eq_ok]
  constructor
  · rintro ⟨⟨entries, name⟩, hentry, m, hm, hout⟩
    exact ⟨entries, name, m, mapError_eq_ok.mp hentry, hm, hout⟩
  · rintro ⟨entries, name, m, hentry, hm, hout⟩
    exact ⟨(entries, name), mapError_eq_ok.mpr hentry, m, hm, hout⟩

section

variable {names : NameService}

theorem outputs_cons_of_ok {entry name : Value} {entries : Entries Value}
    (h : Document.entryName entry = .ok (entries, name)) (rest : List Value) :
    outputs render c names (entry :: rest) = do
      let o ← Document.modelOf (names.identifiers name).2 entries name >>= outputOf render c
      return o :: (← outputs render c (names.identifiers name).1 rest) := by
  simp only [outputs, Document.buildModel, h, Except.mapError, Traced.of_ok_bind, bind_assoc,
    pure_bind]

theorem outputs_cons_of_error {entry : Value} {f : GeneratorFault}
    (h : Document.entryName entry = .error f) (rest : List Value) :
    outputs render c names (entry :: rest) = Traced.of (.error (.generator f)) := by
  simp only [outputs, Document.buildModel, h, Except.mapError, Traced.of_error_bind]

/-- A faithful service gives out the names that the entries have by themselves, so that those it
gives out to earlier entries do not matter to later ones. -/
theorem outputs_eq_mapM (h : names.Faithful) (classes : List Value) :
    outputs render c names classes = classes.mapM (outputOfEntry render c) := by
  induction classes generalizing names with
  | nil => simp only [outputs, List.mapM_nil]
  | cons entry rest ih =>
      rw [List.mapM_cons, outputOfEntry]
      cases hentry : Document.entryName entry with
      | error f => simp only [outputs_cons_of_error hentry, Except.mapError, Traced.of_error_bind]
      | ok found =>
          obtain ⟨hidentifiers, hfaithful⟩ := h.identifiers found.2
          simp only [outputs_cons_of_ok hentry, hidentifiers, ih hfaithful, Except.mapError,
            Traced.of_ok_bind]

theorem outputs_eq_ok (h : names.Faithful) {classes : List Value} {os : List Output} :
    (outputs render c names classes).result = .ok os ↔
      List.Forall₂ (fun entry o => (outputOfEntry render c entry).result = .ok o) classes os := by
  rw [outputs_eq_mapM h, Traced.mapM_eq_ok]

end

theorem checkFiles_eq_ok {seen artifacts : List Artifact} :
    checkFiles seen artifacts = .ok () ↔
      (artifacts.map Artifact.fileName).Nodup ∧
        ∀ a ∈ artifacts, ∀ b ∈ seen, b.fileName ≠ a.fileName := by
  induction artifacts generalizing seen with
  | nil => simp [checkFiles]
  | cons a rest ih =>
      rw [checkFiles]
      cases hfind : seen.find? fun b => b.fileName == a.fileName with
      | some b =>
          have heq := List.find?_some hfind
          rw [beq_iff_eq] at heq
          have hb : b ∈ seen := List.mem_of_find?_eq_some hfind
          simp only [reduceCtorEq, false_iff, not_and]
          exact fun _ hall => hall a List.mem_cons_self b hb heq
      | none =>
          have hnone : ∀ b ∈ seen, b.fileName ≠ a.fileName := by
            simpa [List.find?_eq_none] using hfind
          simp only [ih, List.map_cons, List.nodup_cons, List.forall_mem_cons, List.mem_map]
          grind

/-- A document with some class entries. -/
def documentOf (classes : List Value) : Value :=
  .object [("classes", .list classes)]

theorem classEntries_documentOf (classes : List Value) :
    classEntries (documentOf classes) = .ok classes := rfl

theorem warnings_of_classEntries {document : Value} {classes : List Value}
    (h : classEntries document = .ok classes) :
    Document.warnings document = (Document.listWarnings classes).mapError .type := by
  unfold classEntries at h
  split at h
  · next entries =>
      split at h
      · next found hfield =>
          obtain rfl := Except.ok.inj h
          simp only [Document.warnings, Value.field, hfield, Option.getD_some]
          cases found <;> rfl
      · cases h
  · cases h

section

variable {fs : FileSystem} {given : Option Renderer}

/-- What a document with one entry gives. -/
def Yields (fs : FileSystem) (c : Config) (given : Option Renderer) (entry : Value)
    (g : Generated) : Prop :=
  ∃ render warnings output, (rendererOf fs c given).result = .ok render ∧
    Document.warningsOf entry = .ok warnings ∧
    (outputOfEntry render c entry).result = .ok output ∧ g = ⟨[output], warnings⟩

theorem result_runWith (names : NameService) (document : Value) :
    (runWith names fs c given document).result = (attempt names fs c given document).result := by
  unfold runWith
  cases h : (attempt names fs c given document).result <;> simp [h]

theorem runWith_eq_ok {names : NameService} {document : Value} {g : Generated} :
    (runWith names fs c given document).result = .ok g ↔
      ∃ classes render, classEntries document = .ok classes ∧
        (rendererOf fs c given).result = .ok render ∧
        Document.listWarnings classes = .ok g.warnings ∧
        (outputs render c names classes).result = .ok g.outputs ∧
        (g.artifacts.map Artifact.fileName).Nodup := by
  simp only [result_runWith, attempt, Traced.bind_eq_ok]
  constructor
  · rintro ⟨classes, hclasses, render, hrender, warnings, hw, os, hos, _, hcheck, _, -, ⟨⟩⟩
    have hentries := mapError_eq_ok.mp hclasses
    rw [warnings_of_classEntries hentries] at hw
    exact ⟨classes, render, hentries, hrender, mapError_eq_ok.mp hw, hos,
      (checkFiles_eq_ok.mp (mapError_eq_ok.mp hcheck)).1⟩
  · rintro ⟨classes, render, hentries, hrender, hw, hos, hnodup⟩
    refine ⟨classes, mapError_eq_ok.mpr hentries, render, hrender, g.warnings, ?_, g.outputs, hos,
      (), ?_, (), rfl, rfl⟩
    · rw [warnings_of_classEntries hentries]
      exact mapError_eq_ok.mpr hw
    · exact mapError_eq_ok.mpr (checkFiles_eq_ok.mpr ⟨hnodup, by simp⟩)

theorem forall₂_yields {render : Renderer} (hrender : (rendererOf fs c given).result = .ok render)
    {classes : List Value} {warnings : List String} {os : List Output} :
    (Document.listWarnings classes = .ok warnings ∧
      List.Forall₂ (fun entry o => (outputOfEntry render c entry).result = .ok o) classes os) ↔
      ∃ gs, List.Forall₂ (Yields fs c given) classes gs ∧
        os = gs.flatMap Generated.outputs ∧ warnings = gs.flatMap Generated.warnings := by
  induction classes generalizing warnings os with
  | nil =>
      simp only [Document.listWarnings, List.forall₂_nil_left_iff, Except.ok.injEq]
      constructor
      · rintro ⟨rfl, rfl⟩
        exact ⟨[], rfl, rfl, rfl⟩
      · rintro ⟨_, rfl, rfl, rfl⟩
        exact ⟨rfl, rfl⟩
  | cons entry rest ih =>
      simp only [Document.listWarnings_cons, bind_eq_ok, List.forall₂_cons_left_iff]
      constructor
      · rintro ⟨⟨first, hfirst, more, hmore, hw⟩, o, os', ho, hos', rfl⟩
        cases hw
        obtain ⟨gs, hgs, rfl, rfl⟩ := ih.mp ⟨hmore, hos'⟩
        exact ⟨⟨[o], first⟩ :: gs, ⟨_, gs, ⟨render, first, o, hrender, hfirst, ho, rfl⟩, hgs, rfl⟩,
          rfl, rfl⟩
      · rintro ⟨_, ⟨_, gs, ⟨render', first, o, hrender', hfirst, ho, rfl⟩, hgs, rfl⟩, rfl, rfl⟩
        rw [hrender] at hrender'
        cases hrender'
        obtain ⟨hmore, hos'⟩ := ih.mpr ⟨gs, hgs, rfl, rfl⟩
        exact ⟨⟨first, hfirst, _, hmore, rfl⟩, o, _, ho, hos', rfl⟩

/-- A document with entries gives what they give by themselves, if no two files have one name. -/
theorem runWith_cons_eq_ok {names : NameService} (h : names.Faithful) {first : Value}
    {rest : List Value} {g : Generated} :
    (runWith names fs c given (documentOf (first :: rest))).result = .ok g ↔
      ∃ gs, List.Forall₂ (Yields fs c given) (first :: rest) gs ∧
        g = ⟨gs.flatMap Generated.outputs, gs.flatMap Generated.warnings⟩ ∧
        (g.artifacts.map Artifact.fileName).Nodup := by
  simp only [runWith_eq_ok, outputs_eq_ok h, classEntries_documentOf, Except.ok.injEq]
  constructor
  · rintro ⟨_, render, rfl, hrender, hw, hos, hnodup⟩
    obtain ⟨gs, hgs, hos', hw'⟩ := (forall₂_yields hrender).mp ⟨hw, hos⟩
    exact ⟨gs, hgs, by rw [← hos', ← hw'], hnodup⟩
  · rintro ⟨gs, hgs, rfl, hnodup⟩
    obtain ⟨_, _, ⟨render, _, _, hrender, -⟩, -⟩ := List.forall₂_cons_left_iff.mp hgs
    obtain ⟨hw, hos⟩ := (forall₂_yields hrender).mpr ⟨gs, hgs, rfl, rfl⟩
    exact ⟨_, render, rfl, hrender, hw, hos, hnodup⟩

theorem runWith_single_eq_ok {names : NameService} (h : names.Faithful) {entry : Value}
    {g : Generated} :
    (runWith names fs c given (documentOf [entry])).result = .ok g ↔ Yields fs c given entry g := by
  rw [runWith_cons_eq_ok h]
  constructor
  · rintro ⟨_, hgs, rfl, -⟩
    obtain ⟨g, _, hg, hnil, rfl⟩ := List.forall₂_cons_left_iff.mp hgs
    obtain rfl := List.forall₂_nil_left_iff.mp hnil
    obtain ⟨render, warnings, o, hrender, hw, ho, rfl⟩ := hg
    exact ⟨render, warnings, o, hrender, hw, ho, by simp⟩
  · rintro ⟨render, warnings, o, hrender, hw, ho, rfl⟩
    refine ⟨[⟨[o], warnings⟩], .cons ⟨render, warnings, o, hrender, hw, ho, rfl⟩ .nil, ?_, ?_⟩
    · simp
    · simp [Generated.artifacts]

end

/-- The report on a document with some class entries, after some names were asked for. -/
def reportOn (asked : List Value) (fs : FileSystem) (c : Config) (given : Option Renderer)
    (classes : List Value) : Report :=
  Report.of (runWith (.asked asked) fs c given (documentOf classes)).result

section

variable {asked : List Value} {fs : FileSystem} {given : Option Renderer}

theorem counts_flatMap (gs : List Generated) (warnings : List String) :
    (Generated.mk (gs.flatMap Generated.outputs) warnings).counts =
      ⟨(gs.map fun g => g.counts.artifacts).sum, (gs.map fun g => g.counts.interfaces).sum,
        (gs.map fun g => g.counts.classes).sum⟩ := by
  induction gs with
  | nil => rfl
  | cons g rest ih =>
      have hle := List.length_filter_le (·.isInterface) g.outputs
      have hle' := List.length_filter_le (·.isInterface) (rest.flatMap Generated.outputs)
      simp only [Generated.counts, Counts.mk.injEq, List.flatMap_cons, List.map_cons,
        List.sum_cons, List.length_append, List.filter_append] at ih ⊢
      omega

theorem classes_add_interfaces (g : Generated) :
    g.counts.classes + g.counts.interfaces = g.counts.artifacts :=
  Nat.sub_add_cancel (List.length_filter_le _ _)

theorem filterMap_counts (gs : List Generated) :
    (gs.map fun g => Report.of (.ok g)).filterMap Report.counts = gs.map Generated.counts := by
  rw [List.filterMap_map]
  exact congrFun List.filterMap_eq_map' gs

theorem success_of {result : Except Fault Generated} :
    (Report.of result).success = true ↔ ∃ g, result = .ok g := by
  cases result <;> simp [Report.of]

theorem reportOn_of_yields {entry : Value} {g : Generated} (h : Yields fs c given entry g) :
    reportOn asked fs c given [entry] = Report.of (.ok g) := by
  rw [reportOn, (runWith_single_eq_ok (NameService.faithful_asked asked)).mpr h]

theorem reportOn_single_success {entry : Value} :
    (reportOn asked fs c given [entry]).success = true ↔ ∃ g, Yields fs c given entry g := by
  simp only [reportOn, success_of, runWith_single_eq_ok (NameService.faithful_asked asked)]

theorem reportOn_cons_success {first : Value} {rest : List Value} :
    (reportOn asked fs c given (first :: rest)).success = true ↔
      ∃ gs, List.Forall₂ (Yields fs c given) (first :: rest) gs ∧
        ((gs.flatMap Generated.artifacts).map Artifact.fileName).Nodup := by
  simp only [reportOn, success_of, runWith_cons_eq_ok (NameService.faithful_asked asked)]
  constructor
  · rintro ⟨_, gs, hgs, rfl, hnodup⟩
    exact ⟨gs, hgs, by simpa only [Generated.artifacts, List.map_flatMap] using hnodup⟩
  · rintro ⟨gs, hgs, hnodup⟩
    exact ⟨_, gs, hgs, rfl, by simpa only [Generated.artifacts, List.map_flatMap] using hnodup⟩

/-- The reports on single entries are all successes if, and only if, each entry yields something. -/
theorem forall_success_iff {earlier : Value → List Value} {classes : List Value} :
    (∀ r ∈ classes.map fun entry => reportOn (earlier entry) fs c given [entry],
      r.success = true) ↔
      ∃ gs, List.Forall₂ (Yields fs c given) classes gs := by
  induction classes with
  | nil => simp
  | cons entry rest ih =>
      rw [List.map_cons, List.forall_mem_cons, reportOn_single_success, ih]
      simp only [List.forall₂_cons_left_iff]
      constructor
      · rintro ⟨⟨g, hg⟩, gs, hgs⟩
        exact ⟨g :: gs, g, gs, hg, hgs, rfl⟩
      · rintro ⟨_, g, gs, hg, hgs, rfl⟩
        exact ⟨⟨g, hg⟩, gs, hgs⟩

theorem map_reportOn {earlier : Value → List Value} {classes : List Value} {gs : List Generated}
    (h : List.Forall₂ (Yields fs c given) classes gs) :
    classes.map (fun entry => reportOn (earlier entry) fs c given [entry]) =
      gs.map fun g => Report.of (.ok g) := by
  induction h with
  | nil => rfl
  | cons hg _ ih => rw [List.map_cons, List.map_cons, reportOn_of_yields hg, ih]

/-- Every entry yields one artifact. -/
theorem length_of_yields {classes : List Value} {gs : List Generated}
    (h : List.Forall₂ (Yields fs c given) classes gs) :
    (gs.flatMap Generated.outputs).length = classes.length := by
  induction h with
  | nil => rfl
  | cons hg _ ih =>
      obtain ⟨_, _, _, -, -, -, rfl⟩ := hg
      rw [List.flatMap_cons, List.length_append, ih, List.length_singleton, List.length_cons,
        Nat.add_comm]

end

/-- A generation works class by class. -/
theorem report_concatenates (asked : List Value) (earlier : Value → List Value) (fs : FileSystem)
    (c : Config) (given : Option Renderer) (first : Value) (rest : List Value) :
    let whole := reportOn asked fs c given (first :: rest)
    let singles := (first :: rest).map fun entry => reportOn (earlier entry) fs c given [entry]
    (whole.success = true ↔
      (∀ r ∈ singles, r.success = true) ∧
        ((singles.flatMap Report.artifacts).map Artifact.fileName).Nodup) ∧
    (whole.success = true →
      whole.artifacts = singles.flatMap Report.artifacts ∧
      whole.paths = singles.flatMap Report.paths ∧
      whole.warnings = singles.flatMap Report.warnings ∧
      ∃ counts, whole.counts = some counts ∧
        counts.artifacts = ((singles.filterMap Report.counts).map Counts.artifacts).sum ∧
        counts.interfaces = ((singles.filterMap Report.counts).map Counts.interfaces).sum ∧
        counts.classes = ((singles.filterMap Report.counts).map Counts.classes).sum ∧
        counts.classes + counts.interfaces = counts.artifacts ∧
        counts.artifacts = (first :: rest).length) ∧
    (whole.success = false →
      whole.artifacts = [] ∧ whole.paths = [] ∧ whole.warnings = [] ∧ whole.counts = none) := by
  intro whole singles
  have hsingles : ∀ {gs}, List.Forall₂ (Yields fs c given) (first :: rest) gs →
      singles = gs.map fun g => Report.of (.ok g) := map_reportOn
  refine ⟨?_, ?_, ?_⟩
  · rw [reportOn_cons_success, forall_success_iff]
    constructor
    · rintro ⟨gs, hgs, hnodup⟩
      refine ⟨⟨gs, hgs⟩, ?_⟩
      rw [hsingles hgs, List.flatMap_map]
      exact hnodup
    · rintro ⟨⟨gs, hgs⟩, hnodup⟩
      rw [hsingles hgs, List.flatMap_map] at hnodup
      exact ⟨gs, hgs, hnodup⟩
  · intro hsuccess
    obtain ⟨g, hg⟩ := success_of.mp hsuccess
    obtain ⟨gs, hgs, rfl, -⟩ := (runWith_cons_eq_ok (NameService.faithful_asked asked)).mp hg
    have hwhole : whole = Report.of (.ok ⟨gs.flatMap Generated.outputs,
      gs.flatMap Generated.warnings⟩) := congrArg Report.of hg
    have hcounts := counts_flatMap gs (gs.flatMap Generated.warnings)
    rw [hwhole, hsingles hgs, filterMap_counts, List.map_map, List.map_map, List.map_map]
    refine ⟨?_, ?_, ?_, _, rfl, congrArg Counts.artifacts hcounts, congrArg Counts.interfaces hcounts,
      congrArg Counts.classes hcounts, classes_add_interfaces _, length_of_yields hgs⟩
    · rw [List.flatMap_map]
      exact List.map_flatMap
    · rw [List.flatMap_map]
      exact List.map_flatMap
    · rw [List.flatMap_map]
      rfl
  · intro hfailure
    cases hresult : (runWith (.asked asked) fs c given (documentOf (first :: rest))).result with
    | ok g => simp [whole, reportOn, hresult, Report.of] at hfailure
    | error f =>
        have hwhole : whole = Report.of (.error f) := congrArg Report.of hresult
        rw [hwhole]
        exact ⟨rfl, rfl, rfl, rfl⟩

end Generation

end TypeStencil
