import TypeStencil.Proofs.Document.WellFormed
import TypeStencil.Proofs.Generation.Contents

/-!
Generation of well-formed documents with the packaged templates. It fails if two files have the same
name, and names the first two classes of which this is so; otherwise it succeeds, unless the lines
of a member should be moved further to the right than there is room for.
-/
namespace TypeStencil

/-- The packaged templates under their own names, an indentation of so many spaces, and folders that
are texts. -/
structure Config.IsPackaged (c : Config) (n : Nat) : Prop where
  templateDir : c.templateDir.isPresent = false
  templates : c.templateNames = Config.default.templateNames
  indentSize : c.indentSize = .int n
  outputDir : ∃ s, c.outputDir = .str s
  interfaceFolder : ∃ s, c.interfaceFolder = .str s
  classFolder : ∃ s, c.classFolder = .str s

def Artifact.identifiers (a : Artifact) : Identifiers := ⟨a.typeName, a.fileName⟩

namespace Document

/-- The names of a class entry. -/
def identifiersOf : Value → Identifiers
  | .table entries => .ofName (Value.field entries "name")
  | _ => .ofName .null

/-- A class entry without members. -/
def HasNoMembers : Value → Prop
  | .table entries =>
    memberList entries "properties" = .ok [] ∧ memberList entries "functions" = .ok []
  | _ => True

def IsWellFormed (entry : Value) : Prop :=
  ∃ entries, entry = .table entries ∧ WellFormed entries

end Document

namespace Generation

open Document Template.Packaged

/-- The first of some names whose file an earlier one has already, and that earlier one. -/
def FirstCollision (names : List Identifiers) (earlier later : Identifiers) : Prop :=
  ∃ before between after, names = before ++ earlier :: between ++ later :: after ∧
    earlier.fileName = later.fileName ∧
    ((before ++ earlier :: between).map Identifiers.fileName).Nodup

/-- The failure to move lines further to the right than can be counted. -/
def tooWide : Fault := .rendering className .wideCount

theorem checkFiles_of_repeated {seen artifacts : List Artifact}
    (hseen : (seen.map Artifact.fileName).Nodup)
    (h : ¬ ((seen.reverse ++ artifacts).map Artifact.fileName).Nodup) :
    ∃ earlier later, FirstCollision ((seen.reverse ++ artifacts).map Artifact.identifiers)
        earlier later ∧
      checkFiles seen artifacts =
        .error (.sameFile earlier.typeName later.typeName later.fileName) := by
  induction artifacts generalizing seen with
  | nil =>
      rw [List.append_nil, List.map_reverse, List.nodup_reverse] at h
      exact absurd hseen h
  | cons a rest ih =>
      rw [checkFiles]
      cases hfind : seen.find? fun b => b.fileName == a.fileName with
      | some b =>
          have heq := List.find?_some hfind
          rw [beq_iff_eq] at heq
          obtain ⟨after, before, rfl⟩ := List.append_of_mem (List.mem_of_find?_eq_some hfind)
          refine ⟨b.identifiers, a.identifiers, ⟨before.reverse.map Artifact.identifiers,
            after.reverse.map Artifact.identifiers, rest.map Artifact.identifiers, ?_, heq, ?_⟩,
            rfl⟩
          · simp
          · rw [← List.nodup_reverse, ← List.map_reverse] at hseen
            simpa [Function.comp_def, Artifact.identifiers] using hseen
      | none =>
          have hnew : a.fileName ∉ seen.map Artifact.fileName := by
            rw [List.mem_map]
            rintro ⟨b, hb, heq⟩
            exact absurd (beq_iff_eq.mpr heq) (List.find?_eq_none.mp hfind b hb)
          have hshift : (a :: seen).reverse ++ rest = seen.reverse ++ a :: rest := by
            rw [List.reverse_cons, List.append_assoc, List.singleton_append]
          rw [← hshift] at h ⊢
          exact ih (List.nodup_cons.mpr ⟨hnew, hseen⟩) h

theorem outputPath_of_isPackaged {c : Config} {n : Nat} (hc : c.IsPackaged n) (isInterface : Bool)
    (fileName : String) : ∃ path, outputPath c isInterface fileName = .ok path := by
  obtain ⟨output, houtput⟩ := hc.outputDir
  obtain ⟨interface, hinterface⟩ := hc.interfaceFolder
  obtain ⟨folder, hfolder⟩ := hc.classFolder
  cases isInterface with
  | true =>
      rw [outputPath, Config.artifactPath, if_pos rfl, Config.interfacePath, houtput, hinterface]
      exact ⟨_, rfl⟩
  | false =>
      rw [outputPath, Config.artifactPath, if_neg Bool.false_ne_true, Config.classPath, houtput,
        hfolder]
      exact ⟨_, rfl⟩

section

variable {c : Config} {n : Nat} (hc : c.IsPackaged n)

include hc

omit hc in
/-- What a well-formed entry holds, from which its output is printed. -/
theorem exists_content {entry : Value} (h : IsWellFormed entry) (render : Renderer) :
    ∃ content : Content, content.identifiers = identifiersOf entry ∧
      (HasNoMembers entry ↔ content.IsBare) ∧
      (outputOfEntry render c entry).result = content.output render c := by
  obtain ⟨entries, rfl, h⟩ := h
  obtain ⟨name, hname⟩ := Option.isSome_iff_exists.mp h.name
  obtain ⟨parts, hreads, htexts, hproperties, hfunctions⟩ := h.exists_parts
  obtain ⟨content, hids, -, -, hbare, houtput⟩ := exists_output htexts name
  refine ⟨content, ?_, ?_, ?_⟩
  · rw [identifiersOf, Value.field, hname, Option.getD_some, ← hids]
  · rw [hbare, hproperties, hfunctions, and_comm]
    rfl
  · have hentry : entryName (.table entries) = .ok (entries, name) := by rw [entryName, hname]
    have hmodel : (modelOf (.ofName name) entries name).result =
        .ok (parts.model (.ofName name)) := modelOf_eq_ok.mpr ⟨parts, hreads, rfl⟩
    rw [outputOfEntry, hentry, Except.mapError, Traced.of_ok_bind, Traced.result_bind hmodel,
      houtput]

/-- A well-formed entry gives an output under its names, unless its lines do not fit. -/
theorem output_of_wellFormed (hn : n ≤ widest ∨ 2 ^ 63 ≤ n) {entry : Value}
    (h : IsWellFormed entry) :
    ∃ o : Output, o.artifact.identifiers = identifiersOf entry ∧
      (n ≤ widest ∨ HasNoMembers entry →
        (outputOfEntry (TemplateEngine.packaged (.int n)).render c entry).result = .ok o) ∧
      (¬ (n ≤ widest ∨ HasNoMembers entry) →
        (outputOfEntry (TemplateEngine.packaged (.int n)).render c entry).result =
          .error tooWide) := by
  obtain ⟨content, hids, hnone, hresult⟩ :=
    exists_content h (TemplateEngine.packaged (.int n)).render
  obtain ⟨text, hprint⟩ := content.print_packaged hn
  obtain ⟨path, hpath⟩ :=
    outputPath_of_isPackaged hc content.functions.isEmpty content.identifiers.fileName
  rw [hresult, Content.output, hc.templates, hprint]
  refine ⟨⟨⟨content.identifiers.typeName, content.identifiers.fileName, text⟩, path,
    content.functions.isEmpty⟩, hids, fun hfits => ?_, fun hwide => ?_⟩
  · rw [if_pos (hfits.imp_right hnone.mp), ok_bind, hpath]
    rfl
  · rw [if_neg fun hfits => hwide (hfits.imp_right hnone.mpr), error_bind]
    rfl

/-- No entry gives an output if the class template is too wide for a program. -/
theorem output_refused (hwide : widest < n) (hsized : n < 2 ^ 63) {entry : Value}
    (h : IsWellFormed entry) : ∃ problem line,
      (outputOfEntry (TemplateEngine.packaged (.int n)).render c entry).result =
        .error (.rendering className (.template (.program problem className line))) := by
  obtain ⟨content, -, -, hresult⟩ :=
    exists_content h (TemplateEngine.packaged (.int n)).render
  obtain ⟨problem, line, hprint⟩ := content.print_refused hwide hsized
  refine ⟨problem, line, ?_⟩
  rw [hresult, Content.output, hc.templates, hprint, error_bind]

/-- Well-formed entries give their outputs, unless the lines of one of them do not fit. -/
theorem outputs_of_wellFormed (hn : n ≤ widest ∨ 2 ^ 63 ≤ n) {names : NameService}
    (hnames : names.Faithful) {classes : List Value} (h : ∀ entry ∈ classes, IsWellFormed entry) :
    ((n ≤ widest ∨ ∀ entry ∈ classes, HasNoMembers entry) → ∃ os : List Output,
      (outputs (TemplateEngine.packaged (.int n)).render c names classes).result = .ok os ∧
        (os.map Output.artifact).map Artifact.identifiers = classes.map identifiersOf) ∧
    (¬ (n ≤ widest ∨ ∀ entry ∈ classes, HasNoMembers entry) →
      (outputs (TemplateEngine.packaged (.int n)).render c names classes).result =
        .error tooWide) := by
  rw [outputs_eq_mapM hnames, Traced.result_mapM]
  constructor
  · intro hfits
    have hall : ∀ entry ∈ classes, ∃ o,
        ((outputOfEntry (TemplateEngine.packaged (.int n)).render c entry).result = .ok o ∧
          o.artifact.identifiers = identifiersOf entry) ∧ True := fun entry hentry => by
      obtain ⟨o, hids, hok, -⟩ := output_of_wellFormed hc hn (h entry hentry)
      exact ⟨o, ⟨hok (hfits.imp_right fun hnone => hnone entry hentry), hids⟩, trivial⟩
    obtain ⟨os, hos, -⟩ := exists_forall₂ hall
    refine ⟨os, mapM_eq_ok.mpr (hos.imp fun _ _ ho => ho.1), ?_⟩
    have hnamed : List.Forall₂ Eq ((os.map Output.artifact).map Artifact.identifiers)
        (classes.map identifiersOf) := by
      rw [List.map_map, List.forall₂_map_left_iff, List.forall₂_map_right_iff]
      exact hos.flip.imp fun _ _ ho => ho.2
    rwa [List.forall₂_eq_eq_eq] at hnamed
  · intro hwide
    rw [not_or] at hwide
    obtain ⟨hwide, hmembers⟩ := hwide
    push Not at hmembers
    obtain ⟨entry, hentry, hmember⟩ := hmembers
    refine mapM_eq_error (fun other hother => ?_) ⟨entry, hentry, ?_⟩
    · obtain ⟨o, -, hok, herror⟩ := output_of_wellFormed hc hn (h other hother)
      by_cases hfits : n ≤ widest ∨ HasNoMembers other
      · exact .inl ⟨o, hok hfits⟩
      · exact .inr (herror hfits)
    · obtain ⟨-, -, -, herror⟩ := output_of_wellFormed hc hn (h entry hentry)
      exact herror (not_or.mpr ⟨hwide, hmember⟩)

/-- What a generation with the packaged templates comes to, once the entries are found to be
well-formed. -/
theorem result_of_outputs (names : NameService) (fs : FileSystem) {document : Value}
    {classes : List Value} (hdocument : classEntries document = .ok classes)
    (h : ∀ entry ∈ classes, IsWellFormed entry) :
    ∃ ws, (runWith names fs c none document).result = do
      let os ← (outputs (TemplateEngine.packaged (.int n)).render c names classes).result
      (checkFiles [] (os.map Output.artifact)).mapError .generator
      return ⟨os, ws⟩ := by
  obtain ⟨ws, hws⟩ := exists_listWarnings fun entry hentry => by
    obtain ⟨entries, rfl, hentries⟩ := h entry hentry
    exact hentries.exists_warnings
  refine ⟨ws, ?_⟩
  have hrenderer : rendererOf fs c none = pure (TemplateEngine.packaged (.int n)).render := by
    rw [rendererOf, TemplateEngine.create, hc.templateDir, hc.indentSize]
    rfl
  rw [result_runWith, attempt, hdocument, hrenderer, warnings_of_classEntries hdocument, hws]
  simp only [Except.mapError, Traced.of_ok_bind, Traced.result_sequence, Traced.result_pure,
    ok_bind]
  rfl

theorem result_of_tooWide (hn : n ≤ widest ∨ 2 ^ 63 ≤ n) {names : NameService}
    (hnames : names.Faithful) (fs : FileSystem) {document : Value} {classes : List Value}
    (hdocument : classEntries document = .ok classes) (h : ∀ entry ∈ classes, IsWellFormed entry)
    (hwide : ¬ (n ≤ widest ∨ ∀ entry ∈ classes, HasNoMembers entry)) :
    (runWith names fs c none document).result = .error tooWide := by
  obtain ⟨ws, hresult⟩ := result_of_outputs hc names fs hdocument h
  rw [hresult, (outputs_of_wellFormed hc hn hnames h).2 hwide]
  rfl

/-- Nothing is generated if the class template is too wide for a program. -/
theorem result_of_refused (hwide : widest < n) (hsized : n < 2 ^ 63) {names : NameService}
    (hnames : names.Faithful) (fs : FileSystem) {document : Value} {classes : List Value}
    (hdocument : classEntries document = .ok classes) (h : ∀ entry ∈ classes, IsWellFormed entry)
    (hsome : classes ≠ []) : ∃ problem line, (runWith names fs c none document).result =
      .error (.rendering className (.template (.program problem className line))) := by
  obtain ⟨ws, hresult⟩ := result_of_outputs hc names fs hdocument h
  obtain ⟨first, rest, rfl⟩ := List.exists_cons_of_ne_nil hsome
  obtain ⟨problem, line, hfirst⟩ := output_refused hc hwide hsized (h first List.mem_cons_self)
  refine ⟨problem, line, ?_⟩
  rw [hresult, outputs_eq_mapM hnames, Traced.result_mapM, List.mapM_cons, hfirst]
  rfl

theorem result_of_wellFormed (hn : n ≤ widest ∨ 2 ^ 63 ≤ n) (asked : List Value)
    (fs : FileSystem) {document : Value} {classes : List Value}
    (hdocument : classEntries document = .ok classes) (h : ∀ entry ∈ classes, IsWellFormed entry) :
    let result := (runWith (.asked asked) fs c none document).result
    let names := classes.map identifiersOf
    ((n ≤ widest ∨ ∀ entry ∈ classes, HasNoMembers entry) →
      ((∃ g, result = .ok g) ↔ (names.map Identifiers.fileName).Nodup) ∧
      (∀ g, result = .ok g → g.artifacts.map Artifact.identifiers = names) ∧
      (¬ (names.map Identifiers.fileName).Nodup → ∃ earlier later,
        FirstCollision names earlier later ∧
          result = .error
            (.generator (.sameFile earlier.typeName later.typeName later.fileName)))) ∧
    (¬ (n ≤ widest ∨ ∀ entry ∈ classes, HasNoMembers entry) → result = .error tooWide) := by
  intro result names
  have hfaithful := NameService.faithful_asked asked
  obtain ⟨ws, hresult⟩ := result_of_outputs hc (.asked asked) fs hdocument h
  refine ⟨fun hfits => ?_, result_of_tooWide hc hn hfaithful fs hdocument h⟩
  obtain ⟨os, hos, hnames⟩ := (outputs_of_wellFormed hc hn hfaithful h).1 hfits
  replace hnames : (os.map Output.artifact).map Artifact.identifiers = names := hnames
  have hfiles : (os.map Output.artifact).map Artifact.fileName =
      names.map Identifiers.fileName := by
    rw [← hnames, List.map_map (f := Artifact.identifiers)]
    rfl
  rw [hos, ok_bind] at hresult
  by_cases hnodup : (names.map Identifiers.fileName).Nodup
  · rw [checkFiles_eq_ok.mpr ⟨hfiles ▸ hnodup, by simp⟩] at hresult
    replace hresult : result = .ok ⟨os, ws⟩ := hresult
    refine ⟨iff_of_true ⟨_, hresult⟩ hnodup, fun g hg => ?_, fun hrepeated =>
      absurd hnodup hrepeated⟩
    obtain rfl := Except.ok.inj (hresult.symm.trans hg)
    exact hnames
  · obtain ⟨earlier, later, hfirst, hcheck⟩ :=
      @checkFiles_of_repeated [] _ List.nodup_nil (hfiles ▸ hnodup)
    rw [hcheck] at hresult
    replace hresult : result = .error (.generator _) := hresult
    have hfails : ∀ g, result ≠ .ok g := fun g hg => nomatch hresult.symm.trans hg
    exact ⟨iff_of_false (fun ⟨g, hg⟩ => hfails g hg) hnodup, fun g hg => absurd hg (hfails g),
      fun _ => ⟨earlier, later, hnames ▸ hfirst, hresult⟩⟩

end

/-- Two classes with different file names, one of them an interface. -/
theorem result_of_wellFormed_apart :
    let id : Value := .object [("propertyName", .str "id"), ("value", .str "string"),
      ("import", .str "import a;")]
    let load : Value := .object [("functionName", .str "load"), ("httpMethod", .str "get"),
      ("originalPath", .str "/users"), ("imports", .list [.str "import b;", .null])]
    let user : Value := .object [("name", .str "User"), ("properties", .list [id])]
    let service : Value := .object [("name", .str "UserService"), ("functions", .list [load])]
    let result := (runWith (.asked []) ⟨[], []⟩ .default none (documentOf [user, service])).result
    let names := [user, service].map identifiersOf
    Config.default.IsPackaged 4 ∧ (∀ entry ∈ [user, service], IsWellFormed entry) ∧
      (∃ g, result = .ok g ∧ g.artifacts.map Artifact.identifiers = names) := by
  intro id load user service result names
  have hdefault : Config.default.IsPackaged 4 := ⟨rfl, rfl, rfl, ⟨_, rfl⟩, ⟨_, rfl⟩, ⟨_, rfl⟩⟩
  have hid : IsProperty id :=
    ⟨_, _, "id", none, some "import a;", rfl, rfl, rfl, rfl, rfl, rfl⟩
  have hload : IsFunction load :=
    ⟨_, _, "load", none, [], [], [some "import b;", none], rfl, rfl, rfl, rfl, rfl, rfl, rfl, rfl⟩
  have huser : IsWellFormed user := ⟨_, rfl, rfl, ⟨none, rfl⟩, ⟨none, rfl⟩,
    ⟨some [id], rfl, fun v hv => List.mem_singleton.mp hv ▸ hid⟩,
    ⟨none, rfl, fun v hv => nomatch hv⟩⟩
  have hservice : IsWellFormed service := ⟨_, rfl, rfl, ⟨none, rfl⟩, ⟨none, rfl⟩,
    ⟨none, rfl, fun v hv => nomatch hv⟩,
    ⟨some [load], rfl, fun v hv => List.mem_singleton.mp hv ▸ hload⟩⟩
  have hentries : ∀ entry ∈ [user, service], IsWellFormed entry := by
    rw [List.forall_mem_cons, List.forall_mem_singleton]
    exact ⟨huser, hservice⟩
  obtain ⟨hgenerates, hnames, -⟩ := (result_of_wellFormed hdefault (.inl (by decide)) [] ⟨[], []⟩
    (classEntries_documentOf [user, service]) hentries).1 (.inl (by decide))
  obtain ⟨g, hg⟩ := hgenerates.mpr (by decide +kernel)
  exact ⟨hdefault, hentries, g, hg, hnames g hg⟩

/-- Not every such document is generated or refused for its file names. Lines that should be moved
to the right by `2 ^ 63` spaces are not printed, and nothing is with a class template that is too
wide for a program. -/
theorem not_generated :
    let id : Value := .object [("propertyName", .str "id"), ("value", .str "string")]
    let user : String → Value := fun name =>
      .object [("name", .str name), ("properties", .list [id])]
    let bare : Value := .object [("name", .str "User")]
    let config : Nat → Config := fun n => { Config.default with indentSize := .int n }
    let result : Nat → List Value → Except Fault Generated := fun n classes =>
      (runWith (.asked []) ⟨[], []⟩ (config n) none (documentOf classes)).result
    (∀ n, (config n).IsPackaged n) ∧
    (∀ entry ∈ [user "User", user "user", bare], IsWellFormed entry) ∧
    result (2 ^ 63) [user "User", user "user"] = .error tooWide ∧
    ¬ ∃ g, result (2 ^ 31 - 112) [bare] = .ok g := by
  intro id user bare config result
  have hconfig : ∀ n, (config n).IsPackaged n := fun n =>
    ⟨rfl, rfl, rfl, ⟨_, rfl⟩, ⟨_, rfl⟩, ⟨_, rfl⟩⟩
  have hid : IsProperty id := ⟨_, _, "id", none, none, rfl, rfl, rfl, rfl, rfl, rfl⟩
  have huser : ∀ name, IsWellFormed (user name) := fun name =>
    ⟨_, rfl, rfl, ⟨none, rfl⟩, ⟨none, rfl⟩,
      ⟨some [id], rfl, fun v hv => List.mem_singleton.mp hv ▸ hid⟩,
      ⟨none, rfl, fun v hv => nomatch hv⟩⟩
  have hbare : IsWellFormed bare := ⟨_, rfl, rfl, ⟨none, rfl⟩, ⟨none, rfl⟩,
    ⟨none, rfl, fun v hv => nomatch hv⟩, ⟨none, rfl, fun v hv => nomatch hv⟩⟩
  have husers : ∀ entry ∈ [user "User", user "user"], IsWellFormed entry := by
    rw [List.forall_mem_cons, List.forall_mem_singleton]
    exact ⟨huser "User", huser "user"⟩
  have hmember : ¬ HasNoMembers (user "User") := fun h => nomatch h.1
  refine ⟨hconfig, ?_, ?_, ?_⟩
  · rw [List.forall_mem_cons, List.forall_mem_cons, List.forall_mem_singleton]
    exact ⟨huser "User", huser "user", hbare⟩
  · refine result_of_tooWide (hconfig _) (.inr (le_refl _)) (NameService.faithful_asked []) _
      (classEntries_documentOf [user "User", user "user"]) husers ?_
    rw [not_or]
    exact ⟨by decide, fun h => hmember (h _ List.mem_cons_self)⟩
  · obtain ⟨problem, line, hrefused⟩ := result_of_refused (hconfig (2 ^ 31 - 112)) (by decide)
      (by decide) (NameService.faithful_asked []) ⟨[], []⟩ (classEntries_documentOf [bare])
      (fun entry hentry => List.mem_singleton.mp hentry ▸ hbare) (List.cons_ne_nil _ _)
    exact fun ⟨g, hg⟩ => nomatch hrefused.symm.trans hg

end Generation

end TypeStencil
