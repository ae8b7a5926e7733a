import Mathlib.Data.List.Forall2
import Mathlib.Data.List.Nodup
import TypeStencil.Proofs.ClassModel.Calls
import TypeStencil.Proofs.Document.Building
import TypeStencil.Proofs.Files.Resolution
import TypeStencil.Proofs.Generation.Concatenation
import TypeStencil.Proofs.Naming.FileNames

/-!
The paths of a generation. A file name has neither slashes nor dots, so that a file stays in the
folder that its artifact belongs into, and files of different names are different places.
-/
namespace TypeStencil

namespace Traced

variable {α β : Type} {m : Traced α} {f : α → Traced β}

theorem calls_bind_of_silent (hm : m.calls = []) (hf : ∀ a, (f a).calls = []) :
    (m >>= f).calls = [] := by
  cases h : m.result with
  | error e =>
      rw [bind_eq_error h]
      exact hm
  | ok a => rw [calls_bind h, hm, hf, List.nil_append]

/-- The calls of a traversal are those of its steps, one after another. -/
theorem calls_mapM {as : List α} {bs : List β} (h : (as.mapM f).result = .ok bs) :
    (as.mapM f).calls = as.flatMap fun a => (f a).calls := by
  induction as generalizing bs with
  | nil => rfl
  | cons a rest ih =>
      rw [List.mapM_cons] at h ⊢
      obtain ⟨b, hb, h⟩ := bind_eq_ok.mp h
      obtain ⟨more, hmore, -⟩ := bind_eq_ok.mp h
      rw [calls_bind hb, calls_bind hmore, ih hmore, calls_pure, List.append_nil,
        List.flatMap_cons]

end Traced

/-- The shapes of the classes among some template calls: whether each is an interface. -/
def shapesShown (calls : List (Value × Context)) : List Bool :=
  calls.filterMap fun call =>
    match call.2.lookup "is_interface" with
    | some (.bool isInterface) => some isInterface
    | _ => none

theorem shapesShown_append (calls more : List (Value × Context)) :
    shapesShown (calls ++ more) = shapesShown calls ++ shapesShown more :=
  List.filterMap_append

theorem shapesShown_flatMap {α : Type} (calls : α → List (Value × Context)) (xs : List α) :
    shapesShown (xs.flatMap calls) = xs.flatMap fun x => shapesShown (calls x) := by
  induction xs with
  | nil => rfl
  | cons x rest ih => rw [List.flatMap_cons, List.flatMap_cons, shapesShown_append, ih]

theorem shapesShown_map {α : Type} (template : Value) (context : α → Context) (xs : List α)
    (h : ∀ x, (context x).lookup "is_interface" = none) :
    shapesShown (xs.map fun x => (template, context x)) = [] := by
  refine List.filterMap_eq_nil_iff.mpr fun call hcall => ?_
  obtain ⟨x, -, rfl⟩ := List.mem_map.mp hcall
  dsimp only
  rw [h]

namespace ClassModel

variable {m : ClassModel} {render : Renderer} {templates : TemplateNames}

theorem calls_logReplaced {α : Type} (kind : String) (members : Entries α) (name : Scalar) :
    (m.logReplaced kind members name).calls = [] := by
  unfold logReplaced
  split <;> rfl

theorem calls_addDescription (text : Value) : (addDescription text m).2.calls = [] :=
  Change.calls_of_bind rfl fun _ => rfl

theorem calls_addFunction (d : FunctionDescriptor) : (addFunction d m).2.calls = [] := by
  rw [addFunction, Change.get_bind]
  refine Change.calls_of_bind rfl fun name => ?_
  refine Change.calls_of_bind (calls_logReplaced _ _ _) fun _ => ?_
  refine Change.calls_of_bind rfl fun view => ?_
  exact Change.calls_of_bind rfl fun imports => rfl

theorem calls_addProperty (d : PropertyDescriptor) : (addProperty d m).2.calls = [] := by
  rw [addProperty, Change.get_bind]
  refine Change.calls_of_bind rfl fun name => ?_
  refine Change.calls_of_bind (calls_logReplaced _ _ _) fun _ => ?_
  exact Change.calls_of_bind rfl fun view => rfl

theorem shapesShown_renderMembers {texts : RenderedMembers}
    (h : (m.renderMembers render templates).result = .ok texts) :
    shapesShown (m.renderMembers render templates).calls = [] := by
  obtain ⟨functions, hf, h⟩ := Traced.bind_eq_ok.mp h
  obtain ⟨functionTexts, hft, h⟩ := Traced.bind_eq_ok.mp h
  obtain ⟨properties, hp, h⟩ := Traced.bind_eq_ok.mp h
  obtain ⟨propertyTexts, hpt, -⟩ := Traced.bind_eq_ok.mp h
  obtain ⟨-, -, hfcalls⟩ := mapM_renderTemplate _ _ _ _ _ hft
  obtain ⟨-, -, hpcalls⟩ := mapM_renderTemplate _ _ _ _ _ hpt
  rw [renderMembers, Traced.calls_bind hf, Traced.calls_bind hft, Traced.calls_bind hp,
    Traced.calls_bind hpt, hfcalls, hpcalls, Traced.calls_of, Traced.calls_of, Traced.calls_pure,
    List.nil_append, List.nil_append, List.append_nil, shapesShown_append,
    shapesShown_map _ (fun e : Scalar × RegisteredFunction => e.2.view.toContext) _ fun _ => rfl,
    shapesShown_map _ (fun e : Scalar × RegisteredProperty => e.2.view.toContext) _ fun _ => rfl]
  rfl

/-- A rendering shows the class template the shape of the model. -/
theorem shapesShown_render {artifact : Artifact}
    (h : (m.render render templates).2.result = .ok artifact) :
    shapesShown (m.render render templates).2.calls = [m.isInterface] := by
  obtain ⟨texts, htexts, hclass, hcalls⟩ := render_calls h
  obtain ⟨v, hv, hlast⟩ := renderClass_calls hclass
  obtain ⟨imports, -, hv⟩ := bind_eq_ok.mp hv
  obtain rfl := Except.ok.inj hv
  rw [hcalls, shapesShown_append, shapesShown_renderMembers htexts, hlast]
  rfl

/-- An artifact has the names of its model. -/
theorem names_of_render {artifact : Artifact}
    (h : (m.render render templates).2.result = .ok artifact) :
    artifact.typeName = m.identifiers.typeName ∧ artifact.fileName = m.identifiers.fileName := by
  obtain ⟨texts, -, hclass, -⟩ := render_calls h
  obtain ⟨v, -, hclass⟩ := Traced.bind_eq_ok.mp hclass
  obtain ⟨text, -, hclass⟩ := Traced.bind_eq_ok.mp hclass
  obtain ⟨_, -, hclass⟩ := Traced.bind_eq_ok.mp hclass
  obtain rfl := Except.ok.inj hclass
  exact ⟨rfl, rfl⟩

end ClassModel

namespace Document

variable {m : ClassModel}

theorem calls_addProperties (members : List Value) : (addProperties m members).calls = [] := by
  induction members generalizing m with
  | nil => rfl
  | cons v rest ih =>
      refine Traced.calls_bind_of_silent rfl fun entries => ?_
      refine Traced.calls_bind_of_silent rfl fun d => ?_
      exact Traced.calls_bind_of_silent (ClassModel.calls_addProperty d) fun _ => ih

theorem calls_addFunctions (members : List Value) : (addFunctions m members).calls = [] := by
  induction members generalizing m with
  | nil => rfl
  | cons v rest ih =>
      refine Traced.calls_bind_of_silent rfl fun entries => ?_
      refine Traced.calls_bind_of_silent rfl fun d => ?_
      exact Traced.calls_bind_of_silent (ClassModel.calls_addFunction d) fun _ => ih

/-- No template is called while a model is built. -/
theorem calls_modelOf (identifiers : Identifiers) (entries : Entries Value) (name : Value) :
    (modelOf identifiers entries name).calls = [] := by
  have hmembers : ∀ m : ClassModel, (addMembers entries m).calls = [] := fun m =>
    Traced.calls_bind_of_silent rfl fun properties =>
      Traced.calls_bind_of_silent (calls_addProperties properties) fun _ =>
        Traced.calls_bind_of_silent rfl fun functions => calls_addFunctions functions
  refine Traced.calls_bind_of_silent (ClassModel.calls_addDescription _) fun _ => ?_
  refine Traced.calls_bind_of_silent ?_ fun imported => hmembers imported
  exact Traced.calls_bind_of_silent rfl fun lines =>
    Traced.calls_bind_of_silent rfl fun _ => rfl

end Document

namespace Generation

variable {render : Renderer} {c : Config}

/-- An output stands under its file name in the folder of its shape. -/
structure InPlace (c : Config) (o : Output) : Prop where
  named : ∃ name, o.artifact.fileName = TypeScript.fileName name
  placed : ∃ folder, (if o.isInterface then c.interfacePath else c.classPath) = .ok folder ∧
    o.path = (FilePath.ofString folder).join
      (FilePath.ofString (o.artifact.fileName ++ c.fileExtension.text))

theorem inPlace_of_output {m : ClassModel} {o : Output} {name : Value}
    (hname : m.identifiers.fileName = TypeScript.fileName name)
    (h : (outputOf render c m).result = .ok o) : InPlace c o ∧ o.isInterface = m.isInterface := by
  obtain ⟨artifact, hartifact, h⟩ := Traced.bind_eq_ok.mp h
  obtain ⟨path, hpath, h⟩ := Traced.bind_eq_ok.mp h
  obtain rfl := Except.ok.inj h
  obtain ⟨folder, hfolder, hpath⟩ := bind_eq_ok.mp hpath
  have hfile := (ClassModel.names_of_render hartifact).2
  refine ⟨⟨⟨name, hfile.trans hname⟩, folder, hfolder, ?_⟩, rfl⟩
  rw [hfile]
  exact (Except.ok.inj hpath).symm

theorem shapesShown_outputOf {m : ClassModel} {o : Output}
    (h : (outputOf render c m).result = .ok o) :
    shapesShown (outputOf render c m).calls = [m.isInterface] := by
  obtain ⟨artifact, hartifact, h⟩ := Traced.bind_eq_ok.mp h
  rw [outputOf, Traced.calls_bind hartifact, shapesShown_append,
    ClassModel.shapesShown_render hartifact, Traced.calls_bind_of_silent rfl fun _ => rfl]
  rfl

/-- An entry puts its output in place, and shows the class template its shape. -/
theorem inPlace_of_entry {entry : Value} {o : Output}
    (h : (outputOfEntry render c entry).result = .ok o) :
    InPlace c o ∧ shapesShown (outputOfEntry render c entry).calls = [o.isInterface] := by
  obtain ⟨entries, name, m, hentry, hm, ho⟩ := outputOfEntry_eq_ok.mp h
  obtain ⟨parts, -, hparts⟩ := Document.modelOf_eq_ok.mp hm
  have hfile : m.identifiers.fileName = TypeScript.fileName (.str (TypeScript.typeName name)) := by
    rw [hparts, Document.Parts.identifiers_model, Identifiers.ofName]
  obtain ⟨hplace, hshape⟩ := inPlace_of_output hfile ho
  refine ⟨hplace, ?_⟩
  rw [outputOfEntry, hentry, Except.mapError, Traced.of_ok_bind, Traced.calls_bind hm,
    Document.calls_modelOf, List.nil_append, shapesShown_outputOf ho, hshape]

theorem forall₂_inPlace {classes : List Value} {os : List Output}
    (h : List.Forall₂ (fun entry o => (outputOfEntry render c entry).result = .ok o) classes os) :
    (∀ o ∈ os, InPlace c o) ∧
      (classes.flatMap fun entry => shapesShown (outputOfEntry render c entry).calls) =
        os.map Output.isInterface := by
  induction h with
  | nil => exact ⟨by simp, rfl⟩
  | cons ho _ ih =>
      obtain ⟨hplace, hshown⟩ := inPlace_of_entry ho
      refine ⟨List.forall_mem_cons.mpr ⟨hplace, ih.1⟩, ?_⟩
      rw [List.flatMap_cons, hshown, ih.2]
      rfl

section

variable {fs : FileSystem} {given : Option Renderer}

theorem calls_ofDirectory (directory indentSize : Value) :
    (TemplateEngine.ofDirectory fs directory indentSize).calls = [] := by
  unfold TemplateEngine.ofDirectory
  split
  · rfl
  · split
    · refine Traced.calls_bind_of_silent rfl fun found => ?_
      split <;> rfl
    · rfl

theorem calls_rendererOf : (rendererOf fs c given).calls = [] := by
  cases given with
  | some render => rfl
  | none =>
      refine Traced.calls_bind_of_silent ?_ fun _ => rfl
      rw [TemplateEngine.create]
      split
      · exact calls_ofDirectory _ _
      · rfl

/-- A generation calls the templates for its entries, one after another. -/
theorem calls_run {document : Value} {g : Generated}
    (h : (run fs c given document).result = .ok g) :
    ∃ classes render, classEntries document = .ok classes ∧
      List.Forall₂ (fun entry o => (outputOfEntry render c entry).result = .ok o) classes
        g.outputs ∧
      (g.artifacts.map Artifact.fileName).Nodup ∧
      (run fs c given document).calls =
        classes.flatMap fun entry => (outputOfEntry render c entry).calls := by
  obtain ⟨classes, render, hclasses, hrender, hlist, houtputs, hnodup⟩ := runWith_eq_ok.mp h
  rw [outputs_eq_mapM NameService.faithful_fresh] at houtputs
  refine ⟨classes, render, hclasses, Traced.mapM_eq_ok.mp houtputs, hnodup, ?_⟩
  have hrun : run fs c given document = attempt .fresh fs c given document := by
    rw [run, runWith, (result_runWith _ _).symm.trans h]
  have hwarnings : Document.warnings document = .ok g.warnings := by
    rw [warnings_of_classEntries hclasses, hlist]
    rfl
  have hcheck : checkFiles [] (g.outputs.map (·.artifact)) = .ok () :=
    checkFiles_eq_ok.mpr ⟨hnodup, by simp⟩
  rw [hrun, attempt, hclasses, Except.mapError, Traced.of_ok_bind, Traced.calls_bind hrender,
    calls_rendererOf, List.nil_append, hwarnings, Traced.of_ok_bind,
    outputs_eq_mapM NameService.faithful_fresh, Traced.calls_bind houtputs, hcheck,
    Traced.calls_mapM houtputs]
  exact List.append_nil _

end

section

variable (hextension : '/' ∉ c.fileExtension.text.toList)

include hextension

/-- The path of an output ends in the file name of its artifact with the extension. -/
theorem InPlace.path_eq {o : Output} (h : InPlace c o) :
    o.artifact.fileName ++ c.fileExtension.text ≠ ".." ∧
      ∃ folder, (if o.isInterface then c.interfacePath else c.classPath) = .ok folder ∧
        o.path = ⟨(FilePath.ofString folder).root,
          (FilePath.ofString folder).segments ++ [o.artifact.fileName ++ c.fileExtension.text]⟩ := by
  obtain ⟨⟨name, hname⟩, folder, hfolder, hpath⟩ := h
  have hslash : '/' ∉ (o.artifact.fileName ++ c.fileExtension.text).toList := by
    rw [hname, String.toList_append, List.mem_append, not_or]
    exact ⟨TypeScript.not_mem_fileName (by decide) name, hextension⟩
  have hdots : ∀ s : String, (∀ d ∈ s.toList, d = '.') →
      o.artifact.fileName ++ c.fileExtension.text ≠ s := fun s hs => by
    rw [hname]
    exact TypeScript.fileName_append_ne hs name _
  rw [FilePath.ofString_name hslash (hdots "" (by simp)) (hdots "." (by simp)),
    FilePath.join_name] at hpath
  exact ⟨hdots ".." (by simp), folder, hfolder, hpath⟩

theorem InPlace.getLast?_place {o : Output} (h : InPlace c o) (current : Location) :
    (o.path.resolve current).getLast? = some (o.artifact.fileName ++ c.fileExtension.text) := by
  obtain ⟨hdetour, folder, -, hpath⟩ := h.path_eq hextension
  refine FilePath.getLast?_resolve ?_ hdetour current
  rw [hpath, List.getLast?_concat]

/-- Outputs whose artifacts have different file names stand at different places. -/
theorem places_nodup {os : List Output} (hos : ∀ o ∈ os, InPlace c o)
    (hnames : (os.map fun o => o.artifact.fileName).Nodup) (current : Location) :
    (os.map fun o => o.path.resolve current).Nodup := by
  rw [List.Nodup, List.pairwise_map] at hnames ⊢
  refine hnames.imp_of_mem fun {o o'} ho ho' hne hplace => hne ?_
  have hlast := (hos o ho).getLast?_place hextension current
  rw [hplace, (hos o' ho').getLast?_place hextension current] at hlast
  exact (String.append_left_inj _).mp (Option.some.inj hlast).symm

/-- The files of a generation stand at different places. -/
theorem places_nodup_of_run {fs : FileSystem} {given : Option Renderer} {document : Value}
    {g : Generated} (h : (run fs c given document).result = .ok g) (current : Location) :
    (g.outputs.map fun o => o.path.resolve current).Nodup := by
  obtain ⟨classes, render, -, houtputs, hnames, -⟩ := calls_run h
  rw [Generated.artifacts, List.map_map] at hnames
  exact places_nodup hextension (forall₂_inPlace houtputs).1 hnames current

end

/-- The paths of a generation lead to different places, whichever directory they are followed
from, and there is one for each artifact. Each lies in the folder for interfaces or for classes,
as the class template was shown the one or the other. -/
theorem paths_apart {fs : FileSystem} {given : Option Renderer} {document : Value} {g : Generated}
    (hextension : '/' ∉ c.fileExtension.text.toList)
    (h : (run fs c given document).result = .ok g) :
    (∀ current, (g.paths.map (FilePath.resolve current)).Nodup) ∧ g.paths.Nodup ∧
      g.paths.length = g.artifacts.length ∧
      List.Forall₂
        (fun (isInterface : Bool) path =>
          ∃ folder, (if isInterface then c.interfacePath else c.classPath) = .ok folder ∧
            path.parent = .ofString folder)
        (shapesShown (run fs c given document).calls) g.paths := by
  obtain ⟨classes, render, -, houtputs, -, hcalls⟩ := calls_run h
  obtain ⟨hplaces, hshapes⟩ := forall₂_inPlace houtputs
  have hapart : ∀ current, (g.paths.map (FilePath.resolve current)).Nodup := fun current => by
    rw [Generated.paths, List.map_map]
    exact places_nodup_of_run hextension h current
  refine ⟨hapart, (hapart []).of_map _, ?_, ?_⟩
  · rw [Generated.paths, Generated.artifacts, List.length_map, List.length_map]
  · rw [hcalls, shapesShown_flatMap, hshapes, Generated.paths, List.forall₂_map_left_iff,
      List.forall₂_map_right_iff, List.forall₂_same]
    intro o ho
    obtain ⟨-, folder, hfolder, hpath⟩ := (hplaces o ho).path_eq hextension
    exact ⟨folder, hfolder, by rw [hpath, FilePath.parent, List.dropLast_concat]⟩

/-- A class and an interface in one folder, the one found by way of another. -/
theorem paths_apart_one_folder :
    let render : Renderer := fun template _ => .ok template.text
    let c : Config :=
      { Config.default with interfaceFolder := .str ".", classFolder := .str "class/.." }
    let load : Value := .object [
      ("functionName", .str "load"), ("httpMethod", .str "get"), ("originalPath", .str "/users")]
    let document := documentOf [
      .object [("name", .str "User"), ("functions", .list [load])],
      .object [("name", .str "user-role")]]
    let g : Generated := {
      outputs := [
        ⟨⟨"User", "user", "service-class.ts.j2"⟩, .ofString "generated/class/../user.ts", false⟩,
        ⟨⟨"UserRole", "user-role", "service-class.ts.j2"⟩, .ofString "generated/user-role.ts",
          true⟩]
      warnings := ["Class 'user-role' has no members - will generate empty interface"] }
    '/' ∉ c.fileExtension.text.toList ∧
      (run ⟨[], []⟩ c (some render) document).result = .ok g ∧
      (∀ current, (g.paths.map (FilePath.resolve current)).Nodup) ∧ g.paths.Nodup ∧
      g.paths.length = g.artifacts.length ∧
      List.Forall₂
        (fun (isInterface : Bool) path =>
          ∃ folder, (if isInterface then c.interfacePath else c.classPath) = .ok folder ∧
            path.parent = .ofString folder)
        (shapesShown (run ⟨[], []⟩ c (some render) document).calls) g.paths := by
  intro render c load document g
  have hextension : '/' ∉ c.fileExtension.text.toList := by
    simp [c, Config.default, Config.ofFunction, Setting.default, Value.text, Scalar.text]
  have hok : (run ⟨[], []⟩ c (some render) document).result = .ok g :=
    toOption_eq_some.mp (by decide +kernel +revert)
  exact ⟨hextension, hok, paths_apart hextension hok⟩

end Generation

end TypeStencil
