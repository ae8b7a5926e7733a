import TypeStencil.Proofs.Generation.Paths
import TypeStencil.Proofs.Generation.WellFormed
import TypeStencil.Proofs.Naming.Letters

/-!
Classes that share a file. The file name of a class has the letters and digits of its type name,
and nothing else but hyphens, so that a generation refuses two classes for their file only if their
type names are the same but for case and underscores.
-/
namespace TypeStencil

namespace Generation

open Naming TypeScript

variable {render : Renderer} {c : Config}

/-- The artifact of an entry has the identifiers of some name. -/
theorem identifiers_of_entry {entry : Value} {o : Output}
    (h : (outputOfEntry render c entry).result = .ok o) :
    ∃ name, o.artifact.identifiers = .ofName name := by
  obtain ⟨entries, name, m, -, hm, ho⟩ := outputOfEntry_eq_ok.mp h
  obtain ⟨parts, -, rfl⟩ := Document.modelOf_eq_ok.mp hm
  obtain ⟨artifact, hartifact, ho⟩ := Traced.bind_eq_ok.mp ho
  obtain ⟨path, -, ho⟩ := Traced.bind_eq_ok.mp ho
  obtain rfl := Except.ok.inj ho
  obtain ⟨htype, hfile⟩ := ClassModel.names_of_render hartifact
  rw [Document.Parts.identifiers_model] at htype hfile
  exact ⟨name, congrArg₂ Identifiers.mk htype hfile⟩

theorem identifiers_of_outputs {names : NameService} (hnames : names.Faithful)
    {classes : List Value} {os : List Output}
    (h : (outputs render c names classes).result = .ok os) :
    ∀ o ∈ os, ∃ name, o.artifact.identifiers = .ofName name := by
  have houtputs := (outputs_eq_ok hnames).mp h
  clear h
  induction houtputs with
  | nil => exact fun o ho => nomatch ho
  | cons ho _ ih => exact List.forall_mem_cons.mpr ⟨identifiers_of_entry ho, ih⟩

/-- Files that are refused belong to the first two classes with one file name, and the type names
of these are the same but for case and underscores. -/
theorem unmarked_of_checkFiles {artifacts : List Artifact} {f : GeneratorFault}
    (hartifacts : ∀ a ∈ artifacts, ∃ name, a.identifiers = .ofName name)
    (h : checkFiles [] artifacts = .error f) :
    ∃ earlier later, FirstCollision (artifacts.map Artifact.identifiers) earlier later ∧
      f = .sameFile earlier.typeName later.typeName later.fileName ∧
      unmarked earlier.typeName.toList = unmarked later.typeName.toList := by
  have hrepeated : ¬ (artifacts.map Artifact.fileName).Nodup := fun hnodup => by
    rw [checkFiles_eq_ok.mpr ⟨hnodup, by simp⟩] at h
    cases h
  obtain ⟨earlier, later, hfirst, hcheck⟩ :=
    @checkFiles_of_repeated [] artifacts List.nodup_nil hrepeated
  rw [List.reverse_nil, List.nil_append] at hfirst
  have hnamed : ∀ i ∈ artifacts.map Artifact.identifiers, ∃ name, i = .ofName name := by
    intro i hi
    obtain ⟨a, ha, rfl⟩ := List.mem_map.mp hi
    exact hartifacts a ha
  obtain ⟨before, between, after, hsplit, hfile, -⟩ := id hfirst
  obtain ⟨a, rfl⟩ := hnamed earlier (hsplit ▸ by simp)
  obtain ⟨b, rfl⟩ := hnamed later (hsplit ▸ by simp)
  exact ⟨_, _, hfirst, Except.error.inj (h.symm.trans hcheck), unmarked_typeName_eq hfile⟩

/-- Whatever has been named before, the letters of a name are those of its type name, in their
order, with those of another word behind them if the name is taken; a name without letters gets
those of that word alone. A file name has the letters of its type name. So two classes are refused
for their file only if their type names are the same but for case and underscores. -/
theorem letters_kept (before : List Value) :
    (∀ name : String,
      let identifiers := ((NameService.asked before).identifiers (.str name)).2
      let given := letters name.toList
      (given ≠ [] → letters identifiers.typeName.toList = given ++
        if typeRules.avoids (pascal (typeRules.clean name.toList)) then "model".toList else []) ∧
      (given = [] → letters identifiers.typeName.toList = "model".toList) ∧
      letters identifiers.fileName.toList = letters identifiers.typeName.toList) ∧
    ∀ render c classes os f,
      (outputs render c (.asked before) classes).result = .ok os →
      checkFiles [] (os.map Output.artifact) = .error f →
      ∃ earlier later,
        FirstCollision ((os.map Output.artifact).map Artifact.identifiers) earlier later ∧
        f = .sameFile earlier.typeName later.typeName later.fileName ∧
        unmarked earlier.typeName.toList = unmarked later.typeName.toList := by
  have hfaithful := NameService.faithful_asked before
  constructor
  · intro name identifiers given
    have hnames : identifiers = .ofName (.str name) := (hfaithful.identifiers (.str name)).1
    obtain ⟨hkept, hnameless⟩ := letters_typeName (.str name)
    rw [hnames]
    exact ⟨hkept, hnameless, letters_fileName (.str name)⟩
  · intro render c classes os f houtputs hcheck
    refine unmarked_of_checkFiles (fun a ha => ?_) hcheck
    obtain ⟨o, ho, rfl⟩ := List.mem_map.mp ha
    exact identifiers_of_outputs hfaithful houtputs o ho

/-- Two names with the same letters, one of which is made of two words. -/
theorem letters_kept_twice :
    let render : Renderer := fun template _ => .ok template.text
    let classes : List Value := [.object [("name", .str "a_b")], .object [("name", .str "ab")]]
    let result := (outputs render .default (.asked []) classes).result
    letters "a_b".toList ≠ [] ∧
      ((NameService.asked []).identifiers (.str "a_b")).2.typeName = "AB" ∧
      letters "AB".toList = letters "a_b".toList ++
        (if typeRules.avoids (pascal (typeRules.clean "a_b".toList)) then "model".toList else []) ∧
      ∃ os, result = .ok os ∧
        checkFiles [] (os.map Output.artifact) = .error (.sameFile "AB" "Ab" "ab") ∧
        ∃ earlier later,
          FirstCollision ((os.map Output.artifact).map Artifact.identifiers) earlier later ∧
          GeneratorFault.sameFile "AB" "Ab" "ab" =
            .sameFile earlier.typeName later.typeName later.fileName ∧
          unmarked earlier.typeName.toList = unmarked later.typeName.toList := by
  intro render classes result
  obtain ⟨hnames, hfiles⟩ := letters_kept []
  have hgiven : letters "a_b".toList ≠ [] := by decide +kernel
  have htype : ((NameService.asked []).identifiers (.str "a_b")).2.typeName = "AB" := by
    decide +kernel
  have hok : result = .ok [⟨⟨"AB", "ab", "service-class.ts.j2"⟩,
      .ofString "generated/interface/ab.ts", true⟩,
      ⟨⟨"Ab", "ab", "service-class.ts.j2"⟩,
        .ofString "generated/interface/ab.ts", true⟩] :=
    toOption_eq_some.mp (by decide +kernel +revert)
  have hcheck := hfiles render .default classes _ (.sameFile "AB" "Ab" "ab") hok rfl
  exact ⟨hgiven, htype, htype ▸ (hnames "a_b").1 hgiven, _, hok, rfl, hcheck⟩

end Generation

end TypeStencil
