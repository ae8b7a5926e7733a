import TypeStencil.Proofs.Files.Routes
import TypeStencil.Proofs.Sequencing
import TypeStencil.Reference

/-!
Import lines and where they lead. A module specifier is a relative path with a dot in front, and
the dot changes nothing about the way; whoever follows the specifier from the folder of the
importing file arrives at the file of the imported artifact.
-/
namespace TypeStencil

open Text

theorem PathText.join_ne_nil (a : List Char) {b : List Char} (h : b ≠ []) : join a b ≠ [] := by
  rw [join]
  split
  · exact h
  · split
    · exact List.append_ne_nil_of_right_ne_nil a h
    · exact List.append_ne_nil_of_right_ne_nil a (List.cons_ne_nil _ _)

namespace ObjectReference

section

variable {r : ObjectReference} {place name : String}

/-- A specifier starts with a dot, so it never starts at the root. -/
theorem head?_specifier (relative : List Char) : (specifier relative).head? = some '.' := by
  rw [specifier]
  split
  · next h => exact eq_of_beq h
  · rfl

/-- The dot in front of a relative path leads nowhere. -/
theorem foldl_enter_specifier (relative : List Char) (above : List PathText.Segment) :
    (PathText.segments (specifier relative)).foldl PathText.enter above =
      (PathText.segments relative).foldl PathText.enter above := by
  rw [specifier]
  split
  · rfl
  · have hdot : PathText.segments ('.' :: '/' :: relative) = ['.'] :: PathText.segments relative :=
      splitAt_append '/' ['.'] relative
    rw [hdot, List.foldl_cons, PathText.enter_dot]

/-- Whoever follows a specifier from a folder arrives at its target. -/
theorem resolve_specifier (target folder : String) :
    (FilePath.ofString
        (String.ofList (specifier (PathText.relative target.toList folder.toList)))).resolve
      ((FilePath.ofString folder).resolve []) = (FilePath.ofString target).resolve [] := by
  generalize hs : String.ofList (specifier (PathText.relative target.toList folder.toList)) = s
  have htext : s.toList = specifier (PathText.relative target.toList folder.toList) := by
    rw [← hs, String.toList_ofList]
  have hroot : (FilePath.ofString s).root = .relative := by
    apply FilePath.root_ofString
    rw [htext, head?_specifier]
    decide
  have hway := FilePath.foldl_enter_ofString s (PathText.resolve folder.toList).reverse
  rw [List.reverse_reverse, htext, foldl_enter_specifier, PathText.foldl_enter_relative,
    List.reverse_reverse] at hway
  rw [FilePath.resolve, FilePath.start, if_pos hroot, FilePath.resolve_ofString,
    FilePath.resolve_ofString, hway]

-- A hidden folder brings its own dot.
example : specifier (PathText.relative "/api/.x/http".toList "/api//./y/..".toList) =
    ".x/http".toList := by decide

/-- The import line of a reference leads from a folder to the file of the reference. -/
def ImportArrives (r : ObjectReference) (folder : String) : Prop :=
  ∃ specifier target, joinPaths r.folderPath r.fileName = .ok target ∧
    r.importStatement (.str folder) =
      .ok ("import \x7b" ++ r.className.text ++ "\x7d from \"" ++ specifier ++ "\";") ∧
    (FilePath.ofString specifier).resolve ((FilePath.ofString folder).resolve []) =
      (FilePath.ofString target).resolve []

theorem importArrives (hplace : r.folderPath = .str place) (hname : r.fileName = .str name)
    (hne : name ≠ "") (folder : String) : r.ImportArrives folder := by
  have hjoined : joinPaths r.folderPath r.fileName =
      .ok (String.ofList (PathText.join place.toList name.toList)) := by
    rw [hplace, hname, joinPaths]
  generalize htarget : String.ofList (PathText.join place.toList name.toList) = target at hjoined
  have hsome : target.isEmpty = false := by
    rw [← htarget, ← Bool.not_eq_true, String.isEmpty_iff, String.ofList_eq_empty_iff]
    exact PathText.join_ne_nil _ fun h => hne (String.toList_eq_nil_iff.mp h)
  refine ⟨_, target, hjoined, ?_, resolve_specifier target folder⟩
  rw [importStatement, moduleSpecifier, hjoined, ok_bind, hsome]
  rfl

end

end ObjectReference

section

variable {c : Config} {output functions interfaces : String}

/-- A well-known artifact in folders that are texts. -/
theorem WellKnown.exists_resolve (houtput : c.outputDir = .str output)
    (hfunctions : c.functionFolder = .str functions)
    (hinterfaces : c.interfaceFolder = .str interfaces) (folder : String) {w : WellKnown}
    (hw : w ∈ all) : ∃ r, (w.resolve c = .ok r ∧ r.refKey = w.refKey) ∧ r.ImportArrives folder := by
  have hfolder : ∃ name, c.get w.folder = .str name := by
    have hkinds : ∀ w ∈ all, w.folder = .functionFolder ∨ w.folder = .interfaceFolder := by decide
    rcases hkinds w hw with h | h
    · exact ⟨functions, h ▸ hfunctions⟩
    · exact ⟨interfaces, h ▸ hinterfaces⟩
  obtain ⟨name, hname⟩ := hfolder
  have hfile : ∀ w ∈ all, w.fileName ≠ "" := by decide
  have hresolve : w.resolve c = .ok ⟨.str w.fileName, w.refKey, .str w.className,
      .str (String.ofList (PathText.join output.toList name.toList))⟩ := by
    rw [resolve, houtput, hname]
    rfl
  exact ⟨_, ⟨hresolve, rfl⟩, ObjectReference.importArrives rfl rfl (hfile w hw) folder⟩

/-- The well-known artifacts are resolved one by one, each under its key. -/
theorem Config.exists_references {q : ObjectReference → Prop}
    (h : ∀ w ∈ WellKnown.all, ∃ r, (w.resolve c = .ok r ∧ r.refKey = w.refKey) ∧ q r) :
    ∃ refs, c.references = .ok refs ∧
      refs.map ObjectReference.refKey = WellKnown.all.map WellKnown.refKey ∧ ∀ r ∈ refs, q r := by
  obtain ⟨refs, hrefs, hall⟩ := exists_forall₂ h
  refine ⟨refs, mapM_eq_ok.mpr (hrefs.imp fun _ _ h => h.1), ?_, hall⟩
  have hkeys := hrefs.imp fun _ _ h => h.2
  rw [← List.forall₂_eq_eq_eq, List.forall₂_map_left_iff, List.forall₂_map_right_iff]
  exact hkeys.flip

/-- Whatever the folders are called, every well-known artifact can be imported in every folder, and
its import line leads there. -/
theorem Config.imports_arrive (houtput : c.outputDir = .str output)
    (hfunctions : c.functionFolder = .str functions)
    (hinterfaces : c.interfaceFolder = .str interfaces) (folder : String) :
    ∃ refs, c.references = .ok refs ∧
      refs.map ObjectReference.refKey = WellKnown.all.map WellKnown.refKey ∧
        ∀ r ∈ refs, r.ImportArrives folder := by
  apply Config.exists_references
  intro w hw
  exact WellKnown.exists_resolve houtput hfunctions hinterfaces folder hw

theorem Config.imports_arrive_detours :
    let c : Config :=
      { default with outputDir := .str "/gen//./out", functionFolder := .str "../../..//f",
                     interfaceFolder := .str "/api/.x" }
    c.outputDir = .str "/gen//./out" ∧ c.functionFolder = .str "../../..//f" ∧
      c.interfaceFolder = .str "/api/.x" ∧
        ∃ refs, c.references = .ok refs ∧
          refs.map ObjectReference.refKey = WellKnown.all.map WellKnown.refKey ∧
            ∀ r ∈ refs, r.ImportArrives "api/../../api" :=
  ⟨rfl, rfl, rfl, Config.imports_arrive rfl rfl rfl "api/../../api"⟩

end

end TypeStencil
