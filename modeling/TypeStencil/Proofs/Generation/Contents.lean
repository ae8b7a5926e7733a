import TypeStencil.Generation
import TypeStencil.Proofs.ClassModel.Printed
import TypeStencil.Proofs.Document.Contents
import TypeStencil.Proofs.Value.Sameness

/-!
What is generated of a content: the text that it prints, and the place of the file. A model that is
put together of texts gives what one content does.
-/
namespace TypeStencil

/-- What a class gives: its artifact, and the place of its file. -/
def Content.output (render : Renderer) (c : Config) (content : Content) : Except Fault Output := do
  let artifact ← content.print render c.templateNames
  let path ← Generation.outputPath c content.functions.isEmpty content.identifiers.fileName
  return ⟨artifact, path, content.functions.isEmpty⟩

namespace Generation

open Document

theorem result_outputOf {render : Renderer} {c : Config} (m : ClassModel) :
    (outputOf render c m).result = (do
      let artifact ← (m.render render c.templateNames).2.result
      let path ← outputPath c m.isInterface m.identifiers.fileName
      return ⟨artifact, path, m.isInterface⟩) := by
  simp only [outputOf, Traced.result_sequence]
  rfl

/-- A model that is put together of texts gives what a content does, which its parts settle. -/
theorem exists_output {parts : Parts} (h : parts.AreTexts) (name : Value) :
    ∃ content : Content, content.identifiers = Identifiers.ofName name ∧
      content.description = parts.lines ∧
      content.Fits parts.function? parts.property? parts.importLines ∧
      (content.IsBare ↔ parts.functions = [] ∧ parts.properties = []) ∧
      ∀ render c, (outputOf render c (parts.model (.ofName name))).result =
        content.output render c := by
  obtain ⟨content, hids, hdescription, hfits, hinterface, hproperties, hprint⟩ :=
    h.exists_content (Identifiers.ofName name)
  refine ⟨content, hids, hdescription, hfits, ?_, fun render c => ?_⟩
  · rw [Content.IsBare, ← List.isEmpty_iff, ← List.isEmpty_iff, ← hinterface, ← hproperties,
      ClassModel.isInterface, List.isEmpty_iff, List.isEmpty_iff]
    exact and_congr Entries.update_nil_eq_nil Entries.update_nil_eq_nil
  · rw [result_outputOf, hprint, hinterface, Parts.identifiers_model, ← hids]
    rfl

end Generation

end TypeStencil
