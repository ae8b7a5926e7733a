import TypeStencil.Proofs.Document.Building
import TypeStencil.Proofs.Template.Members
import TypeStencil.Proofs.Text.Lossless

/-!
The description of a model. It has the lines of all descriptions that were given, one after another,
whatever was registered or rendered between them. These are the lines of one text, in which a
newline stands between any two of them, unless a carriage return at the end of one gets lost there.
-/
namespace TypeStencil.ClassModel

open Text

/-- The description that a step gives. -/
def Step.description? : Step → Option Value
  | .description text => some text
  | _ => none

section

variable (renderer : Renderer) (templates : TemplateNames) {m : ClassModel}

theorem description_render : (m.render renderer templates).1.description = m.description := by
  rw [render]
  cases (m.renderMembers renderer templates).result <;> rfl

/-- No step but a description touches the description, whether it succeeds or not. -/
theorem description_step (s : Step) :
    (m.step renderer templates s).1.description = m.description ++ s.lines := by
  cases s with
  | description text => exact congrArg description (addDescription_state text)
  | imports items => exact (List.append_nil _).symm
  | function d =>
      refine (congrArg description (addFunction_state d)).trans ?_
      cases RegisteredFunction.entry d <;> exact (List.append_nil _).symm
  | property d =>
      refine (congrArg description (addProperty_state d)).trans ?_
      cases RegisteredProperty.entry d <;> exact (List.append_nil _).symm
  | render => exact (description_render renderer templates).trans (List.append_nil _).symm

theorem description_run (history : List Step) :
    (m.run renderer templates history).1.description =
      m.description ++ history.flatMap Step.lines := by
  induction history generalizing m with
  | nil => exact (List.append_nil _).symm
  | cons s rest ih =>
      rw [List.flatMap_cons, ← List.append_assoc, ← description_step renderer templates]
      exact ih

end

theorem lines_of_given {history : List Step} {texts : List String}
    (h : history.filterMap Step.description? = texts.map .str) :
    history.flatMap Step.lines = texts.flatMap lines := by
  have hlines : ∀ t : String, (Value.str t).lines.toOption.getD [] = lines t := fun t =>
    congrArg (fun r => (Except.toOption r).getD []) (Value.lines_ofText (some t))
  induction history generalizing texts with
  | nil =>
      obtain rfl := List.map_eq_nil_iff.mp h.symm
      rfl
  | cons s rest ih =>
      rw [List.flatMap_cons]
      cases s with
      | description text =>
          obtain ⟨t, more, rfl, rfl, hmore⟩ := List.map_eq_cons_iff.mp h.symm
          rw [List.flatMap_cons, ← hlines, ih hmore.symm]
          rfl
      | _ => exact ih h

/-- The lines of a text keep everything but the carriage returns in front of newlines, and a
description keeps its texts in the same way: it has the lines of the texts joined by newlines,
exactly if none that is followed by another ends in a carriage return. -/
theorem lines_lossless {text : String} (htext : text ≠ "") (renderer : Renderer)
    (templates : TemplateNames) (ids : Identifiers) {history : List Step} {texts : List String}
    (hgiven : history.filterMap Step.description? = texts.map .str) (hne : ∀ t ∈ texts, t ≠ "") :
    ("\n".intercalate (lines text) = plainNewlines text ∧
      (∀ line ∈ lines text, '\n' ∉ line.toList) ∧
      (lines text).length = text.toList.count '\n' + 1) ∧
    (∀ more, more ≠ "" →
      (lines (text ++ "\n" ++ more) = lines text ++ lines more ↔ ¬ EndsInReturn text)) ∧
    (((ofIdentifiers ids).run renderer templates history).1.description =
        lines ("\n".intercalate texts) ↔ ∀ t ∈ texts.dropLast, ¬ EndsInReturn t) := by
  refine ⟨⟨intercalate_lines htext, fun line => newline_not_mem_lines, length_lines htext⟩,
    fun more hmore => ?_, ?_⟩
  · have htwo : ∀ t ∈ [text, more], t ≠ "" := by
      rw [List.forall_mem_cons, List.forall_mem_singleton]
      exact ⟨htext, hmore⟩
    simpa using lines_intercalate_iff htwo
  · rw [description_run, lines_of_given hgiven, ← lines_intercalate_iff hne]
    exact eq_comm

/-- Two returns in front of a newline, of which the first stays, and a description that is given in
two texts, with a rendering that fails between them. -/
theorem lines_lossless_returns :
    let text := "a\r\r\nb\n"
    let texts := ["All users.\r\nSorted.", "By name.\r"]
    let history : List Step := [.description (.str "All users.\r\nSorted."),
      .imports [.str "import a;"], .render, .description (.str "By name.\r")]
    let renderer : Renderer := fun _ _ => .error .wideIndex
    let templates : TemplateNames := ⟨.str "function", .str "property", .str "class"⟩
    text ≠ "" ∧ history.filterMap Step.description? = texts.map .str ∧ (∀ t ∈ texts, t ≠ "") ∧
      lines text = ["a\r", "b", ""] ∧ plainNewlines text = "a\r\nb\n" ∧
      lines (text ++ "\n" ++ "c") = lines text ++ lines "c" ∧
      ((ofIdentifiers ⟨"Users", "users"⟩).run renderer templates history).1.description =
        lines ("\n".intercalate texts) := by
  intro text texts history renderer templates
  have htext : text ≠ "" := by decide
  have hgiven : history.filterMap Step.description? = texts.map .str := rfl
  have hne : ∀ t ∈ texts, t ≠ "" := by decide
  obtain ⟨⟨hjoined, -, -⟩, htwo, hdescription⟩ :=
    lines_lossless htext renderer templates ⟨"Users", "users"⟩ hgiven hne
  refine ⟨htext, hgiven, hne, by decide +kernel, ?_, ?_, ?_⟩
  · rw [← hjoined]
    decide +kernel
  · exact (htwo "c" (by decide)).mpr (by decide +kernel)
  · exact hdescription.mpr (by decide +kernel)

end TypeStencil.ClassModel
