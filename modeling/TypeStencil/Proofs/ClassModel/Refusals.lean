import TypeStencil.Proofs.ClassModel.Registration

/-!
Steps that are refused. A text that cannot be read is not added, and a rendering that ends before
all members are rendered adds no import lines. Such steps can be left out of a history: the model
and what all other steps come to stay as they are.
-/
namespace TypeStencil.ClassModel

/-- A step of a history as it was taken: the model before and after it, and what it came to. -/
structure Taken where
  before : ClassModel
  step : Step
  after : ClassModel
  outcome : Traced (Option Artifact)

section

variable (renderer : Renderer) (templates : TemplateNames)

/-- The steps of a history one after another. -/
def transcript (m : ClassModel) : List Step → List Taken
  | [] => []
  | s :: rest =>
    let next := m.step renderer templates s
    ⟨m, s, next.1, next.2⟩ :: transcript next.1 rest

/-- A description or a member that is not registered, or a rendering that ends while the members are
sorted or rendered. -/
def Taken.isRefused (t : Taken) : Bool :=
  match t.step with
  | .imports _ => false
  | .render => !(t.before.renderMembers renderer templates).result.isOk
  | _ => !t.outcome.result.isOk

/-- The steps that were not refused. -/
def accepted (m : ClassModel) (steps : List Step) : List Taken :=
  (m.transcript renderer templates steps).filter fun t => !t.isRefused renderer templates

theorem run_cons (m : ClassModel) (s : Step) (rest : List Step) :
    m.run renderer templates (s :: rest) =
      (((m.step renderer templates s).1.run renderer templates rest).1,
        (m.step renderer templates s).2 ::
          ((m.step renderer templates s).1.run renderer templates rest).2) := rfl

/-- What the steps of a history come to stands in its transcript. -/
theorem outcomes_transcript (m : ClassModel) (steps : List Step) :
    (m.transcript renderer templates steps).map Taken.outcome =
      (m.run renderer templates steps).2 := by
  induction steps generalizing m with
  | nil => rfl
  | cons s rest ih => rw [transcript, List.map_cons, ih, run_cons]

variable {renderer templates}

theorem isOk_registered (r : ClassModel × Traced Unit) :
    (step.registered r).2.result.isOk = r.2.result.isOk := by
  rcases r with ⟨m, events, _ | _⟩ <;> rfl

/-- A rendering that ends before all members are rendered leaves the model as it is. -/
theorem render_of_not_ok {m : ClassModel}
    (h : (m.renderMembers renderer templates).result.isOk = false) :
    (m.render renderer templates).1 = m := by
  rw [render]
  cases hmembers : (m.renderMembers renderer templates).result with
  | error f => rfl
  | ok texts =>
      rw [hmembers] at h
      cases h

/-- A refused step leaves the model as it is. -/
theorem step_of_refused {m : ClassModel} {s : Step}
    (h : Taken.isRefused renderer templates
      ⟨m, s, (m.step renderer templates s).1, (m.step renderer templates s).2⟩ = true) :
    (m.step renderer templates s).1 = m := by
  -- A step that registers something is refused exactly if the registration fails.
  have hfails : ∀ r : ClassModel × Traced Unit,
      (!(step.registered r).2.result.isOk) = true → r.2.result.isOk = false := fun r hr =>
    (isOk_registered r).symm.trans (Bool.not_eq_true' _ ▸ hr)
  cases s with
  | description text => exact addDescription_of_not_ok (hfails _ h)
  | imports items => cases h
  | function d => exact addFunction_of_not_ok (hfails _ h)
  | property d => exact addProperty_of_not_ok (hfails _ h)
  | render => exact render_of_not_ok (Bool.not_eq_true' _ ▸ h)

variable (renderer templates)

/-- The steps that were not refused are taken in the same way without the others, and lead to the
same model. -/
theorem transcript_accepted (m : ClassModel) (steps : List Step) :
    m.transcript renderer templates ((m.accepted renderer templates steps).map Taken.step) =
        m.accepted renderer templates steps ∧
      (m.run renderer templates ((m.accepted renderer templates steps).map Taken.step)).1 =
        (m.run renderer templates steps).1 := by
  induction steps generalizing m with
  | nil => exact ⟨rfl, rfl⟩
  | cons s rest ih =>
      obtain ⟨htranscript, hmodel⟩ := ih (m.step renderer templates s).1
      rw [accepted, transcript, List.filter_cons, run_cons]
      split
      · rw [List.map_cons, transcript, run_cons]
        exact ⟨congrArg _ htranscript, hmodel⟩
      · next hrefused =>
          rw [Bool.not_eq_true, Bool.not_eq_false'] at hrefused
          have hsame := step_of_refused hrefused
          rw [hsame] at htranscript hmodel ⊢
          exact ⟨htranscript, hmodel⟩

/-- Without the steps that were refused a history leads to the same model, and every other step
finds the same model and comes to the same as before. -/
theorem refused_without_trace (m : ClassModel) (steps : List Step) :
    let kept := m.accepted renderer templates steps
    m.run renderer templates (kept.map Taken.step) =
        ((m.run renderer templates steps).1, kept.map Taken.outcome) ∧
      m.transcript renderer templates (kept.map Taken.step) = kept ∧
      (m.run renderer templates steps).2 =
        (m.transcript renderer templates steps).map Taken.outcome := by
  intro kept
  obtain ⟨htranscript, hmodel⟩ := m.transcript_accepted renderer templates steps
  have houtcomes := m.outcomes_transcript renderer templates (kept.map Taken.step)
  rw [htranscript] at houtcomes
  exact ⟨Prod.ext hmodel houtcomes.symm, htranscript,
    (m.outcomes_transcript renderer templates steps).symm⟩

end

end TypeStencil.ClassModel
