import Mathlib.Data.List.Basic
import TypeStencil.Generation
import TypeStencil.Proofs.Generation.Concatenation

/-!
Processes. All that happens in a process shares one service for names, which remembers what it was
asked for. Whatever the process has done before, asking for a name, making a model and generating a
document come out as they do in a process that does nothing else.
-/
namespace TypeStencil

namespace Generation

variable {names : NameService} {render : Renderer} {c : Config}

/-- The service after the entries of a document; the first entry that fails is the last one that
asks for names. -/
def namesAfterEntries (render : Renderer) (c : Config) : NameService → List Value → NameService
  | names, [] => names
  | names, entry :: rest =>
    match Document.entryName entry with
    | .error _ => names
    | .ok (entries, name) =>
      let (names, identifiers) := names.identifiers name
      match (Document.modelOf identifiers entries name >>= outputOf render c).result with
      | .ok _ => namesAfterEntries render c names rest
      | .error _ => names

/-- The service after a generation. -/
def namesAfter (names : NameService) (fs : FileSystem) (c : Config) (given : Option Renderer)
    (document : Value) : NameService :=
  let start : Traced (Renderer × List Value) := do
    let classes ← Traced.of ((classEntries document).mapError .generator)
    let render ← rendererOf fs c given
    let _ ← Traced.of (Document.warnings document)
    return (render, classes)
  match start.result with
  | .ok (render, classes) => namesAfterEntries render c names classes
  | .error _ => names

theorem faithful_namesAfterEntries (h : names.Faithful) (classes : List Value) :
    (namesAfterEntries render c names classes).Faithful := by
  induction classes generalizing names with
  | nil => exact h
  | cons entry rest ih =>
      rw [namesAfterEntries]
      cases Document.entryName entry with
      | error f => exact h
      | ok found =>
          have hfaithful := (h.identifiers found.2).2
          dsimp only
          split
          · exact ih hfaithful
          · exact hfaithful

section

variable {fs : FileSystem} {given : Option Renderer}

theorem faithful_namesAfter (h : names.Faithful) (document : Value) :
    (namesAfter names fs c given document).Faithful := by
  unfold namesAfter
  dsimp only
  split
  · exact faithful_namesAfterEntries h _
  · exact h

theorem runWith_eq_run (h : names.Faithful) (document : Value) :
    runWith names fs c given document = run fs c given document := by
  simp only [run, runWith, attempt, outputs_eq_mapM h, outputs_eq_mapM NameService.faithful_fresh]

end

end Generation

namespace Process

/-- What a process can do with names. -/
inductive Use where
  | typeName (name : Value)
  | fileName (name : Value)
  | model (name : Value)
  | generation (fs : FileSystem) (c : Config) (given : Option Renderer) (document : Value)

inductive Outcome where
  | name (name : String)
  | model (m : ClassModel)
  | generated (result : Traced Generated)

def step (names : NameService) : Use → NameService × Outcome
  | .typeName name =>
    let (names, result) := names.typeName name
    (names, .name result)
  | .fileName name =>
    let (names, result) := names.fileName name
    (names, .name result)
  | .model name =>
    let (names, identifiers) := names.identifiers name
    (names, .model (.ofIdentifiers identifiers))
  | .generation fs c given document =>
    (Generation.namesAfter names fs c given document,
      .generated (Generation.runWith names fs c given document))

/-- The outcomes of a history of uses, and the service after it. -/
def run (names : NameService) : List Use → NameService × List Outcome
  | [] => (names, [])
  | u :: rest =>
    let (names, outcome) := step names u
    let (names, outcomes) := run names rest
    (names, outcome :: outcomes)

/-- What comes of a use by the rules for names, with nothing remembered. -/
def Use.alone : Use → Outcome
  | .typeName name => .name (TypeScript.typeName name)
  | .fileName name => .name (TypeScript.fileName name)
  | .model name => .model (.ofIdentifiers (.ofName name))
  | .generation fs c given document => .generated (Generation.run fs c given document)

theorem step_alone {names : NameService} (h : names.Faithful) (u : Use) :
    (step names u).2 = u.alone ∧ (step names u).1.Faithful := by
  cases u with
  | typeName name =>
      obtain ⟨hresult, hfaithful⟩ := h.typeName name
      exact ⟨congrArg Outcome.name hresult, hfaithful⟩
  | fileName name =>
      obtain ⟨hresult, hfaithful⟩ := h.fileName name
      exact ⟨congrArg Outcome.name hresult, hfaithful⟩
  | model name =>
      obtain ⟨hresult, hfaithful⟩ := h.identifiers name
      exact ⟨congrArg (fun ids => Outcome.model (.ofIdentifiers ids)) hresult, hfaithful⟩
  | generation fs c given document =>
      exact ⟨congrArg Outcome.generated (Generation.runWith_eq_run h document),
        Generation.faithful_namesAfter h document⟩

theorem run_alone {names : NameService} (h : names.Faithful) (history : List Use) :
    (run names history).2 = history.map Use.alone := by
  induction history generalizing names with
  | nil => rfl
  | cons u rest ih =>
      obtain ⟨houtcome, hfaithful⟩ := step_alone h u
      simp only [run, List.map_cons, houtcome, ih hfaithful]

/-- Every use in a history of a process comes out as it does alone. -/
theorem outcomes_alone (history : List Use) :
    (run .fresh history).2 = history.map Use.alone :=
  run_alone NameService.faithful_fresh history

end Process

end TypeStencil
