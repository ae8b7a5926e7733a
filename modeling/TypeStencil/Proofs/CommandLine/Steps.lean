import TypeStencil.CommandLine.Run

/-!
The steps of a session one by one: what a sequence of steps comes to, which steps leave the files
alone, and which faults they can meet.
-/
namespace TypeStencil.Action

variable {α β : Type} {m : Action α} {f : α → Action β} {s s' : Session}

/-- What a step comes to and the session after it. -/
def after (m : Action α) (s : Session) : Except Fault α × Session :=
  m.run.run s

theorem after_of (r : Except Fault α) (s : Session) : (Action.of r).after s = (r, s) := rfl

theorem after_ofTraced (t : Traced α) (s : Session) :
    (ofTraced t).after s = (t.result, { s with events := s.events ++ t.events }) := rfl

theorem after_modify (change : Session → Session) (s : Session) :
    (modify change : Action Unit).after s = (.ok (), change s) := rfl

theorem after_get (s : Session) : (get : Action Session).after s = (.ok s, s) := rfl

theorem after_files (s : Session) : files.after s = (.ok s.files, s) := rfl

theorem after_bind (m : Action α) (f : α → Action β) (s : Session) :
    (m >>= f).after s =
      match m.after s with
      | (.ok a, s₁) => (f a).after s₁
      | (.error e, s₁) => (.error e, s₁) := by
  unfold after ExceptT.run StateT.run
  simp only [bind, ExceptT.bind, ExceptT.mk, StateT.bind, ExceptT.bindCont]
  rcases m s with ⟨e | a, s₁⟩ <;> rfl

theorem after_tryCatch (m : Action α) (handle : Fault → Action α) (s : Session) :
    (tryCatch m handle).after s =
      match m.after s with
      | (.ok a, s₁) => (.ok a, s₁)
      | (.error e, s₁) => (handle e).after s₁ := by
  unfold after ExceptT.run StateT.run
  simp only [tryCatch, tryCatchThe, MonadExceptOf.tryCatch, ExceptT.tryCatch, ExceptT.mk, bind,
    StateT.bind]
  rcases m s with ⟨e | a, s₁⟩ <;> rfl

theorem bind_eq_ok {b : β} : (m >>= f).after s = (.ok b, s') ↔
    ∃ a s₁, m.after s = (.ok a, s₁) ∧ (f a).after s₁ = (.ok b, s') := by
  rw [after_bind]
  rcases m.after s with ⟨a | a, s₁⟩ <;> simp [and_assoc]

theorem bind_eq_error {e : Fault} : (m >>= f).after s = (.error e, s') ↔
    m.after s = (.error e, s') ∨
      ∃ a s₁, m.after s = (.ok a, s₁) ∧ (f a).after s₁ = (.error e, s') := by
  rw [after_bind]
  rcases m.after s with ⟨a | a, s₁⟩ <;> simp [and_assoc]

theorem bind_after_files (f : FileSystem → Action β) (s : Session) :
    (files >>= f).after s = (f s.files).after s := by
  rw [after_bind, after_files]

/-- A step that leaves the files alone, whatever it comes to. -/
def KeepsFiles (m : Action α) : Prop :=
  ∀ s, (m.after s).2.files = s.files

namespace KeepsFiles

theorem of_eq {r : Except Fault α} (hm : KeepsFiles m) (h : m.after s = (r, s')) :
    s'.files = s.files := by
  rw [← hm s, h]

theorem pure (a : α) : KeepsFiles (Pure.pure a : Action α) := fun _ => rfl

theorem get : KeepsFiles (get : Action Session) := fun _ => rfl

theorem files : KeepsFiles Action.files := fun _ => rfl

theorem throw (e : Fault) : KeepsFiles (throw e : Action α) := fun _ => rfl

theorem ofResult (r : Except Fault α) : KeepsFiles (Action.of r) := fun _ => rfl

theorem ofTraced (t : Traced α) : KeepsFiles (Action.ofTraced t) := fun _ => rfl

theorem modify {change : Session → Session} (h : ∀ s, (change s).files = s.files) :
    KeepsFiles (modify change : Action Unit) := h

theorem bind (hm : KeepsFiles m) (hf : ∀ a, KeepsFiles (f a)) : KeepsFiles (m >>= f) := by
  intro s
  rw [after_bind]
  rcases h : m.after s with ⟨e | a, s₁⟩
  · exact hm.of_eq h
  · exact (hf a s₁).trans (hm.of_eq h)

theorem forM {step : α → Action Unit} (h : ∀ a, KeepsFiles (step a)) (as : List α) :
    KeepsFiles (as.forM step) := by
  induction as with
  | nil => exact pure _
  | cons a rest ih => exact bind (h a) fun _ => ih

theorem printLine (line : List Char) : KeepsFiles (Action.printLine line) := fun _ => rfl

theorem printLines (lines : List (List Char)) : KeepsFiles (Action.printLines lines) :=
  forM printLine lines

theorem print (message : String) : KeepsFiles (Action.print message) :=
  bind get fun _ => bind (ofResult _) fun lines => printLines lines

end KeepsFiles

end TypeStencil.Action

namespace TypeStencil.CommandLine

open TypeStencil.Action

variable {α β : Type} {m : Action α} {f : α → Action β}

/-- A step whose faults are none that a run has an answer to. -/
def Unforeseen (m : Action α) : Prop :=
  ∀ s e s', m.after s = (.error e, s') → isForeseen e = false

namespace Unforeseen

theorem ofResult {r : Except Fault α} (h : ∀ e, r = .error e → isForeseen e = false) :
    Unforeseen (Action.of r) := by
  rintro s e s' heq
  exact h e (congrArg Prod.fst heq)

theorem ofMapError {δ : Type} {r : Except δ α} {wrap : δ → Fault}
    (h : ∀ e, isForeseen (wrap e) = false) : Unforeseen (Action.of (r.mapError wrap)) := by
  refine ofResult fun e he => ?_
  cases r with
  | ok a => cases he
  | error cause =>
      obtain rfl := Except.error.inj he
      exact h cause

theorem ofOk (h : ∀ s, ∃ a, (m.after s).1 = .ok a) : Unforeseen m := by
  rintro s e s' heq
  obtain ⟨a, hok⟩ := h s
  rw [heq] at hok
  cases hok

theorem pure (a : α) : Unforeseen (Pure.pure a : Action α) := ofOk fun _ => ⟨a, rfl⟩

theorem get : Unforeseen (get : Action Session) := ofOk fun s => ⟨s, rfl⟩

theorem files : Unforeseen Action.files := ofOk fun s => ⟨s.files, rfl⟩

theorem modify (change : Session → Session) : Unforeseen (modify change : Action Unit) :=
  ofOk fun _ => ⟨(), rfl⟩

theorem log (level : LogLevel) (message : String) : Unforeseen (Action.log level message) :=
  ofOk fun _ => ⟨(), rfl⟩

theorem bind (hm : Unforeseen m) (hf : ∀ a, Unforeseen (f a)) : Unforeseen (m >>= f) := by
  intro s e s' h
  rcases Action.bind_eq_error.mp h with h | ⟨a, s₁, -, h⟩
  · exact hm s e s' h
  · exact hf a s₁ e s' h

theorem forM {step : α → Action Unit} (h : ∀ a, Unforeseen (step a)) (as : List α) :
    Unforeseen (as.forM step) := by
  induction as with
  | nil => exact pure _
  | cons a rest ih => exact bind (h a) fun _ => ih

theorem printLines (lines : List (List Char)) : Unforeseen (Action.printLines lines) :=
  forM (fun _ => modify _) lines

theorem print (message : String) : Unforeseen (Action.print message) :=
  bind get fun _ => bind (ofMapError fun _ => rfl) fun lines => printLines lines

end Unforeseen

/-- A step that has left the files alone if it meets a fault that a run has an answer to. -/
def TouchesLast (m : Action α) : Prop :=
  ∀ s e s', m.after s = (.error e, s') → isForeseen e = true → s'.files = s.files

namespace TouchesLast

theorem ofKeepsFiles (h : KeepsFiles m) : TouchesLast m := fun _ _ _ heq _ => h.of_eq heq

theorem ofUnforeseen (h : Unforeseen m) : TouchesLast m := by
  intro s e s' heq hforeseen
  rw [h s e s' heq] at hforeseen
  cases hforeseen

theorem bind (hm : KeepsFiles m) (hf : ∀ a, TouchesLast (f a)) : TouchesLast (m >>= f) := by
  intro s e s' h hforeseen
  rcases Action.bind_eq_error.mp h with h | ⟨a, s₁, hok, h⟩
  · exact hm.of_eq h
  · exact (hf a s₁ e s' h hforeseen).trans (hm.of_eq hok)

end TouchesLast

end TypeStencil.CommandLine
