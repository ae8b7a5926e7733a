import Mathlib.Data.List.Forall2
import TypeStencil.Trace

/-!
Sequencing of computations that may fail, with and without a trace: what a sequence comes to when
its steps succeed, and what its steps must have come to when the sequence succeeds.
-/
namespace TypeStencil

section

variable {ε α β : Type}

theorem ok_bind (a : α) (f : α → Except ε β) : (Except.ok a >>= f) = f a := rfl

theorem error_bind (e : ε) (f : α → Except ε β) : (Except.error e >>= f) = Except.error e := rfl

theorem bind_eq_ok {x : Except ε α} {f : α → Except ε β} {b : β} :
    (x >>= f) = .ok b ↔ ∃ a, x = .ok a ∧ f a = .ok b := by
  cases x with
  | error e =>
      constructor
      · intro h
        cases h
      · rintro ⟨a, h, -⟩
        cases h
  | ok a =>
      constructor
      · exact fun h => ⟨a, rfl, h⟩
      · rintro ⟨a', h, hf⟩
        cases h
        exact hf

theorem forall_mem_right {R : α → β → Prop} {q : β → Prop} {as : List α} {bs : List β}
    (h : List.Forall₂ R as bs) (hq : ∀ a ∈ as, ∀ b, R a b → q b) : ∀ b ∈ bs, q b := by
  induction h with
  | nil => exact fun b hb => nomatch hb
  | cons hab _ ih =>
      rw [List.forall_mem_cons] at hq ⊢
      exact ⟨hq.1 _ hab, ih hq.2⟩

/-- Items that are each related to something are related to a list. -/
theorem exists_forall₂ {R : α → β → Prop} {q : β → Prop} {as : List α}
    (h : ∀ a ∈ as, ∃ b, R a b ∧ q b) : ∃ bs, List.Forall₂ R as bs ∧ ∀ b ∈ bs, q b := by
  induction as with
  | nil => exact ⟨[], .nil, fun b hb => nomatch hb⟩
  | cons a rest ih =>
      rw [List.forall_mem_cons] at h
      obtain ⟨b, hab, hb⟩ := h.1
      obtain ⟨bs, hrest, hall⟩ := ih h.2
      exact ⟨b :: bs, .cons hab hrest, List.forall_mem_cons.mpr ⟨hb, hall⟩⟩

/-- A traversal succeeds exactly if its steps do, each on its own. -/
theorem mapM_eq_ok {f : α → Except ε β} {as : List α} {bs : List β} :
    as.mapM f = .ok bs ↔ List.Forall₂ (fun a b => f a = .ok b) as bs := by
  induction as generalizing bs with
  | nil =>
      rw [List.mapM_nil, List.forall₂_nil_left_iff]
      constructor
      · intro h
        cases h
        rfl
      · rintro rfl
        rfl
  | cons a rest ih =>
      simp only [List.mapM_cons, bind_eq_ok, ih, List.forall₂_cons_left_iff]
      constructor
      · rintro ⟨b, hb, more, hmore, hall⟩
        exact ⟨b, more, hb, hmore, (Except.ok.inj hall).symm⟩
      · rintro ⟨b, more, hb, hmore, rfl⟩
        exact ⟨b, hb, more, hmore, rfl⟩

/-- A traversal of which every step succeeds. -/
theorem exists_mapM_eq_ok {f : α → Except ε β} {q : β → Prop} {as : List α}
    (h : ∀ a ∈ as, ∃ b, f a = .ok b ∧ q b) : ∃ bs, as.mapM f = .ok bs ∧ ∀ b ∈ bs, q b := by
  obtain ⟨bs, hbs, hq⟩ := exists_forall₂ h
  exact ⟨bs, mapM_eq_ok.mpr hbs, hq⟩

/-- A traversal whose steps can only fail in one way. -/
theorem mapM_eq_error {f : α → Except ε β} {e : ε} {as : List α}
    (h : ∀ a ∈ as, (∃ b, f a = .ok b) ∨ f a = .error e) (hfails : ∃ a ∈ as, f a = .error e) :
    as.mapM f = .error e := by
  induction as with
  | nil =>
      obtain ⟨a, ha, -⟩ := hfails
      cases ha
  | cons a rest ih =>
      rw [List.forall_mem_cons] at h
      rw [List.mapM_cons]
      rcases h.1 with ⟨b, hb⟩ | he
      · have hrest : ∃ a ∈ rest, f a = .error e := by
          obtain ⟨a', ha', he⟩ := hfails
          rcases List.mem_cons.mp ha' with rfl | ha'
          · rw [hb] at he
            cases he
          · exact ⟨a', ha', he⟩
        rw [hb, ok_bind, ih h.2 hrest, error_bind]
      · rw [he, error_bind]

/-- A traversal that keeps something of each item beside what its step comes to. -/
theorem mapM_beside {γ : Type} (keep : α → γ) (f : α → Except ε β) (as : List α) :
    (as.mapM fun a => f a >>= fun b => .ok (keep a, b)) =
      (as.mapM f).map fun bs => (as.map keep).zip bs := by
  induction as with
  | nil => rfl
  | cons a rest ih =>
      rw [List.mapM_cons, List.mapM_cons, ih]
      cases f a with
      | error e => rfl
      | ok b => cases rest.mapM f <;> rfl

theorem mapError_eq_ok {δ : Type} {x : Except ε α} {f : ε → δ} {a : α} :
    x.mapError f = .ok a ↔ x = .ok a := by
  cases x <;> simp [Except.mapError]

theorem toOption_eq_some {x : Except ε α} {a : α} : x.toOption = some a ↔ x = .ok a := by
  cases x <;> simp [Except.toOption]

end

namespace Traced

variable {α β : Type} {m : Traced α} {f : α → Traced β} {a : α} {b : β}

theorem bind_eq_ok :
    (m >>= f).result = .ok b ↔ ∃ a, m.result = .ok a ∧ (f a).result = .ok b := by
  rcases m with ⟨events, result⟩
  cases result with
  | error e => simp only [bind_error, reduceCtorEq, false_and, exists_false]
  | ok a =>
      rw [bind_ok]
      constructor
      · exact fun h => ⟨a, rfl, h⟩
      · rintro ⟨a', ha, h⟩
        cases ha
        exact h

/-- What a sequence comes to is the sequence of what its steps come to. -/
theorem result_sequence (m : Traced α) (f : α → Traced β) :
    (m >>= f).result = m.result >>= fun a => (f a).result := by
  rcases m with ⟨events, result⟩
  cases result <;> rfl

theorem result_mapM (f : α → Traced β) (as : List α) :
    (as.mapM f).result = as.mapM fun a => (f a).result := by
  induction as with
  | nil => rfl
  | cons a rest ih =>
      rw [List.mapM_cons, List.mapM_cons, result_sequence]
      simp only [result_sequence, ih]
      rfl

theorem mapM_eq_ok {as : List α} {bs : List β} :
    (as.mapM f).result = .ok bs ↔ List.Forall₂ (fun a b => (f a).result = .ok b) as bs := by
  rw [result_mapM, TypeStencil.mapM_eq_ok]

theorem bind_eq_error {e : Fault} (h : m.result = .error e) : m >>= f = ⟨m.events, .error e⟩ := by
  rcases m with ⟨events, result⟩
  cases h
  rfl

theorem of_ok_bind (a : α) (f : α → Traced β) : Traced.of (.ok a) >>= f = f a := rfl

theorem of_error_bind (e : Fault) (f : α → Traced β) :
    Traced.of (.error e) >>= f = Traced.of (.error e) := rfl

theorem result_bind (h : m.result = .ok a) : (m >>= f).result = (f a).result := by
  rcases m with ⟨events, result⟩
  cases h
  rfl

/-- The template calls of two computations stand one after the other. -/
theorem calls_bind (h : m.result = .ok a) : (m >>= f).calls = m.calls ++ (f a).calls := by
  rcases m with ⟨events, result⟩
  cases h
  simp only [calls, bind_ok, List.filterMap_append]

@[simp]
theorem calls_pure (a : α) : (pure a : Traced α).calls = [] := rfl

@[simp]
theorem result_pure (a : α) : (pure a : Traced α).result = .ok a := rfl

@[simp]
theorem calls_of (r : Except Fault α) : (Traced.of r).calls = [] := rfl

@[simp]
theorem calls_ofType (r : Except TypeFault α) : (Traced.ofType r).calls = [] := rfl

@[simp]
theorem calls_log (level : LogLevel) (message : String) : (Traced.log level message).calls = [] :=
  rfl

theorem ofType_eq_ok {r : Except TypeFault α} : (Traced.ofType r).result = .ok a ↔ r = .ok a :=
  mapError_eq_ok

end Traced

namespace Change

variable {σ α β : Type}

theorem get_bind (f : σ → Change σ β) (s : σ) : (get >>= f) s = f s s := rfl

/-- A computation that leaves the state alone leaves it so also where it fails. -/
theorem state_of_bind (t : Traced α) (f : α → Change σ β) (s : σ) :
    ((of t >>= f) s).1 = match t.result with
      | .ok a => (f a s).1
      | .error _ => s := by
  rcases t with ⟨events, _ | a⟩ <;> rfl

theorem result_of_bind (t : Traced α) (f : α → Change σ β) (s : σ) :
    ((of t >>= f) s).2.result = t.result >>= fun a => (f a s).2.result := by
  rcases t with ⟨events, _ | a⟩ <;> rfl

theorem calls_of_bind {t : Traced α} (ht : t.calls = []) {f : α → Change σ β} {s : σ}
    (hf : ∀ a, (f a s).2.calls = []) : ((of t >>= f) s).2.calls = [] := by
  rcases t with ⟨events, _ | a⟩
  · exact ht
  · exact (List.filterMap_append ..).trans (congrArg₂ _ ht (hf a))

end Change

end TypeStencil
