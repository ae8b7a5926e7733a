import TypeStencil.Proofs.Naming.Disambiguation

/-!
Two uses of one sanitizer. A request for a plain name goes by the rules and what is remembered, any
other call by the rules and the names in use, and neither changes what the other goes by. So the
calls of each kind are answered as in the history without those of the other kind.
-/
namespace TypeStencil

namespace Sanitizer

/-- Whether a call asks for a name that need not be unique. -/
def Call.isPlain (c : Call) : Bool :=
  c.request?.isSome

/-- Calls of a kind are answered from one part of the sanitizer, and only they change that part. -/
structure GoesBy {α : Type} (kind : Call → Bool) (part : Sanitizer → α) : Prop where
  inside : ∀ {c : Call}, kind c = true → ∀ {s t : Sanitizer}, part s = part t →
    (s.step c).2 = (t.step c).2 ∧ part (s.step c).1 = part (t.step c).1
  outside : ∀ {c : Call}, kind c = false → ∀ s : Sanitizer, part (s.step c).1 = part s

section

variable {s t : Sanitizer}

theorem log_cons (s : Sanitizer) (c : Call) (rest : List Call) :
    s.log (c :: rest) = (c, (s.step c).2) :: (s.step c).1.log rest := rfl

theorem filter_log_cons (kind : Call → Bool) (s : Sanitizer) (c : Call) (rest : List Call) :
    (s.log (c :: rest)).filter (fun e => kind e.1) =
      if kind c then (c, (s.step c).2) :: ((s.step c).1.log rest).filter (fun e => kind e.1)
      else ((s.step c).1.log rest).filter (fun e => kind e.1) :=
  List.filter_cons

/-- Sanitizers that have the part in common answer the calls of the kind alike, whether the other
calls of the history are made or not, and have it in common in the end. -/
theorem GoesBy.log_filter {α : Type} {kind : Call → Bool} {part : Sanitizer → α}
    (h : GoesBy kind part) (hpart : part s = part t) (calls : List Call) :
    (s.log calls).filter (fun e => kind e.1) = t.log (calls.filter kind) ∧
      part (s.run calls).1 = part (t.run (calls.filter kind)).1 := by
  induction calls generalizing s t with
  | nil => exact ⟨rfl, hpart⟩
  | cons c rest ih =>
      rw [filter_log_cons, List.filter_cons]
      cases hc : kind c with
      | true =>
          obtain ⟨hanswer, hnext⟩ := h.inside hc hpart
          obtain ⟨hlog, hend⟩ := ih hnext
          rw [if_pos rfl, if_pos rfl, log_cons, hlog, hanswer]
          exact ⟨rfl, hend⟩
      | false =>
          rw [if_neg Bool.false_ne_true, if_neg Bool.false_ne_true]
          exact ih ((h.outside hc s).trans hpart)

theorem rules_sanitizePlain (name : String) (style : NamingCase) (suffix : String) :
    (s.sanitizePlain name style suffix).1.rules = s.rules := by
  simp only [sanitizePlain]
  cases s.cache.lookup (cacheKey name style suffix) <;> rfl

theorem used_markUsed (name : String) :
    (s.markUsed name).used = if s.used.contains name then s.used else name :: s.used := by
  unfold markUsed
  split <;> rfl

/-- The answer to a request, and what is remembered after it, do not depend on the names in use. -/
theorem sanitizePlain_congr (hrules : s.rules = t.rules) (hcache : s.cache = t.cache)
    (r : Request) :
    (s.sanitizePlain r.name r.style r.suffix).2 = (t.sanitizePlain r.name r.style r.suffix).2 ∧
      (s.sanitizePlain r.name r.style r.suffix).1.cache =
        (t.sanitizePlain r.name r.style r.suffix).1.cache := by
  cases hknown : s.cache.lookup r.key with
  | some known =>
      rw [sanitizePlain_of_known hknown, sanitizePlain_of_known (hcache ▸ hknown)]
      exact ⟨rfl, hcache⟩
  | none =>
      rw [sanitizePlain_of_new hknown, sanitizePlain_of_new (hcache ▸ hknown), hrules, hcache]
      exact ⟨rfl, rfl⟩

theorem Call.exists_request {c : Call} (h : c.isPlain = true) : ∃ r : Request, c = r.call := by
  obtain ⟨r, hr⟩ := Option.isSome_iff_exists.mp h
  exact ⟨r, Call.request?_eq_some.mp hr⟩

theorem Call.request?_eq_none {c : Call} (h : c.isPlain = false) : c.request? = none :=
  Option.isNone_iff_eq_none.mp (Option.isSome_eq_false_iff.mp h)

/-- Requests for plain names go by what is remembered. -/
theorem plain_goesBy : GoesBy Call.isPlain fun s => (s.rules, s.cache) where
  inside {c} hc {s t} hpart := by
    obtain ⟨r, rfl⟩ := Call.exists_request hc
    obtain ⟨hrules, hcache⟩ := Prod.mk.inj hpart
    obtain ⟨hanswer, hnext⟩ := sanitizePlain_congr hrules hcache r
    rw [step_call, step_call, hanswer, rules_sanitizePlain, rules_sanitizePlain, hrules, hnext]
    exact ⟨rfl, rfl⟩
  outside {c} hc s := by
    obtain ⟨hrules, hcache⟩ := step_of_request?_eq_none (s := s) (Call.request?_eq_none hc)
    rw [hrules, hcache]

/-- All other calls go by the names in use. -/
theorem others_goBy : GoesBy (fun c => !c.isPlain) fun s => (s.rules, s.used) where
  inside {c} hc {s t} hpart := by
    obtain ⟨hrules, hused⟩ := Prod.mk.inj hpart
    cases c with
    | sanitize name style suffix unique =>
        cases unique with
        | true =>
            rw [step_unique, step_unique]
            simp only [sanitizeUnique, rules_markUsed, used_markUsed, hrules, hused, and_self]
        | false => cases hc
    | addUsed name =>
        simp only [step, rules_markUsed, used_markUsed, hrules, hused, and_self]
    | reset => exact ⟨rfl, congrArg (·, []) hrules⟩
  outside {c} hc s := by
    obtain ⟨r, rfl⟩ := Call.exists_request (by simpa using hc)
    rw [step_call, rules_sanitizePlain, used_sanitizePlain]

end

/-- From any sanitizer on, the requests for plain names of a history are answered as if they were
all its calls, and so are the other calls, which alone decide on the names in use. -/
theorem log_separates (s : Sanitizer) (calls : List Call) :
    (s.log calls).filter (fun e => e.1.isPlain) = s.log (calls.filter Call.isPlain) ∧
      (s.log calls).filter (fun e => !e.1.isPlain) = s.log (calls.filter fun c => !c.isPlain) ∧
      (s.run calls).1.used = (s.run (calls.filter fun c => !c.isPlain)).1.used := by
  obtain ⟨hplain, -⟩ := plain_goesBy.log_filter (s := s) rfl calls
  obtain ⟨hothers, hpart⟩ := others_goBy.log_filter (s := s) rfl calls
  exact ⟨hplain, hothers, congrArg Prod.snd hpart⟩

end Sanitizer

end TypeStencil
