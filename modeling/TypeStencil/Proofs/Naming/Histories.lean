import Mathlib.Data.List.Basic
import TypeStencil.Proofs.Naming.Remembering

/-!
Histories of calls to a sanitizer, and what it has remembered after one. A request for a plain name
is answered as the first request under its key was, so a history is answered as if nothing were
remembered exactly if its requests under one key have one plain name. Requests with one suffix share
a key only between the snake style and the screaming one.
-/
namespace TypeStencil

namespace Sanitizer

/-- What a call asks for that does not want a unique name. -/
structure Request where
  name : String
  style : NamingCase
  suffix : String
  deriving DecidableEq, Repr

namespace Request

def key (r : Request) : String :=
  cacheKey r.name r.style r.suffix

def call (r : Request) : Call :=
  .sanitize r.name r.style r.suffix false

/-- What the rules give for a request, with nothing remembered. -/
def plainName (rules : NamingRules) (r : Request) : String :=
  rules.plain r.name r.style r.suffix

/-- The first of some earlier requests under the same key, or the request itself. -/
def firstUnderKey (past : List Request) (r : Request) : Request :=
  (past.find? (·.key == r.key)).getD r

end Request

def Call.request? : Call → Option Request
  | .sanitize name style suffix false => some ⟨name, style, suffix⟩
  | _ => none

/-- The requests for plain names in a history. -/
def requests (calls : List Call) : List Request :=
  calls.filterMap Call.request?

theorem Call.request?_eq_some {c : Call} {r : Request} : c.request? = some r ↔ c = r.call := by
  constructor
  · intro h
    cases c with
    | sanitize name style suffix unique =>
        cases unique with
        | true => cases h
        | false =>
            cases h
            rfl
    | addUsed name => cases h
    | reset => cases h
  · rintro rfl
    rfl

section

variable {s : Sanitizer}

@[simp]
theorem rules_markUsed (name : String) : (s.markUsed name).rules = s.rules := by
  unfold markUsed
  split <;> rfl

@[simp]
theorem cache_markUsed (name : String) : (s.markUsed name).cache = s.cache := by
  unfold markUsed
  split <;> rfl

theorem step_call (r : Request) :
    s.step r.call = ((s.sanitizePlain r.name r.style r.suffix).1,
      some (s.sanitizePlain r.name r.style r.suffix).2) := rfl

theorem step_unique (name : String) (style : NamingCase) (suffix : String) :
    s.step (.sanitize name style suffix true) = ((s.sanitizeUnique name style suffix).1,
      some (s.sanitizeUnique name style suffix).2) := rfl

/-- A call that is no request for a plain name leaves the rules and the memory as they are. -/
theorem step_of_request?_eq_none {c : Call} (h : c.request? = none) :
    (s.step c).1.rules = s.rules ∧ (s.step c).1.cache = s.cache := by
  cases c with
  | sanitize name style suffix unique =>
      cases unique with
      | true => exact ⟨rules_markUsed _, cache_markUsed _⟩
      | false => cases h
  | addUsed name => exact ⟨rules_markUsed name, cache_markUsed name⟩
  | reset => exact ⟨rfl, rfl⟩

theorem run_append (before after : List Call) :
    s.run (before ++ after) = (((s.run before).1.run after).1,
      (s.run before).2 ++ ((s.run before).1.run after).2) := by
  induction before generalizing s with
  | nil => rfl
  | cons c rest ih => simp only [List.cons_append, run, ih]

theorem length_run (calls : List Call) : (s.run calls).2.length = calls.length := by
  induction calls generalizing s with
  | nil => rfl
  | cons c rest ih => simp only [run, List.length_cons, ih]

/-- The answer to a call within a history is the answer after what comes before it. -/
theorem run_getElem? (before : List Call) (c : Call) (after : List Call) :
    (s.run (before ++ c :: after)).2[before.length]? = some ((s.run before).1.step c).2 := by
  rw [run_append, ← length_run (s := s) before]
  simp only [List.getElem?_append_right (Nat.le_refl _), Nat.sub_self, run,
    List.getElem?_cons_zero]

/-- Under every key the sanitizer remembers the plain name of the first request made under it. -/
def Recalls (s : Sanitizer) (past : List Request) : Prop :=
  ∀ key, s.cache.lookup key = (past.find? (·.key == key)).map (Request.plainName s.rules)

theorem recalls_ofRules (rules : NamingRules) : (ofRules rules).Recalls [] :=
  fun _ => rfl

theorem sanitizePlain_of_known {r : Request} {known : String}
    (h : s.cache.lookup r.key = some known) :
    s.sanitizePlain r.name r.style r.suffix = (s, known) := by
  simp only [sanitizePlain, show s.cache.lookup (cacheKey r.name r.style r.suffix) = _ from h]

theorem sanitizePlain_of_new {r : Request} (h : s.cache.lookup r.key = none) :
    s.sanitizePlain r.name r.style r.suffix =
      ({ s with cache := (r.key, r.plainName s.rules) :: s.cache }, r.plainName s.rules) := by
  simp only [sanitizePlain, show s.cache.lookup (cacheKey r.name r.style r.suffix) = _ from h]
  rfl

theorem Recalls.sanitizePlain {past : List Request} (h : s.Recalls past) (r : Request) :
    (s.sanitizePlain r.name r.style r.suffix).2 = (r.firstUnderKey past).plainName s.rules ∧
      (s.sanitizePlain r.name r.style r.suffix).1.Recalls (past ++ [r]) ∧
      (s.sanitizePlain r.name r.style r.suffix).1.rules = s.rules := by
  have hkey := h r.key
  cases hfind : past.find? (·.key == r.key) with
  | some first =>
      rw [hfind, Option.map_some] at hkey
      rw [sanitizePlain_of_known hkey, Request.firstUnderKey, hfind]
      refine ⟨rfl, fun key => ?_, rfl⟩
      rw [h key, List.find?_append]
      by_cases hsame : r.key = key
      · subst hsame
        rw [hfind, Option.some_or]
      · rw [List.find?_singleton, if_neg (by simpa using hsame), Option.or_none]
  | none =>
      rw [hfind, Option.map_none] at hkey
      rw [sanitizePlain_of_new hkey, Request.firstUnderKey, hfind]
      refine ⟨rfl, fun key => ?_, rfl⟩
      rw [List.lookup_cons, List.find?_append, List.find?_singleton]
      by_cases hsame : r.key = key
      · subst hsame
        simp only [beq_self_eq_true, hfind, if_true, Option.none_or, Option.map_some]
      · have hne : (key == r.key) = false := beq_eq_false_iff_ne.mpr (Ne.symm hsame)
        rw [hne, if_neg (by simpa using hsame), Option.or_none]
        exact h key

theorem Recalls.step {past : List Request} (h : s.Recalls past) (c : Call) :
    (s.step c).1.Recalls (past ++ c.request?.toList) ∧ (s.step c).1.rules = s.rules := by
  cases hc : c.request? with
  | some r =>
      obtain rfl := Call.request?_eq_some.mp hc
      rw [step_call]
      exact (h.sanitizePlain r).2
  | none =>
      obtain ⟨hrules, hcache⟩ := step_of_request?_eq_none (s := s) hc
      refine ⟨fun key => ?_, hrules⟩
      rw [hrules, hcache, h key, Option.toList_none, List.append_nil]

theorem Recalls.run {past : List Request} (h : s.Recalls past) (calls : List Call) :
    (s.run calls).1.Recalls (past ++ requests calls) ∧ (s.run calls).1.rules = s.rules := by
  induction calls generalizing s past with
  | nil => exact ⟨by rwa [requests, List.filterMap_nil, List.append_nil], rfl⟩
  | cons c rest ih =>
      obtain ⟨hstep, hrules⟩ := h.step c
      obtain ⟨hrun, hrules'⟩ := ih hstep
      refine ⟨?_, hrules'.trans hrules⟩
      cases hc : c.request? <;> simpa [requests, hc, Sanitizer.run] using hrun

end

variable {rules : NamingRules}

/-- A request is answered with the plain name of the first request under its key. -/
theorem answer_of_firstUnderKey (before after : List Call) (r : Request) :
    ((ofRules rules).run (before ++ r.call :: after)).2[before.length]? =
      some (some ((r.firstUnderKey (requests before)).plainName rules)) := by
  obtain ⟨hrecalls, hrules⟩ := (recalls_ofRules rules).run before
  rw [run_getElem?, step_call, (hrecalls.sanitizePlain r).1, hrules]
  rfl

/-- Every request of the history is answered as by a sanitizer that was asked nothing before. -/
def AnswersAsFresh (rules : NamingRules) (calls : List Call) : Prop :=
  ∀ before r after, calls = before ++ Request.call r :: after →
    ((ofRules rules).run calls).2[before.length]? = some ((ofRules rules).step r.call).2

theorem requests_append (before after : List Call) :
    requests (before ++ after) = requests before ++ requests after :=
  List.filterMap_append

theorem requests_cons_call (r : Request) (after : List Call) :
    requests (r.call :: after) = r :: requests after := rfl

/-- A place between the requests of a history is a place in the history. -/
theorem requests_eq_append_cons {calls : List Call} {past future : List Request} {r : Request}
    (h : requests calls = past ++ r :: future) :
    ∃ before after, calls = before ++ r.call :: after ∧ requests before = past := by
  obtain ⟨before, middle, rfl, hbefore, hmiddle⟩ := List.filterMap_eq_append_iff.mp h
  obtain ⟨skipped, c, after, rfl, hnone, hc, -⟩ := List.filterMap_eq_cons_iff.mp hmiddle
  obtain rfl := Call.request?_eq_some.mp hc
  refine ⟨before ++ skipped, after, (List.append_assoc _ _ _).symm, ?_⟩
  rw [requests_append, requests, hbefore, requests, List.filterMap_eq_nil_iff.mpr hnone,
    List.append_nil]

theorem answersAsFresh_iff_firstUnderKey {calls : List Call} :
    AnswersAsFresh rules calls ↔ ∀ past r future, requests calls = past ++ r :: future →
      (r.firstUnderKey past).plainName rules = r.plainName rules := by
  have hfresh : ∀ r : Request, ((ofRules rules).step r.call).2 = some (r.plainName rules) :=
    fun _ => rfl
  constructor
  · intro h past r future hsplit
    obtain ⟨before, after, rfl, rfl⟩ := requests_eq_append_cons hsplit
    have hanswer := h before r after rfl
    rw [answer_of_firstUnderKey, hfresh] at hanswer
    exact Option.some.inj (Option.some.inj hanswer)
  · rintro h before r after rfl
    rw [answer_of_firstUnderKey, hfresh, h (requests before) r (requests after)]
    rw [requests_append, requests_cons_call]

theorem firstUnderKey_mem_or_eq (past : List Request) (r : Request) :
    r.firstUnderKey past = r ∨
      r.firstUnderKey past ∈ past ∧ (r.firstUnderKey past).key = r.key := by
  unfold Request.firstUnderKey
  cases hfind : past.find? (·.key == r.key) with
  | none => exact .inl rfl
  | some first =>
      have hkey := List.find?_some hfind
      exact .inr ⟨List.mem_of_find?_eq_some hfind, beq_iff_eq.mp hkey⟩

/-- Later requests under a key go back to the same first one. -/
theorem firstUnderKey_later {q r : Request} (h : q.key = r.key) (past between : List Request) :
    r.firstUnderKey (past ++ q :: between) = q.firstUnderKey past := by
  unfold Request.firstUnderKey
  rw [h, List.find?_append]
  cases past.find? (·.key == r.key) with
  | some first => rfl
  | none => rw [Option.none_or, List.find?_cons_of_pos (by simpa using h)]; rfl

theorem pair_of_sublist {α : Type} {a b : α} {l : List α} (h : [a, b].Sublist l) :
    ∃ before between after, l = before ++ a :: between ++ b :: after := by
  obtain ⟨left, right, rfl, ha, hb⟩ := List.cons_sublist_iff.mp h
  obtain ⟨before, between, rfl⟩ := List.append_of_mem ha
  obtain ⟨between', after, rfl⟩ := List.append_of_mem (List.singleton_sublist.mp hb)
  exact ⟨before, between ++ between', after, by simp⟩

theorem answersAsFresh_of_pairwise {calls : List Call}
    (h : (requests calls).Pairwise fun q r =>
      q.key = r.key → q.plainName rules = r.plainName rules) : AnswersAsFresh rules calls := by
  refine answersAsFresh_iff_firstUnderKey.mpr fun past r future hsplit => ?_
  rw [hsplit, List.pairwise_append] at h
  rcases firstUnderKey_mem_or_eq past r with heq | ⟨hmem, hkey⟩
  · rw [heq]
  · exact h.2.2 _ hmem r List.mem_cons_self hkey

/-- A history is answered as if nothing were remembered exactly if its requests under one key have
one plain name. -/
theorem answersAsFresh_iff (rules : NamingRules) (calls : List Call) :
    AnswersAsFresh rules calls ↔ (requests calls).Pairwise fun q r =>
      q.key = r.key → q.plainName rules = r.plainName rules := by
  refine ⟨fun h => ?_, answersAsFresh_of_pairwise⟩
  rw [answersAsFresh_iff_firstUnderKey] at h
  refine List.pairwise_iff_forall_sublist.mpr fun {q r} hsub hkey => ?_
  obtain ⟨past, between, future, hsplit⟩ := pair_of_sublist hsub
  rw [← h (past ++ q :: between) r future hsplit, firstUnderKey_later hkey,
    h past q (between ++ r :: future) (by rw [hsplit, List.append_assoc, List.cons_append])]

/-- A name asked for in the snake style is taken for another one in the screaming style. -/
theorem not_answersAsFresh : ¬ ∀ rules calls, AnswersAsFresh rules calls := by
  intro h
  have hanswer := h ⟨[], [], "field"⟩ [.sanitize "user" .screamingSnake "_" false,
    .sanitize "user_screaming" .snake "_" false] [.sanitize "user" .screamingSnake "_" false]
    ⟨"user_screaming", .snake, "_"⟩ [] rfl
  revert hanswer
  decide +kernel

/-- The name of a request for the snake style already says what the screaming style of the other
request adds to its key. -/
def Request.Crosses (q r : Request) : Prop :=
  q.style = .snake ∧ r.style = .screamingSnake ∧ q.name = r.name ++ "_screaming"

theorem Request.Crosses.key_eq {q r : Request} (h : q.Crosses r) (hsuffix : q.suffix = r.suffix) :
    q.key = r.key := by
  obtain ⟨hstyle, hstyle', hname⟩ := h
  simp only [key, cacheKey, hstyle, hstyle', hname, hsuffix, ← String.toList_inj,
    String.toList_append, List.append_assoc]
  rfl

/-- With one suffix, requests share a key only if they are the same or cross. -/
theorem Request.key_eq_iff {q r : Request} (hsuffix : q.suffix = r.suffix) :
    q.key = r.key ↔ q = r ∨ q.Crosses r ∨ r.Crosses q := by
  refine ⟨fun hkey => ?_, ?_⟩
  · obtain ⟨a, c, suffix⟩ := q
    obtain ⟨b, d, suffix'⟩ := r
    obtain rfl : suffix = suffix' := hsuffix
    have hlist := congrArg String.toList hkey
    simp only [key, cacheKey, String.toList_append, List.append_assoc] at hlist
    -- Read from the end, labels differ in their last letters, unless one ends in the other.
    have hrev := congrArg List.reverse hlist
    cases c <;> cases d <;> simp [NamingCase.label, Crosses, ← String.toList_inj] at hrev ⊢
    case snake.snake => exact hrev
    case camel.camel => exact hrev
    case pascal.pascal => exact hrev
    case kebab.kebab => exact hrev
    case screamingSnake.screamingSnake => exact hrev
    case snake.screamingSnake => exact hrev
    case screamingSnake.snake =>
      have hname := congrArg List.reverse hrev
      simpa using hname.symm
  · rintro (rfl | h | h)
    · rfl
    · exact h.key_eq hsuffix
    · exact (h.key_eq hsuffix.symm).symm

/-- Requests with one suffix that do not cross are answered as if nothing were remembered. -/
theorem answersAsFresh_of_suffix {calls : List Call} {suffix : String}
    (hsuffix : ∀ r ∈ requests calls, r.suffix = suffix)
    (hcross : ∀ q ∈ requests calls, ∀ r ∈ requests calls, ¬ q.Crosses r) :
    AnswersAsFresh rules calls := by
  refine answersAsFresh_of_pairwise (List.pairwise_of_forall_mem_list fun q hq r hr hkey => ?_)
  rcases (Request.key_eq_iff ((hsuffix q hq).trans (hsuffix r hr).symm)).mp hkey with
    rfl | h | h
  · rfl
  · exact absurd h (hcross q hq r hr)
  · exact absurd h (hcross r hr q hq)

end Sanitizer

end TypeStencil
