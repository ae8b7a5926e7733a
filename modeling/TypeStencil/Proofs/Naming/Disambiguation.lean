import Mathlib.Data.Finset.Card
import Mathlib.Data.List.Induction
import Mathlib.Data.String.Basic
import TypeStencil.Proofs.Naming.Histories

/-!
Unique names. Of the numbered spellings of a name that is taken one is always free, since there are
more of them than names in use. So the names that a sanitizer takes between two resets, whether by
hand or in answer to a request for a unique name, are exactly the names it has in use, and a unique
name is none of those taken before it.
-/
namespace TypeStencil

namespace Sanitizer

section

variable {used : List String} {base suffix : String}

theorem toString_injective : Function.Injective (toString : Nat → String) := by
  intro m n h
  have hdigits : Nat.toDigits 10 m = Nat.toDigits 10 n := by
    simpa only [Nat.toString_eq_repr, Nat.toList_repr] using congrArg String.toList h
  simpa using congrArg (Nat.ofDigitChars 10 · 0) hdigits

theorem candidate_eq (base suffix : String) (k : Nat) :
    candidate base suffix k = base ++ ((if suffix == "_" then suffix else "") ++ toString k) := by
  unfold candidate
  split
  · rw [String.append_assoc]
  · rw [String.empty_append]

theorem candidate_injective (base suffix : String) :
    Function.Injective (candidate base suffix) := by
  intro m n h
  have hlist := congrArg String.toList h
  simp only [candidate_eq, String.toList_append, List.append_cancel_left_eq] at hlist
  exact toString_injective (String.toList_injective hlist)

theorem candidate_ne_base (base suffix : String) (k : Nat) : candidate base suffix k ≠ base := by
  intro h
  have hlist := congrArg String.toList h
  simp only [candidate_eq, String.toList_append, List.append_right_eq_self,
    List.append_eq_nil_iff, Nat.toString_eq_repr, Nat.toList_repr] at hlist
  exact Nat.toDigits_ne_nil hlist.2

/-- The spellings of a name, in the order in which they are tried. -/
def spelling (base suffix : String) : Nat → String
  | 0 => base
  | k + 1 => candidate base suffix (k + 1)

theorem spelling_injective (base suffix : String) : Function.Injective (spelling base suffix) := by
  rintro (_ | m) (_ | n) h
  · rfl
  · exact absurd h.symm (candidate_ne_base base suffix (n + 1))
  · exact absurd h (candidate_ne_base base suffix (m + 1))
  · exact candidate_injective base suffix h

/-- The search ends at the first free spelling, or with its tries. -/
theorem firstFree_spec (used : List String) (base suffix : String) (tries k : Nat) :
    ∃ n ≤ tries, firstFree used base suffix tries k = candidate base suffix (k + n) ∧
      (∀ m < n, candidate base suffix (k + m) ∈ used) ∧
      (n < tries → candidate base suffix (k + n) ∉ used) := by
  induction tries generalizing k with
  | zero => exact ⟨0, Nat.le_refl 0, rfl, by simp, by simp⟩
  | succ tries ih =>
      rw [firstFree]
      by_cases hk : candidate base suffix k ∈ used
      · obtain ⟨n, hn, heq, hbefore, hfree⟩ := ih (k + 1)
        have hshift : ∀ m, k + 1 + m = k + (m + 1) := fun m => by omega
        refine ⟨n + 1, by omega, ?_, ?_, fun hlt => ?_⟩
        · rw [if_pos (List.contains_iff_mem.mpr hk), heq, hshift]
        · rintro (_ | m) hm
          · exact hk
          · exact hshift m ▸ hbefore m (by omega)
        · exact hshift n ▸ hfree (by omega)
      · refine ⟨0, Nat.zero_le _, ?_, by simp, fun _ => hk⟩
        rw [if_neg (fun h => hk (List.contains_iff_mem.mp h))]
        rfl

/-- There are more spellings than names in use. -/
theorem exists_free_spelling (used : List String) (base suffix : String) :
    ∃ k ≤ used.toFinset.card, spelling base suffix k ∉ used := by
  by_contra hall
  have htaken : ∀ k ≤ used.toFinset.card, spelling base suffix k ∈ used := by
    simpa using hall
  have hsubset : (Finset.range (used.toFinset.card + 1)).image (spelling base suffix) ⊆
      used.toFinset := by
    intro name hname
    obtain ⟨k, hk, rfl⟩ := Finset.mem_image.mp hname
    exact List.mem_toFinset.mpr (htaken k (Nat.le_of_lt_succ (Finset.mem_range.mp hk)))
  have hcard := Finset.card_le_card hsubset
  rw [Finset.card_image_of_injective _ (spelling_injective base suffix), Finset.card_range] at hcard
  omega

/-- Of as many numbered spellings as there are names in use, the name itself among them, one is
free. -/
theorem exists_free (suffix : String) (hbase : base ∈ used) :
    ∃ n < used.length, candidate base suffix (1 + n) ∉ used := by
  obtain ⟨k, hk, hfree⟩ := exists_free_spelling used base suffix
  cases k with
  | zero => exact absurd hbase hfree
  | succ n =>
      rw [spelling, Nat.add_comm] at hfree
      exact ⟨n, hk.trans used.toFinset_card_le, hfree⟩

theorem disambiguate_not_mem (used : List String) (base suffix : String) :
    disambiguate used base suffix ∉ used := by
  rw [disambiguate]
  by_cases hbase : base ∈ used
  · rw [if_pos (List.contains_iff_mem.mpr hbase)]
    obtain ⟨n, hn, heq, hbefore, hfree⟩ := firstFree_spec used base suffix used.length 1
    obtain ⟨m, hm, hfree'⟩ := exists_free suffix hbase
    have hnm : n ≤ m := by
      by_contra hlt
      exact hfree' (hbefore m (by omega))
    rw [heq]
    exact hfree (by omega)
  · rw [if_neg (fun h => hbase (List.contains_iff_mem.mp h))]
    exact hbase

end

/-- A name that a call takes, by hand or as the answer to a request for a unique name. -/
structure Taken where
  name : String
  byHand : Bool
  deriving DecidableEq, Repr

def taken? : Call × Option String → Option Taken
  | (.addUsed name, _) => some ⟨name, true⟩
  | (.sanitize _ _ _ true, some answer) => some ⟨answer, false⟩
  | _ => none

/-- The calls of a history, each with its answer. -/
def log (s : Sanitizer) (calls : List Call) : List (Call × Option String) :=
  calls.zip (s.run calls).2

/-- What comes after the last reset. -/
def sinceReset (log : List (Call × Option String)) : List (Call × Option String) :=
  (log.reverse.takeWhile fun e => e.1 ≠ .reset).reverse

/-- The names taken after the last reset, in the order of the calls. -/
def takenSinceReset (log : List (Call × Option String)) : List Taken :=
  (sinceReset log).filterMap taken?

theorem log_snoc (s : Sanitizer) (calls : List Call) (c : Call) :
    s.log (calls ++ [c]) = s.log calls ++ [(c, ((s.run calls).1.step c).2)] := by
  rw [log, run_append, List.zip_append (length_run calls).symm]
  rfl

theorem takenSinceReset_snoc (log : List (Call × Option String)) (c : Call)
    (answer : Option String) : takenSinceReset (log ++ [(c, answer)]) =
      if c = .reset then [] else takenSinceReset log ++ (taken? (c, answer)).toList := by
  unfold takenSinceReset sinceReset
  rw [List.reverse_append, List.reverse_singleton, List.singleton_append, List.takeWhile_cons]
  by_cases h : c = .reset
  · simp [h]
  · cases ht : taken? (c, answer) <;> simp [h, ht]

/-- The names in use are the names taken, and none was taken twice but by hand. -/
structure Accounts (s : Sanitizer) (taken : List Taken) : Prop where
  used : ∀ name, name ∈ s.used ↔ name ∈ taken.map Taken.name
  distinct : taken.Pairwise fun earlier later => later.byHand = true ∨ earlier.name ≠ later.name

theorem accounts_ofRules (rules : NamingRules) : (ofRules rules).Accounts [] :=
  ⟨by simp [ofRules], .nil⟩

section

variable {s : Sanitizer} {taken : List Taken}

theorem mem_used_markUsed {name other : String} :
    other ∈ (s.markUsed name).used ↔ other ∈ s.used ∨ other = name := by
  unfold markUsed
  by_cases h : name ∈ s.used
  · rw [if_pos (List.contains_iff_mem.mpr h)]
    constructor
    · exact .inl
    · rintro (hother | rfl)
      · exact hother
      · exact h
  · rw [if_neg (fun hc => h (List.contains_iff_mem.mp hc)), List.mem_cons, or_comm]

theorem used_sanitizePlain (name : String) (style : NamingCase) (suffix : String) :
    (s.sanitizePlain name style suffix).1.used = s.used := by
  simp only [sanitizePlain]
  cases s.cache.lookup (cacheKey name style suffix) <;> rfl

theorem Accounts.markUsed (h : s.Accounts taken) (t : Taken)
    (ht : t.byHand = true ∨ t.name ∉ s.used) : (s.markUsed t.name).Accounts (taken ++ [t]) := by
  refine ⟨fun name => ?_, List.pairwise_append.mpr ⟨h.distinct, List.pairwise_singleton _ _, ?_⟩⟩
  · rw [mem_used_markUsed, h.used, List.map_append, List.mem_append, List.map_singleton,
      List.mem_singleton]
  · intro earlier hmem later hlater
    obtain rfl := List.mem_singleton.mp hlater
    refine ht.imp_right fun hfree heq => hfree ?_
    rw [h.used, ← heq]
    exact List.mem_map_of_mem hmem

theorem Accounts.step (h : s.Accounts taken) (c : Call) : (s.step c).1.Accounts
    (if c = .reset then [] else taken ++ (taken? (c, (s.step c).2)).toList) := by
  cases c with
  | sanitize name style suffix unique =>
      rw [if_neg (by simp)]
      cases unique with
      | true =>
          exact h.markUsed ⟨disambiguate s.used (s.rules.plain name style suffix) suffix, false⟩
            (.inr (disambiguate_not_mem _ _ _))
      | false =>
          have hused := used_sanitizePlain (s := s) name style suffix
          refine ⟨fun other => ?_, ?_⟩
          · rw [show taken? _ = none from rfl, Option.toList_none, List.append_nil, ← h.used other]
            exact iff_of_eq (congrArg (other ∈ ·) hused)
          · rw [show taken? _ = none from rfl, Option.toList_none, List.append_nil]
            exact h.distinct
  | addUsed name =>
      rw [if_neg (by simp)]
      exact h.markUsed ⟨name, true⟩ (.inl rfl)
  | reset =>
      rw [if_pos rfl]
      exact ⟨by simp [Sanitizer.step], .nil⟩

end

theorem accounts_run (rules : NamingRules) (calls : List Call) :
    ((ofRules rules).run calls).1.Accounts (takenSinceReset ((ofRules rules).log calls)) := by
  induction calls using List.reverseRecOn with
  | nil => exact accounts_ofRules rules
  | append_singleton calls c ih =>
      rw [log_snoc, takenSinceReset_snoc, run_append]
      exact ih.step c

/-- After any history a request for a unique name is answered with a name that is not in use, and
the names in use are those taken after the last reset, which differ from each other unless they
were repeated by hand. -/
theorem unique_names (rules : NamingRules) (calls : List Call) :
    (∀ name style suffix after, ∃ answer,
      ((ofRules rules).run (calls ++ .sanitize name style suffix true :: after)).2[calls.length]? =
        some (some answer) ∧ answer ∉ ((ofRules rules).run calls).1.used) ∧
    (∀ name, name ∈ ((ofRules rules).run calls).1.used ↔
      name ∈ (takenSinceReset ((ofRules rules).log calls)).map Taken.name) ∧
    (takenSinceReset ((ofRules rules).log calls)).Pairwise fun earlier later =>
      later.byHand = true ∨ earlier.name ≠ later.name := by
  refine ⟨fun name style suffix after => ?_, (accounts_run rules calls).used,
    (accounts_run rules calls).distinct⟩
  rw [run_getElem?, step_unique]
  exact ⟨_, rfl, disambiguate_not_mem _ _ _⟩

/-- The second spelling of one name is another name as it stands. -/
example : ((ofRules ⟨[], [], "field"⟩).run [.sanitize "x" .snake "_" true,
    .sanitize "x" .snake "_" true, .sanitize "x_1" .snake "_" true]).2 =
      [some "x", some "x_1", some "x_1_1"] := by
  decide +kernel

end Sanitizer

end TypeStencil
