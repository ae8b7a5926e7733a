import Mathlib.Order.Bounds.Basic
import TypeStencil.Proofs.Naming.Disambiguation

/-!
The search for a free name, turn by turn and with nothing to stop it but a name that is free. The
spellings that it has given up are all in use and all different, so it takes at most as many turns
as there are names in use, and it ends at the first spelling that is free.
-/
namespace TypeStencil

/-- A converted name, with the suffix where it is to be avoided: what a search starts from. -/
def NamingRules.suffixed (rules : NamingRules) (converted : List Char) (suffix : String) : String :=
  String.ofList converted ++ if rules.avoids converted then suffix else ""

namespace Sanitizer

/-- A name with a number, which an underscore sets apart if names are suffixed with one. -/
def numbered (base suffix : String) (k : Nat) : String :=
  if suffix = "_" then base ++ "_" ++ toString k else base ++ toString k

/-- A search on its way: the spelling at hand, and the number of the next one. -/
structure Search where
  name : String
  next : Nat
  deriving DecidableEq, Repr

namespace Search

/-- A spelling that is in use is given up for the next one. -/
def turn? (used : List String) (base suffix : String) (l : Search) : Option Search :=
  if used.contains l.name then some ⟨candidate base suffix l.next, l.next + 1⟩ else none

/-- The search ends by itself, after so many turns and with a name. -/
inductive Ends (used : List String) (base suffix : String) : Search → Nat → String → Prop
  | found {l : Search} (h : l.turn? used base suffix = none) : Ends used base suffix l 0 l.name
  | goesOn {l next : Search} {turns : Nat} {name : String} (h : l.turn? used base suffix = some next)
      (rest : Ends used base suffix next turns name) : Ends used base suffix l (turns + 1) name

/-- The search after so many turns. -/
def after (base suffix : String) (k : Nat) : Search :=
  ⟨spelling base suffix k, k + 1⟩

section

variable {used : List String} {base suffix name : String} {k n : Nat} {l : Search}

theorem turn?_after (used : List String) (base suffix : String) (k : Nat) :
    (after base suffix k).turn? used base suffix =
      if spelling base suffix k ∈ used then some (after base suffix (k + 1)) else none := by
  simp only [turn?, List.contains_iff_mem]
  rfl

theorem ends_zero_iff :
    Ends used base suffix l 0 name ↔ l.turn? used base suffix = none ∧ name = l.name := by
  constructor
  · rintro ⟨h⟩
    exact ⟨h, rfl⟩
  · rintro ⟨h, rfl⟩
    exact .found h

theorem ends_succ_iff : Ends used base suffix l (n + 1) name ↔
    ∃ next, l.turn? used base suffix = some next ∧ Ends used base suffix next n name := by
  constructor
  · rintro (_ | ⟨h, rest⟩)
    exact ⟨_, h, rest⟩
  · rintro ⟨next, h, rest⟩
    exact .goesOn h rest

/-- The search goes on over spellings in use and ends at one that is free. -/
theorem ends_after_iff : Ends used base suffix (after base suffix k) n name ↔
    (∀ m < n, spelling base suffix (k + m) ∈ used) ∧ spelling base suffix (k + n) ∉ used ∧
      name = spelling base suffix (k + n) := by
  -- A turn leads to the search after one turn more, so the number of turns made is left open.
  induction n generalizing k with
  | zero =>
      rw [ends_zero_iff, turn?_after, Nat.add_zero]
      by_cases hk : spelling base suffix k ∈ used
      · simp [hk]
      · simp [hk, after]
  | succ n ih =>
      have hshift : ∀ m, k + 1 + m = k + (m + 1) := fun m => by omega
      rw [ends_succ_iff, turn?_after]
      by_cases hk : spelling base suffix k ∈ used
      · have hfirst : (∀ m < n + 1, spelling base suffix (k + m) ∈ used) ↔
            ∀ m < n, spelling base suffix (k + 1 + m) ∈ used := by
          constructor
          · intro h m hm
            exact hshift m ▸ h (m + 1) (by omega)
          · rintro h (_ | m) hm
            · exact hk
            · exact hshift m ▸ h m (by omega)
        rw [if_pos hk, hfirst, ← hshift n, ← ih]
        simp only [Option.some.injEq, exists_eq_left']
      · rw [if_neg hk]
        constructor
        · rintro ⟨next, hnext, -⟩
          cases hnext
        · rintro ⟨hall, -⟩
          exact absurd (hall 0 n.succ_pos) hk

/-- From a name on, the search has one end. -/
theorem ends_iff_of_first_free (hbefore : ∀ m < k, spelling base suffix m ∈ used)
    (hfree : spelling base suffix k ∉ used) :
    Ends used base suffix ⟨base, 1⟩ n name ↔ n = k ∧ name = spelling base suffix k := by
  rw [show (⟨base, 1⟩ : Search) = after base suffix 0 from rfl, ends_after_iff]
  simp only [Nat.zero_add]
  constructor
  · rintro ⟨hall, hfree', rfl⟩
    have hn : n = k := by
      by_contra hne
      rcases Nat.lt_or_gt_of_ne hne with hlt | hgt
      · exact hfree' (hbefore n hlt)
      · exact hfree (hall k hgt)
    exact ⟨hn, hn ▸ rfl⟩
  · rintro ⟨rfl, rfl⟩
    exact ⟨hbefore, hfree, rfl⟩

/-- What a bounded number of tries comes to is a spelling with none in front of it that is free. -/
theorem disambiguate_eq_spelling (used : List String) (base suffix : String) :
    ∃ n, disambiguate used base suffix = spelling base suffix n ∧
      ∀ m < n, spelling base suffix m ∈ used := by
  by_cases hbase : base ∈ used
  · obtain ⟨n, -, heq, hbefore, -⟩ := firstFree_spec used base suffix used.length 1
    refine ⟨n + 1, ?_, ?_⟩
    · rw [disambiguate, if_pos (List.contains_iff_mem.mpr hbase), heq, Nat.add_comm]
      rfl
    · rintro (_ | m) hm
      · exact hbase
      · have hm' := hbefore m (by omega)
        rwa [Nat.add_comm] at hm'
  · refine ⟨0, ?_, by simp⟩
    rw [disambiguate, if_neg (fun h => hbase (List.contains_iff_mem.mp h))]
    rfl

theorem candidate_eq_numbered (base suffix : String) (k : Nat) :
    candidate base suffix k = numbered base suffix k := by
  unfold candidate numbered
  by_cases hsuffix : suffix = "_"
  · rw [if_pos hsuffix, hsuffix]
    rfl
  · rw [if_neg hsuffix, if_neg (mt beq_iff_eq.mp hsuffix)]

/-- The first free spelling has the least number that is free, unless it is the name itself. -/
theorem number_of_first_free (hbefore : ∀ m < n, spelling base suffix m ∈ used)
    (hfree : spelling base suffix n ∉ used) :
    (base ∉ used ∧ n = 0) ∨
      (base ∈ used ∧ IsLeast {k | 0 < k ∧ numbered base suffix k ∉ used} n ∧
        spelling base suffix n = numbered base suffix n) := by
  cases n with
  | zero => exact .inl ⟨hfree, rfl⟩
  | succ n =>
      have hspelling : ∀ k, spelling base suffix (k + 1) = numbered base suffix (k + 1) :=
        fun k => candidate_eq_numbered base suffix (k + 1)
      refine .inr ⟨hbefore 0 n.succ_pos, ⟨⟨n.succ_pos, hspelling n ▸ hfree⟩, ?_⟩, hspelling n⟩
      rintro (_ | k) ⟨hpos, hk⟩
      · exact absurd hpos (Nat.lt_irrefl 0)
      · by_contra hlt
        exact hk (hspelling k ▸ hbefore (k + 1) (by omega))

end

end Search

/-- Whatever names are in use, the search from a name ends, after at most as many turns as there are
names in use: with the name itself if that is free, and else with the least number that makes it
free. A request for a unique name is answered with what the search ends with, and it starts from the
converted name, suffixed where that is to be avoided. -/
theorem search_ends_at_first_free (s : Sanitizer) (suffix : String) :
    (∀ base, ∃ turns ≤ s.used.toFinset.card,
      (∀ n name, Search.Ends s.used base suffix ⟨base, 1⟩ n name ↔
        n = turns ∧ name = disambiguate s.used base suffix) ∧
      ((base ∉ s.used ∧ turns = 0 ∧ disambiguate s.used base suffix = base) ∨
        (base ∈ s.used ∧ IsLeast {k | 0 < k ∧ numbered base suffix k ∉ s.used} turns ∧
          disambiguate s.used base suffix = numbered base suffix turns))) ∧
    ∀ name style, (s.step (.sanitize name style suffix true)).2 =
      let converted := NamingRules.guardDigit (Naming.convert style (s.rules.clean name.toList))
      some (disambiguate s.used (s.rules.suffixed converted suffix) suffix) := by
  refine ⟨fun base => ?_, fun name style => rfl⟩
  obtain ⟨turns, heq, hbefore⟩ := Search.disambiguate_eq_spelling s.used base suffix
  have hfree : spelling base suffix turns ∉ s.used :=
    heq ▸ disambiguate_not_mem s.used base suffix
  obtain ⟨k, hk, hkfree⟩ := exists_free_spelling s.used base suffix
  have hturns : turns ≤ k := by
    by_contra hlt
    exact hkfree (hbefore k (by omega))
  refine ⟨turns, hturns.trans hk, fun n name => ?_, ?_⟩
  · rw [heq]
    exact Search.ends_iff_of_first_free hbefore hfree
  · rw [heq]
    rcases Search.number_of_first_free hbefore hfree with ⟨hbase, rfl⟩ | hnumbered
    · exact .inl ⟨hbase, rfl, rfl⟩
    · exact .inr hnumbered

/-- The number left out is found, and a suffix other than the underscore is not written again. -/
example : disambiguate ["Model", "Model1", "Model3"] "Model" "Model" = "Model2" := by
  decide +kernel

end Sanitizer

end TypeStencil
