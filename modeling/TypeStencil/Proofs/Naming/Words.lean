import Mathlib.Data.List.Chain
import Mathlib.Data.List.DropRight
import TypeStencil.Proofs.Naming.FileNames
import TypeStencil.Proofs.Text.Pieces

/-!
The words of a name. In a snake form underscores stand one at a time and only between words, so
that its pieces between underscores are words without exception, and the styles that write words
together start from a letter or digit.
-/
namespace TypeStencil

namespace Naming

open Text

/-- A mark stands neither at an end of a text nor next to another one. -/
structure Spaced (mark : Char) (s : List Char) : Prop where
  front : s.head? ≠ some mark
  back : s.getLast? ≠ some mark
  apart : s.IsChain fun a b => a ≠ mark ∨ b ≠ mark

section

variable {mark c d : Char} {r s : List Char}

theorem Spaced.of_cons (h : Spaced mark (c :: d :: r)) (hd : d ≠ mark) : Spaced mark (d :: r) := by
  refine ⟨?_, h.back, h.apart.of_cons⟩
  intro heq
  exact hd (Option.some.inj heq)

/-- After a mark a spaced text goes on, and what follows is spaced. -/
theorem Spaced.of_cons_mark (h : Spaced mark (c :: mark :: r)) : r ≠ [] ∧ Spaced mark r := by
  have hapart := List.isChain_cons.mp h.apart.of_cons
  have hne : r ≠ [] := by
    rintro rfl
    exact h.back rfl
  refine ⟨hne, ?_, ?_, hapart.2⟩
  · intro hhead
    have hmark := hapart.1 mark hhead
    simp at hmark
  · intro hlast
    apply h.back
    simp [List.getLast?_cons, hlast]

/-- The pieces of a spaced text between its marks are not empty. -/
theorem Spaced.pieces_ne_nil : ∀ {s : List Char}, Spaced mark s → s ≠ [] →
    ∀ piece ∈ splitAt mark s, piece ≠ []
  | [], _, hs => absurd rfl hs
  | [c], h, _ => by
      have hc : c ≠ mark := fun heq => h.front (congrArg some heq)
      simp [splitAt, hc, consFirst]
  | c :: d :: r, h, _ => by
      have hc : c ≠ mark := fun heq => h.front (congrArg some heq)
      rw [splitAt, if_neg hc]
      by_cases hd : d = mark
      · rw [hd] at h ⊢
        obtain ⟨hr, hspaced⟩ := h.of_cons_mark
        rw [splitAt, if_pos rfl]
        exact List.forall_mem_cons.mpr
          ⟨List.cons_ne_nil _ _, Spaced.pieces_ne_nil hspaced hr⟩
      · have hrest := Spaced.pieces_ne_nil (h.of_cons hd) (List.cons_ne_nil d r)
        cases hpieces : splitAt mark (d :: r) with
        | nil => exact absurd hpieces (splitAt_ne_nil _ _)
        | cons first more =>
            rw [hpieces] at hrest
            exact List.forall_mem_cons.mpr
              ⟨List.cons_ne_nil _ _, (List.forall_mem_cons.mp hrest).2⟩

theorem spaced_trim (h : s.IsChain fun a b => a ≠ mark ∨ b ≠ mark) :
    Spaced mark (trim (· == mark) s) := by
  have hfront : trim (· == mark) s <+: s.dropWhile (· == mark) := List.rdropWhile_prefix _ _
  refine ⟨?_, ?_, h.infix (hfront.isInfix.trans (List.dropWhile_suffix _).isInfix)⟩
  · intro hhead
    have hfirst := List.head?_dropWhile_not (· == mark) s
    obtain ⟨rest, hrest⟩ := hfront
    rw [← hrest, List.head?_append, hhead] at hfirst
    simp at hfirst
  · intro hlast
    have hne : trim (· == mark) s ≠ [] := by
      intro hnil
      rw [hnil] at hlast
      cases hlast
    have hnot := List.rdropWhile_last_not (· == mark) (s.dropWhile (· == mark)) hne
    rw [List.getLast?_eq_some_getLast hne] at hlast
    apply hnot
    exact beq_iff_eq.mpr (Option.some.inj hlast)

end

section

variable {c : Char} {s w : List Char}

theorem head?_squeeze (s : List Char) : (squeeze s).head? = s.head? := by
  fun_induction squeeze s with
  | case1 r ih => exact ih
  | case2 c r _ ih => rfl
  | case3 => rfl

theorem squeeze_apart (s : List Char) : (squeeze s).IsChain fun a b => a ≠ '_' ∨ b ≠ '_' := by
  fun_induction squeeze s with
  | case1 r ih => exact ih
  | case2 c r hpair ih =>
      refine List.isChain_cons.mpr ⟨?_, ih⟩
      intro d hd
      rw [head?_squeeze] at hd
      by_contra hboth
      simp only [not_or, ne_eq, not_not] at hboth
      obtain ⟨rfl, rfl⟩ := hboth
      cases r with
      | nil => cases hd
      | cons a more =>
          obtain rfl := Option.some.inj hd
          exact hpair more rfl rfl
  | case3 => exact .nil

theorem spaced_snake (s : List Char) : Spaced '_' (snake s) :=
  spaced_trim (squeeze_apart _)

/-- The words of a name are the pieces of its snake form. -/
theorem words_eq (h : snake s ≠ []) : words s = splitAt '_' (snake s) :=
  pieces_eq_splitAt ((spaced_snake s).pieces_ne_nil h)

theorem words_ne_nil (h : snake s ≠ []) : words s ≠ [] := by
  rw [words_eq h]
  exact splitAt_ne_nil _ _

theorem word_ne_nil (h : w ∈ words s) : w ≠ [] := by
  rintro rfl
  have hempty := (List.mem_filter.mp h).2
  cases hempty

theorem snake_ne_nil (hs : IsAscii s) (h : ∃ c ∈ s, c ≠ '-' ∧ c ≠ '_') : snake s ≠ [] := by
  obtain ⟨c, hc, hhyphen, hunderscore⟩ := h
  have hne : c.toLower ≠ '_' := mt (toLower_eq_underscore c).mp hunderscore
  exact List.ne_nil_of_mem ((mem_snake hs hne).mpr ⟨c, hc, hhyphen, hunderscore, rfl⟩)

section

variable (hs : ∀ c ∈ s, NamingRules.isNameChar c = true)

include hs

theorem isWordChar_of_mem_word (hw : w ∈ words s) (hc : c ∈ w) : isWordChar c = true := by
  obtain ⟨hmem, hne⟩ := mem_of_mem_piece (List.mem_of_mem_filter hw) hc
  exact isWordChar_of_mem_snake hs hmem hne

/-- Kebab forms have hyphens where snake forms have underscores, and no others. -/
theorem spaced_kebab : Spaced '-' (kebab s) := by
  have hhyphen : '-' ∉ snake s := by
    intro hmem
    have hword := isWordChar_of_mem_snake hs hmem (by decide)
    revert hword
    decide
  have hsnake := spaced_snake s
  have hmark : ∀ c ∈ snake s, (if c = '_' then '-' else c) = '-' → c = '_' := by
    intro c hc heq
    by_contra hne
    rw [if_neg hne] at heq
    exact hhyphen (heq ▸ hc)
  refine ⟨?_, ?_, ?_⟩
  · intro hhead
    rw [kebab, replaceChar, List.head?_map, Option.map_eq_some_iff] at hhead
    obtain ⟨c, hc, heq⟩ := hhead
    rw [hmark c (List.mem_of_head? hc) heq] at hc
    exact hsnake.front hc
  · intro hlast
    rw [kebab, replaceChar, List.getLast?_map, Option.map_eq_some_iff] at hlast
    obtain ⟨c, hc, heq⟩ := hlast
    rw [hmark c (List.mem_of_getLast? hc) heq] at hc
    exact hsnake.back hc
  · rw [kebab, replaceChar, List.isChain_map]
    refine hsnake.apart.imp_of_mem_imp ?_
    intro c d hc hd hor
    exact hor.imp (mt (hmark c hc)) (mt (hmark d hd))

end

end

end Naming

end TypeStencil
