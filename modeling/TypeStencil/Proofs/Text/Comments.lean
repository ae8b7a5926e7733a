import Mathlib.Data.List.Infix
import TypeStencil.Proofs.Text.Lines

/-!
Ends of comments in texts. A comment goes as far as the first `*/` after its opening. The two
characters stand next to each other, so that they are in a text if they are in one of its lines.
-/
namespace TypeStencil.Text

/-- Whether the end of a comment stands somewhere in a text. -/
def HoldsEnd (s : List Char) : Prop :=
  ['*', '/'] <:+: s

instance (s : List Char) : Decidable (HoldsEnd s) :=
  inferInstanceAs (Decidable (_ <:+: s))

/-- A text cut at the first end of a comment: what stands before it, and what comes after it. -/
def cutAtEnd? : List Char → Option (List Char × List Char)
  | [] => none
  | '*' :: '/' :: rest => some ([], rest)
  | c :: rest => (cutAtEnd? rest).map fun cut => (c :: cut.1, cut.2)

theorem not_holdsEnd_nil : ¬ HoldsEnd [] := by decide

theorem holdsEnd_cons {c : Char} {s : List Char} :
    HoldsEnd (c :: s) ↔ ['*', '/'] <+: c :: s ∨ HoldsEnd s :=
  List.infix_cons_iff

theorem cutAtEnd?_cons {c : Char} {s : List Char} (h : ¬ ['*', '/'] <+: c :: s) :
    cutAtEnd? (c :: s) = (cutAtEnd? s).map fun cut => (c :: cut.1, cut.2) := by
  rw [cutAtEnd?.eq_def]
  split
  · next heq => cases heq
  · next heq =>
      obtain ⟨rfl, rfl⟩ := List.cons.inj heq
      exact absurd (List.prefix_append ['*', '/'] _) h
  · next heq =>
      obtain ⟨rfl, rfl⟩ := List.cons.inj heq
      rfl

/-- An end of a comment is the first one if none stands before it or overlaps with it. -/
theorem cutAtEnd?_eq_some {inside after : List Char} :
    cutAtEnd? (inside ++ '*' :: '/' :: after) = some (inside, after) ↔
      ¬ HoldsEnd (inside ++ ['*']) := by
  induction inside with
  | nil => exact iff_of_true rfl (by decide)
  | cons c rest ih =>
      have hfirst : ['*', '/'] <+: c :: (rest ++ '*' :: '/' :: after) ↔
          ['*', '/'] <+: c :: (rest ++ ['*']) := by
        cases rest <;> simp [List.cons_prefix_cons]
      rw [List.cons_append, List.cons_append, holdsEnd_cons, ← hfirst, not_or]
      by_cases h : ['*', '/'] <+: c :: (rest ++ '*' :: '/' :: after)
      · obtain ⟨t, ht⟩ := h
        refine iff_of_false ?_ fun hnot => hnot.1 ⟨t, ht⟩
        rw [← ht]
        exact fun hcut => List.cons_ne_nil _ _ (Prod.mk.inj (Option.some.inj hcut)).1.symm
      · rw [cutAtEnd?_cons h, ← ih]
        simp [h, Option.map_eq_some_iff, Prod.ext_iff]

/-- Nothing ends a comment across a character that is not in the end of one. -/
theorem holdsEnd_append_cons {c : Char} (hstar : c ≠ '*') (hslash : c ≠ '/') (a b : List Char) :
    HoldsEnd (a ++ c :: b) ↔ HoldsEnd a ∨ HoldsEnd b := by
  induction a with
  | nil => simp [holdsEnd_cons, not_holdsEnd_nil, hstar.symm]
  | cons d a ih =>
      have hfirst : ['*', '/'] <+: d :: (a ++ c :: b) ↔ ['*', '/'] <+: d :: a := by
        cases a <;> simp [List.cons_prefix_cons, hslash.symm]
      rw [List.cons_append, holdsEnd_cons, holdsEnd_cons, ih, hfirst, or_assoc]

/-- The end of a comment is in a text if it is in one of the lines; text in front of the first
line goes with it. -/
theorem holdsEnd_splitLines_after (s : List Char) : ∃ first rest, splitLines s = first :: rest ∧
    ∀ before, (HoldsEnd (before ++ first) ∨ ∃ line ∈ rest, HoldsEnd line) ↔
      HoldsEnd (before ++ s) := by
  have hbreak (r before : List Char) {first : List Char} {rest : List (List Char)}
      (h : ∀ before, (HoldsEnd (before ++ first) ∨ ∃ line ∈ rest, HoldsEnd line) ↔
        HoldsEnd (before ++ r)) :
      (HoldsEnd (before ++ []) ∨ ∃ line ∈ first :: rest, HoldsEnd line) ↔
        HoldsEnd (before ++ '\n' :: r) := by
    have hfirst := h []
    rw [List.nil_append, List.nil_append] at hfirst
    rw [holdsEnd_append_cons (by decide) (by decide), List.append_nil, ← hfirst]
    simp
  fun_induction splitLines s with
  | case1 => exact ⟨[], [], rfl, by simp⟩
  | case2 r ih =>
      obtain ⟨first, rest, hsplit, h⟩ := ih
      exact ⟨[], first :: rest, by rw [hsplit], fun before => hbreak r before h⟩
  | case3 r ih =>
      obtain ⟨first, rest, hsplit, h⟩ := ih
      refine ⟨[], first :: rest, by rw [hsplit], fun before => ?_⟩
      rw [hbreak r before h, holdsEnd_append_cons (by decide) (by decide),
        holdsEnd_append_cons (by decide) (by decide), holdsEnd_cons]
      simp
  | case4 c r hnewline hreturn ih =>
      obtain ⟨first, rest, hsplit, h⟩ := ih
      refine ⟨c :: first, rest, by rw [hsplit]; rfl, fun before => ?_⟩
      have hmoved := h (before ++ [c])
      rwa [List.append_assoc, List.append_assoc, List.singleton_append,
        List.singleton_append] at hmoved

theorem holdsEnd_lines {s : String} :
    (∃ line ∈ lines s, HoldsEnd line.toList) ↔ HoldsEnd s.toList := by
  rw [lines]
  cases hs : s.isEmpty with
  | true =>
      rw [String.isEmpty_iff.mp hs]
      simpa using not_holdsEnd_nil
  | false =>
      obtain ⟨first, rest, hsplit, h⟩ := holdsEnd_splitLines_after s.toList
      have hall := h []
      rw [List.nil_append, List.nil_append] at hall
      rw [if_neg Bool.false_ne_true, hsplit, ← hall]
      simp

theorem forall_lines_not_holdsEnd {s : String} :
    (∀ line ∈ lines s, ¬ HoldsEnd line.toList) ↔ ¬ HoldsEnd s.toList := by
  rw [← holdsEnd_lines, not_exists]
  exact forall_congr' fun line => not_and.symm

theorem holdsEnd_chomp {line : List Char} : HoldsEnd (chomp line) ↔ HoldsEnd line := by
  rcases chomp_eq line with heq | heq
  · rw [heq]
  · rw [← congrArg HoldsEnd heq, holdsEnd_append_cons (by decide) (by decide)]
    simp [not_holdsEnd_nil]

end TypeStencil.Text
