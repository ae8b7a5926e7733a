import Mathlib.Data.List.Forall2
import TypeStencil.Text.Lines

/-!
Patterns in texts. A pattern is a row of parts, some of which take as many characters as they can
and give the last ones up again if the parts behind them do not fit otherwise. What a pattern
matches fits its parts, and it matches wherever something fits. A substitution writes something
else for each match, from left to right and without going back into what was matched.
-/
namespace TypeStencil.Text

/-- A part of a pattern: one character of a class, or at least one. -/
inductive PatternPart where
  | one (p : Char → Bool)
  | many (p : Char → Bool)

/-- The texts that a row of parts takes from the front of a text, and what is left of it. More
characters for a part of many are tried before fewer. -/
def matchParts : List PatternPart → List Char → Option (List (List Char) × List Char)
  | [], s => some ([], s)
  | _ :: _, [] => none
  | .one p :: parts, c :: r =>
    if p c then (matchParts parts r).map fun m => ([c] :: m.1, m.2) else none
  | .many p :: parts, c :: r =>
    if p c then
      ((matchParts (.many p :: parts) r).map fun m => (consFirst c m.1, m.2)).or
        ((matchParts parts r).map fun m => ([c] :: m.1, m.2))
    else none

/-- A text that a part may take. -/
def PatternPart.Fits : PatternPart → List Char → Prop
  | .one p, w => ∃ c, p c = true ∧ w = [c]
  | .many p, w => w ≠ [] ∧ ∀ c ∈ w, p c = true

section

variable {parts : List PatternPart} {texts : List (List Char)} {rest s w : List Char}
  {p : Char → Bool} {c : Char}

theorem PatternPart.Fits.ne_nil {part : PatternPart} (h : part.Fits w) : w ≠ [] := by
  cases part with
  | one p =>
      obtain ⟨c, -, rfl⟩ := h
      exact List.cons_ne_nil c []
  | many p => exact h.1

theorem PatternPart.Fits.cons (hc : p c = true) (h : (PatternPart.many p).Fits w) :
    (PatternPart.many p).Fits (c :: w) :=
  ⟨List.cons_ne_nil c w, List.forall_mem_cons.mpr ⟨hc, h.2⟩⟩

/-- A match cuts off the front of a text, and what it takes fits the parts. -/
theorem fits_of_matchParts (h : matchParts parts s = some (texts, rest)) :
    texts.flatten ++ rest = s ∧ List.Forall₂ PatternPart.Fits parts texts := by
  fun_induction matchParts parts s generalizing texts rest with
  | case1 s =>
      obtain ⟨rfl, rfl⟩ := Prod.mk.inj (Option.some.inj h)
      exact ⟨rfl, .nil⟩
  | case2 => cases h
  | case3 p parts c r hc ih =>
      obtain ⟨m, hm, heq⟩ := Option.map_eq_some_iff.mp h
      obtain ⟨rfl, rfl⟩ := Prod.mk.inj heq
      obtain ⟨hflat, hfits⟩ := ih hm
      exact ⟨congrArg (c :: ·) hflat, .cons ⟨c, hc, rfl⟩ hfits⟩
  | case4 => cases h
  | case5 p parts c r hc ihmore ih =>
      rcases Option.or_eq_some_iff.mp h with h | ⟨-, h⟩
      · obtain ⟨m, hm, heq⟩ := Option.map_eq_some_iff.mp h
        obtain ⟨rfl, rfl⟩ := Prod.mk.inj heq
        obtain ⟨hflat, hfits⟩ := ihmore hm
        obtain ⟨w, more, hw, hmore, hcons⟩ := List.forall₂_cons_left_iff.mp hfits
        rw [hcons] at hflat ⊢
        exact ⟨congrArg (c :: ·) hflat, .cons (hw.cons hc) hmore⟩
      · obtain ⟨m, hm, heq⟩ := Option.map_eq_some_iff.mp h
        obtain ⟨rfl, rfl⟩ := Prod.mk.inj heq
        obtain ⟨hflat, hfits⟩ := ih hm
        refine ⟨congrArg (c :: ·) hflat, .cons ⟨List.cons_ne_nil c [], ?_⟩ hfits⟩
        exact List.forall_mem_singleton.mpr hc
  | case6 => cases h

/-- Characters of its class are no obstacle to a part of many. -/
theorem isSome_matchParts_many (h : (matchParts parts s).isSome) (hne : w ≠ [])
    (hw : ∀ c ∈ w, p c = true) : (matchParts (.many p :: parts) (w ++ s)).isSome := by
  induction w with
  | nil => exact absurd rfl hne
  | cons c r ih =>
      obtain ⟨hc, hr⟩ := List.forall_mem_cons.mp hw
      rw [List.cons_append, matchParts, if_pos hc, Option.isSome_or, Option.isSome_map,
        Option.isSome_map, Bool.or_eq_true]
      cases r with
      | nil => exact .inr h
      | cons d r => exact .inl (ih (List.cons_ne_nil d r) hr)

/-- Where texts stand that fit the parts, there is a match. -/
theorem isSome_matchParts (h : List.Forall₂ PatternPart.Fits parts texts) (rest : List Char) :
    (matchParts parts (texts.flatten ++ rest)).isSome := by
  induction h with
  | nil =>
      rw [matchParts]
      rfl
  | @cons part w parts texts hw _ ih =>
      rw [List.flatten_cons, List.append_assoc]
      cases part with
      | one p =>
          obtain ⟨c, hc, rfl⟩ := hw
          rw [List.singleton_append, matchParts, if_pos hc, Option.isSome_map]
          exact ih
      | many p => exact isSome_matchParts_many ih hw.1 hw.2

/-- A single part of many takes all characters of its class that stand in front. -/
theorem matchParts_many (hc : p c = true) (r : List Char) :
    matchParts [.many p] (c :: r) = some ([c :: r.takeWhile p], r.dropWhile p) := by
  induction r generalizing c with
  | nil =>
      rw [matchParts, if_pos hc]
      rfl
  | cons d r ih =>
      rw [matchParts, if_pos hc]
      by_cases hd : p d = true
      · rw [ih hd, List.takeWhile_cons_of_pos hd, List.dropWhile_cons_of_pos hd]
        rfl
      · have hnone : matchParts [.many p] (d :: r) = none := by rw [matchParts, if_neg hd]
        rw [hnone, List.takeWhile_cons_of_neg hd, List.dropWhile_cons_of_neg hd]
        rfl

end

/-- Patterns have at least one part, so that a match is never empty. -/
structure Pattern where
  first : PatternPart
  others : List PatternPart

namespace Pattern

variable (pattern : Pattern)

def match? (s : List Char) : Option (List (List Char) × List Char) :=
  matchParts (pattern.first :: pattern.others) s

theorem length_of_match? {pattern : Pattern} {s rest : List Char} {texts : List (List Char)}
    (h : pattern.match? s = some (texts, rest)) : rest.length < s.length := by
  obtain ⟨hflat, hfits⟩ := fits_of_matchParts h
  obtain ⟨w, more, hw, -, rfl⟩ := List.forall₂_cons_left_iff.mp hfits
  rw [← hflat, List.flatten_cons, List.append_assoc, List.length_append, List.length_append]
  have hpos := List.length_pos_of_ne_nil hw.ne_nil
  omega

/-- A text in which `write` stands for every match of a pattern. -/
def substitute (write : List (List Char) → List Char) : List Char → List Char
  | [] => []
  | c :: r =>
    match h : pattern.match? (c :: r) with
    | some (texts, rest) =>
      have := length_of_match? h
      write texts ++ substitute write rest
    | none => c :: substitute write r
termination_by s => s.length
decreasing_by
  · assumption
  · exact Nat.lt_succ_self r.length

variable {pattern} {write : List (List Char) → List Char}

/-- A substitution is the one function that writes something else for a match and goes on behind
it, and keeps a character where there is none. -/
theorem substitute_eq {f : List Char → List Char} (hnil : f [] = [])
    (hsome : ∀ {c r texts rest}, pattern.match? (c :: r) = some (texts, rest) →
      f (c :: r) = write texts ++ f rest)
    (hnone : ∀ {c r}, pattern.match? (c :: r) = none → f (c :: r) = c :: f r) (s : List Char) :
    pattern.substitute write s = f s := by
  fun_induction substitute pattern write s with
  | case1 => exact hnil.symm
  | case2 c r texts rest h _ ih => rw [ih, hsome h]
  | case3 c r h ih => rw [ih, hnone h]

end Pattern

end TypeStencil.Text
