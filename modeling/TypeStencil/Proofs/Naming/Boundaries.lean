import TypeStencil.Proofs.Naming.Substitution
import TypeStencil.Proofs.Naming.Words
import TypeStencil.Proofs.Text.Pieces

/-!
The words of a name by their boundaries. A word ends between a small letter or digit and a capital,
in front of the last of several capitals if a small letter follows it, and at every underscore or
hyphen. The snake form of a name is its words in small letters with single underscores between them.
-/
namespace TypeStencil

namespace Text

/-- A text cut behind some of its positions. -/
def cutBehind (cut : Nat → Bool) : List Char → List (List Char)
  | [] => [[]]
  | c :: r =>
    if cut 0 then [c] :: cutBehind (fun i => cut (i + 1)) r
    else consFirst c (cutBehind (fun i => cut (i + 1)) r)

theorem cutBehind_ne_nil (cut : Nat → Bool) (s : List Char) : cutBehind cut s ≠ [] := by
  cases s with
  | nil => exact List.cons_ne_nil _ _
  | cons c r =>
      rw [cutBehind]
      split
      · exact List.cons_ne_nil _ _
      · exact consFirst_ne_nil _ _

end Text

namespace Naming

open Text

/-- Whether a word of the text ends at a position and the next one begins behind it. -/
def isBoundary (t : List Char) (i : Nat) : Bool :=
  (t[i]?.any fun a => isLowerAscii a || isDigitAscii a) && t[i + 1]?.any isUpperAscii ||
    t[i]?.any isUpperAscii && t[i + 1]?.any isUpperAscii && t[i + 2]?.any isLowerAscii

/-- The pieces of a text between boundaries and underscores, without the empty ones. -/
def localWords (t : List Char) : List (List Char) :=
  ((cutBehind (isBoundary t) t).flatMap (splitAt '_')).filter (!·.isEmpty)

section

variable {c : Char} {r s w : List Char}

theorem isBoundary_zero (c : Char) (r : List Char) :
    isBoundary (c :: r) 0 = (endsHump (c :: r) || endsAcronym (c :: r)) := by
  match r with
  | [] => simp [isBoundary, endsHump, endsAcronym]
  | [a] => simp [isBoundary, endsHump, endsAcronym, isWordChar]
  | a :: b :: r => simp [isBoundary, endsHump, endsAcronym, isWordChar]

theorem head?_splitAcronyms (s : List Char) : (splitAcronyms s).head? = s.head? := by
  cases s with
  | nil => rfl
  | cons c r =>
      rw [splitAcronyms_cons]
      split <;> rfl

theorem endsHump_congr (h : r.head? = s.head?) : endsHump (c :: r) = endsHump (c :: s) := by
  cases r with
  | nil => rw [List.head?_eq_none_iff.mp h.symm]
  | cons a r =>
      obtain ⟨s, rfl⟩ := List.head?_eq_some_iff.mp h.symm
      rfl

/-- The second cut finds the boundaries that the first one leaves, and no other ones, since the
underscores of the first are no letters. -/
theorem splitHumps_splitAcronyms_cons (c : Char) (r : List Char) :
    splitHumps (splitAcronyms (c :: r)) =
      if isBoundary (c :: r) 0 then c :: '_' :: splitHumps (splitAcronyms r)
      else c :: splitHumps (splitAcronyms r) := by
  have hhump : endsHump (c :: splitAcronyms r) = endsHump (c :: r) :=
    endsHump_congr (head?_splitAcronyms r)
  have hcut : endsHump (c :: '_' :: splitAcronyms r) = false := by
    rw [endsHump, show isUpperAscii '_' = false from rfl, Bool.and_false]
  have hunderscore : endsHump ('_' :: splitAcronyms r) = false := endsHump_of_not_word rfl
  rw [isBoundary_zero, splitAcronyms_cons]
  cases hacronym : endsAcronym (c :: r) with
  | true =>
      rw [if_pos rfl, splitHumps_cons, hcut, if_neg Bool.false_ne_true, splitHumps_cons,
        hunderscore, if_neg Bool.false_ne_true, Bool.or_true, if_pos rfl]
  | false =>
      rw [if_neg Bool.false_ne_true, splitHumps_cons, hhump, Bool.or_false]

/-- The two cuts together write an underscore at every boundary. -/
theorem splitHumps_splitAcronyms (t : List Char) :
    splitHumps (splitAcronyms t) = joinWith ['_'] (cutBehind (isBoundary t) t) := by
  induction t with
  | nil => rfl
  | cons c r ih =>
      have hnext : (fun i => isBoundary (c :: r) (i + 1)) = isBoundary r := rfl
      rw [splitHumps_splitAcronyms_cons, cutBehind, hnext, ih]
      have hne := cutBehind_ne_nil (isBoundary r) r
      split
      · cases hcut : cutBehind (isBoundary r) r with
        | nil => exact absurd hcut hne
        | cons w ws => rfl
      · rw [joinWith_consFirst _ _ hne]

theorem pieces_squeeze (before s : List Char) :
    pieces '_' (before ++ squeeze s) = pieces '_' (before ++ s) := by
  fun_induction squeeze s generalizing before with
  | case1 r ih => rw [ih, pieces_append, pieces_append, pieces_mark]
  | case2 c r _ ih =>
      have hshift (s : List Char) : before ++ c :: s = before ++ [c] ++ s := by simp
      rw [hshift, ih, ← hshift]
  | case3 => rfl

theorem pieces_dropWhile (s : List Char) : pieces '_' (s.dropWhile (· == '_')) = pieces '_' s := by
  induction s with
  | nil => rfl
  | cons c r ih =>
      by_cases h : c = '_'
      · rw [h, List.dropWhile_cons_of_pos rfl, ih, pieces_mark]
      · rw [List.dropWhile_cons_of_neg (by simpa using h)]

theorem pieces_rdropWhile (s : List Char) :
    pieces '_' (s.rdropWhile (· == '_')) = pieces '_' s := by
  induction s using List.reverseRecOn with
  | nil => rfl
  | append_singleton r c ih =>
      by_cases h : c = '_'
      · rw [h, List.rdropWhile_concat_pos _ _ _ rfl, ih, pieces_append_mark]
      · rw [List.rdropWhile_concat_neg _ _ _ (by simpa using h)]

theorem pieces_trim (s : List Char) : pieces '_' (trim (· == '_') s) = pieces '_' s := by
  rw [show trim (· == '_') s = (s.dropWhile (· == '_')).rdropWhile (· == '_') from rfl,
    pieces_rdropWhile, pieces_dropWhile]

theorem Spaced.joinWith_pieces {mark : Char} (h : Spaced mark s) :
    joinWith [mark] (pieces mark s) = s := by
  by_cases hs : s = []
  · rw [hs]
    rfl
  · rw [pieces_eq_splitAt (h.pieces_ne_nil hs), joinWith_splitAt]

/-- Single underscores and none at the ends are left of any underscores between the pieces. -/
theorem trim_squeeze (s : List Char) :
    trim (· == '_') (squeeze s) = joinWith ['_'] (pieces '_' s) := by
  rw [← (spaced_trim (squeeze_apart s)).joinWith_pieces, pieces_trim]
  exact congrArg _ (pieces_squeeze [] s)

theorem snake_eq_pieces (s : List Char) : snake s = joinWith ['_'] (pieces '_' (lower (cut s))) :=
  trim_squeeze _

theorem isAscii_of_mem_pieces (h : IsAscii s) (hw : w ∈ pieces '_' s) : IsAscii w := fun _ hc =>
  h _ (mem_of_mem_piece (List.mem_of_mem_filter hw) hc).1

theorem pieces_cut (s : List Char) : pieces '_' (cut s) = localWords (replaceChar '-' '_' s) := by
  rw [cut, splitHumps_splitAcronyms, pieces, splitAt_joinWith (cutBehind_ne_nil _ _), localWords]

/-- In an ASCII name, the words that the substitutions cut out are those between the boundaries of
the name, each of which is seen from at most three characters. -/
theorem snake_eq_localWords (h : IsAscii s) :
    snake s = substituted s ∧
      snake s = joinWith ['_'] ((localWords (replaceChar '-' '_' s)).map lower) := by
  refine ⟨(substituted_eq_snake s).symm, ?_⟩
  have hcut := isAscii_cut h
  have hsmall : (pieces '_' (cut s)).map (List.map Char.toLower) = (pieces '_' (cut s)).map lower :=
    List.map_congr_left fun w hw => (lower_eq_map (isAscii_of_mem_pieces hcut hw)).symm
  rw [snake_eq_pieces, lower_eq_map hcut, pieces_map toLower_eq_underscore, hsmall, pieces_cut]

/-- Acronyms, digits, and several separators next to each other. -/
theorem snake_eq_localWords_acronyms :
    let s := "-parseHTTPServer2Go__user-IDsXY".toList
    IsAscii s ∧ localWords (replaceChar '-' '_' s) = ["parse", "HTTP", "Server2", "Go", "user", "I",
      "Ds", "XY"].map String.toList ∧ snake s = substituted s ∧
      snake s = joinWith ['_'] ((localWords (replaceChar '-' '_' s)).map lower) := by
  intro s
  have hall : s.all (fun c => decide (c.toNat < 0x80)) = true := by decide +kernel
  have hascii : IsAscii s := fun c hc => of_decide_eq_true (List.all_eq_true.mp hall c hc)
  exact ⟨hascii, by decide +kernel, snake_eq_localWords hascii⟩

end

end Naming

end TypeStencil
