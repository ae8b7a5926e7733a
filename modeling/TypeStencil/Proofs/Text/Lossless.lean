import Mathlib.Data.List.Basic
import TypeStencil.Proofs.Text.Lines
import TypeStencil.Proofs.Text.Patterns
import TypeStencil.Proofs.Text.Pieces
import TypeStencil.Text.Words

/-!
What the lines of a text keep of it. Joined again they are the text, but for the carriage returns in
front of newlines. Texts that are joined by newlines have the lines of the texts, exactly if no text
that another one follows ends in a carriage return, which would go with the newline behind it.
-/
namespace TypeStencil.Text

/-- A carriage return and the newline behind it. -/
def returnedNewline : Pattern := ⟨.one (· == '\r'), [.one (· == '\n')]⟩

/-- A text with one newline in the place of every carriage return and newline. -/
def plainNewlines (text : String) : String :=
  String.ofList (returnedNewline.substitute (fun _ => ['\n']) text.toList)

def EndsInReturn (text : String) : Prop :=
  text.toList.getLast? = some '\r'

instance (text : String) : Decidable (EndsInReturn text) :=
  inferInstanceAs (Decidable (text.toList.getLast? = some '\r'))

section

variable {s : List Char} {ls ts : List (List Char)}

theorem joinLines_cons (h : ls ≠ []) (line : List Char) :
    joinLines (line :: ls) = line ++ '\n' :: joinLines ls := by
  cases ls with
  | nil => exact absurd rfl h
  | cons next rest => exact List.append_assoc line ['\n'] _

theorem match?_returnedNewline_ne_none (r : List Char) :
    returnedNewline.match? ('\r' :: '\n' :: r) ≠ none := by
  have hfits : List.Forall₂ PatternPart.Fits
      (returnedNewline.first :: returnedNewline.others) [['\r'], ['\n']] :=
    .cons ⟨'\r', rfl, rfl⟩ (.cons ⟨'\n', rfl, rfl⟩ .nil)
  exact Option.isSome_iff_ne_none.mp (isSome_matchParts hfits r)

/-- Joined again, the lines of a text are the text without the returns that stand in front of
newlines. -/
theorem joinLines_splitLines (s : List Char) :
    joinLines (splitLines s) = returnedNewline.substitute (fun _ => ['\n']) s := by
  symm
  refine Pattern.substitute_eq (f := fun s => joinLines (splitLines s)) rfl
    (fun {c r texts rest} h => ?_) (fun {c r} h => ?_) s
  · obtain ⟨hflat, hfits⟩ := fits_of_matchParts h
    obtain ⟨_, _, ⟨_, hreturn, rfl⟩, hmore, rfl⟩ := List.forall₂_cons_left_iff.mp hfits
    obtain ⟨_, _, ⟨_, hnewline, rfl⟩, hnil, rfl⟩ := List.forall₂_cons_left_iff.mp hmore
    obtain rfl := List.forall₂_nil_left_iff.mp hnil
    obtain rfl := beq_iff_eq.mp hreturn
    obtain rfl := beq_iff_eq.mp hnewline
    rw [← hflat]
    exact joinLines_cons (splitLines_ne_nil rest) []
  · by_cases hnewline : c = '\n'
    · subst hnewline
      exact joinLines_cons (splitLines_ne_nil r) []
    · have hreturn : ¬ (c = '\r' ∧ ∃ after, r = '\n' :: after) := by
        rintro ⟨rfl, after, rfl⟩
        exact match?_returnedNewline_ne_none after h
      rw [splitLines_cons hnewline hreturn, joinLines, joinWith_consFirst _ _ (splitLines_ne_nil r)]
      rfl

theorem length_consFirst (h : ls ≠ []) (c : Char) : (consFirst c ls).length = ls.length := by
  cases ls with
  | nil => exact absurd rfl h
  | cons line rest => rfl

theorem length_splitLines (s : List Char) : (splitLines s).length = s.count '\n' + 1 := by
  fun_induction splitLines s with
  | case1 => rfl
  | case2 r ih => rw [List.length_cons, ih, List.count_cons_self]
  | case3 r ih => rw [List.length_cons, ih, List.count_cons_of_ne (by decide), List.count_cons_self]
  | case4 c r hnewline hreturn ih =>
      rw [length_consFirst (splitLines_ne_nil r), ih, List.count_cons_of_ne hnewline]

theorem chomp_append_return (s : List Char) : chomp (s ++ ['\r']) = s := by
  induction s with
  | nil => rfl
  | cons c s ih => rw [List.cons_append, chomp_cons (.inr (by simp)), ih]

theorem count_chomp (s : List Char) : (chomp s).count '\n' = s.count '\n' := by
  rcases chomp_eq s with h | h
  · rw [h]
  · have hcount := congrArg (List.count '\n') h
    rwa [List.count_append, List.count_singleton, if_neg (by decide), Nat.add_zero] at hcount

theorem flatten_splitLines_return (s : List Char) :
    (splitLines (s ++ ['\r'])).flatten = (splitLines s).flatten ++ ['\r'] := by
  fun_induction splitLines s with
  | case1 => rfl
  | case2 r ih => exact ih
  | case3 r ih => exact ih
  | case4 c r hnewline hreturn ih =>
      have hreturn' : ¬ (c = '\r' ∧ ∃ after, r ++ ['\r'] = '\n' :: after) := by
        rintro ⟨rfl, after, hafter⟩
        cases r with
        | nil => exact absurd (List.cons.inj hafter).1 (by decide)
        | cons d r => exact hreturn r rfl (by rw [(List.cons.inj hafter).1])
      rw [List.cons_append, splitLines_cons hnewline hreturn', flatten_consFirst, flatten_consFirst,
        ih, List.cons_append]

/-- A carriage return at the end of a text is part of its last line. -/
theorem splitLines_chomp_iff : splitLines (chomp s) = splitLines s ↔ s.getLast? ≠ some '\r' := by
  constructor
  · intro hsame hlast
    obtain ⟨s, rfl⟩ := List.getLast?_eq_some_iff.mp hlast
    rw [chomp_append_return] at hsame
    have hflat := flatten_splitLines_return s
    rw [← hsame] at hflat
    exact List.cons_ne_nil _ _ (List.self_eq_append_right.mp hflat)
  · intro hlast
    rcases chomp_eq s with h | h
    · rw [h]
    · exact absurd (List.getLast?_eq_some_iff.mpr ⟨chomp s, h.symm⟩) hlast

/-- The lines of joined texts are those of the texts, exactly if none but the last one ends in a
return. -/
theorem splitLines_joinLines_iff (h : ts ≠ []) :
    splitLines (joinLines ts) = ts.flatMap splitLines ↔
      ∀ t ∈ ts.dropLast, t.getLast? ≠ some '\r' := by
  induction ts with
  | nil => exact absurd rfl h
  | cons t rest ih =>
      cases rest with
      | nil =>
          rw [List.flatMap_singleton]
          exact iff_of_true rfl fun t ht => absurd ht List.not_mem_nil
      | cons next more =>
          have hlength : (splitLines (chomp t)).length = (splitLines t).length := by
            rw [length_splitLines, length_splitLines, count_chomp]
          rw [joinLines_cons (List.cons_ne_nil next more), splitLines_append_newline,
            List.flatMap_cons (x := t), List.dropLast_cons_cons, List.forall_mem_cons,
            ← ih (List.cons_ne_nil next more), ← splitLines_chomp_iff]
          constructor
          · exact fun hall => List.append_inj hall hlength
          · rintro ⟨hfirst, hothers⟩
            rw [hfirst, hothers]

theorem joinWith_eq_intercalate (mark : List Char) (ls : List (List Char)) :
    joinWith mark ls = mark.intercalate ls := by
  induction ls with
  | nil => rfl
  | cons line rest ih =>
      cases rest with
      | nil => exact (List.intercalate_singleton).symm
      | cons next more =>
          rw [joinWith_cons_cons, ih, List.intercalate_cons_cons]

end

theorem toList_intercalate_newline (ls : List String) :
    ("\n".intercalate ls).toList = joinLines (ls.map String.toList) := by
  rw [String.toList_intercalate, joinLines, joinWith_eq_intercalate]
  rfl

theorem map_toList_lines {text : String} (h : text ≠ "") :
    (lines text).map String.toList = splitLines text.toList := by
  rw [lines_of_ne_empty h, List.map_map]
  exact (List.map_congr_left fun _ _ => String.toList_ofList).trans (List.map_id' _)

theorem intercalate_lines {text : String} (h : text ≠ "") :
    "\n".intercalate (lines text) = plainNewlines text := by
  rw [← String.toList_inj, toList_intercalate_newline, map_toList_lines h, joinLines_splitLines,
    plainNewlines, String.toList_ofList]

theorem length_lines {text : String} (h : text ≠ "") :
    (lines text).length = text.toList.count '\n' + 1 := by
  rw [lines_of_ne_empty h, List.length_map, length_splitLines]

theorem intercalate_newline_ne_empty {text : String} (h : text ≠ "") (texts : List String) :
    "\n".intercalate (text :: texts) ≠ "" := by
  rw [← String.toList_inj.ne, toList_intercalate_newline]
  cases texts with
  | nil => exact String.toList_inj.ne.mpr h
  | cons next more =>
      rw [List.map_cons, List.map_cons, joinLines_cons (List.cons_ne_nil _ _)]
      exact List.append_ne_nil_of_right_ne_nil _ (List.cons_ne_nil _ _)

theorem lines_intercalate_iff {texts : List String} (h : ∀ t ∈ texts, t ≠ "") :
    lines ("\n".intercalate texts) = texts.flatMap lines ↔
      ∀ t ∈ texts.dropLast, ¬ EndsInReturn t := by
  cases texts with
  | nil => exact iff_of_true rfl fun t ht => absurd ht List.not_mem_nil
  | cons t rest =>
      have hinjective : Function.Injective String.toList := fun _ _ => String.toList_injective
      have hne : (t :: rest).map String.toList ≠ [] := List.cons_ne_nil _ _
      have hchars : ((t :: rest).flatMap lines).map String.toList =
          ((t :: rest).map String.toList).flatMap splitLines := by
        rw [List.map_flatMap, List.flatMap_map]
        exact List.flatMap_congr fun u hu => map_toList_lines (h u hu)
      rw [← (List.map_injective_iff.mpr hinjective).eq_iff, hchars,
        map_toList_lines (intercalate_newline_ne_empty (h t List.mem_cons_self) rest),
        toList_intercalate_newline, splitLines_joinLines_iff hne, ← List.map_dropLast,
        List.forall_mem_map]
      rfl

/-- The return at the end of the first text goes with the newline. -/
example : lines ("\n".intercalate ["a\r", "b"]) = ["a", "b"] := by
  decide +kernel

end TypeStencil.Text
