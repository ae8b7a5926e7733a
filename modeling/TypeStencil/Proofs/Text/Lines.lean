import Mathlib.Logic.Basic
import TypeStencil.Proofs.Text.Pieces
import TypeStencil.Text.Lines

/-!
Lines of texts. No line has a newline in it, and a text that begins with a line and a break is cut
there; the break takes a carriage return with it.
-/
namespace TypeStencil.Text

theorem not_mem_consFirst {mark c : Char} {ls : List (List Char)} (hc : c ≠ mark)
    (h : ∀ line ∈ ls, mark ∉ line) : ∀ line ∈ consFirst c ls, mark ∉ line := by
  cases ls with
  | nil =>
      intro line hline
      obtain rfl := List.mem_singleton.mp hline
      rw [List.mem_singleton]
      exact Ne.symm hc
  | cons first rest =>
      rw [List.forall_mem_cons] at h
      refine List.forall_mem_cons.mpr ⟨?_, h.2⟩
      rw [List.mem_cons, not_or]
      exact ⟨Ne.symm hc, h.1⟩

/-- No line has a newline in it. -/
theorem newline_not_mem_splitLines (s : List Char) : ∀ line ∈ splitLines s, '\n' ∉ line := by
  fun_induction splitLines s with
  | case1 => simp
  | case2 r ih => exact List.forall_mem_cons.mpr ⟨List.not_mem_nil, ih⟩
  | case3 r ih => exact List.forall_mem_cons.mpr ⟨List.not_mem_nil, ih⟩
  | case4 c r hnewline hreturn ih => exact not_mem_consFirst hnewline ih

theorem newline_not_mem_lines {s line : String} (h : line ∈ lines s) : '\n' ∉ line.toList := by
  rw [lines] at h
  split at h
  · cases h
  · obtain ⟨chars, hchars, rfl⟩ := List.mem_map.mp h
    rw [String.toList_ofList]
    exact newline_not_mem_splitLines _ _ hchars

theorem splitLines_ne_nil (s : List Char) : splitLines s ≠ [] := by
  fun_cases splitLines s with
  | case4 => exact consFirst_ne_nil _ _
  | _ => exact List.cons_ne_nil _ _

theorem lines_ne_nil {s : String} (h : s ≠ "") : lines s ≠ [] := by
  rw [lines, String.isEmpty_eq_false_iff.mpr h, if_neg Bool.false_ne_true, ne_eq,
    List.map_eq_nil_iff]
  exact splitLines_ne_nil _

/-- A line without a carriage return at its end. -/
def chomp : List Char → List Char
  | [] => []
  | ['\r'] => []
  | c :: rest => c :: chomp rest

theorem chomp_cons {c : Char} {rest : List Char} (h : c ≠ '\r' ∨ rest ≠ []) :
    chomp (c :: rest) = c :: chomp rest := by
  rw [chomp.eq_def]
  split
  · next heq => cases heq
  · next heq =>
      obtain ⟨rfl, rfl⟩ := List.cons.inj heq
      exact absurd h (by simp)
  · next heq =>
      obtain ⟨rfl, rfl⟩ := List.cons.inj heq
      rfl

theorem chomp_eq (line : List Char) : chomp line = line ∨ chomp line ++ ['\r'] = line := by
  fun_induction chomp line with
  | case1 => exact .inl rfl
  | case2 => exact .inr rfl
  | case3 c rest h ih => exact ih.imp (congrArg (c :: ·)) (congrArg (c :: ·))

theorem splitLines_cons {c : Char} {s : List Char} (hnewline : c ≠ '\n')
    (hreturn : ¬ (c = '\r' ∧ ∃ after, s = '\n' :: after)) :
    splitLines (c :: s) = consFirst c (splitLines s) := by
  rw [splitLines.eq_def]
  split
  · next heq => cases heq
  · next heq => exact absurd (List.cons.inj heq).1 hnewline
  · next heq => exact absurd ⟨(List.cons.inj heq).1, _, (List.cons.inj heq).2⟩ hreturn
  · next heq =>
      obtain ⟨rfl, rfl⟩ := List.cons.inj heq
      rfl

/-- A newline behind a text cuts it off, without the carriage return at its end. -/
theorem splitLines_append_newline (s t : List Char) :
    splitLines (s ++ '\n' :: t) = splitLines (chomp s) ++ splitLines t := by
  fun_induction chomp s with
  | case1 => rfl
  | case2 => rfl
  | case3 c rest hlast ih =>
      by_cases hnewline : c = '\n'
      · rw [hnewline]
        exact congrArg ([] :: ·) ih
      -- A return and a newline are cut at once, as the newline alone would be.
      · by_cases hreturn : c = '\r' ∧ ∃ after, rest = '\n' :: after
        · obtain ⟨rfl, after, rfl⟩ := hreturn
          rw [chomp_cons (.inl (by decide))] at ih ⊢
          exact ih
        · have hbefore : ¬ (c = '\r' ∧ ∃ after, rest ++ '\n' :: t = '\n' :: after) := by
            rintro ⟨rfl, after, hafter⟩
            cases rest with
            | nil => exact hlast rfl rfl
            | cons d rest => exact hreturn ⟨rfl, rest, by rw [(List.cons.inj hafter).1]⟩
          have hchomped : ¬ (c = '\r' ∧ ∃ after, chomp rest = '\n' :: after) := by
            rintro ⟨rfl, after, hafter⟩
            refine hreturn ⟨rfl, ?_⟩
            rcases chomp_eq rest with h | h
            · exact ⟨after, h ▸ hafter⟩
            · exact ⟨after ++ ['\r'], by rw [← h, hafter, List.cons_append]⟩
          rw [List.cons_append, splitLines_cons hnewline hbefore, splitLines_cons hnewline hchomped,
            ih, consFirst_append (splitLines_ne_nil _)]

theorem splitLines_of_not_mem {s : List Char} (h : '\n' ∉ s) : splitLines s = [s] := by
  fun_induction splitLines s with
  | case1 => rfl
  | case2 r ih => exact absurd List.mem_cons_self h
  | case3 r ih => exact absurd (List.mem_cons_of_mem _ List.mem_cons_self) h
  | case4 c r hnewline hreturn ih =>
      rw [List.mem_cons, not_or] at h
      rw [ih h.2]
      rfl

/-- A line in front of others. The break after it takes a carriage return with it. -/
theorem splitLines_append {line : List Char} (h : '\n' ∉ line) (rest : List Char) :
    splitLines (line ++ '\n' :: rest) = chomp line :: splitLines rest := by
  have hchomp : '\n' ∉ chomp line := by
    rcases chomp_eq line with heq | heq
    · rwa [heq]
    · rw [← heq, List.mem_append, not_or] at h
      exact h.1
  rw [splitLines_append_newline, splitLines_of_not_mem hchomp]
  rfl

theorem lines_of_ne_empty {s : String} (h : s ≠ "") :
    lines s = (splitLines s.toList).map String.ofList := by
  rw [lines, String.isEmpty_eq_false_iff.mpr h, if_neg Bool.false_ne_true]

/-- A line without a carriage return at its end. -/
def chomped (line : String) : String :=
  String.ofList (chomp line.toList)

theorem lines_append {line rest : String} (h : '\n' ∉ line.toList) (hrest : rest ≠ "") :
    lines (line ++ ("\n" ++ rest)) = chomped line :: lines rest := by
  have hne : line ++ ("\n" ++ rest) ≠ "" := fun hempty =>
    hrest (String.append_eq_empty_iff.mp (String.append_eq_empty_iff.mp hempty).2).2
  rw [lines_of_ne_empty hne, lines_of_ne_empty hrest, String.toList_append, String.toList_append]
  exact congrArg (List.map String.ofList) (splitLines_append h rest.toList)

/-- Only the end of a line is looked at. -/
theorem chomped_append {before : String} (h : '\r' ∉ before.toList) (line : String) :
    chomped (before ++ line) = before ++ chomped line := by
  have hchomp (s : List Char) (hs : '\r' ∉ s) :
      chomp (s ++ line.toList) = s ++ chomp line.toList := by
    induction s with
    | nil => rfl
    | cons c s ih =>
        rw [List.mem_cons, not_or] at hs
        rw [List.cons_append, chomp_cons (.inl (Ne.symm hs.1)), ih hs.2, List.cons_append]
  rw [chomped, String.toList_append, hchomp _ h, String.ofList_append, String.ofList_toList, chomped]

end TypeStencil.Text
