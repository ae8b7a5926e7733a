import Mathlib.Data.List.Basic
import TypeStencil.Text.Lines

/-!
Pieces of texts. A text that is joined of others is cut into their pieces; of the pieces of a text,
those that are not empty do not depend on how many marks stand between them.
-/
namespace TypeStencil.Text

section

variable {mark c : Char} {s piece : List Char} {ws : List (List Char)}

theorem splitAt_mark (mark : Char) (s : List Char) :
    splitAt mark (mark :: s) = [] :: splitAt mark s :=
  if_pos rfl

theorem splitAt_cons (h : c ≠ mark) (s : List Char) :
    splitAt mark (c :: s) = consFirst c (splitAt mark s) :=
  if_neg h

theorem consFirst_append (h : ws ≠ []) (c : Char) (more : List (List Char)) :
    consFirst c (ws ++ more) = consFirst c ws ++ more := by
  cases ws with
  | nil => exact absurd rfl h
  | cons w rest => rfl

/-- A text is cut at every mark, so that the pieces on its two sides are found by themselves. -/
theorem splitAt_append (mark : Char) (s t : List Char) :
    splitAt mark (s ++ mark :: t) = splitAt mark s ++ splitAt mark t := by
  induction s with
  | nil => exact splitAt_mark mark t
  | cons c r ih =>
      by_cases h : c = mark
      · rw [h, List.cons_append, splitAt_mark, splitAt_mark, ih]
        rfl
      · rw [List.cons_append, splitAt_cons h, splitAt_cons h, ih,
          consFirst_append (splitAt_ne_nil mark r)]

/-- The pieces of a text have its characters other than the mark. -/
theorem mem_of_mem_piece (hpiece : piece ∈ splitAt mark s) (hc : c ∈ piece) :
    c ∈ s ∧ c ≠ mark := by
  induction s generalizing piece with
  | nil =>
      obtain rfl := List.mem_singleton.mp hpiece
      cases hc
  | cons a r ih =>
      rw [splitAt] at hpiece
      split at hpiece
      · rcases List.mem_cons.mp hpiece with rfl | hpiece
        · cases hc
        · exact (ih hpiece hc).imp_left (List.mem_cons_of_mem a)
      · next ha =>
          cases hpieces : splitAt mark r with
          | nil => exact absurd hpieces (splitAt_ne_nil _ _)
          | cons first more =>
              rw [hpieces] at hpiece ih
              rcases List.mem_cons.mp hpiece with rfl | hpiece
              · rcases List.mem_cons.mp hc with rfl | hc
                · exact ⟨List.mem_cons_self, ha⟩
                · exact (ih List.mem_cons_self hc).imp_left (List.mem_cons_of_mem a)
              · exact (ih (List.mem_cons_of_mem _ hpiece) hc).imp_left (List.mem_cons_of_mem a)

theorem joinWith_cons_cons (mark v w : List Char) (ws : List (List Char)) :
    joinWith mark (v :: w :: ws) = v ++ mark ++ joinWith mark (w :: ws) := rfl

theorem splitAt_joinWith (h : ws ≠ []) (mark : Char) :
    splitAt mark (joinWith [mark] ws) = ws.flatMap (splitAt mark) := by
  induction ws with
  | nil => exact absurd rfl h
  | cons w rest ih =>
      cases rest with
      | nil => exact (List.append_nil _).symm
      | cons v more =>
          rw [joinWith_cons_cons, List.append_assoc, List.singleton_append, splitAt_append,
            ih (List.cons_ne_nil v more), List.flatMap_cons (x := w)]

/-- Texts without the mark are the pieces of what is joined of them. -/
theorem splitAt_joinWith_of_not_mem (h : ws ≠ []) (hws : ∀ w ∈ ws, mark ∉ w) :
    splitAt mark (joinWith [mark] ws) = ws := by
  rw [splitAt_joinWith h, List.flatMap_congr fun w hw => splitAt_of_not_mem (hws w hw),
    List.flatMap_singleton']

theorem joinWith_map (f : Char → Char) (mark : List Char) (ws : List (List Char)) :
    (joinWith mark ws).map f = joinWith (mark.map f) (ws.map (List.map f)) := by
  induction ws with
  | nil => rfl
  | cons w rest ih =>
      cases rest with
      | nil => rfl
      | cons v more =>
          rw [joinWith_cons_cons, List.map_append, List.map_append, ih]
          rfl

theorem mem_joinWith {mark : List Char} (h : c ∈ joinWith mark ws) :
    c ∈ mark ∨ ∃ w ∈ ws, c ∈ w := by
  induction ws with
  | nil => cases h
  | cons w rest ih =>
      cases rest with
      | nil => exact .inr ⟨w, List.mem_cons_self, h⟩
      | cons v more =>
          rw [joinWith_cons_cons, List.append_assoc, List.mem_append, List.mem_append] at h
          rcases h with hw | hmark | hmore
          · exact .inr ⟨w, List.mem_cons_self, hw⟩
          · exact .inl hmark
          · exact (ih hmore).imp_right fun ⟨u, hu, hc⟩ => ⟨u, List.mem_cons_of_mem w hu, hc⟩

theorem joinWith_append_singleton (h : ws ≠ []) (mark w : List Char) :
    joinWith mark (ws ++ [w]) = joinWith mark ws ++ mark ++ w := by
  induction ws with
  | nil => exact absurd rfl h
  | cons v rest ih =>
      cases rest with
      | nil => rfl
      | cons u more =>
          rw [List.cons_append, List.cons_append, joinWith_cons_cons, ← List.cons_append,
            ih (List.cons_ne_nil u more), joinWith_cons_cons]
          simp only [List.append_assoc]

/-- A change of characters that leaves the mark alone changes the pieces. -/
theorem splitAt_map {f : Char → Char} (hf : ∀ c, f c = mark ↔ c = mark) (s : List Char) :
    splitAt mark (s.map f) = (splitAt mark s).map (List.map f) := by
  induction s with
  | nil => rfl
  | cons c r ih =>
      by_cases h : c = mark
      · rw [List.map_cons, h, (hf mark).mpr rfl, splitAt_mark, splitAt_mark, ih]
        rfl
      · rw [List.map_cons, splitAt_cons (mt (hf c).mp h), splitAt_cons h, ih]
        cases splitAt mark r <;> rfl

end

/-- The pieces of a text that are not empty. -/
def pieces (mark : Char) (s : List Char) : List (List Char) :=
  (splitAt mark s).filter (!·.isEmpty)

section

variable {mark : Char}

theorem pieces_append (mark : Char) (s t : List Char) :
    pieces mark (s ++ mark :: t) = pieces mark s ++ pieces mark t := by
  rw [pieces, splitAt_append, List.filter_append, pieces, pieces]

theorem pieces_mark (mark : Char) (s : List Char) : pieces mark (mark :: s) = pieces mark s :=
  pieces_append mark [] s

theorem pieces_append_mark (mark : Char) (s : List Char) :
    pieces mark (s ++ [mark]) = pieces mark s := by
  rw [pieces_append, show pieces mark [] = [] from rfl, List.append_nil]

theorem pieces_map {f : Char → Char} (hf : ∀ c, f c = mark ↔ c = mark) (s : List Char) :
    pieces mark (s.map f) = (pieces mark s).map (List.map f) := by
  rw [pieces, splitAt_map hf, List.filter_map, pieces]
  refine congrArg _ (List.filter_congr fun w _ => ?_)
  cases w <;> rfl

theorem pieces_eq_splitAt {s : List Char} (h : ∀ w ∈ splitAt mark s, w ≠ []) :
    pieces mark s = splitAt mark s := by
  refine List.filter_eq_self.mpr fun w hw => ?_
  cases w with
  | nil => exact absurd rfl (h [] hw)
  | cons => rfl

end

end TypeStencil.Text
