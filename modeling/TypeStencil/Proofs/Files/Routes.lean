import TypeStencil.Proofs.Files.Resolution
import TypeStencil.Proofs.Text.Pieces

/-!
Relative paths. The way from one place to another goes up to where the two part and then down, and
whoever follows it from the first place arrives at the second, however the two places were written.
-/
namespace TypeStencil

namespace PathText

open Text

/-- A segment that leads down. -/
structure IsName (s : Segment) : Prop where
  nonempty : s ≠ []
  dot : s ≠ ['.']
  parent : s ≠ parentSegment
  slash : '/' ∉ s

section

variable {s : Segment} {above down segs start target : List Segment} {text : List Char}

theorem enter_name (h : IsName s) (above : List Segment) : enter above s = s :: above := by
  rw [enter, if_neg (not_or.mpr ⟨h.nonempty, h.dot⟩), if_neg h.parent]

theorem enter_dot (above : List Segment) : enter above ['.'] = above := rfl

theorem enter_parent (above : List Segment) : enter above parentSegment = above.drop 1 := rfl

theorem foldl_enter_names (h : ∀ s ∈ down, IsName s) (above : List Segment) :
    down.foldl enter above = down.reverse ++ above := by
  induction down generalizing above with
  | nil => rfl
  | cons s rest ih =>
      obtain ⟨hs, hrest⟩ := List.forall_mem_cons.mp h
      rw [List.foldl_cons, enter_name hs, ih hrest, List.reverse_cons, List.append_assoc]
      rfl

theorem foldl_enter_parents (up above : List Segment) :
    (up.map fun _ => parentSegment).foldl enter above = above.drop up.length := by
  induction up generalizing above with
  | nil => rfl
  | cons s rest ih =>
      rw [List.map_cons, List.foldl_cons, enter_parent, ih, List.drop_drop, List.length_cons,
        Nat.add_comm]

/-- Two lists are what they have in common and what is left of them. -/
theorem exists_common (start target : List Segment) : ∃ common,
    start = common ++ (dropCommon start target).1 ∧
      target = common ++ (dropCommon start target).2 := by
  fun_induction dropCommon start target with
  | case1 as b bs ih =>
      obtain ⟨common, hstart, htarget⟩ := ih
      exact ⟨b :: common, congrArg (b :: ·) hstart, congrArg (b :: ·) htarget⟩
  | case2 => exact ⟨[], rfl, rfl⟩
  | case3 => exact ⟨[], rfl, rfl⟩

/-- The way from one place to another leads there. -/
theorem foldl_enter_route (start : List Segment) (h : ∀ s ∈ target, IsName s) :
    (route start target).foldl enter start.reverse = target.reverse := by
  obtain ⟨common, hstart, htarget⟩ := exists_common start target
  rw [route]
  generalize dropCommon start target = parted at hstart htarget
  obtain ⟨up, down⟩ := parted
  dsimp only at hstart htarget ⊢
  subst hstart htarget
  have hdown : ∀ s ∈ down, IsName s := fun s hs => h s (List.mem_append_right _ hs)
  rw [List.foldl_append, foldl_enter_parents, List.reverse_append, ← List.length_reverse,
    List.drop_left, foldl_enter_names hdown, List.reverse_append]

theorem isName_of_mem_foldl (hsegs : ∀ s ∈ segs, '/' ∉ s) (habove : ∀ s ∈ above, IsName s) :
    ∀ s ∈ segs.foldl enter above, IsName s := by
  induction segs generalizing above with
  | nil => exact habove
  | cons s rest ih =>
      obtain ⟨hs, hrest⟩ := List.forall_mem_cons.mp hsegs
      rw [List.foldl_cons]
      refine ih hrest ?_
      rw [enter]
      split
      · exact habove
      · next hplain =>
          split
          · exact fun t ht => habove t (List.mem_of_mem_drop ht)
          · next hparent =>
              rw [not_or] at hplain
              exact List.forall_mem_cons.mpr ⟨⟨hplain.1, hplain.2, hparent, hs⟩, habove⟩

theorem slash_not_mem_segments (text : List Char) : ∀ s ∈ segments text, '/' ∉ s :=
  fun _ hs hmem => (mem_of_mem_piece hs hmem).2 rfl

/-- The segments of a place lead down. -/
theorem isName_of_mem_resolve (text : List Char) : ∀ s ∈ resolve text, IsName s := by
  intro s hs
  rw [resolve, List.mem_reverse] at hs
  exact isName_of_mem_foldl (slash_not_mem_segments text) (List.forall_mem_nil _) s hs

theorem segments_joinSegments (hne : segs ≠ []) (h : ∀ s ∈ segs, '/' ∉ s) :
    segments (joinSegments segs) = segs :=
  splitAt_joinWith_of_not_mem hne h

theorem slash_not_mem_route (htarget : ∀ s ∈ target, IsName s) :
    ∀ s ∈ route start target, '/' ∉ s := by
  obtain ⟨common, -, hsplit⟩ := exists_common start target
  rw [route]
  refine List.forall_mem_append.mpr ⟨fun s hs => ?_, fun s hs => ?_⟩
  · obtain ⟨_, -, rfl⟩ := List.mem_map.mp hs
    decide
  · exact (htarget s (hsplit ▸ List.mem_append_right common hs)).slash

/-- A relative path leads to its target when it is followed from where it starts. -/
theorem foldl_enter_relative (target start : List Char) :
    (segments (relative target start)).foldl enter (resolve start).reverse =
      (resolve target).reverse := by
  have hnames := isName_of_mem_resolve target
  have hroute := foldl_enter_route (resolve start) hnames
  rw [relative]
  split
  · next hnil =>
      rw [hnil] at hroute
      exact hroute
  · next hsome =>
      have hne : route (resolve start) (resolve target) ≠ [] := hsome
      rw [segments_joinSegments hne (slash_not_mem_route hnames), hroute]

end

end PathText

namespace FilePath

open PathText

/-- One segment further, with the last segment last or first. -/
theorem enter_ofList (segment : Segment) (above : List Segment) (hempty : segment ≠ [])
    (hdot : segment ≠ ['.']) :
    enter (above.reverse.map String.ofList) (String.ofList segment) =
      (PathText.enter above segment).reverse.map String.ofList := by
  rw [enter, PathText.enter, if_neg (not_or.mpr ⟨hempty, hdot⟩)]
  by_cases hparent : segment = parentSegment
  · have hparent' : String.ofList segment = ".." := congrArg String.ofList hparent
    rw [if_pos hparent', if_pos hparent, ← List.map_dropLast, List.dropLast_reverse,
      List.drop_one]
  · have hparent' : String.ofList segment ≠ ".." := fun h => hparent (String.ofList_injective h)
    rw [if_neg hparent', if_neg hparent, List.reverse_cons, List.map_append]
    rfl

/-- Following the segments of a path, whether they are read off its text or off the path itself. -/
theorem foldl_enter_ofString (s : String) (above : List Segment) :
    (ofString s).segments.foldl enter (above.reverse.map String.ofList) =
      ((PathText.segments s.toList).foldl PathText.enter above).reverse.map String.ofList := by
  simp only [ofString]
  generalize PathText.segments s.toList = segments
  induction segments generalizing above with
  | nil => rfl
  | cons segment rest ih =>
      rw [List.foldl_cons, ← ih]
      by_cases hplain : segment = [] ∨ segment = ['.']
      · -- left out of the path, and of no effect in its text
        rw [PathText.enter, if_pos hplain]
        rcases hplain with rfl | rfl <;> rfl
      · obtain ⟨hempty, hdot⟩ := not_or.mp hplain
        have hkept : (segment != [] && segment != ['.']) = true := by simp [hempty, hdot]
        rw [← enter_ofList segment above hempty hdot, List.filter_cons, if_pos hkept,
          List.map_cons, List.foldl_cons]

/-- The place of a path from the root. -/
theorem resolve_ofString (s : String) :
    (ofString s).resolve [] = (PathText.resolve s.toList).map String.ofList := by
  have hstart : (ofString s).start [] = [] := ite_self _
  rw [resolve, hstart, PathText.resolve]
  exact foldl_enter_ofString s []

end FilePath

end TypeStencil
