import TypeStencil.Files.FileSystem

/-!
Where paths lead. The segments of a path are followed from a directory, two dots leading to the
directory above, whether or not anything stands on the way.
-/
namespace TypeStencil.FilePath

/-- Goes on from a place by one segment. -/
def enter (l : Location) (s : String) : Location :=
  if s = ".." then l.dropLast else l ++ [s]

/-- Where relative paths begin, and where all others do. -/
def start (current : Location) (p : FilePath) : Location :=
  if p.root = .relative then current else []

/-- The place of a path with its detours taken out. -/
def resolve (current : Location) (p : FilePath) : Location :=
  p.segments.foldl enter (p.start current)

theorem resolve_snoc (current : Location) (root : PathRoot) (segments : List String) (s : String) :
    resolve current ⟨root, segments ++ [s]⟩ = enter (resolve current ⟨root, segments⟩) s := by
  rw [resolve, List.foldl_append]
  rfl

/-- A name that is no detour is the last segment of the place. -/
theorem getLast?_resolve {p : FilePath} {name : String} (h : p.segments.getLast? = some name)
    (hname : name ≠ "..") (current : Location) :
    (p.resolve current).getLast? = some name := by
  obtain ⟨root, segments⟩ := p
  obtain ⟨front, rfl⟩ := List.getLast?_eq_some_iff.mp h
  rw [resolve_snoc, enter, if_neg hname, List.getLast?_concat]

/-- A text that does not start with a slash is a relative path. -/
theorem root_ofString {s : String} (h : s.toList.head? ≠ some '/') :
    (ofString s).root = .relative := by
  unfold ofString
  split
  · next heq => exact absurd (congrArg List.head? heq) h
  · next heq => exact absurd (congrArg List.head? heq) h
  · next heq => exact absurd (congrArg List.head? heq) h
  · rfl

/-- A text without a slash that is neither empty nor a dot is the name of something below. -/
theorem ofString_name {name : String} (hslash : '/' ∉ name.toList) (hempty : name ≠ "")
    (hdot : name ≠ ".") : ofString name = ⟨.relative, [name]⟩ := by
  have hroot : (ofString name).root = .relative :=
    root_ofString fun h => hslash (List.mem_of_head? h)
  have hne : name.toList ≠ [] := fun h => hempty (String.toList_eq_nil_iff.mp h)
  have hne' : name.toList ≠ ['.'] := fun h => hdot (String.toList_injective h)
  have hsegments : (ofString name).segments = [name] := by
    simp only [ofString, PathText.segments, Text.splitAt_of_not_mem hslash]
    simp [hne, hne']
  rw [← hroot, ← hsegments]

/-- A name behind a path. -/
theorem join_name (p : FilePath) (name : String) :
    p.join ⟨.relative, [name]⟩ = ⟨p.root, p.segments ++ [name]⟩ := rfl

end TypeStencil.FilePath
