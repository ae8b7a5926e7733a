import Mathlib.Data.List.Basic
import TypeStencil.Proofs.Files.Resolution
import TypeStencil.Proofs.Sequencing

/-!
Making directories and writing files. Directories are made where nothing stands, and files are
written where no directory stands, so that a place that has been reached stays within reach; all
other places stay as they are.
-/
namespace TypeStencil.FileSystem

/-- A file system after directories have been made at some places and files written at others. -/
structure Changes (made written : Location → Prop) (fs fs' : FileSystem) : Prop where
  current : fs'.current = fs.current
  node : ∀ l, fs'.node? l = fs.node? l ∨
    (made l ∧ fs.node? l = none ∧ fs'.node? l = some .directory) ∨
    (written l ∧ fs.node? l ≠ some .directory ∧ ∃ content, fs'.node? l = some (.file content))

namespace Changes

variable {made written made' written' : Location → Prop} {fs fs' fs'' : FileSystem}

theorem refl (made written : Location → Prop) (fs : FileSystem) : Changes made written fs fs :=
  ⟨rfl, fun _ => .inl rfl⟩

/-- What is made is not made again, and what is written is not made. -/
theorem trans (h : Changes made written fs fs') (h' : Changes made written fs' fs'') :
    Changes made written fs fs'' := by
  refine ⟨h'.current.trans h.current, fun l => ?_⟩
  rcases h.node l with hl | ⟨hmade, hnone, hdirectory⟩ | ⟨hwritten, hne, content, hfile⟩
  · rw [← hl]
    exact h'.node l
  · rcases h'.node l with hl' | ⟨-, hnone', -⟩ | ⟨-, hne', -⟩
    · exact .inr (.inl ⟨hmade, hnone, hl'.trans hdirectory⟩)
    · rw [hdirectory] at hnone'
      cases hnone'
    · exact absurd hdirectory hne'
  · rcases h'.node l with hl' | ⟨-, hnone', -⟩ | ⟨-, -, hfile'⟩
    · exact .inr (.inr ⟨hwritten, hne, content, hl'.trans hfile⟩)
    · rw [hfile] at hnone'
      cases hnone'
    · exact .inr (.inr ⟨hwritten, hne, hfile'⟩)

theorem mono (hmade : ∀ l, made l → made' l) (hwritten : ∀ l, written l → written' l)
    (h : Changes made written fs fs') : Changes made' written' fs fs' :=
  ⟨h.current, fun l => (h.node l).imp_right (Or.imp (And.imp_left (hmade l))
    (And.imp_left (hwritten l)))⟩

theorem directory_stays (h : Changes made written fs fs') {l : Location}
    (hl : fs.node? l = some .directory) : fs'.node? l = some .directory := by
  rcases h.node l with heq | ⟨-, -, hdirectory⟩ | ⟨-, hne, -⟩
  · rw [heq, hl]
  · exact hdirectory
  · exact absurd hl hne

/-- A file at a place that is not written to stays as it is. -/
theorem file_stays (h : Changes made written fs fs') {l : Location} {content : List UInt8}
    (hl : fs.node? l = some (.file content)) (hwritten : ¬ written l) :
    fs'.node? l = some (.file content) := by
  rcases h.node l with heq | ⟨-, hnone, -⟩ | ⟨hw, -⟩
  · rw [heq, hl]
  · rw [hl] at hnone
    cases hnone
  · exact absurd hw hwritten

end Changes

section

variable {fs fs' : FileSystem} {p : FilePath} {l place : Location} {node : FileNode}

theorem walk_cons {s : String} {rest : List String} : fs.walk l (s :: rest) = .ok place ↔
    fs.node? l = some .directory ∧ ¬ longestName < s.utf8ByteSize ∧
      fs.walk (FilePath.enter l s) rest = .ok place := by
  rw [walk, FilePath.enter]
  cases fs.node? l with
  | none => simp
  | some node =>
      cases node with
      | file content => simp
      | directory =>
          dsimp only
          split <;> simp [*]

/-- Where the segments of a path can be followed, they lead to its place. -/
theorem eq_of_walk {segments : List String} (h : fs.walk l segments = .ok place) :
    place = segments.foldl FilePath.enter l := by
  induction segments generalizing l with
  | nil => exact (Except.ok.inj h).symm
  | cons s rest ih => exact ih (walk_cons.mp h).2.2

theorem locate_eq_ok : fs.locate p = .ok place ↔
    '\x00' ∉ p.text.toList ∧ ¬ longestPath < p.text.utf8ByteSize ∧
      fs.walk (p.start fs.current) p.segments = .ok place := by
  rw [locate, FilePath.start]
  split
  · next hnull => simp [List.contains_iff_mem.mp hnull]
  · next hnull =>
      have hnull : '\x00' ∉ p.text.toList := fun hmem => hnull (List.contains_iff_mem.mpr hmem)
      split
      · next hlong => simp [hlong]
      · next hlong => simp [hnull, hlong, mapError_eq_ok]

theorem eq_of_locate (h : fs.locate p = .ok place) : place = p.resolve fs.current :=
  eq_of_walk (locate_eq_ok.mp h).2.2

variable {made written : Location → Prop}

theorem Changes.walk (h : Changes made written fs fs') {segments : List String}
    (hwalk : fs.walk l segments = .ok place) : fs'.walk l segments = .ok place := by
  induction segments generalizing l with
  | nil => exact hwalk
  | cons s rest ih =>
      obtain ⟨hdirectory, hname, hrest⟩ := walk_cons.mp hwalk
      exact walk_cons.mpr ⟨h.directory_stays hdirectory, hname, ih hrest⟩

theorem Changes.locate (h : Changes made written fs fs') (hp : fs.locate p = .ok place) :
    fs'.locate p = .ok place := by
  rw [locate_eq_ok] at hp ⊢
  rw [h.current]
  exact ⟨hp.1, hp.2.1, h.walk hp.2.2⟩

theorem node?_setNode_self (hl : l ≠ []) : (fs.setNode l node).node? l = some node := by
  rw [node?, if_neg hl, setNode, List.lookup_cons_self]

theorem node?_setNode_of_ne {l' : Location} (hl : l' ≠ l) :
    (fs.setNode l node).node? l' = fs.node? l' := by
  have hlookup : (fs.nodes.filter fun e => e.1 ≠ l).lookup l' = fs.nodes.lookup l' := by
    induction fs.nodes with
    | nil => rfl
    | cons e rest ih =>
        by_cases he : e.1 = l
        · have hne : (l' == e.1) = false := beq_eq_false_iff_ne.mpr fun h => hl (h.trans he)
          rw [List.filter_cons_of_neg (by simpa using he), ih, List.lookup_cons, hne]
        · rw [List.filter_cons_of_pos (by simpa using he), List.lookup_cons, List.lookup_cons, ih]
  unfold node? setNode
  rw [List.lookup_cons, beq_eq_false_iff_ne.mpr hl]
  dsimp only
  rw [hlookup]

end

section

variable {fs fs' : FileSystem} {p : FilePath}

/-- A directory is made where nothing stands. -/
theorem changes_of_makeDirectory (h : fs.makeDirectory p = .ok fs') :
    Changes (· = p.resolve fs.current) (fun _ => False) fs fs' := by
  obtain ⟨place, hplace, h⟩ := bind_eq_ok.mp h
  have hnone : fs.node? place = none := by
    cases hnode : fs.node? place with
    | none => rfl
    | some node =>
        rw [hnode] at h
        cases h
  rw [hnone] at h
  obtain rfl := Except.ok.inj h
  have hne : place ≠ [] := by
    rintro rfl
    cases hnone
  refine ⟨rfl, fun l => ?_⟩
  by_cases hl : l = place
  · rw [hl, node?_setNode_self hne]
    exact .inr (.inl ⟨eq_of_locate hplace, hnone, rfl⟩)
  · exact .inl (node?_setNode_of_ne hl)

/-- The places on the way of a path, its own place included. -/
def Along (current : Location) (p : FilePath) (l : Location) : Prop :=
  ∃ front, front <+: p.segments ∧ l = FilePath.resolve current ⟨p.root, front⟩

theorem along_self (current : Location) (p : FilePath) : Along current p (p.resolve current) :=
  ⟨p.segments, List.prefix_refl _, rfl⟩

theorem Along.of_parent {current l : Location} (h : Along current p.parent l) :
    Along current p l := by
  obtain ⟨front, hfront, rfl⟩ := h
  exact ⟨front, hfront.trans (List.dropLast_prefix _), rfl⟩

theorem changes_ensureDirectory (fs : FileSystem) (p : FilePath) :
    Changes (Along fs.current p) (fun _ => False) fs (fs.ensureDirectory p).1 := by
  unfold ensureDirectory
  split
  · next h =>
      refine (changes_of_makeDirectory h).mono ?_ fun _ => id
      rintro l rfl
      exact along_self _ _
  · exact .refl _ _ _

/-- Directories are made along the path and nowhere else, also where it fails. -/
theorem changes_ensureWithin (depth : Nat) :
    Changes (Along fs.current p) (fun _ => False) fs (fs.ensureWithin p depth).1 := by
  induction depth generalizing p with
  | zero => exact changes_ensureDirectory fs p
  | succ depth ih =>
      have hparent := (ih (p := p.parent)).mono (fun _ => Along.of_parent) fun _ => id
      rw [ensureWithin]
      split
      · split
        · next files heq =>
            rw [heq] at hparent
            exact hparent.trans (hparent.current ▸ changes_ensureDirectory files p)
        · next files f heq =>
            rw [heq] at hparent
            exact hparent
      · exact changes_ensureDirectory fs p

theorem changes_ensureDirectories :
    Changes (Along fs.current p) (fun _ => False) fs (fs.ensureDirectories p).1 :=
  changes_ensureWithin _

/-- A written file stands at the place of its path. -/
theorem changes_of_write {content : List UInt8} (h : fs.write p content = .ok fs') :
    Changes (fun _ => False) (· = p.resolve fs.current) fs fs' ∧
      fs.locate p = .ok (p.resolve fs.current) ∧
      fs'.node? (p.resolve fs.current) = some (.file content) := by
  obtain ⟨place, hplace, h⟩ := bind_eq_ok.mp h
  obtain rfl := eq_of_locate hplace
  have hset : fs.node? (p.resolve fs.current) ≠ some .directory ∧
      fs' = fs.setNode (p.resolve fs.current) (.file content) := by
    cases hnode : fs.node? (p.resolve fs.current) with
    | none =>
        rw [hnode] at h
        dsimp only at h
        split at h
        · exact ⟨by simp, (Except.ok.inj h).symm⟩
        · cases h
    | some node =>
        rw [hnode] at h
        cases node with
        | directory => cases h
        | file old => exact ⟨by simp, (Except.ok.inj h).symm⟩
  obtain ⟨hne, rfl⟩ := hset
  have hroot : p.resolve fs.current ≠ [] := by
    intro hroot
    rw [hroot] at hne
    exact hne rfl
  have hself : (fs.setNode _ (.file content)).node? _ = some (.file content) :=
    node?_setNode_self hroot
  refine ⟨⟨rfl, fun l => ?_⟩, hplace, hself⟩
  by_cases hl : l = p.resolve fs.current
  · rw [hl]
    exact .inr (.inr ⟨rfl, hne, content, hself⟩)
  · exact .inl (node?_setNode_of_ne hl)

theorem read_eq_ok {content : List UInt8} : fs.read p = .ok content ↔
    ∃ l, fs.locate p = .ok l ∧ fs.node? l = some (.file content) := by
  simp only [read, bind_eq_ok]
  constructor
  · rintro ⟨l, hl, h⟩
    refine ⟨l, hl, ?_⟩
    cases hnode : fs.node? l with
    | none =>
        rw [hnode] at h
        cases h
    | some node =>
        rw [hnode] at h
        cases node with
        | directory => cases h
        | file found =>
            obtain rfl := Except.ok.inj h
            rfl
  · rintro ⟨l, hl, hnode⟩
    refine ⟨l, hl, ?_⟩
    rw [hnode]
    rfl

end

end TypeStencil.FileSystem
