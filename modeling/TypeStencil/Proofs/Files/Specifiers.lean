import TypeStencil.Proofs.Files.Imports

/-!
Module specifiers that show themselves to be relative. A reader who looks for a dot or two dots in
front of the first slash takes every other specifier for the name of a package. The way up begins
with two dots and a plain name gets a dot in front, but a hidden name already begins with a dot, so
a way down that begins with one is left as it is.
-/
namespace TypeStencil

open Text PathText

namespace PathText

theorem dropCommon_append (start rest : List Segment) :
    dropCommon start (start ++ rest) = ([], rest) := by
  induction start with
  | nil => cases rest <;> rfl
  | cons s more ih => rw [List.cons_append, dropCommon, if_pos rfl, ih]

theorem head?_joinSegments {name : Segment} (h : name ≠ []) (rest : List Segment) :
    (joinSegments (name :: rest)).head? = name.head? := by
  cases rest with
  | nil => rfl
  | cons next more =>
      rw [joinSegments, joinWith_cons_cons, List.append_assoc, List.head?_append_of_ne_nil name h]

end PathText

namespace ObjectReference

/-- The specifier is a dot or two dots, or begins with them and a slash. -/
def IsExplicit (specifier : List Char) : Prop :=
  specifier = ['.'] ∨ specifier = ['.', '.'] ∨
    ['.', '/'] <+: specifier ∨ ['.', '.', '/'] <+: specifier

instance (specifier : List Char) : Decidable (IsExplicit specifier) :=
  inferInstanceAs (Decidable (_ ∨ _ ∨ _ ∨ _))

/-- A place lies below a folder, and the first step down to it has a hidden name. -/
def HiddenBelow (folder place : List Segment) : Prop :=
  ∃ name rest, place = folder ++ name :: rest ∧ name.head? = some '.'

section

variable {s : List Char} {name : Segment} {rest : List Segment}

/-- Only the first segment of a specifier counts. -/
theorem isExplicit_of_segments (h : segments s = name :: rest) :
    IsExplicit s ↔ name = ['.'] ∨ name = parentSegment := by
  constructor
  · intro hs
    have hfirst : (segments s).head? = some name := by rw [h, List.head?_cons]
    rcases hs with rfl | rfl | ⟨t, rfl⟩ | ⟨t, rfl⟩
    · exact .inl (Option.some.inj hfirst).symm
    · exact .inr (Option.some.inj hfirst).symm
    · have hcut : segments (['.', '/'] ++ t) = [['.']] ++ segments t := splitAt_append '/' ['.'] t
      rw [hcut] at hfirst
      exact .inl (Option.some.inj hfirst).symm
    · have hcut : segments (['.', '.', '/'] ++ t) = [parentSegment] ++ segments t :=
        splitAt_append '/' parentSegment t
      rw [hcut] at hfirst
      exact .inr (Option.some.inj hfirst).symm
  · intro hname
    have hjoined : s = joinSegments (name :: rest) := by
      rw [← h]
      exact (joinWith_splitAt '/' s).symm
    subst hjoined
    cases rest with
    | nil => exact hname.imp_right Or.inl
    | cons next more =>
        rw [joinSegments, joinWith_cons_cons]
        rcases hname with rfl | rfl
        · exact .inr (.inr (.inl ⟨joinWith ['/'] (next :: more), rfl⟩))
        · exact .inr (.inr (.inr ⟨joinWith ['/'] (next :: more), rfl⟩))

/-- A path that does not begin with a dot is made explicit, and any other path is left alone. -/
theorem isExplicit_specifier : IsExplicit (specifier s) ↔ IsExplicit s ∨ s.head? ≠ some '.' := by
  rw [specifier]
  by_cases h : s.head? = some '.'
  · rw [if_pos (beq_iff_eq.mpr h)]
    exact ⟨Or.inl, fun hs => hs.resolve_right (not_not_intro h)⟩
  · rw [if_neg (mt beq_iff_eq.mp h)]
    exact iff_of_true (.inr (.inr (.inl ⟨s, rfl⟩))) (.inr h)

/-- A way that only leads down is explicit unless its first name is hidden. -/
theorem isExplicit_specifier_down (hname : IsName name) (hslash : ∀ s ∈ name :: rest, '/' ∉ s) :
    IsExplicit (specifier (joinSegments (name :: rest))) ↔ name.head? ≠ some '.' := by
  have hcut : segments (joinSegments (name :: rest)) = name :: rest :=
    segments_joinSegments (List.cons_ne_nil name rest) hslash
  rw [isExplicit_specifier, isExplicit_of_segments hcut, head?_joinSegments hname.nonempty]
  exact or_iff_right fun hplain => hplain.elim hname.dot hname.parent

end

theorem hiddenBelow_append {folder rest : List Segment} {name : Segment} :
    HiddenBelow folder (folder ++ name :: rest) ↔ name.head? = some '.' := by
  constructor
  · rintro ⟨name', rest', hplace, hhidden⟩
    obtain ⟨rfl, -⟩ := List.cons.inj (List.append_cancel_left hplace)
    exact hhidden
  · exact fun hhidden => ⟨name, rest, rfl, hhidden⟩

theorem not_hiddenBelow_self (folder : List Segment) : ¬ HiddenBelow folder folder := by
  rintro ⟨name, rest, hplace, -⟩
  exact List.cons_ne_nil name rest (List.self_eq_append_right.mp hplace)

/-- The specifier of a target is explicit unless the way to it begins with a step down to a hidden
name. -/
theorem isExplicit_specifier_relative (target start : List Char) :
    IsExplicit (specifier (relative target start)) ↔
      ¬ HiddenBelow (PathText.resolve start) (PathText.resolve target) := by
  have hnames := isName_of_mem_resolve target
  have hslash : ∀ s ∈ route (PathText.resolve start) (PathText.resolve target), '/' ∉ s :=
    slash_not_mem_route hnames
  obtain ⟨common, hstart, htarget⟩ :=
    exists_common (PathText.resolve start) (PathText.resolve target)
  have hdrop := dropCommon_append (PathText.resolve start)
  rw [relative]
  rw [route] at hslash ⊢
  generalize PathText.resolve start = here at *
  generalize PathText.resolve target = there at *
  generalize hparted : dropCommon here there = parted at *
  obtain ⟨up, down⟩ := parted
  dsimp only at hstart htarget hslash ⊢
  -- Only a way without a step up can begin with a name, and then the target lies below.
  cases up with
  | nil =>
      rw [List.append_nil] at hstart
      subst hstart htarget
      cases down with
      | nil =>
          refine iff_of_true (isExplicit_specifier.mpr (.inl (.inl rfl))) ?_
          rw [List.append_nil]
          exact not_hiddenBelow_self here
      | cons name rest =>
          rw [hiddenBelow_append]
          exact isExplicit_specifier_down (hnames name (by simp)) hslash
  | cons u more =>
      have hcut := segments_joinSegments (List.cons_ne_nil _ _) hslash
      have hup := (isExplicit_of_segments hcut).mpr (.inr rfl)
      refine iff_of_true (isExplicit_specifier.mpr (.inl hup)) ?_
      rintro ⟨name, rest, rfl, -⟩
      rw [hdrop] at hparted
      cases hparted

/-- An import line is written with the specifier of the way from its folder. -/
theorem importStatement_eq_ok {r : ObjectReference} {folder line : String}
    (h : r.importStatement (.str folder) = .ok line) :
    ∃ target, joinPaths r.folderPath r.fileName = .ok target ∧
      line = "import \x7b" ++ r.className.text ++ "\x7d from \"" ++
        String.ofList (specifier (relative target.toList folder.toList)) ++ "\";" := by
  rw [importStatement] at h
  obtain ⟨written, hwritten, h⟩ := bind_eq_ok.mp h
  rw [moduleSpecifier] at hwritten
  obtain ⟨target, hjoined, hwritten⟩ := bind_eq_ok.mp hwritten
  refine ⟨target, hjoined, ?_⟩
  split at hwritten
  · cases hwritten
  · obtain rfl := Except.ok.inj hwritten
    exact (Except.ok.inj h).symm

end ObjectReference

open ObjectReference

/-- Every well-known artifact can be imported in every folder, and its specifier is explicit unless
the artifact lies below the folder by way of a hidden name. -/
theorem Config.imports_explicit_iff {c : Config} {output functions interfaces : String}
    (houtput : c.outputDir = .str output) (hfunctions : c.functionFolder = .str functions)
    (hinterfaces : c.interfaceFolder = .str interfaces) (folder : String) :
    ∃ refs, c.references = .ok refs ∧
      refs.map ObjectReference.refKey = WellKnown.all.map WellKnown.refKey ∧
        ∀ r ∈ refs, ∃ written target : String, joinPaths r.folderPath r.fileName = .ok target ∧
          r.importStatement (.str folder) =
            .ok ("import \x7b" ++ r.className.text ++ "\x7d from \"" ++ written ++ "\";") ∧
          (IsExplicit written.toList ↔
            ¬ HiddenBelow (PathText.resolve folder.toList) (PathText.resolve target.toList)) := by
  apply Config.exists_references
  intro w hw
  obtain ⟨r, hresolved, _, _, -, himport, -⟩ :=
    WellKnown.exists_resolve houtput hfunctions hinterfaces folder hw
  obtain ⟨target, hjoined, hline⟩ := importStatement_eq_ok himport
  refine ⟨r, hresolved, _, target, hjoined, himport.trans (congrArg Except.ok hline), ?_⟩
  rw [String.toList_ofList]
  exact isExplicit_specifier_relative target.toList folder.toList

/-- The folder of the functions is hidden, and so is one above it. -/
theorem Config.imports_explicit_above :
    let c : Config :=
      { default with outputDir := .str "/srv/.gen", functionFolder := .str ".internal",
                     interfaceFolder := .str "../api" }
    c.outputDir = .str "/srv/.gen" ∧ c.functionFolder = .str ".internal" ∧
      c.interfaceFolder = .str "../api" ∧
      ∃ refs, c.references = .ok refs ∧
        refs.map ObjectReference.refKey = WellKnown.all.map WellKnown.refKey ∧
          ∀ r ∈ refs, ∃ written target : String, joinPaths r.folderPath r.fileName = .ok target ∧
            r.importStatement (.str "/srv/.gen/class") =
              .ok ("import \x7b" ++ r.className.text ++ "\x7d from \"" ++ written ++ "\";") ∧
            (IsExplicit written.toList ↔ ¬ HiddenBelow (PathText.resolve "/srv/.gen/class".toList)
              (PathText.resolve target.toList)) :=
  ⟨rfl, rfl, rfl, Config.imports_explicit_iff rfl rfl rfl "/srv/.gen/class"⟩

/-- From the folder above it, a hidden folder is written like the name of a package. -/
theorem Config.not_always_explicit :
    let c : Config := { default with functionFolder := .str ".internal" }
    c.outputDir = .str "generated" ∧ ∃ refs, c.references = .ok refs ∧ ∃ r ∈ refs,
      r.importStatement (.str "generated") =
        .ok "import \x7bhttp\x7d from \".internal/http\";" ∧
      ¬ IsExplicit ".internal/http".toList := by
  intro c
  have hrefs : c.references = .ok _ := rfl
  exact ⟨rfl, _, hrefs, _, List.mem_cons_self, rfl, by decide⟩

end TypeStencil
