import Mathlib.Data.List.TakeDrop
import Mathlib.Data.List.TakeWhile
import TypeStencil.Proofs.Text.Patterns
import TypeStencil.Template.Filter

/-!
Placeholders of routes. In a template literal a name between braces needs a dollar sign in front of
it. The filter for routes writes one for every placeholder, which it finds from left to right as the
matches of a pattern, and writes nothing else.
-/
namespace TypeStencil.Template

open Text

/-- An opening brace, characters other than a closing one, and the closing brace. -/
def placeholders : Pattern :=
  ⟨.one (· == '\x7b'), [.many (· != '\x7d'), .one (· == '\x7d')]⟩

/-- A part of a route. Only an opening brace can begin a placeholder, and only a closing one can end
its name. -/
inductive RoutePart where
  | literal (text : List Char) (unopened : '\x7b' ∉ text)
  | placeholder (name : List Char) (nonempty : name ≠ []) (unclosed : '\x7d' ∉ name)

namespace RoutePart

/-- The part as it stands in a route. -/
def written : RoutePart → List Char
  | literal text _ => text
  | placeholder name _ _ => '\x7b' :: (name ++ ['\x7d'])

/-- The part as it stands in a template literal. -/
def templated : RoutePart → List Char
  | literal text _ => text
  | placeholder name _ _ => '$' :: '\x7b' :: (name ++ ['\x7d'])

end RoutePart

namespace Filter

section

variable {c : Char} {name r rest s text : List Char}

theorem placeholder?_closed (hne : name ≠ []) (hname : '\x7d' ∉ name) (rest : List Char) :
    placeholder? ('\x7b' :: (name ++ '\x7d' :: rest)) = some (name, rest) := by
  obtain ⟨c, w, rfl⟩ := List.exists_cons_of_ne_nil hne
  have hkept : ∀ d ∈ c :: w, (d != '\x7d') = true := by
    intro d hd
    refine bne_iff_ne.mpr ?_
    rintro rfl
    exact hname hd
  have hspan : (c :: w ++ '\x7d' :: rest).span (· != '\x7d') = (c :: w, '\x7d' :: rest) := by
    rw [List.span_eq_takeWhile_dropWhile, List.takeWhile_append_of_pos hkept,
      List.dropWhile_append_of_pos hkept]
    simp
  rw [List.cons_append, placeholder?, if_neg (Ne.symm (List.ne_of_not_mem_cons hname)),
    ← List.cons_append, hspan]

/-- What is found as a placeholder stands in front of the text, and closes at the first chance. -/
theorem placeholder?_eq_some : placeholder? s = some (name, rest) ↔
    s = '\x7b' :: (name ++ '\x7d' :: rest) ∧ name ≠ [] ∧ '\x7d' ∉ name := by
  constructor
  · intro h
    unfold placeholder? at h
    split at h
    · next c r =>
        split at h
        · cases h
        · next hc =>
            have hfirst : (c != '\x7d') = true := bne_iff_ne.mpr hc
            rw [List.span_eq_takeWhile_dropWhile] at h
            cases hrest : (c :: r).dropWhile (· != '\x7d') with
            | nil =>
                rw [hrest] at h
                cases h
            | cons d more =>
                rw [hrest] at h
                obtain ⟨rfl, rfl⟩ := Prod.mk.inj (Option.some.inj h)
                obtain rfl : d = '\x7d' := by
                  have hhead := List.head?_dropWhile_not (· != '\x7d') (c :: r)
                  simpa [hrest] using hhead
                refine ⟨?_, ?_, fun hmem => ?_⟩
                · rw [← hrest, List.takeWhile_append_dropWhile]
                · rw [List.takeWhile_cons_of_pos (p := (· != '\x7d')) hfirst]
                  exact List.cons_ne_nil _ _
                · have hkept := List.mem_takeWhile_imp (p := (· != '\x7d')) hmem
                  exact bne_iff_ne.mp hkept rfl
    · cases h
  · rintro ⟨rfl, hne, hname⟩
    exact placeholder?_closed hne hname rest

theorem pathTemplateFrom_append (w rest : List Char) :
    pathTemplateFrom (w ++ rest) w.length = w ++ pathTemplateText rest := by
  induction w with
  | nil => rfl
  | cons c w ih => rw [List.cons_append, List.length_cons, pathTemplateFrom, ih, List.cons_append]

/-- A placeholder is written with a dollar sign, and what is in it is not looked at again. -/
theorem pathTemplateText_of_some (h : placeholder? s = some (name, rest)) :
    pathTemplateText s = '$' :: '\x7b' :: (name ++ '\x7d' :: pathTemplateText rest) := by
  have hskip := pathTemplateFrom_append (name ++ ['\x7d']) rest
  rw [List.length_append, List.length_singleton, List.append_assoc, List.append_assoc,
    List.singleton_append, List.singleton_append] at hskip
  obtain ⟨rfl, -, -⟩ := placeholder?_eq_some.mp h
  rw [pathTemplateText, pathTemplateFrom, h]
  exact congrArg ('$' :: '\x7b' :: ·) hskip

theorem pathTemplateText_of_none (h : placeholder? (c :: r) = none) :
    pathTemplateText (c :: r) = c :: pathTemplateText r := by
  rw [pathTemplateText, pathTemplateFrom, h, pathTemplateText]

/-- The filter writes a dollar sign in front of every match of the pattern. -/
theorem substitute_placeholders (s : List Char) :
    placeholders.substitute (fun texts => '$' :: texts.flatten) s = pathTemplateText s := by
  refine Pattern.substitute_eq rfl (fun {c r texts rest} h => ?_) (fun {c r} h => ?_) s
  · obtain ⟨hflat, hfits⟩ := fits_of_matchParts h
    obtain ⟨_, _, ⟨o, ho, rfl⟩, hname, rfl⟩ := List.forall₂_cons_left_iff.mp hfits
    obtain ⟨name, _, hmany, hclosing, rfl⟩ := List.forall₂_cons_left_iff.mp hname
    obtain ⟨_, _, ⟨e, he, rfl⟩, hnil, rfl⟩ := List.forall₂_cons_left_iff.mp hclosing
    obtain rfl := List.forall₂_nil_left_iff.mp hnil
    obtain rfl := eq_of_beq ho
    obtain rfl := eq_of_beq he
    have hunclosed : '\x7d' ∉ name := fun hmem => absurd (hmany.2 _ hmem) (by simp)
    have hfound := placeholder?_closed hmany.1 hunclosed rest
    rw [← hflat]
    simpa using pathTemplateText_of_some hfound
  · refine pathTemplateText_of_none (Option.eq_none_iff_forall_ne_some.mpr ?_)
    rintro ⟨name, rest⟩ hfound
    obtain ⟨heq, hne, hname⟩ := placeholder?_eq_some.mp hfound
    have hfits : List.Forall₂ PatternPart.Fits (placeholders.first :: placeholders.others)
        [['\x7b'], name, ['\x7d']] := by
      refine .cons ⟨_, rfl, rfl⟩ (.cons ⟨hne, fun d hd => bne_iff_ne.mpr ?_⟩
        (.cons ⟨_, rfl, rfl⟩ .nil))
      rintro rfl
      exact hname hd
    have hsome := isSome_matchParts hfits rest
    rw [show [['\x7b'], name, ['\x7d']].flatten ++ rest = c :: r by simp [heq]] at hsome
    rw [Pattern.match?] at h
    cases h ▸ hsome

/-- Text in which no placeholder opens is left as it is. -/
theorem pathTemplateText_append (htext : '\x7b' ∉ text) (rest : List Char) :
    pathTemplateText (text ++ rest) = text ++ pathTemplateText rest := by
  induction text with
  | nil => rfl
  | cons c w ih =>
      have hc := List.ne_of_not_mem_cons htext
      have hw := List.not_mem_of_not_mem_cons htext
      have hnone : placeholder? (c :: (w ++ rest)) = none := by
        refine Option.eq_none_iff_forall_ne_some.mpr ?_
        rintro ⟨name, more⟩ hfound
        obtain ⟨heq, -, -⟩ := placeholder?_eq_some.mp hfound
        exact hc (List.cons.inj heq).1.symm
      rw [List.cons_append, pathTemplateText_of_none hnone, ih hw, List.cons_append]

theorem pathTemplateText_parts (parts : List RoutePart) :
    pathTemplateText (parts.flatMap RoutePart.written) = parts.flatMap RoutePart.templated := by
  induction parts with
  | nil => rfl
  | cons part parts ih =>
      rw [List.flatMap_cons, List.flatMap_cons]
      cases part with
      | literal text unopened =>
          rw [RoutePart.written, RoutePart.templated, pathTemplateText_append unopened, ih]
      | placeholder name nonempty unclosed =>
          have hfound := placeholder?_closed nonempty unclosed (parts.flatMap RoutePart.written)
          rw [← ih]
          simpa [RoutePart.written, RoutePart.templated] using pathTemplateText_of_some hfound

theorem filter_pathTemplateFrom (s : List Char) (skip : Nat) :
    (pathTemplateFrom s skip).filter (· != '$') = s.filter (· != '$') := by
  fun_induction pathTemplateFrom s skip with
  | case1 => rfl
  | case2 c r skip ih => rw [List.filter_cons, List.filter_cons, ih]
  | case3 c r name rest _ ih =>
      rw [List.filter_cons_of_neg (by simp), List.filter_cons, List.filter_cons, ih]
  | case4 c r _ ih => rw [List.filter_cons, List.filter_cons, ih]

theorem apply_pathTemplate (indentSize : Value) (s : String) :
    apply .pathTemplate indentSize (.value (.str s)) [] [] =
      .ok (String.ofList (pathTemplateText s.toList)) := rfl

end

/-- The filter writes the placeholders of a route for a template literal and keeps the rest, and in
any text without dollar signs the signs it writes are all that it changes. -/
theorem routes_templated (indentSize : Value) :
    (∀ parts : List RoutePart,
      apply .pathTemplate indentSize
        (.value (.str (String.ofList (parts.flatMap RoutePart.written)))) [] [] =
          .ok (String.ofList (parts.flatMap RoutePart.templated))) ∧
    ∀ s : String, ∃ t, apply .pathTemplate indentSize (.value (.str s)) [] [] = .ok t ∧
      t.toList = placeholders.substitute (fun texts => '$' :: texts.flatten) s.toList ∧
      ('$' ∉ s.toList → t.toList.filter (· != '$') = s.toList) := by
  refine ⟨fun parts => ?_, fun s => ⟨_, apply_pathTemplate indentSize s, ?_, fun hs => ?_⟩⟩
  · rw [apply_pathTemplate, String.toList_ofList, pathTemplateText_parts]
  · rw [String.toList_ofList, substitute_placeholders]
  · have hkept : s.toList.filter (· != '$') = s.toList := by
      refine List.filter_eq_self.mpr fun c hc => bne_iff_ne.mpr ?_
      rintro rfl
      exact hs hc
    rw [String.toList_ofList, pathTemplateText, filter_pathTemplateFrom, hkept]

/-- A brace within a placeholder, an empty one, and one that is not closed. -/
theorem routes_templated_braces :
    let s := "/a\x7d/\x7bb\x7bc\x7d/\x7b\x7d\x7bd"
    let t := "/a\x7d/$\x7bb\x7bc\x7d/\x7b\x7d\x7bd"
    '$' ∉ s.toList ∧ apply .pathTemplate (.int 4) (.value (.str s)) [] [] = .ok t ∧
      t.toList.filter (· != '$') = s.toList := by
  intro s t
  have hs : '$' ∉ s.toList := by decide +kernel
  obtain ⟨t', ht', -, hkept⟩ := (routes_templated (.int 4)).2 s
  have ht : apply .pathTemplate (.int 4) (.value (.str s)) [] [] = .ok t := by
    have htext : String.ofList (pathTemplateText s.toList) = t := by decide +kernel
    rw [apply_pathTemplate, htext]
  obtain rfl := Except.ok.inj (ht.symm.trans ht')
  exact ⟨hs, ht, hkept hs⟩

end Filter

end TypeStencil.Template
