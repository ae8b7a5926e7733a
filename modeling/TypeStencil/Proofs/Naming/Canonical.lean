import TypeStencil.Proofs.Naming.Boundaries

/-!
Canonical names. The snake form of a name is canonical: it has no capitals and no hyphens, and its
underscores stand one at a time between other characters. Nothing is left to cut or to make small in
a canonical name, so it is its own snake form, and the other styles, which see nothing of a name but
its snake form, write it as they write the name itself.
-/
namespace TypeStencil

namespace Naming

open Text

section

variable {a c : Char} {r s w : List Char}

theorem splitAcronyms_small (hw : ∀ c ∈ w, isUpperAscii c = false) (t : List Char) :
    splitAcronyms (w ++ t) = w ++ splitAcronyms t := by
  induction w with
  | nil => rfl
  | cons d w ih =>
      obtain ⟨hd, hw⟩ := List.forall_mem_cons.mp hw
      rw [List.cons_append, splitAcronyms_cons, endsAcronym_of_not_upper hd,
        if_neg Bool.false_ne_true, ih hw, List.cons_append]

theorem endsHump_of_next (h : isUpperAscii c = false) : endsHump (a :: c :: r) = false := by
  rw [endsHump, h, Bool.and_false]

theorem splitHumps_small (hw : ∀ c ∈ w, isUpperAscii c = false) : splitHumps w = w := by
  induction w with
  | nil => rfl
  | cons d w ih =>
      have hends : endsHump (d :: w) = false := by
        cases w with
        | nil => rfl
        | cons e w => exact endsHump_of_next (hw e (List.mem_cons_of_mem d List.mem_cons_self))
      rw [splitHumps_cons, hends, if_neg Bool.false_ne_true, ih (List.forall_mem_cons.mp hw).2]

theorem replaceChar_of_not_mem {old new : Char} (h : old ∉ s) : replaceChar old new s = s := by
  have hkeep : ∀ c ∈ s, (if c = old then new else c) = c := by
    intro c hc
    refine if_neg ?_
    rintro rfl
    exact h hc
  rw [replaceChar, List.map_congr_left hkeep, List.map_id']

/-- Nothing is cut in a text without capitals and hyphens. -/
theorem cut_small (hupper : ∀ c ∈ s, isUpperAscii c = false) (hhyphen : '-' ∉ s) : cut s = s := by
  have hacronyms := splitAcronyms_small hupper []
  rw [List.append_nil, show splitAcronyms [] = [] from rfl, List.append_nil] at hacronyms
  rw [cut, replaceChar_of_not_mem hhyphen, hacronyms, splitHumps_small hupper]

/-- A name as the snake style leaves it. -/
structure IsCanonical (s : List Char) : Prop where
  small : ∀ c ∈ s, isUpperAscii c = false
  unhyphenated : '-' ∉ s
  spaced : Spaced '_' s

theorem toLower_of_ascii (h : c.toNat < 0x80) : c.toLower.toNat < 0x80 ∧
    isUpperAscii c.toLower = false ∧ (c.toLower = '-' → c = '-') := by
  refine ascii_induction (P := fun c => c.toLower.toNat < 0x80 ∧ isUpperAscii c.toLower = false ∧
    (c.toLower = '-' → c = '-')) ?_ h
  decide +kernel

section

variable (hs : IsAscii s)

include hs

theorem isAscii_snake : IsAscii (snake s) := by
  intro c hc
  by_cases hunderscore : c = '_'
  · rw [hunderscore]
    decide
  · obtain ⟨d, hd, -, -, rfl⟩ := (mem_snake hs hunderscore).mp hc
    exact (toLower_of_ascii (hs d hd)).1

theorem isCanonical_snake : IsCanonical (snake s) where
  small c hc := by
    by_cases hunderscore : c = '_'
    · rw [hunderscore]
      rfl
    · obtain ⟨d, hd, -, -, rfl⟩ := (mem_snake hs hunderscore).mp hc
      exact (toLower_of_ascii (hs d hd)).2.1
  unhyphenated hhyphen := by
    obtain ⟨d, hd, hne, -, heq⟩ := (mem_snake hs (by decide)).mp hhyphen
    exact hne ((toLower_of_ascii (hs d hd)).2.2 heq)
  spaced := spaced_snake s

theorem IsCanonical.snake_eq (h : IsCanonical s) : snake s = s := by
  have hsmall : lower s = s := by
    rw [lower_eq_map hs, List.map_congr_left fun c hc => toLower_of_not_isUpperAscii (h.small c hc),
      List.map_id']
  rw [snake_eq_pieces, cut_small h.small h.unhyphenated, hsmall, h.spaced.joinWith_pieces]

theorem snake_eq_self_iff : snake s = s ↔ IsCanonical s :=
  ⟨fun h => h ▸ isCanonical_snake hs, fun h => h.snake_eq hs⟩

theorem snake_snake : snake (snake s) = snake s :=
  (isCanonical_snake hs).snake_eq (isAscii_snake hs)

/-- The hyphens of the kebab form are the underscores of the snake form again. -/
theorem snake_kebab : snake (kebab s) = snake s := by
  have hhyphen := (isCanonical_snake hs).unhyphenated
  have hback : replaceChar '-' '_' (kebab s) = snake s := by
    rw [kebab, replaceChar, replaceChar, List.map_map]
    refine (List.map_congr_left fun c hc => ?_).trans (List.map_id' _)
    by_cases hunderscore : c = '_'
    · rw [hunderscore]
      rfl
    · have hne : c ≠ '-' := by
        rintro rfl
        exact hhyphen hc
      rw [Function.comp_apply, if_neg hunderscore, if_neg hne]
  have hcut : cut (kebab s) = cut (snake s) := by
    rw [cut, hback, cut, replaceChar_of_not_mem hhyphen]
  rw [snake_eq_pieces, hcut, ← snake_eq_pieces, snake_snake hs]

/-- No style sees more of a name with words than its snake form. -/
theorem convert_snake (hname : ∃ c ∈ s, c ≠ '-' ∧ c ≠ '_') (style : NamingCase) :
    convert style (snake s) = convert style s := by
  have hwords : words (snake s) = words s := by rw [words, snake_snake hs, words]
  cases style with
  | snake => exact snake_snake hs
  | camel =>
      rw [convert, convert, camel, camel, hwords]
      cases hcase : words s with
      | nil => exact absurd hcase (words_ne_nil (snake_ne_nil hs hname))
      | cons w ws => rfl
  | pascal => rw [convert, convert, pascal, pascal, hwords]
  | kebab => rw [convert, convert, kebab, kebab, snake_snake hs]
  | screamingSnake => rw [convert, convert, snake_snake hs]

end

end

theorem toList_convertName (style : NamingCase) (name : String) :
    (convertName style name).toList = convert style name.toList := String.toList_ofList

/-- The snake form of a name with words stands for it in every style, as does its kebab form in the
snake style; and it is the name itself only if that is canonical. -/
theorem snake_stands_for_name {name : String} (hascii : IsAscii name.toList)
    (hname : ∃ c ∈ name.toList, c ≠ '-' ∧ c ≠ '_') :
    (∀ style, convertName style (convertName .snake name) = convertName style name) ∧
      convertName .snake (convertName .kebab name) = convertName .snake name ∧
      convertName .kebab (convertName .kebab name) = convertName .kebab name ∧
      (convertName .snake name = name ↔ IsCanonical name.toList) := by
  refine ⟨fun style => ?_, ?_, ?_, ?_⟩
  · rw [← String.toList_inj, toList_convertName, toList_convertName, toList_convertName]
    exact convert_snake hascii hname style
  · rw [← String.toList_inj, toList_convertName, toList_convertName, toList_convertName]
    exact snake_kebab hascii
  · rw [← String.toList_inj, toList_convertName, toList_convertName]
    exact congrArg (replaceChar '_' '-') (snake_kebab hascii)
  · rw [← String.toList_inj, toList_convertName]
    exact snake_eq_self_iff hascii

/-- Capitals and separators in a row, and a character that is neither letter nor separator. -/
theorem snake_stands_for_acronyms :
    let name := "-HTTPServer__v2-x.Y_"
    IsAscii name.toList ∧ (∃ c ∈ name.toList, c ≠ '-' ∧ c ≠ '_') ∧
      convertName .snake name = "http_server_v2_x.y" ∧
      convertName .camel (convertName .snake name) = convertName .camel name ∧
      convertName .snake (convertName .kebab name) = convertName .snake name := by
  intro name
  have hall : name.toList.all (fun c => decide (c.toNat < 0x80)) = true := by decide +kernel
  have hascii : IsAscii name.toList := fun c hc => of_decide_eq_true (List.all_eq_true.mp hall c hc)
  have hname : ∃ c ∈ name.toList, c ≠ '-' ∧ c ≠ '_' := ⟨'.', by decide +kernel, by decide⟩
  obtain ⟨hstyles, hkebab, -⟩ := snake_stands_for_name hascii hname
  exact ⟨hascii, hname, by decide +kernel, hstyles .camel, hkebab⟩

end Naming

end TypeStencil
