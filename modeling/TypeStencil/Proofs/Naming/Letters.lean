import TypeStencil.Proofs.Naming.Boundaries
import TypeStencil.Proofs.Naming.Safety

/-!
Letters of names. The letters and digits of a name, made small, go through every step on the way to
its type name and its file name in their order: cleaning, cutting and joining add and drop nothing
but separators, and capitals are the same letters. Only a name without letters and digits, and one
that is taken by the language, get letters from elsewhere.
-/
namespace TypeStencil

namespace Naming

open Text NamingRules

/-- The ASCII letters and digits of a text, made small. -/
def letters (s : List Char) : List Char :=
  (s.filter isAlphanumeric).map Char.toLower

section

variable {c : Char} {s t w mark : List Char} {ws : List (List Char)} {p : Char → Bool}

theorem letters_append (s t : List Char) : letters (s ++ t) = letters s ++ letters t := by
  rw [letters, List.filter_append, List.map_append, letters, letters]

theorem letters_cons (c : Char) (s : List Char) : letters (c :: s) = letters [c] ++ letters s :=
  letters_append [c] s

theorem letters_of_not (h : isAlphanumeric c = false) : letters [c] = [] := by
  rw [letters, List.filter_cons_of_neg (by rw [h]; exact Bool.false_ne_true)]
  rfl

theorem letters_eq_nil : letters s = [] ↔ ∀ c ∈ s, isAlphanumeric c = false := by
  rw [letters, List.map_eq_nil_iff, List.filter_eq_nil_iff]
  simp only [Bool.not_eq_true]

/-- A change of single characters that keeps their letters keeps the letters of a text. -/
theorem letters_map {f : Char → Char} (h : ∀ c ∈ s, letters [f c] = letters [c]) :
    letters (s.map f) = letters s := by
  induction s with
  | nil => rfl
  | cons c r ih =>
      obtain ⟨hc, hr⟩ := List.forall_mem_cons.mp h
      rw [List.map_cons, letters_cons, hc, ih hr, ← letters_cons]

theorem letters_replaceChar {old new : Char} (hold : isAlphanumeric old = false)
    (hnew : isAlphanumeric new = false) : letters (replaceChar old new s) = letters s := by
  refine letters_map fun c _ => ?_
  split
  · next heq => rw [heq, letters_of_not hold, letters_of_not hnew]
  · rfl

theorem letters_toLower (h : c.toNat < 0x80) : letters [c.toLower] = letters [c] := by
  refine ascii_induction (P := fun c => letters [c.toLower] = letters [c]) ?_ h
  decide +kernel

theorem letters_toUpper (h : c.toNat < 0x80) : letters [c.toUpper] = letters [c] := by
  refine ascii_induction (P := fun c => letters [c.toUpper] = letters [c]) ?_ h
  decide +kernel

theorem letters_reverse (s : List Char) : letters s.reverse = (letters s).reverse := by
  rw [letters, List.filter_reverse, List.map_reverse, letters]

theorem letters_dropWhile (hp : ∀ c, p c = true → isAlphanumeric c = false) (s : List Char) :
    letters (s.dropWhile p) = letters s := by
  induction s with
  | nil => rfl
  | cons c r ih =>
      by_cases h : p c = true
      · rw [List.dropWhile_cons_of_pos h, ih, letters_cons, letters_of_not (hp c h),
          List.nil_append]
      · rw [List.dropWhile_cons_of_neg h]

theorem letters_trim (hp : ∀ c, p c = true → isAlphanumeric c = false) (s : List Char) :
    letters (trim p s) = letters s := by
  rw [trim, letters_reverse, letters_dropWhile hp, letters_reverse, letters_dropWhile hp,
    List.reverse_reverse]

theorem letters_underscore (s : List Char) : letters ('_' :: s) = letters s := rfl

theorem letters_splitAcronyms (s : List Char) : letters (splitAcronyms s) = letters s := by
  induction s with
  | nil => rfl
  | cons c r ih =>
      rw [splitAcronyms_cons, letters_cons]
      split
      · rw [letters_cons, letters_underscore, ih]
      · rw [letters_cons, ih]

theorem letters_splitHumps (s : List Char) : letters (splitHumps s) = letters s := by
  induction s with
  | nil => rfl
  | cons c r ih =>
      rw [splitHumps_cons, letters_cons]
      split
      · rw [letters_cons, letters_underscore, ih]
      · rw [letters_cons, ih]

theorem letters_squeeze (s : List Char) : letters (squeeze s) = letters s := by
  fun_induction squeeze s with
  | case1 r ih => rw [ih, letters_underscore ('_' :: r)]
  | case2 c r _ ih => rw [letters_cons, ih, ← letters_cons]
  | case3 => rfl

theorem letters_lower (h : IsAscii s) : letters (lower s) = letters s := by
  rw [lower_eq_map h]
  exact letters_map fun c hc => letters_toLower (h c hc)

theorem not_alphanumeric_of_underscore (c : Char) (h : (c == '_') = true) :
    isAlphanumeric c = false := by
  rw [eq_of_beq h]
  rfl

theorem letters_snake (h : IsAscii s) : letters (snake s) = letters s := by
  have hcut : letters (cut s) = letters s := by
    rw [cut, letters_splitHumps, letters_splitAcronyms, letters_replaceChar rfl rfl]
  rw [show snake s = trim (· == '_') (squeeze (lower (cut s))) from rfl,
    letters_trim not_alphanumeric_of_underscore, letters_squeeze,
    letters_lower (isAscii_cut h), hcut]

theorem letters_kebab (h : IsAscii s) : letters (kebab s) = letters s := by
  rw [kebab, letters_replaceChar rfl rfl, letters_snake h]

theorem letters_joinWith (hmark : letters mark = []) (ws : List (List Char)) :
    letters (joinWith mark ws) = letters ws.flatten := by
  induction ws with
  | nil => rfl
  | cons w rest ih =>
      cases rest with
      | nil => rw [List.flatten_singleton]; rfl
      | cons v more =>
          rw [joinWith_cons_cons, letters_append, letters_append, hmark, List.append_nil, ih,
            List.flatten_cons (l := w), letters_append]

theorem letters_words (h : IsAscii s) : letters (words s).flatten = letters s := by
  rw [← letters_snake h, ← letters_joinWith (show letters ['_'] = [] from rfl)]
  exact congrArg letters (spaced_snake s).joinWith_pieces

theorem letters_capitalize (hw : ∀ c ∈ w, isWordChar c = true) :
    letters (capitalize w) = letters w := by
  cases w with
  | nil => rfl
  | cons c r =>
      have hascii := ascii_of_isWordChar (hw c List.mem_cons_self)
      rw [capitalize_of_word hw, letters_cons, letters_toUpper hascii, ← letters_cons]

theorem letters_capitalized (hws : ∀ w ∈ ws, ∀ c ∈ w, isWordChar c = true) :
    letters (ws.flatMap capitalize) = letters ws.flatten := by
  induction ws with
  | nil => rfl
  | cons w rest ih =>
      obtain ⟨hw, hrest⟩ := List.forall_mem_cons.mp hws
      rw [List.flatMap_cons, letters_append, letters_capitalize hw, ih hrest, ← letters_append,
        List.flatten_cons]

theorem letters_pascal (hs : ∀ c ∈ s, isNameChar c = true) : letters (pascal s) = letters s := by
  rw [pascal, letters_capitalized fun w hw c hc => isWordChar_of_mem_word hs hw hc,
    letters_words (isAscii_of_isNameChar hs)]

theorem letters_guardDigit (s : List Char) : letters (guardDigit s) = letters s := by
  cases s with
  | nil => rfl
  | cons c r =>
      rw [guardDigit]
      split <;> rfl

theorem isNameChar_of_isAlphanumeric (h : isAlphanumeric c = true) : isNameChar c = true := by
  rw [isAlphanumeric] at h
  rw [isNameChar, h, Bool.true_or, Bool.true_or]

/-- The one name character that is no letter or digit is a separator. -/
theorem isAlphanumeric_of_isNameChar (h : isNameChar c = true)
    (hseparator : (c == '_' || c == '-') = false) : isAlphanumeric c = true := by
  rw [isNameChar, Bool.or_assoc, hseparator, Bool.or_false] at h
  exact h

/-- A name with a letter or digit keeps its letters when it is cleaned; one without becomes the
name for the nameless. -/
theorem letters_clean (rules : NamingRules) (name : List Char) :
    (letters name ≠ [] → letters (rules.clean name) = letters name) ∧
      (letters name = [] → rules.clean name = rules.emptyName.toList) := by
  have hmap : letters (name.map fun c => if isNameChar c then c else '_') = letters name := by
    refine letters_map fun c _ => ?_
    split
    · rfl
    · next h => rw [letters_of_not (Bool.eq_false_iff.mpr (mt isNameChar_of_isAlphanumeric h))]; rfl
  have hseparator (c : Char) (h : (c == '_' || c == '-') = true) : isAlphanumeric c = false := by
    rcases Bool.or_eq_true_iff.mp h with h | h <;> rw [eq_of_beq h] <;> rfl
  have hletters := (letters_trim hseparator _).trans hmap
  rw [clean]
  split
  · next hempty =>
      rw [List.isEmpty_iff.mp hempty] at hletters
      exact ⟨fun hne => absurd hletters.symm hne, fun _ => rfl⟩
  · next hempty =>
      refine ⟨fun _ => hletters, fun hnil => ?_⟩
      obtain ⟨c, hc, hkept⟩ := exists_of_trim_ne_nil fun h => hempty (List.isEmpty_iff.mpr h)
      have hname : isNameChar c = true := by
        obtain ⟨d, -, rfl⟩ := List.mem_map.mp hc
        split
        · assumption
        · rfl
      have hnone := letters_eq_nil.mp (hmap.trans hnil) c hc
      rw [isAlphanumeric_of_isNameChar hname hkept] at hnone
      cases hnone

/-- A text without its underscores, and without its case. -/
def unmarked (s : List Char) : List Char :=
  (s.filter (· != '_')).map Char.toLower

theorem unmarked_eq_letters (h : ∀ c ∈ s, isIdentifierChar c = true) : unmarked s = letters s := by
  refine congrArg (List.map Char.toLower) (List.filter_congr fun c hc => ?_)
  have hchar := h c hc
  rw [isIdentifierChar, Bool.or_eq_true, beq_iff_eq] at hchar
  rcases hchar with hchar | rfl
  · rw [hchar, bne_iff_ne]
    rintro rfl
    cases hchar
  · rfl

end

end Naming

namespace TypeScript

open Text Naming NamingRules

/-- A digit in front keeps a name from being taken, with an underscore before it or not. -/
theorem avoids_guardDigit {s : List Char} (h : ∀ c ∈ s, isAlphanumeric c = true) :
    typeRules.avoids (guardDigit s) = typeRules.avoids s := by
  cases s with
  | nil => rfl
  | cons c r =>
      have hascii : IsAscii (c :: r) := fun d hd => ascii_of_isAlphanumeric (h d hd)
      rw [guardDigit]
      split
      · next hsign =>
          rw [isDigitSign_of_ascii (hascii c List.mem_cons_self)] at hsign
          have hdigit := not_isLowerAscii_toLower hsign
          have hguarded : IsAscii ('_' :: c :: r) := List.forall_mem_cons.mpr ⟨by decide, hascii⟩
          rw [avoids_eq_false_iff.mpr (unreserved_of_mem hascii List.mem_cons_self hdigit),
            avoids_eq_false_iff.mpr (unreserved_of_mem hguarded
              (List.mem_cons_of_mem _ List.mem_cons_self) hdigit)]
      · rfl

theorem letters_conflictSuffix : letters conflictSuffix.toList = "model".toList := by
  rw [toList_conflictSuffix]
  decide +kernel

/-- The letters of a type name, from those of the cleaned name. -/
theorem letters_typeName_clean (name : Value) :
    let cleaned := typeRules.clean name.text.toList
    letters (TypeScript.typeName name).toList =
      letters cleaned ++ if typeRules.avoids (pascal cleaned) then "model".toList else [] := by
  intro cleaned
  have hchars := isNameChar_of_mem_clean typeRules_namesNameless name.text.toList
  have halphanumeric : ∀ c ∈ pascal cleaned, isAlphanumeric c = true := fun c hc =>
    isAlphanumeric_of_mem_capitalized (fun w hw d hd => isWordChar_of_mem_word hchars hw hd) hc
  rw [TypeScript.typeName, plain, convert, String.toList_append, String.toList_ofList,
    letters_append, letters_guardDigit, letters_pascal hchars, avoids_guardDigit halphanumeric]
  split
  · rw [letters_conflictSuffix]
  · rfl

theorem letters_typeName (name : Value) :
    let given := letters name.text.toList
    (given ≠ [] → letters (TypeScript.typeName name).toList = given ++
      if typeRules.avoids (pascal (typeRules.clean name.text.toList)) then "model".toList else []) ∧
    (given = [] → letters (TypeScript.typeName name).toList = "model".toList) := by
  intro given
  obtain ⟨hkept, hnameless⟩ := letters_clean typeRules name.text.toList
  have hclean := letters_typeName_clean name
  dsimp only at hclean
  refine ⟨fun h => ?_, fun h => ?_⟩
  · rw [hclean, hkept h]
  · rw [hclean, hnameless h]
    decide +kernel

theorem isIdentifierChar_of_mem_typeName {name : Value} {c : Char}
    (hc : c ∈ (TypeScript.typeName name).toList) : isIdentifierChar c = true :=
  ((isSafe_plain name.text .pascal (.inr rfl)).2.identifier (by decide)).chars c hc

theorem letters_typeName_ne_nil (name : Value) :
    letters (TypeScript.typeName name).toList ≠ [] := by
  obtain ⟨hkept, hnameless⟩ := letters_typeName name
  by_cases h : letters name.text.toList = []
  · rw [hnameless h]
    decide
  · rw [hkept h]
    exact List.append_ne_nil_of_left_ne_nil h _

/-- The file name of a type has the letters of the type name. -/
theorem letters_fileName (name : Value) : letters (Identifiers.ofName name).fileName.toList =
    letters (Identifiers.ofName name).typeName.toList := by
  rw [Identifiers.ofName]
  generalize htype : TypeScript.typeName name = typeName
  have hne : letters typeName.toList ≠ [] := htype ▸ letters_typeName_ne_nil name
  have hchars := isNameChar_of_mem_clean fileRules_namesNameless typeName.toList
  rw [toList_fileName, Value.text, Scalar.text,
    letters_kebab (isAscii_of_isNameChar hchars), (letters_clean fileRules _).1 hne]

/-- Type names whose files have one name differ in nothing but case and underscores. -/
theorem unmarked_typeName_eq {a b : Value}
    (h : (Identifiers.ofName a).fileName = (Identifiers.ofName b).fileName) :
    unmarked (Identifiers.ofName a).typeName.toList =
      unmarked (Identifiers.ofName b).typeName.toList := by
  have hletters (v : Value) : unmarked (Identifiers.ofName v).typeName.toList =
      letters (Identifiers.ofName v).fileName.toList := by
    rw [letters_fileName, Identifiers.ofName]
    exact unmarked_eq_letters fun c hc => isIdentifierChar_of_mem_typeName hc
  rw [hletters, hletters, h]

end TypeScript

end TypeStencil
