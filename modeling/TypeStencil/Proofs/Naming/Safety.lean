import TypeStencil.Proofs.Naming.Disambiguation
import TypeStencil.Proofs.Naming.Grammar

/-!
Names that TypeScript accepts. Whatever a sanitizer for type names has been asked before, with the
suffixes that conflicts are resolved with, its answers are no words and no global types of the
language, and all but hyphenated ones are identifiers. A remembered answer may be that of another
request, but only of one in the snake style for one in the screaming style or the other way round.
-/
namespace TypeStencil

namespace Naming

open Text NamingRules

def isIdentifierChar (c : Char) : Bool :=
  isAlphanumeric c || c == '_'

/-- A word of letters, digits and underscores that starts with no digit. -/
structure IsIdentifier (s : List Char) : Prop where
  nonempty : s ≠ []
  chars : ∀ c ∈ s, isIdentifierChar c = true
  start : ∀ c ∈ s.head?, isDigitAscii c = false

section

variable {c : Char} {s t : List Char} {style : NamingCase}

theorem IsIdentifier.append (h : IsIdentifier s) (ht : ∀ c ∈ t, isIdentifierChar c = true) :
    IsIdentifier (s ++ t) := by
  refine ⟨List.append_ne_nil_of_left_ne_nil h.nonempty t, ?_, ?_⟩
  · exact List.forall_mem_append.mpr ⟨h.chars, ht⟩
  · intro c hc
    rw [List.head?_append_of_ne_nil _ h.nonempty] at hc
    exact h.start c hc

theorem isIdentifierChar_of_isAlphanumeric (h : isAlphanumeric c = true) :
    isIdentifierChar c = true := by
  rw [isIdentifierChar, h, Bool.true_or]

theorem isIdentifierChar_of_isWordChar (h : isWordChar c = true) : isIdentifierChar c = true :=
  isIdentifierChar_of_isAlphanumeric (isAlphanumeric_of_isWordChar h)

theorem ascii_of_isIdentifierChar (h : isIdentifierChar c = true) : c.toNat < 0x80 := by
  rw [isIdentifierChar, Bool.or_eq_true, beq_iff_eq] at h
  rcases h with h | rfl
  · exact ascii_of_isAlphanumeric h
  · decide

theorem mem_guardDigit (h : c ∈ guardDigit s) : c = '_' ∨ c ∈ s := by
  cases s with
  | nil => cases h
  | cons d r =>
      rw [guardDigit] at h
      split at h
      · exact List.mem_cons.mp h
      · exact .inr h

theorem guardDigit_ne_nil (h : s ≠ []) : guardDigit s ≠ [] := by
  cases s with
  | nil => exact absurd rfl h
  | cons d r =>
      rw [guardDigit]
      split <;> exact List.cons_ne_nil _ _

/-- A guarded name of identifier characters is an identifier. -/
theorem isIdentifier_guardDigit (hne : s ≠ []) (h : ∀ c ∈ s, isIdentifierChar c = true) :
    IsIdentifier (guardDigit s) := by
  refine ⟨guardDigit_ne_nil hne, ?_, ?_⟩
  · intro c hc
    rcases mem_guardDigit hc with rfl | hc
    · rfl
    · exact h c hc
  · cases s with
    | nil => exact absurd rfl hne
    | cons d r =>
        intro c hc
        have hsign := isDigitSign_of_ascii (ascii_of_isIdentifierChar (h d List.mem_cons_self))
        rw [guardDigit] at hc
        split at hc
        · obtain rfl := Option.some.inj hc
          rfl
        · next hdigit =>
            obtain rfl := Option.some.inj hc
            rw [← hsign]
            exact Bool.eq_false_iff.mpr hdigit

section

variable (hs : ∀ c ∈ s, isNameChar c = true)

include hs

theorem isIdentifierChar_of_mem_snake (hc : c ∈ snake s) : isIdentifierChar c = true := by
  by_cases hunderscore : c = '_'
  · rw [hunderscore]
    rfl
  · exact isIdentifierChar_of_isWordChar (isWordChar_of_mem_snake hs hc hunderscore)

theorem isIdentifierChar_of_mem_upper (hc : c ∈ upper (snake s)) : isIdentifierChar c = true := by
  have hascii : IsAscii (snake s) := fun d hd =>
    ascii_of_isIdentifierChar (isIdentifierChar_of_mem_snake hs hd)
  rw [upper_eq_map hascii] at hc
  obtain ⟨d, hd, rfl⟩ := List.mem_map.mp hc
  by_cases hunderscore : d = '_'
  · rw [hunderscore]
    rfl
  · exact isIdentifierChar_of_isAlphanumeric
      (isAlphanumeric_toUpper (isWordChar_of_mem_snake hs hd hunderscore))

theorem isIdentifierChar_of_mem_capitalized {ws : List (List Char)} (hws : ∀ w ∈ ws, w ∈ words s)
    (hc : c ∈ ws.flatMap capitalize) : isIdentifierChar c = true := by
  apply isIdentifierChar_of_isAlphanumeric
  exact isAlphanumeric_of_mem_capitalized
    (fun w hw d hd => isWordChar_of_mem_word hs (hws w hw) hd) hc

variable (h : ∃ c ∈ s, c ≠ '-' ∧ c ≠ '_')

include h

theorem isIdentifierChar_of_mem_camel (hc : c ∈ camel s) : isIdentifierChar c = true := by
  rw [camel] at hc
  split at hc
  · next hws => exact absurd hws (words_ne_nil (snake_ne_nil (isAscii_of_isNameChar hs) h))
  · next w ws hws =>
      have hmem : ∀ v ∈ w :: ws, v ∈ words s := fun v hv => hws ▸ hv
      rcases List.mem_append.mp hc with hc | hc
      · exact isIdentifierChar_of_isWordChar
          (isWordChar_of_mem_word hs (hmem w List.mem_cons_self) hc)
      · exact isIdentifierChar_of_mem_capitalized hs
          (fun v hv => hmem v (List.mem_cons_of_mem w hv)) hc

/-- Every style but the hyphenated one writes names with identifier characters. -/
theorem isIdentifierChar_of_mem_convert (hstyle : style ≠ .kebab) (hc : c ∈ convert style s) :
    isIdentifierChar c = true := by
  cases style with
  | snake => exact isIdentifierChar_of_mem_snake hs hc
  | camel => exact isIdentifierChar_of_mem_camel hs h hc
  | pascal => exact isIdentifierChar_of_mem_capitalized hs (fun _ hw => hw) hc
  | kebab => exact absurd rfl hstyle
  | screamingSnake => exact isIdentifierChar_of_mem_upper hs hc

theorem convert_ne_nil (style : NamingCase) : convert style s ≠ [] := by
  have hsnake := snake_ne_nil (isAscii_of_isNameChar hs) h
  cases style with
  | snake => exact hsnake
  | camel =>
      rw [convert, camel]
      split
      · next hws => exact absurd hws (words_ne_nil hsnake)
      · next w ws hws =>
          have hw : w ∈ words s := hws ▸ List.mem_cons_self
          exact List.append_ne_nil_of_left_ne_nil (word_ne_nil hw) _
  | pascal =>
      obtain ⟨c, r, hpascal, -⟩ := pascal_eq_cons hs h
      rw [convert, hpascal]
      exact List.cons_ne_nil c r
  | kebab =>
      obtain ⟨c, hc, -⟩ := exists_mem_kebab hs h
      exact List.ne_nil_of_mem hc
  | screamingSnake =>
      have hascii : IsAscii (snake s) := fun d hd =>
        ascii_of_isIdentifierChar (isIdentifierChar_of_mem_snake hs hd)
      rw [convert, upper_eq_map hascii, ne_eq, List.map_eq_nil_iff]
      exact hsnake

theorem isAscii_convert (style : NamingCase) : IsAscii (convert style s) := by
  intro c hc
  by_cases hstyle : style = .kebab
  · subst hstyle
    rcases mem_kebab hs hc with rfl | hword
    · decide
    · exact ascii_of_isWordChar hword
  · exact ascii_of_isIdentifierChar (isIdentifierChar_of_mem_convert hs h hstyle hc)

end

end

end Naming

namespace TypeScript

open Text Naming

/-- Written small, a name is neither a word of the language nor one of its global types. -/
structure Unreserved (name : List Char) : Prop where
  word : String.ofList (lower name) ∉ reservedWords
  type : String.ofList (lower name) ∉ builtinTypes

/-- A name in a style that can be declared. -/
structure IsSafe (style : NamingCase) (name : List Char) : Prop where
  unreserved : Unreserved name
  identifier : style ≠ .kebab → IsIdentifier name

section

variable {c : Char} {name : List Char} {style : NamingCase} {suffix : String}

theorem avoids_eq_false_iff : typeRules.avoids name = false ↔ Unreserved name := by
  have hiff : Unreserved name ↔ String.ofList (lower name) ∉ reservedWords ∧
      String.ofList (lower name) ∉ builtinTypes := ⟨fun h => ⟨h.1, h.2⟩, fun h => ⟨h.1, h.2⟩⟩
  rw [hiff]
  simp [NamingRules.avoids, typeRules]

/-- The words and types of the language are made of small letters, and none ends in the word that
conflicts are resolved with. -/
theorem letters_of_reserved {w : String} (h : w ∈ reservedWords ∨ w ∈ builtinTypes) :
    (∀ c ∈ w.toList, isLowerAscii c = true) ∧ ¬ ['m', 'o', 'd', 'e', 'l'] <:+ w.toList := by
  have hall : ∀ w ∈ reservedWords ++ builtinTypes, w.toList.all isLowerAscii = true ∧
      ['m', 'o', 'd', 'e', 'l'].isSuffixOf w.toList = false := by
    decide +kernel
  obtain ⟨hletters, hsuffix⟩ := hall w (List.mem_append.mpr h)
  refine ⟨List.all_eq_true.mp hletters, ?_⟩
  rw [← List.isSuffixOf_iff_suffix, hsuffix]
  exact Bool.false_ne_true

theorem unreserved_of_mem (hascii : IsAscii name) (hc : c ∈ name)
    (h : isLowerAscii c.toLower = false) : Unreserved name := by
  have hmem : c.toLower ∈ (String.ofList (lower name)).toList := by
    rw [String.toList_ofList, lower_eq_map hascii]
    exact List.mem_map_of_mem hc
  constructor
  · intro hword
    rw [(letters_of_reserved (.inl hword)).1 _ hmem] at h
    cases h
  · intro htype
    rw [(letters_of_reserved (.inr htype)).1 _ hmem] at h
    cases h

theorem toList_conflictSuffix : conflictSuffix.toList = ['M', 'o', 'd', 'e', 'l'] := by
  simp [conflictSuffix]

/-- The suffixes that conflicts are resolved with. -/
def IsConflictSuffix (suffix : String) : Prop :=
  suffix = "_" ∨ suffix = conflictSuffix

theorem isIdentifierChar_of_mem_suffix (h : IsConflictSuffix suffix) (hc : c ∈ suffix.toList) :
    isIdentifierChar c = true := by
  rcases h with rfl | rfl
  · obtain rfl : c = '_' := by simpa using hc
    rfl
  · rw [toList_conflictSuffix] at hc
    exact List.all_eq_true.mp (by decide) c hc

theorem isAscii_suffix (h : IsConflictSuffix suffix) : IsAscii suffix.toList :=
  fun _ hc => ascii_of_isIdentifierChar (isIdentifierChar_of_mem_suffix h hc)

theorem unreserved_append_conflictSuffix (hascii : IsAscii name) :
    Unreserved (name ++ conflictSuffix.toList) := by
  have hall : IsAscii (name ++ conflictSuffix.toList) :=
    List.forall_mem_append.mpr ⟨hascii, isAscii_suffix (.inr rfl)⟩
  have hends : ['m', 'o', 'd', 'e', 'l'] <:+
      (String.ofList (lower (name ++ conflictSuffix.toList))).toList := by
    rw [String.toList_ofList, lower_eq_map hall, List.map_append, toList_conflictSuffix]
    exact List.suffix_append _ _
  constructor
  · intro hword
    exact (letters_of_reserved (.inl hword)).2 hends
  · intro htype
    exact (letters_of_reserved (.inr htype)).2 hends

theorem unreserved_append_suffix (h : IsConflictSuffix suffix) (hascii : IsAscii name) :
    Unreserved (name ++ suffix.toList) := by
  have hall : IsAscii (name ++ suffix.toList) :=
    List.forall_mem_append.mpr ⟨hascii, isAscii_suffix h⟩
  rcases h with rfl | rfl
  · have hmem : '_' ∈ name ++ "_".toList := List.mem_append_right name (by decide)
    exact unreserved_of_mem hall hmem (by decide)
  · exact unreserved_append_conflictSuffix hascii

theorem isAscii_guardDigit (h : IsAscii name) : IsAscii (NamingRules.guardDigit name) := by
  intro c hc
  rcases mem_guardDigit hc with rfl | hc
  · decide
  · exact h c hc

/-- The characters of a plain name are ASCII, and the name is safe. -/
theorem isSafe_plain (name : String) (style : NamingCase) (h : IsConflictSuffix suffix) :
    IsAscii (typeRules.plain name style suffix).toList ∧
      IsSafe style (typeRules.plain name style suffix).toList := by
  have hclean := NamingRules.isNameChar_of_mem_clean typeRules_namesNameless name.toList
  have hletter := NamingRules.exists_mem_clean typeRules_namesNameless name.toList
  have hascii := isAscii_guardDigit (isAscii_convert hclean hletter style)
  have hidentifier (hstyle : style ≠ .kebab) := isIdentifier_guardDigit
    (convert_ne_nil hclean hletter style)
    fun c hc => isIdentifierChar_of_mem_convert hclean hletter hstyle hc
  rw [NamingRules.plain, String.toList_append, String.toList_ofList]
  split
  · refine ⟨List.forall_mem_append.mpr ⟨hascii, isAscii_suffix h⟩,
      unreserved_append_suffix h hascii, ?_⟩
    intro hstyle
    exact (hidentifier hstyle).append fun c hc => isIdentifierChar_of_mem_suffix h hc
  · next havoids =>
      rw [String.toList_empty, List.append_nil]
      exact ⟨hascii, avoids_eq_false_iff.mp (Bool.eq_false_iff.mpr havoids), hidentifier⟩

theorem isDigitAscii_of_mem_toString {n : Nat} (h : c ∈ (toString n).toList) :
    isDigitAscii c = true := by
  rw [Nat.toString_eq_repr, Nat.toList_repr] at h
  have hdigit := Nat.isDigit_of_mem_toDigits (by decide) (by decide) h
  simpa [Char.isDigit, isDigitAscii, Char.le_def] using hdigit

theorem isIdentifierChar_of_isDigitAscii (h : isDigitAscii c = true) :
    isIdentifierChar c = true := by
  simp [isIdentifierChar, isAlphanumeric, h]

theorem not_isLowerAscii_toLower (h : isDigitAscii c = true) : isLowerAscii c.toLower = false := by
  have hascii := ascii_of_isIdentifierChar (isIdentifierChar_of_isDigitAscii h)
  refine ascii_induction (P := fun c => isDigitAscii c = true → isLowerAscii c.toLower = false) ?_
    hascii h
  decide +kernel

/-- A number behind a safe name keeps it safe, since no word of the language has a digit. -/
theorem IsSafe.candidate {base : String} (hascii : IsAscii base.toList)
    (h : IsSafe style base.toList) (k : Nat) :
    IsSafe style (Sanitizer.candidate base suffix k).toList := by
  have hmore : ∀ c ∈ ((if suffix == "_" then suffix else "") ++ toString k).toList,
      isIdentifierChar c = true := by
    rw [String.toList_append]
    refine List.forall_mem_append.mpr ⟨?_, ?_⟩
    · intro c hc
      split at hc
      · next hsuffix => exact isIdentifierChar_of_mem_suffix (.inl (eq_of_beq hsuffix)) hc
      · cases hc
    · intro c hc
      exact isIdentifierChar_of_isDigitAscii (isDigitAscii_of_mem_toString hc)
  have hdigit : ∃ c ∈ (toString k).toList, isDigitAscii c = true := by
    obtain ⟨c, hc⟩ := List.exists_mem_of_ne_nil _ (Nat.toDigits_ne_nil (n := k) (b := 10))
    rw [← Nat.toList_repr, ← Nat.toString_eq_repr] at hc
    exact ⟨c, hc, isDigitAscii_of_mem_toString hc⟩
  obtain ⟨c, hc, hdigit⟩ := hdigit
  rw [Sanitizer.candidate_eq, String.toList_append]
  refine ⟨unreserved_of_mem (c := c) ?_ ?_ (not_isLowerAscii_toLower hdigit), ?_⟩
  · refine List.forall_mem_append.mpr ⟨hascii, ?_⟩
    intro d hd
    exact ascii_of_isIdentifierChar (hmore d hd)
  · rw [String.toList_append]
    exact List.mem_append_right _ (List.mem_append_right _ hc)
  · intro hstyle
    exact (h.identifier hstyle).append hmore

theorem isSafe_disambiguate {base : String} (hascii : IsAscii base.toList)
    (h : IsSafe style base.toList) (used : List String) :
    IsSafe style (Sanitizer.disambiguate used base suffix).toList := by
  rw [Sanitizer.disambiguate]
  split
  · obtain ⟨n, -, heq, -⟩ := Sanitizer.firstFree_spec used base suffix used.length 1
    rw [heq]
    exact h.candidate hascii _
  · exact h

theorem getLast?_cacheKey (name : String) (style : NamingCase) (h : IsConflictSuffix suffix) :
    (Sanitizer.cacheKey name style suffix).toList.getLast? = suffix.toList.getLast? := by
  rw [Sanitizer.cacheKey, String.toList_append, List.getLast?_append_of_ne_nil]
  rcases h with rfl | rfl
  · decide
  · rw [toList_conflictSuffix]
    exact List.cons_ne_nil _ _

/-- The suffixes that conflicts are resolved with differ in their last characters, so that a key
says which one it was made with. -/
theorem suffix_eq_of_key_eq {q r : Sanitizer.Request} (hq : IsConflictSuffix q.suffix)
    (hr : IsConflictSuffix r.suffix) (hkey : q.key = r.key) : q.suffix = r.suffix := by
  have hlast := congrArg (fun key : String => key.toList.getLast?) hkey
  simp only [Sanitizer.Request.key] at hlast
  rw [getLast?_cacheKey _ _ hq, getLast?_cacheKey _ _ hr] at hlast
  rcases hq with hq | hq <;> rcases hr with hr | hr <;> rw [hq, hr] at hlast ⊢
  · rw [toList_conflictSuffix] at hlast
    revert hlast
    decide
  · rw [toList_conflictSuffix] at hlast
    revert hlast
    decide

/-- The styles of requests under one key are the same, or neither is the hyphenated one. -/
theorem kebab_of_key_eq {q r : Sanitizer.Request} (hsuffix : q.suffix = r.suffix)
    (hkey : q.key = r.key) (h : r.style ≠ .kebab) : q.style ≠ .kebab := by
  rcases (Sanitizer.Request.key_eq_iff hsuffix).mp hkey with rfl | hcross | hcross
  · exact h
  · rw [hcross.1]
    decide
  · rw [hcross.2.1]
    decide

end

end TypeScript

namespace Sanitizer

open TypeScript

/-- The suffix that a call resolves conflicts with. -/
def Call.suffix? : Call → Option String
  | .sanitize _ _ suffix _ => some suffix
  | _ => none

theorem isConflictSuffix_of_mem_requests {calls : List Call} {q : Request}
    (h : ∀ c ∈ calls, ∀ suffix ∈ c.suffix?, IsConflictSuffix suffix) (hq : q ∈ requests calls) :
    IsConflictSuffix q.suffix := by
  obtain ⟨c, hc, hrequest⟩ := List.mem_filterMap.mp hq
  obtain rfl := Call.request?_eq_some.mp hrequest
  exact h _ hc _ rfl

/-- The plain name that answers a request is safe in the style of the request. -/
theorem isSafe_firstUnderKey {past : List Request} {r : Request}
    (hpast : ∀ q ∈ past, IsConflictSuffix q.suffix) (hr : IsConflictSuffix r.suffix) :
    IsSafe r.style ((r.firstUnderKey past).plainName typeRules).toList := by
  have hfirst : IsConflictSuffix (r.firstUnderKey past).suffix ∧
      (r.firstUnderKey past).key = r.key := by
    rcases firstUnderKey_mem_or_eq past r with heq | ⟨hmem, hkey⟩
    · rw [heq]
      exact ⟨hr, rfl⟩
    · exact ⟨hpast _ hmem, hkey⟩
  obtain ⟨hsuffix, hkey⟩ := hfirst
  have hsafe := (isSafe_plain (r.firstUnderKey past).name (r.firstUnderKey past).style hsuffix).2
  refine ⟨hsafe.unreserved, ?_⟩
  intro hstyle
  exact hsafe.identifier (kebab_of_key_eq (suffix_eq_of_key_eq hsuffix hr hkey) hkey hstyle)

/-- Every answer of a sanitizer for type names, at any place of any history of calls with the
suffixes for conflicts, is safe. Values other than texts are asked for by their texts. -/
theorem answers_safe {calls : List Call}
    (hsuffixes : ∀ c ∈ calls, ∀ suffix ∈ c.suffix?, IsConflictSuffix suffix)
    {i : Nat} {name : String} {style : NamingCase} {suffix : String} {unique : Bool}
    (hcall : calls[i]? = some (.sanitize name style suffix unique)) :
    ∃ answer, ((ofRules typeRules).run calls).2[i]? = some (some answer) ∧
      IsSafe style answer.toList := by
  obtain ⟨hi, hget⟩ := List.getElem?_eq_some_iff.mp hcall
  obtain ⟨before, after, hlength, rfl⟩ : ∃ before after, before.length = i ∧
      calls = before ++ .sanitize name style suffix unique :: after := by
    refine ⟨calls.take i, calls.drop (i + 1), List.length_take_of_le (Nat.le_of_lt hi), ?_⟩
    rw [← hget, List.getElem_cons_drop, List.take_append_drop]
  subst hlength
  have hsuffix : IsConflictSuffix suffix :=
    hsuffixes _ (List.mem_append_right _ List.mem_cons_self) _ rfl
  cases unique with
  | true =>
      have hrules : ((ofRules typeRules).run before).1.rules = typeRules :=
        ((recalls_ofRules typeRules).run before).2
      obtain ⟨hascii, hsafe⟩ := isSafe_plain name style hsuffix
      rw [run_getElem?, step_unique]
      refine ⟨_, rfl, ?_⟩
      rw [sanitizeUnique, hrules]
      exact isSafe_disambiguate hascii hsafe _
  | false =>
      refine ⟨_, answer_of_firstUnderKey before after ⟨name, style, suffix⟩, ?_⟩
      refine isSafe_firstUnderKey (r := ⟨name, style, suffix⟩) ?_ hsuffix
      intro q hq
      exact isConflictSuffix_of_mem_requests
        (fun c hc => hsuffixes c (List.mem_append_left _ hc)) hq

/-- A snake form that was asked for after another name in the screaming style, which shares its
key, and before names that are numbered. -/
theorem answers_safe_crossed :
    let calls : List Call := [.sanitize "user" .screamingSnake "_" false,
      .sanitize "user_screaming" .snake "_" false, .sanitize "Class" .pascal conflictSuffix true,
      .addUsed "ClassModel1", .sanitize "class" .pascal conflictSuffix true, .reset]
    (∀ c ∈ calls, ∀ suffix ∈ c.suffix?, IsConflictSuffix suffix) ∧
      calls[1]? = some (.sanitize "user_screaming" .snake "_" false) ∧
      ∃ answer, ((ofRules typeRules).run calls).2[1]? = some (some answer) ∧
        IsSafe .snake answer.toList := by
  intro calls
  have hsuffixes : ∀ c ∈ calls, ∀ suffix ∈ c.suffix?, IsConflictSuffix suffix := by
    simp [calls, Call.suffix?, IsConflictSuffix]
  exact ⟨hsuffixes, rfl, answers_safe hsuffixes rfl⟩

end Sanitizer

end TypeStencil
