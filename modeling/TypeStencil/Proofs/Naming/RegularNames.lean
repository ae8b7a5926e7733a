import TypeStencil.Proofs.Naming.Canonical
import TypeStencil.Proofs.Naming.Safety

/-!
Regular names. A name of small words of two characters or more, each beginning with a letter, is
found again from every style that keeps the letters of its words small but for the first: the
capitals that the style writes stand alone, and each of them is where a word begins. Regular names
so keep apart what is called by them.
-/
namespace TypeStencil

namespace Naming

open Text Computability

def regularWords : Language Char :=
  one isLowerAscii * (one isWordChar * many isWordChar)

/-- A word, with a capital or not, that goes on behind its first character. -/
def IsHump (b : List Char) : Prop :=
  ∃ c r, b = c :: r ∧ r ≠ [] ∧ ∀ d ∈ r, isWordChar d = true

section

variable {a c : Char} {b r s w : List Char} {bs ws : List (List Char)} {p : Char → Bool}

theorem mem_regularWords : w ∈ regularWords ↔
    ∃ c r, w = c :: r ∧ isLowerAscii c = true ∧ r ≠ [] ∧ ∀ d ∈ r, isWordChar d = true := by
  rw [regularWords, Language.mem_mul]
  constructor
  · rintro ⟨_, ⟨c, hc, rfl⟩, r, hr, rfl⟩
    exact ⟨c, r, rfl, hc, mem_one_many.mp hr⟩
  · rintro ⟨c, r, rfl, hc, hr⟩
    exact ⟨[c], ⟨c, hc, rfl⟩, r, mem_one_many.mpr hr, rfl⟩

instance : DecidablePred (· ∈ regularWords) := fun w =>
  decidable_of_iff (w.head?.any isLowerAscii = true ∧ w.tail ≠ [] ∧ w.tail.all isWordChar = true)
    (by cases w <;> simp [mem_regularWords])

theorem isWordChar_of_mem_regular (hw : w ∈ regularWords) : ∀ c ∈ w, isWordChar c = true := by
  obtain ⟨c, r, rfl, hc, -, hr⟩ := mem_regularWords.mp hw
  exact List.forall_mem_cons.mpr ⟨isWordChar_of_isLowerAscii hc, hr⟩

theorem regular_ne_nil (hw : w ∈ regularWords) : w ≠ [] := by
  obtain ⟨c, r, rfl, -⟩ := mem_regularWords.mp hw
  exact List.cons_ne_nil c r

theorem isHump_of_regular (hw : w ∈ regularWords) : IsHump w := by
  obtain ⟨c, r, rfl, -, hr⟩ := mem_regularWords.mp hw
  exact ⟨c, r, rfl, hr⟩

/-- No capital stands behind the first character of a hump. -/
theorem IsHump.second (h : IsHump b) : ∃ c d r, b = c :: d :: r ∧ isUpperAscii d = false ∧
    ∀ e ∈ d :: r, isWordChar e = true := by
  obtain ⟨c, r, rfl, hne, hr⟩ := h
  cases r with
  | nil => exact absurd rfl hne
  | cons d r => exact ⟨c, d, r, rfl, not_isUpperAscii_of_isWordChar (hr d List.mem_cons_self), hr⟩

theorem toUpper_of_isLowerAscii (h : isLowerAscii c = true) :
    isUpperAscii c.toUpper = true ∧ c.toUpper.toLower = c := by
  refine ascii_induction (P := fun c => isLowerAscii c = true →
    isUpperAscii c.toUpper = true ∧ c.toUpper.toLower = c) ?_
    (ascii_of_isWordChar (isWordChar_of_isLowerAscii h)) h
  decide +kernel

/-- A capitalized regular word is a hump that begins with a capital, and small again it is the
word. -/
theorem capitalize_regular (hw : w ∈ regularWords) : ∃ a r, capitalize w = a :: r ∧
    isUpperAscii a = true ∧ IsHump (a :: r) ∧ (a :: r).map Char.toLower = w := by
  obtain ⟨c, r, rfl, hc, hne, hr⟩ := mem_regularWords.mp hw
  obtain ⟨hupper, hback⟩ := toUpper_of_isLowerAscii hc
  have hsmall : r.map Char.toLower = r := by
    rw [List.map_congr_left fun d hd => toLower_of_isWordChar (hr d hd), List.map_id']
  refine ⟨c.toUpper, r, capitalize_of_word (isWordChar_of_mem_regular hw), hupper,
    ⟨_, r, rfl, hne, hr⟩, ?_⟩
  rw [List.map_cons, hback, hsmall]

theorem not_upper_of_word (hw : ∀ c ∈ w, isWordChar c = true) : ∀ c ∈ w, isUpperAscii c = false :=
  fun c hc => not_isUpperAscii_of_isWordChar (hw c hc)

/-- The capital of a hump stands alone, so that no acronym ends there. -/
theorem splitAcronyms_hump (hb : IsHump b) (t : List Char) :
    splitAcronyms (b ++ t) = b ++ splitAcronyms t := by
  obtain ⟨c, d, r, rfl, hd, hr⟩ := hb.second
  rw [List.cons_append, List.cons_append, splitAcronyms_cons, endsAcronym_of_next hd,
    if_neg Bool.false_ne_true, ← List.cons_append, splitAcronyms_small (not_upper_of_word hr)]
  rfl

theorem splitAcronyms_humps (hbs : ∀ b ∈ bs, IsHump b) : splitAcronyms bs.flatten = bs.flatten := by
  induction bs with
  | nil => rfl
  | cons b bs ih =>
      obtain ⟨hb, hbs⟩ := List.forall_mem_cons.mp hbs
      rw [List.flatten_cons, splitAcronyms_hump hb, ih hbs]

/-- A word is cut off in front of a capital. -/
theorem splitHumps_word_append (hne : w ≠ []) (hw : ∀ d ∈ w, isWordChar d = true)
    (ha : isUpperAscii a = true) (r : List Char) :
    splitHumps (w ++ a :: r) = w ++ '_' :: splitHumps (a :: r) := by
  induction w with
  | nil => exact absurd rfl hne
  | cons d w ih =>
      obtain ⟨hd, hw⟩ := List.forall_mem_cons.mp hw
      cases w with
      | nil =>
          have hends : endsHump (d :: a :: r) = true := by rw [endsHump, hd, ha, Bool.and_self]
          rw [List.singleton_append, splitHumps_cons, hends, if_pos rfl, List.singleton_append]
      | cons e w =>
          have he := not_isUpperAscii_of_isWordChar (hw e List.mem_cons_self)
          rw [List.cons_append, List.cons_append, splitHumps_cons, endsHump_of_next he,
            if_neg Bool.false_ne_true, ← List.cons_append, ih (List.cons_ne_nil e w) hw]
          rfl

theorem splitHumps_hump (hb : IsHump b) : splitHumps b = b := by
  obtain ⟨c, d, r, rfl, hd, hr⟩ := hb.second
  rw [splitHumps_cons, endsHump_of_next hd, if_neg Bool.false_ne_true,
    splitHumps_small (not_upper_of_word hr)]

theorem splitHumps_hump_append (hb : IsHump b) (ha : isUpperAscii a = true) (s : List Char) :
    splitHumps (b ++ a :: s) = b ++ '_' :: splitHumps (a :: s) := by
  obtain ⟨c, d, r, rfl, hd, hr⟩ := hb.second
  rw [List.cons_append, List.cons_append, splitHumps_cons, endsHump_of_next hd,
    if_neg Bool.false_ne_true, ← List.cons_append,
    splitHumps_word_append (List.cons_ne_nil d r) hr ha]
  rfl

/-- Humps that follow each other are cut apart where the next one begins with a capital. -/
theorem splitHumps_humps (hb : IsHump b)
    (hbs : ∀ x ∈ bs, IsHump x ∧ ∃ a r, x = a :: r ∧ isUpperAscii a = true) :
    splitHumps (b ++ bs.flatten) = joinWith ['_'] (b :: bs) := by
  induction bs generalizing b with
  | nil =>
      rw [List.flatten_nil, List.append_nil, splitHumps_hump hb]
      rfl
  | cons x bs ih =>
      obtain ⟨⟨hx, a, r, rfl, ha⟩, hrest⟩ := List.forall_mem_cons.mp hbs
      have hnext := ih hx hrest
      rw [List.flatten_cons, List.cons_append, splitHumps_hump_append hb ha, ← List.cons_append,
        hnext, joinWith_cons_cons, List.append_assoc, List.singleton_append]

/-- Trimming keeps a text that has no character of the class at its ends. -/
theorem trim_eq_self (hfront : ∀ c ∈ s.head?, p c = false)
    (hback : ∀ c ∈ s.getLast?, p c = false) : trim p s = s := by
  have hkeep {t : List Char} (h : ∀ c ∈ t.head?, p c = false) : t.dropWhile p = t := by
    cases t with
    | nil => rfl
    | cons c r => exact List.dropWhile_cons_of_neg (by rw [h c rfl]; exact Bool.false_ne_true)
  rw [trim, hkeep hfront, hkeep (by rwa [List.head?_reverse]), List.reverse_reverse]

theorem isNameChar_of_isIdentifierChar (h : isIdentifierChar c = true) :
    NamingRules.isNameChar c = true := by
  rw [isIdentifierChar, isAlphanumeric] at h
  rw [NamingRules.isNameChar, h, Bool.true_or]

/-- Nothing is cleaned from words with single underscores between them. -/
theorem clean_eq_self (rules : NamingRules) (hne : s ≠ [])
    (hs : ∀ c ∈ s, isIdentifierChar c = true) (hspaced : Spaced '_' s) : rules.clean s = s := by
  have hend {c : Char} (hc : c ∈ s) (h : c ≠ '_') : (c == '_' || c == '-') = false := by
    have hhyphen : c ≠ '-' := by
      rintro rfl
      cases hs '-' hc
    simp [h, hhyphen]
  have hkeep : (s.map fun c => if NamingRules.isNameChar c then c else '_') = s := by
    rw [List.map_congr_left fun c hc => if_pos (isNameChar_of_isIdentifierChar (hs c hc)),
      List.map_id']
  have htrim : trim (fun c => c == '_' || c == '-') s = s := by
    refine trim_eq_self (fun c hc => hend (List.mem_of_head? hc) ?_)
      (fun c hc => hend (List.mem_of_getLast? hc) ?_)
    · rintro rfl
      exact hspaced.front hc
    · rintro rfl
      exact hspaced.back hc
  rw [NamingRules.clean, hkeep, htrim, if_neg (by simpa using hne)]

variable (hne : ws ≠ []) (hws : ∀ w ∈ ws, w ∈ regularWords)

include hne hws

theorem pieces_regular {mark : Char} (hmark : isWordChar mark = false) :
    pieces mark (joinWith [mark] ws) = ws := by
  have hsplit : splitAt mark (joinWith [mark] ws) = ws := by
    refine splitAt_joinWith_of_not_mem hne fun w hw hmem => ?_
    rw [isWordChar_of_mem_regular (hws w hw) mark hmem] at hmark
    cases hmark
  rw [pieces_eq_splitAt fun w hw => regular_ne_nil (hws w (hsplit ▸ hw)), hsplit]

/-- What is cut into regular words but for their capitals has them as its snake form. -/
theorem snake_of_cut (hs : IsAscii s) (hcut : cut s = joinWith ['_'] bs)
    (hsmall : bs.map (List.map Char.toLower) = ws) : snake s = joinWith ['_'] ws := by
  rw [snake_eq_pieces, lower_eq_map (isAscii_cut hs), hcut, joinWith_map, hsmall]
  exact congrArg _ (pieces_regular hne hws rfl)

theorem snake_humps (hb : IsHump b)
    (hbs : ∀ x ∈ bs, IsHump x ∧ ∃ a r, x = a :: r ∧ isUpperAscii a = true)
    (hchars : ∀ c ∈ b ++ bs.flatten, isAlphanumeric c = true)
    (hsmall : (b :: bs).map (List.map Char.toLower) = ws) :
    snake (b ++ bs.flatten) = joinWith ['_'] ws := by
  have hhyphen : '-' ∉ b ++ bs.flatten := fun hmem => nomatch hchars '-' hmem
  refine snake_of_cut hne hws (fun c hc => ascii_of_isAlphanumeric (hchars c hc)) ?_ hsmall
  have hacronyms : splitAcronyms (b ++ bs.flatten) = b ++ bs.flatten := by
    rw [splitAcronyms_hump hb, splitAcronyms_humps fun x hx => (hbs x hx).1]
  rw [cut, replaceChar_of_not_mem hhyphen, hacronyms, splitHumps_humps hb hbs]

end

/-- A name of regular words. -/
structure RegularName where
  words : List (List Char)
  nonempty : words ≠ []
  regular : ∀ w ∈ words, w ∈ regularWords

namespace RegularName

variable (n : RegularName)

def toList : List Char := joinWith ['_'] n.words

def text : String := String.ofList n.toList

/-- The words one after another, each with a capital. -/
def capitalized : List Char := n.words.flatMap capitalize

section

variable {n} {c : Char} {s : List Char}

theorem isWordChar_of_mem_words {w : List Char} (hw : w ∈ n.words) :
    ∀ c ∈ w, isWordChar c = true :=
  isWordChar_of_mem_regular (n.regular w hw)

theorem mem_toList (hc : c ∈ n.toList) : c = '_' ∨ isWordChar c = true := by
  rcases mem_joinWith hc with hc | ⟨w, hw, hc⟩
  · exact .inl (List.mem_singleton.mp hc)
  · exact .inr (isWordChar_of_mem_words hw c hc)

theorem isIdentifierChar_of_mem_toList (hc : c ∈ n.toList) : isIdentifierChar c = true := by
  rcases mem_toList hc with rfl | hword
  · rfl
  · exact isIdentifierChar_of_isWordChar hword

theorem isAlphanumeric_of_mem (hc : c ∈ n.capitalized) : isAlphanumeric c = true :=
  isAlphanumeric_of_mem_capitalized (fun _ hw => isWordChar_of_mem_words hw) hc

theorem hyphen_not_mem : '-' ∉ n.toList := by
  intro hmem
  rcases mem_toList hmem with h | h <;> cases h

theorem isAscii_toList (n : RegularName) : IsAscii n.toList := fun _ hc =>
  ascii_of_isIdentifierChar (isIdentifierChar_of_mem_toList hc)

theorem snake_toList (n : RegularName) : snake n.toList = n.toList := by
  have hupper : ∀ c ∈ n.toList, isUpperAscii c = false := by
    intro c hc
    rcases mem_toList hc with rfl | hword
    · rfl
    · exact not_isUpperAscii_of_isWordChar hword
  have hsmall : n.words.map (List.map Char.toLower) = n.words := by
    rw [List.map_congr_left fun w hw => (List.map_congr_left fun c hc =>
      toLower_of_isWordChar (isWordChar_of_mem_words hw c hc)).trans (List.map_id' w), List.map_id']
  exact snake_of_cut n.nonempty n.regular n.isAscii_toList (cut_small hupper hyphen_not_mem) hsmall

/-- Names are the same regular name if they have its words for their snake form. -/
theorem words_of_snake (h : snake s = n.toList) : Naming.words s = n.words := by
  rw [Naming.words, h]
  exact pieces_regular n.nonempty n.regular rfl

theorem ne_nil_of_snake (h : snake s = n.toList) : s ≠ [] := by
  rintro rfl
  exact n.nonempty (words_of_snake h).symm

theorem pascal_of_snake (h : snake s = n.toList) : pascal s = n.capitalized := by
  rw [pascal, words_of_snake h, capitalized]

theorem kebab_of_snake (h : snake s = n.toList) : kebab s = joinWith ['-'] n.words := by
  have hkeep : n.words.map (List.map fun c => if c = '_' then '-' else c) = n.words := by
    refine (List.map_congr_left fun w hw => ?_).trans (List.map_id' _)
    refine replaceChar_of_not_mem fun hmem => ?_
    cases isWordChar_of_mem_words hw '_' hmem
  rw [kebab, h, replaceChar, toList, joinWith_map, hkeep]
  rfl

/-- The words behind the first, each with a capital. -/
theorem humps_capitalized {ws : List (List Char)} (hws : ∀ w ∈ ws, w ∈ regularWords) :
    (∀ x ∈ ws.map capitalize, IsHump x ∧ ∃ a r, x = a :: r ∧ isUpperAscii a = true) ∧
      (ws.map capitalize).map (List.map Char.toLower) = ws := by
  constructor
  · intro x hx
    obtain ⟨w, hw, rfl⟩ := List.mem_map.mp hx
    obtain ⟨a, r, heq, ha, hhump, -⟩ := capitalize_regular (hws w hw)
    exact ⟨heq ▸ hhump, a, r, heq, ha⟩
  · rw [List.map_map]
    refine (List.map_congr_left fun w hw => ?_).trans (List.map_id' ws)
    obtain ⟨a, r, heq, -, -, hsmall⟩ := capitalize_regular (hws w hw)
    rw [Function.comp_apply, heq, hsmall]

theorem exists_words (n : RegularName) : ∃ w ws, n.words = w :: ws ∧ w ∈ regularWords ∧
    ∀ v ∈ ws, v ∈ regularWords := by
  cases hwords : n.words with
  | nil => exact absurd hwords n.nonempty
  | cons w ws => exact ⟨w, ws, rfl, List.forall_mem_cons.mp (hwords ▸ n.regular)⟩

theorem snake_capitalized (n : RegularName) : snake n.capitalized = n.toList := by
  obtain ⟨w, ws, hwords, hw, hws⟩ := n.exists_words
  obtain ⟨hhumps, hsmall⟩ := humps_capitalized hws
  obtain ⟨a, r, heq, -, hhump, hback⟩ := capitalize_regular hw
  have hsplit : n.capitalized = capitalize w ++ (ws.map capitalize).flatten := by
    rw [capitalized, hwords, List.flatMap_cons, List.flatMap_def]
  rw [hsplit, toList, hwords]
  refine snake_humps (List.cons_ne_nil w ws) (List.forall_mem_cons.mpr ⟨hw, hws⟩) (heq ▸ hhump)
    hhumps (fun c hc => isAlphanumeric_of_mem (hsplit ▸ hc)) ?_
  rw [List.map_cons, heq, hback, hsmall]

theorem snake_camel (n : RegularName) : snake (camel n.toList) = n.toList := by
  obtain ⟨w, ws, hwords, hw, hws⟩ := n.exists_words
  obtain ⟨hhumps, hsmall⟩ := humps_capitalized hws
  have hsplit : camel n.toList = w ++ (ws.map capitalize).flatten := by
    rw [camel, words_of_snake (snake_toList n), hwords]
    exact congrArg _ (List.flatMap_def ..)
  have hword := isWordChar_of_mem_regular hw
  rw [hsplit, toList, hwords]
  refine snake_humps (List.cons_ne_nil w ws) (List.forall_mem_cons.mpr ⟨hw, hws⟩)
    (isHump_of_regular hw) hhumps ?_ ?_
  · refine List.forall_mem_append.mpr ⟨fun c hc => isAlphanumeric_of_isWordChar (hword c hc), ?_⟩
    rw [← List.flatMap_def]
    intro c hc
    exact isAlphanumeric_of_mem_capitalized (fun v hv => isWordChar_of_mem_regular (hws v hv)) hc
  · rw [List.map_cons, hsmall, List.map_congr_left fun c hc => toLower_of_isWordChar (hword c hc),
      List.map_id']

/-- A regular name is found again from every style that leaves its letters small. -/
theorem snake_convert (n : RegularName) {style : NamingCase} (h : style ≠ .screamingSnake) :
    convert .snake (convert style n.toList) = n.toList := by
  cases style with
  | snake => exact (congrArg snake n.snake_toList).trans n.snake_toList
  | camel => exact n.snake_camel
  | pascal => exact (congrArg snake (pascal_of_snake n.snake_toList)).trans n.snake_capitalized
  | kebab => exact (snake_kebab n.isAscii_toList).trans n.snake_toList
  | screamingSnake => exact absurd rfl h

end

/-- Whether the name with capitals is a word of the language or one of its global types. -/
def IsTaken : Prop := TypeScript.typeRules.avoids (pascal n.toList) = true

instance : Decidable n.IsTaken := inferInstanceAs (Decidable (_ = true))

/-- The name with a word more. -/
def followedBy (w : List Char) (hw : w ∈ regularWords) : RegularName where
  words := n.words ++ [w]
  nonempty := List.append_ne_nil_of_left_ne_nil n.nonempty _
  regular := List.forall_mem_append.mpr ⟨n.regular, List.forall_mem_singleton.mpr hw⟩

theorem model_mem_regularWords : "model".toList ∈ regularWords :=
  by decide +kernel

/-- The name that a type is called by. -/
def resolved : RegularName :=
  if n.IsTaken then n.followedBy "model".toList model_mem_regularWords else n

section

open TypeScript

variable {n} {s : String}

theorem words_resolved (n : RegularName) :
    n.resolved.words = n.words ++ if n.IsTaken then ["model".toList] else [] := by
  rw [resolved]
  split
  · rfl
  · rw [List.append_nil]

theorem capitalized_resolved (n : RegularName) : n.resolved.capitalized =
    n.capitalized ++ if n.IsTaken then conflictSuffix.toList else [] := by
  have hmodel : capitalize "model".toList = conflictSuffix.toList := by decide +kernel
  rw [capitalized, words_resolved, List.flatMap_append, ← capitalized]
  split
  · rw [List.flatMap_singleton, hmodel]
  · rfl

theorem not_isTaken_resolved (n : RegularName) : ¬ n.resolved.IsTaken := by
  have hascii : IsAscii n.capitalized := fun c hc =>
    ascii_of_isAlphanumeric (isAlphanumeric_of_mem hc)
  by_cases h : n.IsTaken
  · rw [IsTaken, pascal_of_snake (snake_toList _), capitalized_resolved, if_pos h,
      avoids_eq_false_iff.mpr (unreserved_append_conflictSuffix hascii)]
    exact Bool.false_ne_true
  · rwa [resolved, if_neg h]

theorem resolved_resolved (n : RegularName) : n.resolved.resolved = n.resolved := by
  rw [resolved, if_neg n.not_isTaken_resolved]

theorem guardDigit_capitalized (n : RegularName) :
    NamingRules.guardDigit n.capitalized = n.capitalized := by
  obtain ⟨w, ws, hwords, hw, -⟩ := n.exists_words
  obtain ⟨a, r, heq, ha, -⟩ := capitalize_regular hw
  have hascii : a.toNat < 0x80 := ascii_of_isAlphanumeric (by simp [isAlphanumeric, ha])
  rw [capitalized, hwords, List.flatMap_cons, heq, List.cons_append, NamingRules.guardDigit,
    isDigitSign_of_ascii hascii, not_isDigitAscii_of_isUpperAscii ha, if_neg Bool.false_ne_true]

/-- The type name of a text that is a regular name in some style. -/
theorem typeName_of_snake (hclean : typeRules.clean s.toList = s.toList)
    (h : snake s.toList = n.toList) :
    TypeScript.typeName (.str s) = String.ofList n.resolved.capitalized := by
  have havoids : typeRules.avoids n.capitalized = true ↔ n.IsTaken := by
    rw [IsTaken, pascal_of_snake (snake_toList n)]
  apply String.toList_injective
  rw [TypeScript.typeName, Value.text, Scalar.text, NamingRules.plain, hclean, convert,
    pascal_of_snake h, guardDigit_capitalized, String.toList_append, String.toList_ofList,
    String.toList_ofList, capitalized_resolved]
  by_cases htaken : n.IsTaken
  · rw [if_pos (havoids.mpr htaken), if_pos htaken]
  · rw [if_neg (mt havoids.mp htaken), if_neg htaken, String.toList_empty]

theorem fileName_of_snake (hclean : fileRules.clean s.toList = s.toList)
    (h : snake s.toList = n.toList) :
    TypeScript.fileName (.str s) = String.ofList (joinWith ['-'] n.words) := by
  apply String.toList_injective
  rw [toList_fileName, Value.text, Scalar.text, hclean, kebab_of_snake h, String.toList_ofList]

theorem clean_toList (n : RegularName) (rules : NamingRules) : rules.clean n.toList = n.toList := by
  refine clean_eq_self rules (ne_nil_of_snake (snake_toList n))
    (fun c hc => isIdentifierChar_of_mem_toList hc) ?_
  rw [← snake_toList]
  exact spaced_snake _

theorem clean_capitalized (n : RegularName) (rules : NamingRules) :
    rules.clean n.capitalized = n.capitalized := by
  refine clean_eq_self rules (ne_nil_of_snake (snake_capitalized n))
    (fun c hc => isIdentifierChar_of_isAlphanumeric (isAlphanumeric_of_mem hc)) ?_
  exact spaced_of_notMem fun hmem => nomatch isAlphanumeric_of_mem hmem

/-- The identifiers of a regular name are also those of its type name. -/
theorem identifiers_eq (n : RegularName) :
    let identifiers : Identifiers :=
      ⟨String.ofList n.resolved.capitalized, String.ofList (joinWith ['-'] n.resolved.words)⟩
    .ofName (.str n.text) = identifiers ∧ .ofName (.str identifiers.typeName) = identifiers := by
  intro identifiers
  have hfile : TypeScript.fileName (.str identifiers.typeName) = identifiers.fileName := by
    apply fileName_of_snake
    · rw [String.toList_ofList, clean_capitalized]
    · rw [String.toList_ofList, snake_capitalized]
  have hfirst : TypeScript.typeName (.str n.text) = identifiers.typeName := by
    apply typeName_of_snake
    · rw [text, String.toList_ofList, clean_toList]
    · rw [text, String.toList_ofList, snake_toList]
  have hagain : TypeScript.typeName (.str identifiers.typeName) = identifiers.typeName := by
    have heq := typeName_of_snake (n := n.resolved) (s := identifiers.typeName)
      (by rw [String.toList_ofList, clean_capitalized])
      (by rw [String.toList_ofList, snake_capitalized])
    rwa [resolved_resolved] at heq
  constructor
  · rw [Identifiers.ofName, hfirst, hfile]
  · rw [Identifiers.ofName, hagain, hfile]

/-- The file name of a regular name. -/
theorem joinWith_resolved (n : RegularName) : String.ofList (joinWith ['-'] n.resolved.words) =
    String.ofList (joinWith ['-'] n.words) ++ if n.IsTaken then "-model" else "" := by
  rw [words_resolved]
  by_cases h : n.IsTaken
  · have hmodel : String.ofList ['-'] ++ String.ofList "model".toList = "-model" := by
      decide +kernel
    rw [if_pos h, if_pos h, joinWith_append_singleton n.nonempty, String.ofList_append,
      String.ofList_append, String.append_assoc, hmodel]
  · rw [if_neg h, if_neg h, List.append_nil, String.append_empty]

theorem words_of_capitalized_eq {m : RegularName} (h : m.capitalized = n.capitalized) :
    m.words = n.words := by
  rw [← words_of_snake (snake_capitalized m), h, words_of_snake (snake_capitalized n)]

theorem words_of_joinWith_eq {m : RegularName}
    (h : joinWith ['-'] m.words = joinWith ['-'] n.words) : m.words = n.words := by
  have hpieces (k : RegularName) : pieces '-' (joinWith ['-'] k.words) = k.words :=
    pieces_regular k.nonempty k.regular rfl
  rw [← hpieces m, h, hpieces n]

end

/-- Whatever has been named before, a regular name is found again from every style that leaves its
letters small, its file name is its words with hyphens between them, its type name is its own type
name, and names of other words get other names for their types and for their files. -/
theorem styles_invertible (before : List Value) :
    let identifiers (name : String) := ((NameService.asked before).identifiers (.str name)).2
    (∀ style, style ≠ .screamingSnake → convert .snake (convert style n.toList) = n.toList) ∧
      (identifiers n.text).fileName =
        String.ofList (joinWith ['-'] n.words) ++ (if n.IsTaken then "-model" else "") ∧
      (identifiers (identifiers n.text).typeName).typeName = (identifiers n.text).typeName ∧
      ∀ m : RegularName, m.words ≠ n.words → ¬ m.IsTaken → ¬ n.IsTaken →
        (identifiers m.text).typeName ≠ (identifiers n.text).typeName ∧
          (identifiers m.text).fileName ≠ (identifiers n.text).fileName := by
  intro identifiers
  have hnames (name : String) : identifiers name = .ofName (.str name) :=
    ((NameService.faithful_asked before).identifiers (.str name)).1
  obtain ⟨hfirst, hagain⟩ := n.identifiers_eq
  refine ⟨fun style hstyle => n.snake_convert hstyle, ?_, ?_, ?_⟩
  · rw [hnames, hfirst]
    exact n.joinWith_resolved
  · rw [hnames, hnames, hfirst]
    exact congrArg Identifiers.typeName hagain
  · intro m hwords hm hn
    have hresolved {k : RegularName} (hk : ¬ k.IsTaken) : k.resolved = k := if_neg hk
    rw [hnames, hnames, hfirst, m.identifiers_eq.1, hresolved hm, hresolved hn]
    constructor
    · intro heq
      exact hwords (words_of_capitalized_eq (String.ofList_injective heq))
    · intro heq
      exact hwords (words_of_joinWith_eq (String.ofList_injective heq))

/-- Two names with the same letters, but different words. -/
theorem styles_invertible_sales :
    let m : RegularName := ⟨["salesv2".toList], by decide, by decide +kernel⟩
    let n : RegularName := ⟨["sales".toList, "v2".toList], by decide, by decide +kernel⟩
    let identifiers (name : String) := ((NameService.asked []).identifiers (.str name)).2
    (NamingCase.camel ≠ .screamingSnake ∧ convert .snake (convert .camel n.toList) = n.toList) ∧
      (m.words ≠ n.words ∧ ¬ m.IsTaken ∧ ¬ n.IsTaken) ∧
      (identifiers m.text).typeName ≠ (identifiers n.text).typeName ∧
        (identifiers m.text).fileName ≠ (identifiers n.text).fileName := by
  intro m n identifiers
  have hapart : m.words ≠ n.words ∧ ¬ m.IsTaken ∧ ¬ n.IsTaken := by decide +kernel
  obtain ⟨hstyles, -, -, hnames⟩ := n.styles_invertible []
  exact ⟨⟨by decide, hstyles .camel (by decide)⟩, hapart,
    hnames m hapart.1 hapart.2.1 hapart.2.2⟩

example :
    let n : RegularName := ⟨["instance".toList, "of".toList], by decide, by decide +kernel⟩
    n.IsTaken ∧ Identifiers.ofName (.str n.text) = ⟨"InstanceOfModel", "instance-of-model"⟩ := by
  decide +kernel

end RegularName

end Naming

end TypeStencil
