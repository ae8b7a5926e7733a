import Mathlib.Computability.Language
import TypeStencil.Proofs.Naming.Remembering
import TypeStencil.Proofs.Naming.Words

/-!
The grammar of the names of artifacts. A type name is a capital with letters and digits behind it,
or an underscore, a digit, and letters and digits; a file name is words of small letters and digits
with single hyphens between them. Whatever a resource is called, and whatever was named before it,
its names are of these forms.
-/
namespace TypeStencil

namespace Naming

open Text Computability

/-- One character of a class. -/
def one (p : Char → Bool) : Language Char :=
  {s | ∃ c, p c = true ∧ s = [c]}

/-- Any number of characters of a class. -/
def many (p : Char → Bool) : Language Char :=
  (one p)∗

def isAlphanumeric (c : Char) : Bool :=
  isUpperAscii c || isLowerAscii c || isDigitAscii c

def typeNames : Language Char :=
  one isUpperAscii * many isAlphanumeric + {['_']} * one isDigitAscii * many isAlphanumeric

def fileNames : Language Char :=
  one isWordChar * many isWordChar * ({['-']} * (one isWordChar * many isWordChar))∗

section

variable {p : Char → Bool} {c d : Char} {r s w : List Char}

theorem mem_many : s ∈ many p ↔ ∀ c ∈ s, p c = true := by
  constructor
  · rintro ⟨pieces, rfl, hpieces⟩ c hc
    obtain ⟨piece, hpiece, hmem⟩ := List.mem_flatten.mp hc
    obtain ⟨d, hd, rfl⟩ := hpieces piece hpiece
    obtain rfl := List.mem_singleton.mp hmem
    exact hd
  · intro h
    refine ⟨s.map fun c => [c], ?_, ?_⟩
    · rw [← List.flatMap_def, List.flatMap_singleton']
    · intro piece hpiece
      obtain ⟨c, hc, rfl⟩ := List.mem_map.mp hpiece
      exact ⟨c, h c hc, rfl⟩

theorem mem_one_many : s ∈ one p * many p ↔ s ≠ [] ∧ ∀ c ∈ s, p c = true := by
  rw [Language.mem_mul]
  constructor
  · rintro ⟨_, ⟨c, hc, rfl⟩, rest, hrest, rfl⟩
    refine ⟨List.cons_ne_nil _ _, ?_⟩
    exact List.forall_mem_cons.mpr ⟨hc, mem_many.mp hrest⟩
  · rintro ⟨hne, hall⟩
    cases s with
    | nil => exact absurd rfl hne
    | cons c r =>
        obtain ⟨hc, hr⟩ := List.forall_mem_cons.mp hall
        exact ⟨[c], ⟨c, hc, rfl⟩, r, mem_many.mpr hr, rfl⟩

theorem cons_mem_typeNames (hc : isUpperAscii c = true) (hr : ∀ d ∈ r, isAlphanumeric d = true) :
    c :: r ∈ typeNames :=
  .inl (Language.append_mem_mul (a := [c]) ⟨c, hc, rfl⟩ (mem_many.mpr hr))

theorem guarded_mem_typeNames (hc : isDigitAscii c = true)
    (hr : ∀ d ∈ r, isAlphanumeric d = true) : '_' :: c :: r ∈ typeNames := by
  have hstart : ['_', c] ∈ ({['_']} : Language Char) * one isDigitAscii :=
    Language.append_mem_mul (a := ['_']) rfl ⟨c, hc, rfl⟩
  exact .inr (Language.append_mem_mul hstart (mem_many.mpr hr))

/-- Words with a mark before each but the first. -/
theorem joinWith_cons (mark w : List Char) (ws : List (List Char)) :
    joinWith mark (w :: ws) = w ++ (ws.map (mark ++ ·)).flatten := by
  induction ws generalizing w with
  | nil => simp [joinWith]
  | cons v rest ih => simp [joinWith, ih]

theorem joinWith_mem_fileNames {ws : List (List Char)} (hws : ws ≠ [])
    (h : ∀ w ∈ ws, w ≠ [] ∧ ∀ c ∈ w, isWordChar c = true) : joinWith ['-'] ws ∈ fileNames := by
  cases ws with
  | nil => exact absurd rfl hws
  | cons w rest =>
      obtain ⟨hw, hrest⟩ := List.forall_mem_cons.mp h
      rw [joinWith_cons]
      refine Language.append_mem_mul (mem_one_many.mpr hw) (Language.join_mem_kstar ?_)
      intro piece hpiece
      obtain ⟨v, hv, rfl⟩ := List.mem_map.mp hpiece
      exact Language.append_mem_mul rfl (mem_one_many.mpr (hrest v hv))

theorem spaced_of_notMem {mark : Char} (h : mark ∉ s) : Spaced mark s := by
  refine ⟨?_, ?_, ?_⟩
  · intro hhead
    exact h (List.mem_of_head? hhead)
  · intro hlast
    exact h (List.mem_of_getLast? hlast)
  · refine List.Pairwise.isChain (List.pairwise_of_forall_mem_list ?_)
    intro a ha b _
    refine .inl ?_
    rintro rfl
    exact h ha

/-- A word, a mark, and a spaced text are spaced. -/
theorem Spaced.word_append {mark : Char} (h : Spaced mark s) (hs : s ≠ []) (hw : w ≠ [])
    (hmark : mark ∉ w) : Spaced mark (w ++ mark :: s) := by
  have hword := spaced_of_notMem hmark
  refine ⟨?_, ?_, List.isChain_append.mpr ⟨hword.apart, List.isChain_cons.mpr ⟨?_, h.apart⟩, ?_⟩⟩
  · rw [List.head?_append_of_ne_nil _ hw]
    exact hword.front
  · rw [List.getLast?_append_of_ne_nil _ (List.cons_ne_nil _ _), List.getLast?_cons_of_ne_nil hs]
    exact h.back
  · intro d hd
    refine .inr ?_
    rintro rfl
    exact h.front hd
  · intro c hc d _
    refine .inl ?_
    rintro rfl
    exact hmark (List.mem_of_getLast? hc)

theorem isWordChar_ne_hyphen (h : ∀ c ∈ w, isWordChar c = true) : '-' ∉ w := by
  intro hmem
  have hhyphen := h _ hmem
  revert hhyphen
  decide

theorem isFileNameChar_of_isWordChar (h : isWordChar c = true) :
    TypeScript.isFileNameChar c = true := by
  rw [TypeScript.isFileNameChar, h, Bool.true_or]

/-- No hyphen stands at an end or next to another one where each is followed by a word. -/
theorem spaced_of_pieces {pieces : List (List Char)} (hne : w ≠ [])
    (hall : ∀ c ∈ w, isWordChar c = true)
    (hpieces : ∀ piece ∈ pieces, piece ∈ {['-']} * (one isWordChar * many isWordChar)) :
    w ++ pieces.flatten ≠ [] ∧
      (∀ c ∈ w ++ pieces.flatten, TypeScript.isFileNameChar c = true) ∧
      Spaced '-' (w ++ pieces.flatten) := by
  induction pieces generalizing w with
  | nil =>
      rw [List.flatten_nil, List.append_nil]
      exact ⟨hne, fun c hc => isFileNameChar_of_isWordChar (hall c hc),
        spaced_of_notMem (isWordChar_ne_hyphen hall)⟩
  | cons piece rest ih =>
      obtain ⟨hpiece, hrest⟩ := List.forall_mem_cons.mp hpieces
      obtain ⟨_, rfl, v, hv, rfl⟩ := hpiece
      obtain ⟨hvne, hvall⟩ := mem_one_many.mp hv
      obtain ⟨hmore, hchars, hspaced⟩ := ih hvne hvall hrest
      have hword : ∀ c ∈ w, TypeScript.isFileNameChar c = true := fun c hc =>
        isFileNameChar_of_isWordChar (hall c hc)
      rw [List.flatten_cons, List.append_assoc, List.singleton_append]
      exact ⟨List.append_ne_nil_of_left_ne_nil hne _,
        List.forall_mem_append.mpr ⟨hword, List.forall_mem_cons.mpr ⟨rfl, hchars⟩⟩,
        hspaced.word_append hmore hne (isWordChar_ne_hyphen hall)⟩

/-- Words with hyphens between them are the texts of small letters, digits and hyphens in which no
hyphen stands at an end or next to another one. -/
theorem mem_fileNames_iff : s ∈ fileNames ↔
    s ≠ [] ∧ (∀ c ∈ s, TypeScript.isFileNameChar c = true) ∧ Spaced '-' s := by
  constructor
  · rintro ⟨w, hw, _, ⟨pieces, rfl, hpieces⟩, rfl⟩
    obtain ⟨hne, hall⟩ := mem_one_many.mp hw
    exact spaced_of_pieces hne hall hpieces
  · rintro ⟨hne, hall, hspaced⟩
    rw [← joinWith_splitAt '-' s]
    refine joinWith_mem_fileNames (splitAt_ne_nil _ _) ?_
    intro w hw
    refine ⟨hspaced.pieces_ne_nil hne w hw, ?_⟩
    intro c hc
    obtain ⟨hmem, hhyphen⟩ := mem_of_mem_piece hw hc
    have hchar := hall c hmem
    rw [TypeScript.isFileNameChar, Bool.or_eq_true, beq_iff_eq] at hchar
    exact hchar.resolve_right hhyphen

theorem ascii_of_isWordChar (h : isWordChar c = true) : c.toNat < 0x80 := by
  apply ascii_of_isNameChar
  rw [isWordChar, Bool.or_eq_true] at h
  rcases h with h | h <;> simp [NamingRules.isNameChar, h]

theorem toLower_of_isWordChar (h : isWordChar c = true) : c.toLower = c := by
  refine ascii_induction (P := fun c => isWordChar c = true → c.toLower = c) ?_
    (ascii_of_isWordChar h) h
  decide +kernel

theorem capitalize_of_word (h : ∀ d ∈ c :: r, isWordChar d = true) :
    capitalize (c :: r) = c.toUpper :: r := by
  obtain ⟨hc, hr⟩ := List.forall_mem_cons.mp h
  have hascii : IsAscii r := fun d hd => ascii_of_isWordChar (hr d hd)
  have hsmall : r.map Char.toLower = r := by
    rw [List.map_congr_left fun d hd => toLower_of_isWordChar (hr d hd), List.map_id']
  rw [capitalize, titleChar, if_pos (ascii_of_isWordChar hc), lowerFrom_eq_map hascii, hsmall]
  rfl

theorem isAlphanumeric_of_isWordChar (h : isWordChar c = true) : isAlphanumeric c = true := by
  rw [isWordChar, Bool.or_eq_true] at h
  rcases h with h | h <;> simp [isAlphanumeric, h]

theorem toUpper_of_isWordChar (h : isWordChar c = true) :
    isUpperAscii c.toUpper = true ∨ isDigitAscii c.toUpper = true := by
  refine ascii_induction (P := fun c => isWordChar c = true →
    isUpperAscii c.toUpper = true ∨ isDigitAscii c.toUpper = true) ?_ (ascii_of_isWordChar h) h
  decide +kernel

theorem isAlphanumeric_toUpper (h : isWordChar c = true) : isAlphanumeric c.toUpper = true := by
  rcases toUpper_of_isWordChar h with h | h <;> simp [isAlphanumeric, h]

theorem isAlphanumeric_of_mem_capitalize (hw : ∀ c ∈ w, isWordChar c = true)
    (hc : c ∈ capitalize w) : isAlphanumeric c = true := by
  cases w with
  | nil => cases hc
  | cons d r =>
      rw [capitalize_of_word hw] at hc
      obtain ⟨hd, hr⟩ := List.forall_mem_cons.mp hw
      rcases List.mem_cons.mp hc with rfl | hc
      · exact isAlphanumeric_toUpper hd
      · exact isAlphanumeric_of_isWordChar (hr c hc)

theorem isAlphanumeric_of_mem_capitalized {ws : List (List Char)}
    (hws : ∀ w ∈ ws, ∀ c ∈ w, isWordChar c = true) (hc : c ∈ ws.flatMap capitalize) :
    isAlphanumeric c = true := by
  obtain ⟨w, hw, hmem⟩ := List.mem_flatMap.mp hc
  exact isAlphanumeric_of_mem_capitalize (hws w hw) hmem

/-- A Pascal form starts with a capital or a digit. -/
theorem pascal_eq_cons (hs : ∀ c ∈ s, NamingRules.isNameChar c = true)
    (h : ∃ c ∈ s, c ≠ '-' ∧ c ≠ '_') : ∃ c r, pascal s = c :: r ∧
      (isUpperAscii c = true ∨ isDigitAscii c = true) ∧ ∀ d ∈ r, isAlphanumeric d = true := by
  have hne := words_ne_nil (snake_ne_nil (isAscii_of_isNameChar hs) h)
  have hall : ∀ w ∈ words s, ∀ c ∈ w, isWordChar c = true := fun w hw c hc =>
    isWordChar_of_mem_word hs hw hc
  have hnonempty : ∀ w ∈ words s, w ≠ [] := fun w hw => word_ne_nil hw
  rw [pascal]
  cases hws : words s with
  | nil => exact absurd hws hne
  | cons w rest =>
      rw [hws] at hall hnonempty
      obtain ⟨hw, hrest⟩ := List.forall_mem_cons.mp hall
      cases w with
      | nil => exact absurd rfl (hnonempty [] List.mem_cons_self)
      | cons a v =>
          obtain ⟨ha, hv⟩ := List.forall_mem_cons.mp hw
          refine ⟨a.toUpper, v ++ rest.flatMap capitalize, ?_, toUpper_of_isWordChar ha, ?_⟩
          · rw [List.flatMap_cons, capitalize_of_word hw, List.cons_append]
          · intro d hd
            rcases List.mem_append.mp hd with hd | hd
            · exact isAlphanumeric_of_isWordChar (hv d hd)
            · exact isAlphanumeric_of_mem_capitalized hrest hd

theorem isDigitSign_of_ascii (h : c.toNat < 0x80) : isDigitSign c = isDigitAscii c := by
  refine ascii_induction (P := fun c => isDigitSign c = isDigitAscii c) ?_ h
  decide +kernel

theorem ascii_of_isAlphanumeric (h : isAlphanumeric c = true) : c.toNat < 0x80 := by
  apply ascii_of_isNameChar
  simp only [isAlphanumeric, Bool.or_eq_true] at h
  rcases h with (h | h) | h <;> simp [NamingRules.isNameChar, h]

theorem not_isDigitAscii_of_isUpperAscii (h : isUpperAscii c = true) : isDigitAscii c = false := by
  have hascii : c.toNat < 0x80 := ascii_of_isAlphanumeric (by simp [isAlphanumeric, h])
  refine ascii_induction (P := fun c => isUpperAscii c = true → isDigitAscii c = false) ?_ hascii h
  decide +kernel

/-- A name of capitals, small letters and digits that starts with no small letter is a type name
once its digit is guarded, with more letters and digits behind it too. -/
theorem guarded_append_mem_typeNames {more : List Char}
    (hc : isUpperAscii c = true ∨ isDigitAscii c = true)
    (hr : ∀ d ∈ r, isAlphanumeric d = true) (hmore : ∀ d ∈ more, isAlphanumeric d = true) :
    NamingRules.guardDigit (c :: r) ++ more ∈ typeNames := by
  have hall : ∀ d ∈ r ++ more, isAlphanumeric d = true := List.forall_mem_append.mpr ⟨hr, hmore⟩
  have hascii : c.toNat < 0x80 := by
    apply ascii_of_isAlphanumeric
    rcases hc with hc | hc <;> simp [isAlphanumeric, hc]
  rw [NamingRules.guardDigit, isDigitSign_of_ascii hascii]
  rcases hc with hc | hc
  · rw [not_isDigitAscii_of_isUpperAscii hc, if_neg Bool.false_ne_true]
    exact cons_mem_typeNames hc hall
  · rw [hc, if_pos rfl]
    exact guarded_mem_typeNames hc hall

end

end Naming

namespace TypeScript

open Naming

theorem typeRules_namesNameless : typeRules.NamesNameless :=
  fileRules_namesNameless

theorem typeName_mem (name : Value) : (typeName name).toList ∈ typeNames := by
  obtain ⟨c, r, hpascal, hc, hr⟩ := pascal_eq_cons
    (NamingRules.isNameChar_of_mem_clean typeRules_namesNameless name.text.toList)
    (NamingRules.exists_mem_clean typeRules_namesNameless name.text.toList)
  have hsuffix : ∀ d ∈ conflictSuffix.toList, isAlphanumeric d = true := by
    have hletters : conflictSuffix.toList = ['M', 'o', 'd', 'e', 'l'] := by simp [conflictSuffix]
    rw [hletters]
    exact List.all_eq_true.mp (by decide)
  rw [typeName, NamingRules.plain, convert, hpascal, String.toList_append, String.toList_ofList]
  refine guarded_append_mem_typeNames hc hr ?_
  split
  · exact hsuffix
  · intro d hd
    cases hd

theorem fileName_mem (name : Value) : (fileName name).toList ∈ fileNames := by
  have hclean := NamingRules.isNameChar_of_mem_clean fileRules_namesNameless name.text.toList
  refine mem_fileNames_iff.mpr ⟨?_, fun c hc => isFileNameChar_of_mem hc, ?_⟩
  · intro hnil
    exact fileName_ne_empty name (String.toList_eq_nil_iff.mp hnil)
  · rw [toList_fileName]
    exact spaced_kebab hclean

end TypeScript

/-- Whatever has been named before, a resource of any name gets a type name and a file name of
their grammars. -/
theorem NameService.identifiers_mem (before : List Value) (name : Value) :
    let identifiers := ((asked before).identifiers name).2
    identifiers.typeName.toList ∈ Naming.typeNames ∧
      identifiers.fileName.toList ∈ Naming.fileNames := by
  intro identifiers
  have hidentifiers : identifiers = Identifiers.ofName name :=
    ((faithful_asked before).identifiers name).1
  rw [hidentifiers]
  exact ⟨TypeScript.typeName_mem name, TypeScript.fileName_mem _⟩

example : Identifiers.ofName (.str "2nd--class_") = ⟨"_2ndClass", "2nd-class"⟩ := by
  decide +kernel

end TypeStencil
