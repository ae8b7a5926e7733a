import Mathlib.Data.List.TakeWhile
import TypeStencil.Naming.TypeScript

/-!
The letters of file names. Whatever a resource is called, the name of its file is made of small
letters, digits and hyphens, and it is not empty.
-/
namespace TypeStencil

open Text

/-- What holds of all characters below 128 holds of each of them. -/
theorem ascii_induction {P : Char → Prop} (h : ∀ n : Fin 128, P (Char.ofNat n)) {c : Char}
    (hc : c.toNat < 0x80) : P c := by
  have hofNat := h ⟨c.toNat, hc⟩
  rwa [Char.ofNat_toNat] at hofNat

section

variable {p : Char → Bool} {s : List Char} {c : Char}

namespace Naming

theorem mem_dropWhile_of_not (h : c ∈ s) (hc : p c = false) : c ∈ s.dropWhile p := by
  rw [← List.takeWhile_append_dropWhile (p := p) (l := s), List.mem_append] at h
  rcases h with h | h
  · rw [List.mem_takeWhile_imp h] at hc
    cases hc
  · exact h

theorem mem_of_mem_trim (h : c ∈ trim p s) : c ∈ s := by
  rw [trim, List.mem_reverse] at h
  have hfront := (List.dropWhile_sublist p).mem h
  rw [List.mem_reverse] at hfront
  exact (List.dropWhile_sublist p).mem hfront

/-- Trimming loses nothing but characters of its class. -/
theorem mem_trim (h : c ∈ s) (hc : p c = false) : c ∈ trim p s := by
  rw [trim, List.mem_reverse]
  exact mem_dropWhile_of_not (List.mem_reverse.mpr (mem_dropWhile_of_not h hc)) hc

/-- What is left of a trimmed text is not of the class alone. -/
theorem exists_of_trim_ne_nil (h : trim p s ≠ []) : ∃ c ∈ s, p c = false := by
  by_contra hnone
  have hall : ∀ c ∈ s, p c = true := fun c hc => by
    by_contra hpc
    exact hnone ⟨c, hc, Bool.not_eq_true _ ▸ hpc⟩
  refine h ?_
  rw [trim, List.dropWhile_eq_nil_iff.mpr hall]
  rfl

/-- Cutting a name into words adds nothing but underscores. -/
theorem mem_splitAcronyms (hc : c ≠ '_') : c ∈ splitAcronyms s ↔ c ∈ s := by
  fun_induction splitAcronyms s with
  | case1 a b d r _ ih => simp [ih, hc]
  | case2 a b d r _ ih => simp [ih]
  | case3 => rfl

theorem mem_splitHumps (hc : c ≠ '_') : c ∈ splitHumps s ↔ c ∈ s := by
  fun_induction splitHumps s with
  | case1 a b r _ ih => simp [ih, hc]
  | case2 a b r _ ih => simp [ih]
  | case3 => rfl

theorem mem_squeeze : c ∈ squeeze s ↔ c ∈ s := by
  fun_induction squeeze s with
  | case1 r ih => simp [ih]
  | case2 d r _ ih => simp [ih]
  | case3 => rfl

theorem mem_replaceChar {old new : Char} (hnew : c ≠ new) :
    c ∈ replaceChar old new s ↔ c ∈ s ∧ c ≠ old := by
  simp only [replaceChar, List.mem_map]
  constructor
  · rintro ⟨d, hd, rfl⟩
    split
    · rename_i heq
      exact absurd (if_pos heq) hnew
    · rename_i hne
      exact ⟨hd, hne⟩
  · rintro ⟨hmem, hne⟩
    exact ⟨c, hmem, if_neg hne⟩

/-- A name cut into words, with an underscore for every hyphen. -/
def cut (s : List Char) : List Char :=
  splitHumps (splitAcronyms (replaceChar '-' '_' s))

theorem mem_cut (hc : c ≠ '_') : c ∈ cut s ↔ c ∈ s ∧ c ≠ '-' := by
  rw [cut, mem_splitHumps hc, mem_splitAcronyms hc, mem_replaceChar hc]

/-- The small letters and the digits. -/
def isWordChar (c : Char) : Bool :=
  isLowerAscii c || isDigitAscii c

end Naming

open NamingRules Naming

theorem ascii_of_isNameChar (h : isNameChar c = true) : c.toNat < 0x80 := by
  simp only [isNameChar, isUpperAscii, isLowerAscii, isDigitAscii, Bool.or_eq_true,
    Bool.and_eq_true, decide_eq_true_eq, beq_iff_eq, Char.le_def, UInt32.le_iff_toNat_le] at h
  rcases h with (((⟨-, h⟩ | ⟨-, h⟩) | ⟨-, h⟩) | rfl) | rfl
  · exact Nat.lt_of_le_of_lt h (by decide)
  · exact Nat.lt_of_le_of_lt h (by decide)
  · exact Nat.lt_of_le_of_lt h (by decide)
  · decide
  · decide

theorem isWordChar_toLower (h : isNameChar c = true) (hhyphen : c ≠ '-') (hunderscore : c ≠ '_') :
    isWordChar c.toLower = true := by
  refine ascii_induction (P := fun c => isNameChar c = true → c ≠ '-' → c ≠ '_' →
    isWordChar c.toLower = true) ?_ (ascii_of_isNameChar h) h hhyphen hunderscore
  decide +kernel

theorem isAscii_of_isNameChar (hs : ∀ c ∈ s, isNameChar c = true) : IsAscii s :=
  fun c hc => ascii_of_isNameChar (hs c hc)

theorem toLower_of_not_isUpperAscii (h : isUpperAscii c = false) : c.toLower = c := by
  rw [← Bool.not_eq_true, isUpperAscii, Bool.and_eq_true, decide_eq_true_eq, decide_eq_true_eq] at h
  exact dif_neg h

/-- No letter becomes an underscore when it is made small. -/
theorem toLower_eq_underscore (c : Char) : c.toLower = '_' ↔ c = '_' := by
  cases h : isUpperAscii c with
  | false => rw [toLower_of_not_isUpperAscii h]
  | true =>
      have hword : isWordChar c.toLower = true := by
        refine isWordChar_toLower (by simp [isNameChar, h]) ?_ ?_ <;>
          rintro rfl <;> cases h
      refine iff_of_false ?_ ?_
      · intro heq
        rw [heq] at hword
        cases hword
      · rintro rfl
        cases h

theorem isAscii_cut (h : IsAscii s) : IsAscii (cut s) := by
  intro c hc
  by_cases hunderscore : c = '_'
  · rw [hunderscore]
    decide
  · exact h c ((mem_cut hunderscore).mp hc).1

/-- The snake form has the characters of a name that are no separators, made small. -/
theorem mem_snake (h : IsAscii s) (hc : c ≠ '_') :
    c ∈ snake s ↔ ∃ d ∈ s, d ≠ '-' ∧ d ≠ '_' ∧ d.toLower = c := by
  have hlower : lower (cut s) = (cut s).map Char.toLower := lower_eq_map (isAscii_cut h)
  have hsnake : snake s = trim (· == '_') (squeeze ((cut s).map Char.toLower)) := by
    rw [← hlower]
    rfl
  rw [hsnake]
  constructor
  · intro h
    obtain ⟨d, hd, rfl⟩ := List.mem_map.mp (mem_squeeze.mp (mem_of_mem_trim h))
    have hunderscore : d ≠ '_' := by
      rintro rfl
      exact hc rfl
    obtain ⟨hmem, hhyphen⟩ := (mem_cut hunderscore).mp hd
    exact ⟨d, hmem, hhyphen, hunderscore, rfl⟩
  · rintro ⟨d, hd, hhyphen, hunderscore, rfl⟩
    refine mem_trim (mem_squeeze.mpr ?_) (beq_eq_false_iff_ne.mpr hc)
    exact List.mem_map_of_mem ((mem_cut hunderscore).mpr ⟨hd, hhyphen⟩)

section

variable (hs : ∀ c ∈ s, isNameChar c = true)

include hs

theorem isWordChar_of_mem_snake (h : c ∈ snake s) (hc : c ≠ '_') : isWordChar c = true := by
  obtain ⟨d, hd, hhyphen, hunderscore, rfl⟩ := (mem_snake (isAscii_of_isNameChar hs) hc).mp h
  exact isWordChar_toLower (hs d hd) hhyphen hunderscore

theorem mem_kebab (h : c ∈ kebab s) : c = '-' ∨ isWordChar c = true := by
  obtain ⟨d, hd, rfl⟩ := List.mem_map.mp h
  split
  · exact .inl rfl
  · rename_i hne
    exact .inr (isWordChar_of_mem_snake hs hd hne)

/-- A name with a letter or a digit has a kebab form with one. -/
theorem exists_mem_kebab (h : ∃ c ∈ s, c ≠ '-' ∧ c ≠ '_') : ∃ c ∈ kebab s, isWordChar c = true := by
  obtain ⟨d, hd, hhyphen, hunderscore⟩ := h
  have hword := isWordChar_toLower (hs d hd) hhyphen hunderscore
  have hne : d.toLower ≠ '_' := mt (toLower_eq_underscore d).mp hunderscore
  have hmem := (mem_snake (isAscii_of_isNameChar hs) hne).mpr ⟨d, hd, hhyphen, hunderscore, rfl⟩
  exact ⟨d.toLower, List.mem_map.mpr ⟨_, hmem, if_neg hne⟩, hword⟩

end

namespace NamingRules

/-- Names for the nameless are made of letters that names are made of, and not of separators
alone. -/
def NamesNameless (rules : NamingRules) : Prop :=
  rules.emptyName.toList.all isNameChar = true ∧
    ∃ c ∈ rules.emptyName.toList, c ≠ '-' ∧ c ≠ '_'

variable {rules : NamingRules} (hrules : rules.NamesNameless) (name : List Char)

include hrules

theorem isNameChar_of_mem_clean : ∀ c ∈ rules.clean name, isNameChar c = true := by
  intro c hc
  rw [clean] at hc
  split at hc
  · exact List.all_eq_true.mp hrules.1 c hc
  · obtain ⟨d, -, rfl⟩ := List.mem_map.mp (mem_of_mem_trim hc)
    split
    · assumption
    · decide

theorem exists_mem_clean : ∃ c ∈ rules.clean name, c ≠ '-' ∧ c ≠ '_' := by
  rw [clean]
  split
  · exact hrules.2
  · rename_i hne
    obtain ⟨c, hc, hseparator⟩ := exists_of_trim_ne_nil fun h => hne (List.isEmpty_iff.mpr h)
    refine ⟨c, mem_trim hc hseparator, ?_⟩
    simpa [and_comm] using hseparator

end NamingRules

end

namespace TypeScript

open Naming

theorem fileRules_namesNameless : fileRules.NamesNameless := by
  have hname : fileRules.emptyName.toList = ['M', 'o', 'd', 'e', 'l'] := by
    simp [fileRules, defaultName]
  rw [NamingRules.NamesNameless, hname]
  exact ⟨by decide, 'M', by decide⟩

/-- The underscore that keeps a digit from the front is dropped again. -/
theorem dropWhile_guardDigit {s : List Char} (h : '_' ∉ s) :
    (NamingRules.guardDigit s).dropWhile (· == '_') = s := by
  have hdrop : s.dropWhile (· == '_') = s := by
    cases s with
    | nil => rfl
    | cons c r =>
        have hc : (c == '_') = false := beq_eq_false_iff_ne.mpr (Ne.symm (List.ne_of_not_mem_cons h))
        rw [List.dropWhile_cons_of_neg (by rw [hc]; exact Bool.false_ne_true)]
  cases s with
  | nil => rfl
  | cons c r =>
      rw [NamingRules.guardDigit]
      split
      · rw [List.dropWhile_cons_of_pos rfl, hdrop]
      · exact hdrop

/-- A file name is the kebab form of the cleaned name. -/
theorem toList_fileName (name : Value) :
    (fileName name).toList = kebab (fileRules.clean name.text.toList) := by
  have hunderscore : '_' ∉ kebab (fileRules.clean name.text.toList) := by
    intro hmem
    rcases mem_kebab (NamingRules.isNameChar_of_mem_clean fileRules_namesNameless _) hmem with h | h
    · exact absurd h (by decide)
    · exact absurd h (by decide)
  have havoids : ∀ s, fileRules.avoids s = false := fun _ => rfl
  rw [fileName, dropUnderscores, String.toList_ofList, NamingRules.plain, havoids,
    if_neg Bool.false_ne_true, String.append_empty, String.toList_ofList]
  exact dropWhile_guardDigit hunderscore

/-- The letters of file names. -/
def isFileNameChar (c : Char) : Bool :=
  isWordChar c || c == '-'

theorem isFileNameChar_of_mem {name : Value} {c : Char} (h : c ∈ (fileName name).toList) :
    isFileNameChar c = true := by
  rw [toList_fileName] at h
  rw [isFileNameChar, Bool.or_eq_true, beq_iff_eq, or_comm]
  exact mem_kebab (NamingRules.isNameChar_of_mem_clean fileRules_namesNameless _) h

theorem fileName_ne_empty (name : Value) : fileName name ≠ "" := by
  have hclean := NamingRules.isNameChar_of_mem_clean fileRules_namesNameless name.text.toList
  obtain ⟨c, hc, -⟩ := exists_mem_kebab hclean
    (NamingRules.exists_mem_clean fileRules_namesNameless _)
  rw [← toList_fileName] at hc
  rintro heq
  rw [heq] at hc
  cases hc

theorem not_mem_fileName {c : Char} (h : isFileNameChar c = false) (name : Value) :
    c ∉ (fileName name).toList := by
  intro hmem
  rw [isFileNameChar_of_mem hmem] at h
  cases h

/-- A file name with something behind it is more than dots. -/
theorem fileName_append_ne {s : String} (h : ∀ c ∈ s.toList, c = '.') (name : Value)
    (extension : String) : fileName name ++ extension ≠ s := by
  rintro rfl
  cases hname : (fileName name).toList with
  | nil => exact fileName_ne_empty name (String.toList_eq_nil_iff.mp hname)
  | cons c r =>
      have hc : c ∈ (fileName name).toList := hname ▸ List.mem_cons_self
      obtain rfl := h c (by rw [String.toList_append]; exact List.mem_append_left _ hc)
      exact not_mem_fileName (by decide) name hc

end TypeScript

end TypeStencil
