import Mathlib.Data.List.TakeWhile
import TypeStencil.Proofs.Naming.FileNames
import TypeStencil.Proofs.Text.Patterns

/-!
Names cut into words by patterns. The underscores that the snake form gets at the capitals of a
name, each from the characters next to it alone, are those that two substitutions write, one after
the other and each from left to right, although the pattern of the first goes over whole runs of
capitals.
-/
namespace TypeStencil.Naming

open Text

/-- Capitals in front of a capital and a small letter. -/
def acronyms : Pattern := ⟨.many isUpperAscii, [.one isUpperAscii, .one isLowerAscii]⟩

/-- A small letter or digit in front of a capital. -/
def humps : Pattern := ⟨.one isWordChar, [.one isUpperAscii]⟩

def underscores : Pattern := ⟨.many (· == '_'), []⟩

/-- A match with an underscore behind its first part. -/
def parted : List (List Char) → List Char
  | [] => []
  | w :: more => w ++ '_' :: more.flatten

/-- The snake form of a name, by one substitution after another. -/
def substituted (s : List Char) : List Char :=
  let cut := humps.substitute parted (acronyms.substitute parted (replaceChar '-' '_' s))
  trim (· == '_') (underscores.substitute (fun _ => ['_']) (lower cut))

/-- Whether a text begins with the end of an acronym, the capital of the next word behind it. -/
def endsAcronym : List Char → Bool
  | a :: b :: c :: _ => isUpperAscii a && isUpperAscii b && isLowerAscii c
  | _ => false

/-- Whether a text begins with the end of a word, a capital behind it. -/
def endsHump : List Char → Bool
  | a :: b :: _ => isWordChar a && isUpperAscii b
  | _ => false

section

variable {a b c : Char} {r rest s u : List Char} {texts : List (List Char)}

theorem splitAcronyms_cons (a : Char) (r : List Char) : splitAcronyms (a :: r) =
    if endsAcronym (a :: r) then a :: '_' :: splitAcronyms r else a :: splitAcronyms r := by
  match r with
  | [] => rfl
  | [b] => rfl
  | b :: c :: r => rw [splitAcronyms, endsAcronym]

theorem splitHumps_cons (a : Char) (r : List Char) : splitHumps (a :: r) =
    if endsHump (a :: r) then a :: '_' :: splitHumps r else a :: splitHumps r := by
  match r with
  | [] => rfl
  | b :: r => rw [splitHumps, endsHump, isWordChar]

theorem not_isWordChar_of_isUpperAscii (h : isUpperAscii c = true) : isWordChar c = false := by
  have hascii : c.toNat < 0x80 := ascii_of_isNameChar (by simp [NamingRules.isNameChar, h])
  refine ascii_induction (P := fun c => isUpperAscii c = true → isWordChar c = false) ?_ hascii h
  decide +kernel

theorem not_isUpperAscii_of_isWordChar (h : isWordChar c = true) : isUpperAscii c = false := by
  by_contra hupper
  rw [not_isWordChar_of_isUpperAscii (Bool.not_eq_false _ ▸ hupper)] at h
  cases h

theorem not_isLowerAscii_of_isUpperAscii (h : isUpperAscii c = true) : isLowerAscii c = false := by
  have hword := not_isWordChar_of_isUpperAscii h
  rw [isWordChar, Bool.or_eq_false_iff] at hword
  exact hword.1

theorem isWordChar_of_isLowerAscii (h : isLowerAscii c = true) : isWordChar c = true := by
  rw [isWordChar, h, Bool.true_or]

theorem endsAcronym_of_not_upper (h : isUpperAscii a = false) : endsAcronym (a :: r) = false := by
  match r with
  | [] => rfl
  | [b] => rfl
  | b :: c :: r => rw [endsAcronym, h, Bool.false_and, Bool.false_and]

theorem endsAcronym_of_next (h : isUpperAscii b = false) : endsAcronym (a :: b :: r) = false := by
  match r with
  | [] => rfl
  | c :: r => rw [endsAcronym, h, Bool.and_false, Bool.false_and]

theorem endsAcronym_of_third (h : isLowerAscii c = false) :
    endsAcronym (a :: b :: c :: r) = false := by
  rw [endsAcronym, h, Bool.and_false]

theorem endsHump_of_not_word (h : isWordChar a = false) : endsHump (a :: r) = false := by
  cases r with
  | nil => rfl
  | cons b r => rw [endsHump, h, Bool.false_and]

/-- A run of capitals is cut in one place, in front of its last capital. -/
theorem splitAcronyms_run (hne : u ≠ []) (hu : ∀ c ∈ u, isUpperAscii c = true)
    (ha : isUpperAscii a = true) (hb : isLowerAscii b = true) (rest : List Char) :
    splitAcronyms (u ++ a :: b :: rest) = u ++ '_' :: a :: b :: splitAcronyms rest := by
  have hsmall : isUpperAscii b = false :=
    not_isUpperAscii_of_isWordChar (isWordChar_of_isLowerAscii hb)
  have hword : splitAcronyms (a :: b :: rest) = a :: b :: splitAcronyms rest := by
    rw [splitAcronyms_cons, endsAcronym_of_next hsmall, splitAcronyms_cons,
      endsAcronym_of_not_upper hsmall]
    rfl
  induction u with
  | nil => exact absurd rfl hne
  | cons c v ih =>
      obtain ⟨hc, hv⟩ := List.forall_mem_cons.mp hu
      cases v with
      | nil =>
          have hends : endsAcronym (c :: a :: b :: rest) = true := by
            rw [endsAcronym, hc, ha, hb]
            rfl
          rw [List.singleton_append, splitAcronyms_cons, hends, if_pos rfl, hword]
          rfl
      | cons d v =>
          have hd : isUpperAscii d = true := hv d List.mem_cons_self
          have hinside : endsAcronym (c :: ((d :: v) ++ a :: b :: rest)) = false := by
            cases v with
            | nil => exact endsAcronym_of_third (not_isLowerAscii_of_isUpperAscii ha)
            | cons e v =>
                have he : isUpperAscii e = true := hv e (List.mem_cons_of_mem d List.mem_cons_self)
                exact endsAcronym_of_third (not_isLowerAscii_of_isUpperAscii he)
          rw [List.cons_append, splitAcronyms_cons, hinside, if_neg Bool.false_ne_true,
            ih (List.cons_ne_nil d v) hv]
          rfl

/-- Where no match of the acronyms begins, no acronym ends. -/
theorem endsAcronym_of_none (h : acronyms.match? (a :: r) = none) :
    endsAcronym (a :: r) = false := by
  match r with
  | [] => rfl
  | [b] => rfl
  | b :: c :: r =>
      by_contra hends
      rw [endsAcronym, Bool.not_eq_false, Bool.and_eq_true, Bool.and_eq_true] at hends
      obtain ⟨⟨ha, hb⟩, hc⟩ := hends
      have hfits : List.Forall₂ PatternPart.Fits (acronyms.first :: acronyms.others)
          [[a], [b], [c]] :=
        .cons ⟨List.cons_ne_nil a [], List.forall_mem_singleton.mpr ha⟩
          (.cons ⟨b, hb, rfl⟩ (.cons ⟨c, hc, rfl⟩ .nil))
      have hsome := isSome_matchParts hfits r
      replace h : matchParts (acronyms.first :: acronyms.others) (a :: b :: c :: r) = none := h
      rw [List.flatten_cons, List.flatten_cons, List.flatten_cons] at hsome
      cases h.symm ▸ hsome

theorem substitute_acronyms (s : List Char) : acronyms.substitute parted s = splitAcronyms s := by
  refine Pattern.substitute_eq rfl (fun {a r texts rest} h => ?_) (fun {a r} h => ?_) s
  · obtain ⟨hflat, hfits⟩ := fits_of_matchParts h
    obtain ⟨u, _, hu, hword, rfl⟩ := List.forall₂_cons_left_iff.mp hfits
    obtain ⟨_, _, ⟨b, hb, rfl⟩, hsmall, rfl⟩ := List.forall₂_cons_left_iff.mp hword
    obtain ⟨_, _, ⟨c, hc, rfl⟩, hnil, rfl⟩ := List.forall₂_cons_left_iff.mp hsmall
    obtain rfl := List.forall₂_nil_left_iff.mp hnil
    have hcut := splitAcronyms_run hu.1 hu.2 hb hc rest
    rw [← hflat, parted]
    simpa using hcut
  · rw [splitAcronyms_cons, endsAcronym_of_none h, if_neg Bool.false_ne_true]

theorem endsHump_of_none (h : humps.match? (a :: r) = none) : endsHump (a :: r) = false := by
  cases r with
  | nil => rfl
  | cons b r =>
      by_contra hends
      rw [endsHump, Bool.not_eq_false, Bool.and_eq_true] at hends
      have hfits : List.Forall₂ PatternPart.Fits (humps.first :: humps.others) [[a], [b]] :=
        .cons ⟨a, hends.1, rfl⟩ (.cons ⟨b, hends.2, rfl⟩ .nil)
      have hsome := isSome_matchParts hfits r
      replace h : matchParts (humps.first :: humps.others) (a :: b :: r) = none := h
      rw [List.flatten_cons, List.flatten_cons] at hsome
      cases h.symm ▸ hsome

theorem substitute_humps (s : List Char) : humps.substitute parted s = splitHumps s := by
  refine Pattern.substitute_eq rfl (fun {a r texts rest} h => ?_) (fun {a r} h => ?_) s
  · obtain ⟨hflat, hfits⟩ := fits_of_matchParts h
    obtain ⟨_, _, ⟨b, hb, rfl⟩, hcapital, rfl⟩ := List.forall₂_cons_left_iff.mp hfits
    obtain ⟨_, _, ⟨c, hc, rfl⟩, hnil, rfl⟩ := List.forall₂_cons_left_iff.mp hcapital
    obtain rfl := List.forall₂_nil_left_iff.mp hnil
    -- The capital that was matched ends no hump of its own.
    have hkept : splitHumps (c :: rest) = c :: splitHumps rest := by
      rw [splitHumps_cons, endsHump_of_not_word (not_isWordChar_of_isUpperAscii hc),
        if_neg Bool.false_ne_true]
    have hends : endsHump (b :: c :: rest) = true := by rw [endsHump, hb, hc, Bool.and_self]
    rw [← hflat]
    show splitHumps (b :: c :: rest) = b :: '_' :: c :: splitHumps rest
    rw [splitHumps_cons, hends, if_pos rfl, hkept]
  · rw [splitHumps_cons, endsHump_of_none h, if_neg Bool.false_ne_true]

theorem squeeze_cons_of_ne (h : c ≠ '_') (r : List Char) : squeeze (c :: r) = c :: squeeze r := by
  rw [squeeze.eq_def]
  split
  · next heq => exact absurd (List.cons.inj heq).1 h
  · next heq =>
      obtain ⟨rfl, rfl⟩ := List.cons.inj heq
      rfl
  · next heq => cases heq

theorem squeeze_underscore (r : List Char) :
    squeeze ('_' :: r) = '_' :: squeeze (r.dropWhile (· == '_')) := by
  induction r with
  | nil => rfl
  | cons c r ih =>
      by_cases h : c = '_'
      · rw [h, squeeze, ih, List.dropWhile_cons_of_pos rfl]
      · have hkept : squeeze ('_' :: c :: r) = '_' :: squeeze (c :: r) := by
          rw [squeeze.eq_def]
          split
          · next heq => exact absurd (List.cons.inj (List.cons.inj heq).2).1 h
          · next heq =>
              obtain ⟨rfl, rfl⟩ := List.cons.inj heq
              rfl
          · next heq => cases heq
        rw [hkept, List.dropWhile_cons_of_neg (by simpa using h)]

theorem match?_underscores (r : List Char) : underscores.match? ('_' :: r) =
    some (['_' :: r.takeWhile (· == '_')], r.dropWhile (· == '_')) :=
  matchParts_many (p := (· == '_')) rfl r

theorem substitute_underscores (s : List Char) :
    underscores.substitute (fun _ => ['_']) s = squeeze s := by
  refine Pattern.substitute_eq rfl (fun {a r texts rest} h => ?_) (fun {a r} h => ?_) s
  · by_cases ha : a = '_'
    · subst ha
      obtain ⟨-, rfl⟩ := Prod.mk.inj (Option.some.inj ((match?_underscores r).symm.trans h))
      exact squeeze_underscore r
    · rw [Pattern.match?, underscores, matchParts, if_neg (mt beq_iff_eq.mp ha)] at h
      cases h
  · have ha : a ≠ '_' := by
      rintro rfl
      cases (match?_underscores r).symm.trans h
    exact squeeze_cons_of_ne ha r

/-- The snake form is the one that the substitutions give. -/
theorem substituted_eq_snake (s : List Char) : substituted s = snake s := by
  rw [substituted, substitute_acronyms, substitute_humps, substitute_underscores, snake]

end

end TypeStencil.Naming
