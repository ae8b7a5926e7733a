import Mathlib.Data.String.Basic
import TypeStencil.Naming.TypeScript

/-!
What sanitizers remember. A sanitizer that is only asked for names of one style and suffix answers
as if it remembered nothing, so that the names of an artifact do not depend on the names asked for
before.
-/
namespace TypeStencil

namespace Sanitizer

variable {s : Sanitizer} {style : NamingCase} {suffix : String}

theorem cacheKey_injective (style : NamingCase) (suffix : String) :
    Function.Injective fun name => cacheKey name style suffix := by
  intro a b h
  have hlist := congrArg String.toList h
  simp only [cacheKey, String.toList_append, List.append_assoc] at hlist
  exact String.toList_injective (List.append_cancel_right hlist)

/-- What is remembered for names of a style and suffix is what the rules give for them. -/
def Remembers (s : Sanitizer) (style : NamingCase) (suffix : String) : Prop :=
  ∀ name result, s.cache.lookup (cacheKey name style suffix) = some result →
    result = s.rules.plain name style suffix

theorem remembers_ofRules (rules : NamingRules) : (ofRules rules).Remembers style suffix := by
  intro name result h
  cases h

theorem Remembers.sanitizePlain (h : s.Remembers style suffix) (name : String) :
    (s.sanitizePlain name style suffix).2 = s.rules.plain name style suffix ∧
      (s.sanitizePlain name style suffix).1.Remembers style suffix ∧
      (s.sanitizePlain name style suffix).1.rules = s.rules := by
  cases hlookup : s.cache.lookup (cacheKey name style suffix) with
  | some known =>
      simp only [Sanitizer.sanitizePlain, hlookup]
      exact ⟨h name known hlookup, h, trivial⟩
  | none =>
      simp only [Sanitizer.sanitizePlain, hlookup]
      refine ⟨trivial, ?_, trivial⟩
      intro other result hother
      simp only [List.lookup_cons] at hother
      cases heq : cacheKey other style suffix == cacheKey name style suffix with
      | true =>
          rw [heq] at hother
          obtain rfl := cacheKey_injective style suffix (beq_iff_eq.mp heq)
          exact (Option.some.inj hother).symm
      | false =>
          rw [heq] at hother
          exact h other result hother

end Sanitizer

namespace NameService

/-- The service answers as a fresh one does. -/
structure Faithful (s : NameService) : Prop where
  typeRules : s.types.rules = TypeScript.typeRules
  fileRules : s.files.rules = TypeScript.fileRules
  types : s.types.Remembers .pascal TypeScript.conflictSuffix
  files : s.files.Remembers .kebab "_"

theorem faithful_fresh : fresh.Faithful :=
  ⟨rfl, rfl, Sanitizer.remembers_ofRules _, Sanitizer.remembers_ofRules _⟩

theorem Faithful.typeName {s : NameService} (h : s.Faithful) (name : Value) :
    (s.typeName name).2 = TypeScript.typeName name ∧ (s.typeName name).1.Faithful := by
  obtain ⟨hresult, hremembers, hrules⟩ := h.types.sanitizePlain name.text
  rw [h.typeRules] at hresult hrules
  exact ⟨hresult, hrules, h.fileRules, hremembers, h.files⟩

theorem Faithful.fileName {s : NameService} (h : s.Faithful) (name : Value) :
    (s.fileName name).2 = TypeScript.fileName name ∧ (s.fileName name).1.Faithful := by
  obtain ⟨hresult, hremembers, hrules⟩ := h.files.sanitizePlain name.text
  rw [h.fileRules] at hresult hrules
  exact ⟨congrArg TypeScript.dropUnderscores hresult, h.typeRules, hrules, h.types, hremembers⟩

theorem Faithful.identifiers {s : NameService} (h : s.Faithful) (name : Value) :
    (s.identifiers name).2 = Identifiers.ofName name ∧ (s.identifiers name).1.Faithful := by
  obtain ⟨htype, h'⟩ := h.typeName name
  obtain ⟨hfile, h''⟩ := h'.fileName (.str (s.typeName name).2)
  refine ⟨?_, h''⟩
  rw [htype] at hfile
  simp only [NameService.identifiers, Identifiers.ofName, htype, hfile]

/-- The service after some names were asked for. -/
def asked (names : List Value) : NameService :=
  names.foldl (fun s name => (s.identifiers name).1) fresh

theorem faithful_asked (names : List Value) : (asked names).Faithful := by
  have h : ∀ s : NameService, s.Faithful →
      (names.foldl (fun s name => (s.identifiers name).1) s).Faithful := by
    induction names with
    | nil => exact fun s hs => hs
    | cons name rest ih => exact fun s hs => ih _ (hs.identifiers name).2
  exact h fresh faithful_fresh

end NameService

end TypeStencil
