import Mathlib.Data.List.Basic
import TypeStencil.Json.Writer
import TypeStencil.Text.Lines

/-!
JSON texts hold no carriage returns: strings write them as escapes, and lines end in newlines
alone. Reading such a text with its line breaks made newlines gives the text itself.
-/
namespace TypeStencil

theorem Text.unifyBreaks_of_notMem {s : List Char} (h : '\r' ∉ s) : Text.unifyBreaks s = s := by
  fun_induction Text.unifyBreaks s with
  | case1 => rfl
  | case2 r => exact absurd List.mem_cons_self h
  | case3 r => exact absurd List.mem_cons_self h
  | case4 c r _ _ ih => rw [ih fun hmem => h (List.mem_cons_of_mem c hmem)]

/-- A text without carriage returns. -/
def Unreturned (s : String) : Prop :=
  '\r' ∉ s.toList

instance (s : String) : Decidable (Unreturned s) :=
  inferInstanceAs (Decidable (¬ _))

namespace Unreturned

variable {s t : String}

theorem append (hs : Unreturned s) (ht : Unreturned t) : Unreturned (s ++ t) := by
  rw [Unreturned, String.toList_append, List.mem_append]
  exact not_or.mpr ⟨hs, ht⟩

theorem ofList {cs : List Char} (h : '\r' ∉ cs) : Unreturned (String.ofList cs) := by
  rwa [Unreturned, String.toList_ofList]

theorem intercalate {items : List String} (hs : Unreturned s) (h : ∀ t ∈ items, Unreturned t) :
    Unreturned (String.intercalate s items) := by
  rw [Unreturned, String.toList_intercalate]
  induction items with
  | nil => exact List.not_mem_nil
  | cons t rest ih =>
      rw [List.forall_mem_cons] at h
      cases rest with
      | nil => simpa [Unreturned] using h.1
      | cons u rest =>
          rw [List.map_cons, List.map_cons, List.intercalate_cons_cons, ← List.map_cons]
          simp only [List.mem_append, not_or]
          exact ⟨⟨h.1, hs⟩, ih h.2⟩

end Unreturned

theorem notMem_toDigits {base : Nat} (hbase : 1 < base) (n : Nat) :
    '\r' ∉ Nat.toDigits base n := by
  induction n using Nat.strongRecOn with
  | ind n ih =>
      have hdigit (d : Nat) : '\r' ∉ [d.digitChar] := fun hmem =>
        Nat.digitChar_ne '\r' rfl (List.mem_singleton.mp hmem).symm
      rw [Nat.toDigits_eq_if hbase]
      split
      · exact hdigit n
      · rw [List.mem_append]
        exact not_or.mpr ⟨ih _ (Nat.div_lt_self (by omega) hbase), hdigit _⟩

theorem unreturned_toString (n : Nat) : Unreturned (toString n) := by
  rw [Nat.toString_eq_ofList_toDigits]
  exact .ofList (notMem_toDigits (by decide) n)

theorem unreturned_int (n : Int) : Unreturned (toString n) := by
  rw [show toString n = n.repr from rfl, Int.repr_eq_if]
  split
  · exact unreturned_toString _
  · exact .append (by decide) (unreturned_toString _)

namespace NumberLayout

theorem unreturned_zeros (n : Int) : Unreturned (zeros n) :=
  .ofList fun hmem => absurd (List.eq_of_mem_replicate hmem) (by decide)

variable {digits : List Char}

theorem unreturned_positional (h : '\r' ∉ digits) (point : Int) :
    Unreturned (positional digits point) := by
  rw [positional]
  split
  · exact .append (.append (by decide) (unreturned_zeros _)) (.ofList h)
  split
  · exact .append (.append (.ofList h) (unreturned_zeros _)) (by decide)
  · exact .append (.append (.ofList fun hmem => h (List.mem_of_mem_take hmem)) (by decide))
      (.ofList fun hmem => h (List.mem_of_mem_drop hmem))

theorem unreturned_exponentText (n : Int) : Unreturned (exponentText n) := by
  rw [exponentText]
  refine .append ?_ ?_
  · split <;> decide
  · split
    · exact .append (by decide) (unreturned_toString _)
    · exact unreturned_toString _

theorem unreturned_scientific (h : '\r' ∉ digits) (point : Int) :
    Unreturned (scientific digits point) := by
  have hdrop : '\r' ∉ digits.drop 1 := fun hmem => h (List.mem_of_mem_drop hmem)
  rw [scientific]
  refine .append (.append (.ofList fun hmem => h (List.mem_of_mem_take hmem)) ?_)
    (unreturned_exponentText _)
  split
  · decide
  · exact .append (by decide) (.ofList hdrop)

theorem unreturned_magnitude (layout : NumberLayout) (m : Nat) (e : Int) :
    Unreturned (layout.magnitude m e) := by
  have hdigits (n : Nat) :
      '\r' ∉ ((Nat.toDigits 10 n).reverse.dropWhile (· == '0')).reverse := by
    rw [List.mem_reverse]
    intro hmem
    exact notMem_toDigits (by decide) n
      (List.mem_reverse.mp ((List.dropWhile_suffix _).subset hmem))
  rw [magnitude]
  split
  · decide
  · dsimp only
    split
    · exact unreturned_positional (hdigits _) _
    · exact unreturned_scientific (hdigits _) _

theorem unreturned_render {layout : NumberLayout} (hnan : Unreturned layout.nan)
    (hinfinite : Unreturned layout.infinite) (x : Binary64) : Unreturned (layout.render x) := by
  have hsign (negative : Bool) : Unreturned (if negative then "-" else "") := by
    cases negative <;> decide
  cases x with
  | nan => exact hnan
  | infinite negative => exact .append (hsign negative) hinfinite
  | finite negative m e => exact .append (hsign negative) (layout.unreturned_magnitude m e)

end NumberLayout

namespace Json

theorem notMem_escape (c : Char) : '\r' ∉ escape c := by
  unfold escape
  split
  iterate 7 exact (by decide)
  next hreturn _ _ _ =>
    split
    · rw [List.mem_append, Text.hexDigits, List.mem_append]
      refine not_or.mpr ⟨by decide, not_or.mpr ⟨fun hmem => ?_, notMem_toDigits (by decide) _⟩⟩
      exact absurd (List.eq_of_mem_replicate hmem) (by decide)
    · exact fun hmem => hreturn (List.mem_singleton.mp hmem).symm

theorem unreturned_quote (s : String) : Unreturned (quote s) := by
  refine .ofList ?_
  rw [List.cons_append, List.mem_cons, List.mem_append, List.mem_flatMap]
  rintro (hquote | ⟨c, -, hc⟩ | hquote)
  · exact absurd hquote (by decide)
  · exact notMem_escape c hc
  · exact absurd hquote (by decide)

theorem unreturned_scalar (s : Scalar) : Unreturned (scalar s) := by
  cases s with
  | null => decide
  | bool b => cases b <;> decide
  | int n => exact unreturned_int n
  | float x => exact NumberLayout.unreturned_render (by decide) (by decide) x
  | str s => exact unreturned_quote s

theorem unreturned_name (k : Scalar) : Unreturned (name k) := by
  cases k <;> exact unreturned_quote _

namespace Layout

variable (layout : Layout)

theorem unreturned_lineBreak (level : Nat) : Unreturned (layout.lineBreak level) := by
  rw [lineBreak]
  split
  · decide
  · refine .append (by decide) (.ofList fun hmem => ?_)
    exact absurd (List.eq_of_mem_replicate hmem) (by decide)

theorem unreturned_separator (level : Nat) : Unreturned (layout.separator level) := by
  rw [separator]
  split
  · decide
  · exact .append (by decide) (layout.unreturned_lineBreak level)

theorem unreturned_enclose {opening closing : String} {items : List String}
    (hopening : Unreturned opening) (hclosing : Unreturned closing)
    (hitems : ∀ t ∈ items, Unreturned t) (level : Nat) :
    Unreturned (layout.enclose level opening closing items) := by
  rw [enclose]
  split
  · exact .append hopening hclosing
  · exact .append (.append (.append (.append hopening (layout.unreturned_lineBreak _))
      (.intercalate (layout.unreturned_separator _) hitems)) (layout.unreturned_lineBreak _))
      hclosing

end Layout

mutual

theorem unreturned_writeAt (layout : Layout) (level : Nat) (v : Value) :
    Unreturned (writeAt layout level v) := by
  cases v with
  | scalar s => exact unreturned_scalar s
  | list items =>
      rw [writeAt]
      exact layout.unreturned_enclose (by decide) (by decide)
        (unreturned_writeItems layout (level + 1) items) level
  | table entries =>
      rw [writeAt]
      exact layout.unreturned_enclose (by decide) (by decide)
        (unreturned_writeEntries layout (level + 1) entries) level

theorem unreturned_writeItems (layout : Layout) (level : Nat) (items : List Value) :
    ∀ t ∈ writeItems layout level items, Unreturned t := by
  cases items with
  | nil => exact List.forall_mem_nil _
  | cons v rest =>
      rw [writeItems, List.forall_mem_cons]
      exact ⟨unreturned_writeAt layout level v, unreturned_writeItems layout level rest⟩

theorem unreturned_writeEntries (layout : Layout) (level : Nat)
    (entries : List (Scalar × Value)) :
    ∀ t ∈ writeEntries layout level entries, Unreturned t := by
  cases entries with
  | nil => exact List.forall_mem_nil _
  | cons e rest =>
      rw [writeEntries, List.forall_mem_cons]
      exact ⟨.append (.append (unreturned_name e.1) (by decide))
        (unreturned_writeAt layout level e.2), unreturned_writeEntries layout level rest⟩

end

theorem unreturned_write (layout : Layout) (v : Value) : Unreturned (write layout v) :=
  unreturned_writeAt layout 0 v

end Json

end TypeStencil
