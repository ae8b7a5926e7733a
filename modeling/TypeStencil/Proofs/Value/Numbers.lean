import Mathlib.Algebra.Order.Field.Basic
import Mathlib.Data.Rat.Cast.Order
import Mathlib.Data.String.Basic
import Mathlib.Tactic.Ring
import TypeStencil.Proofs.Value.Sameness
import TypeStencil.Value.Order

/-!
What numbers are worth. Sizes are counted in the smallest units of floating-point numbers, so that
finite numbers are the same, or one less than the other, exactly as their values are; true and false
are worth one and zero.
-/
namespace TypeStencil

namespace Binary64

/-- The value of a finite number. -/
def value : Binary64 → ℚ
  | .finite negative m e => (if negative then -1 else 1) * m * 2 ^ e
  | _ => 0

/-- How many units one is. -/
def oneInUnits : ℚ :=
  2 ^ 1074

theorem oneInUnits_pos : 0 < oneInUnits :=
  pow_pos two_pos 1074

theorem cast_twoTo (n : Nat) : (twoTo n : ℚ) = 2 ^ n := by
  rw [twoTo]
  exact Nat.cast_pow 2 n

theorem cast_unitsOfInt (n : Int) : (unitsOfInt n : ℚ) = n * oneInUnits := by
  rw [unitsOfInt, Int.cast_mul, Int.ofNat_eq_natCast, Int.cast_natCast, cast_twoTo, oneInUnits]

/-- A finite number is its value in units. -/
theorem cast_units (negative : Bool) (m : Nat) {e : Int} (he : -1074 ≤ e) :
    (units negative m e : ℚ) = value (.finite negative m e) * oneInUnits := by
  have hpower : (2 : ℚ) ^ (e + 1074).toNat = 2 ^ e * oneInUnits := by
    rw [← zpow_natCast, Int.toNat_of_nonneg (by omega), zpow_add₀ (by decide)]
    rfl
  have hsize : ((Int.ofNat (m * twoTo (e + 1074).toNat) : Int) : ℚ) = m * (2 ^ e * oneInUnits) := by
    rw [Int.ofNat_eq_natCast, Int.cast_natCast, Nat.cast_mul, cast_twoTo, hpower]
  rw [units, value]
  cases negative with
  | false =>
      simp only [Bool.false_eq_true, if_false]
      rw [hsize]
      ring
  | true =>
      simp only [if_true]
      rw [Int.cast_neg, hsize]
      ring

end Binary64

namespace Scalar

def isText : Scalar → Bool
  | str _ => true
  | _ => false

def isNumber : Scalar → Bool
  | bool _ => true
  | int _ => true
  | float _ => true
  | _ => false

/-- A scalar that is a floating-point number is a finite one. -/
def IsFinite : Scalar → Prop
  | float x => x.IsNormal ∧ x.IsFinite
  | _ => True

/-- The value of a number. -/
def number : Scalar → ℚ
  | bool b => if b then 1 else 0
  | int n => n
  | float x => x.value
  | _ => 0

section

variable {a b : Scalar}

theorem isText_iff : a.isText = true ↔ ∃ s, a = .str s := by
  cases a <;> simp [isText]

theorem not_isNumber_of_isText (h : a.isText = true) : a.isNumber = false := by
  obtain ⟨s, rfl⟩ := isText_iff.mp h
  rfl

theorem measure?_of_not_number (h : a.isNumber = false) : a.measure? = none := by
  cases a with
  | null => rfl
  | str s => rfl
  | bool b => cases h
  | int n => cases h
  | float x => cases h

/-- The size of a finite number is its value in units. -/
theorem measure?_of_number (hn : a.isNumber = true) (hf : a.IsFinite) :
    ∃ n : Int, a.measure? = some (.units n) ∧ (n : ℚ) = a.number * Binary64.oneInUnits := by
  cases a with
  | null => cases hn
  | str s => cases hn
  | bool b =>
      refine ⟨_, rfl, ?_⟩
      rw [Binary64.cast_unitsOfInt]
      cases b <;> rfl
  | int n => exact ⟨_, rfl, Binary64.cast_unitsOfInt n⟩
  | float x =>
      obtain ⟨hnormal, hfinite⟩ := hf
      cases x with
      | nan => exact hfinite.elim
      | infinite negative => exact hfinite.elim
      | finite negative m e => exact ⟨_, rfl, Binary64.cast_units negative m hnormal.2.1⟩

theorem lt_of_measures {m n : Measure} (hm : a.measure? = some m) (hn : b.measure? = some n) :
    a.lt b = .ok (m.lt n) := by
  rw [lt.eq_def]
  split
  · cases hm
  · rw [hm, hn]

/-- Numbers are ordered by their values. -/
theorem lt_of_numbers (ha : a.isNumber = true) (hb : b.isNumber = true) (hfa : a.IsFinite)
    (hfb : b.IsFinite) : a.lt b = .ok (decide (a.number < b.number)) := by
  obtain ⟨m, hm, hma⟩ := measure?_of_number ha hfa
  obtain ⟨n, hn, hnb⟩ := measure?_of_number hb hfb
  have hless : m < n ↔ a.number < b.number := by
    rw [← Int.cast_lt (R := ℚ), hma, hnb]
    exact mul_lt_mul_iff_left₀ Binary64.oneInUnits_pos
  rw [lt_of_measures hm hn, Measure.lt, decide_eq_decide.mpr hless]

/-- Numbers are the same if their values are. -/
theorem same_of_numbers (ha : a.isNumber = true) (hb : b.isNumber = true) (hfa : a.IsFinite)
    (hfb : b.IsFinite) : a.same b = true ↔ a.number = b.number := by
  obtain ⟨m, hm, hma⟩ := measure?_of_number ha hfa
  obtain ⟨n, hn, hnb⟩ := measure?_of_number hb hfb
  have hequal : m = n ↔ a.number = b.number := by
    rw [← Int.cast_inj (α := ℚ), hma, hnb]
    exact mul_left_inj' Binary64.oneInUnits_pos.ne'
  rw [same, hm, hn, ← hequal]
  simp only [beq_iff_eq, Measure.units.injEq]

/-- A comparison is answered only between texts and between numbers. -/
theorem kinds_of_lt {less : Bool} (h : a.lt b = .ok less) :
    a.isText = true ∧ b.isText = true ∨ a.isNumber = true ∧ b.isNumber = true := by
  rw [lt.eq_def] at h
  split at h
  · exact .inl ⟨rfl, rfl⟩
  · cases ha : a.isNumber with
    | false =>
        rw [measure?_of_not_number ha] at h
        cases h
    | true =>
        cases hb : b.isNumber with
        | false =>
            rw [measure?_of_not_number hb] at h
            split at h
            · next hnone => cases hnone
            · cases h
        | true => exact .inr ⟨rfl, rfl⟩

end

end Scalar

end TypeStencil
