import Mathlib.Data.List.Basic
import Mathlib.Data.List.Perm.Basic
import Mathlib.Data.List.TakeWhile
import TypeStencil.Sorting

/-!
Lists in order, and lists that hold the same items as others with tied items in the same order.
Together the two say that a list is sorted stably: there is only one such list.
-/
namespace TypeStencil.Sorting

variable {α : Type} {P : α → Prop} {ahead : α → α → Bool}

/-- A strict order in which items may be tied, on the items with a property. -/
structure Ranked (P : α → Prop) (ahead : α → α → Bool) : Prop where
  asymm : ∀ {a b}, P a → P b → ahead a b = true → ahead b a = false
  between : ∀ {a b c}, P a → P b → P c → ahead a c = true → ahead a b = true ∨ ahead b c = true

namespace Ranked

theorem trans (h : Ranked P ahead) {a b c : α} (ha : P a) (hb : P b) (hc : P c)
    (hab : ahead a b = true) (hbc : ahead b c = true) : ahead a c = true := by
  rcases h.between ha hc hb hab with hac | hcb
  · exact hac
  · rw [h.asymm hc hb hcb] at hbc
    cases hbc

theorem not_trans (h : Ranked P ahead) {a b c : α} (ha : P a) (hb : P b) (hc : P c)
    (hba : ahead b a = false) (hcb : ahead c b = false) : ahead c a = false := by
  cases hca : ahead c a with
  | false => rfl
  | true =>
      rcases h.between hc hb ha hca with h' | h'
      · rw [hcb] at h'
        cases h'
      · rw [hba] at h'
        cases h'

theorem ahead_of_not_ahead (h : Ranked P ahead) {a b c : α} (ha : P a) (hb : P b) (hc : P c)
    (hab : ahead a b = true) (hcb : ahead c b = false) : ahead a c = true := by
  rcases h.between ha hc hb hab with hac | h'
  · exact hac
  · rw [hcb] at h'
    cases h'

theorem ahead_of_ahead (h : Ranked P ahead) {a b c : α} (ha : P a) (hb : P b) (hc : P c)
    (hba : ahead b a = false) (hbc : ahead b c = true) : ahead a c = true := by
  rcases h.between hb ha hc hbc with h' | hac
  · rw [hba] at h'
    cases h'
  · exact hac

theorem irrefl (h : Ranked P ahead) {a : α} (ha : P a) : ahead a a = false := by
  cases haa : ahead a a with
  | false => rfl
  | true => rw [h.asymm ha ha haa] at haa; cases haa

/-- The order read backwards. -/
theorem flip (h : Ranked P ahead) : Ranked P (fun a b => ahead b a) :=
  ⟨fun ha hb hba => h.asymm hb ha hba,
    fun ha hb hc hca => (h.between hc hb ha hca).symm⟩

end Ranked

/-- No item stands behind one that it goes ahead of. -/
def Ascending (ahead : α → α → Bool) (xs : List α) : Prop :=
  xs.Pairwise fun a b => ahead b a = false

def tied (ahead : α → α → Bool) (c x : α) : Bool :=
  !ahead c x && !ahead x c

/-- The second list has the items of the first, with tied items in the same order. -/
structure Keeps (P : α → Prop) (ahead : α → α → Bool) (xs ys : List α) : Prop where
  perm : ys.Perm xs
  order : ∀ c, P c → ys.filter (tied ahead c) = xs.filter (tied ahead c)

namespace Keeps

variable {xs ys zs us vs : List α}

theorem refl (xs : List α) : Keeps P ahead xs xs :=
  ⟨.refl xs, fun _ _ => rfl⟩

theorem trans (h : Keeps P ahead xs ys) (h' : Keeps P ahead ys zs) : Keeps P ahead xs zs :=
  ⟨h'.perm.trans h.perm, fun c hc => (h'.order c hc).trans (h.order c hc)⟩

theorem append (h : Keeps P ahead xs ys) (h' : Keeps P ahead us vs) :
    Keeps P ahead (xs ++ us) (ys ++ vs) := by
  refine ⟨h.perm.append h'.perm, fun c hc => ?_⟩
  rw [List.filter_append, List.filter_append, h.order c hc, h'.order c hc]

theorem append_left (h : Keeps P ahead xs ys) (us : List α) :
    Keeps P ahead (us ++ xs) (us ++ ys) :=
  (refl us).append h

theorem append_right (h : Keeps P ahead xs ys) (us : List α) :
    Keeps P ahead (xs ++ us) (ys ++ us) :=
  h.append (refl us)

theorem all (h : Keeps P ahead xs ys) (hx : ∀ x ∈ xs, P x) : ∀ y ∈ ys, P y :=
  fun y hy => hx y (h.perm.subset hy)

/-- Stretches may change places when no item of the one is tied with one of the other. -/
theorem swap (ho : Ranked P ahead) (hx : ∀ x ∈ xs, P x) (hy : ∀ y ∈ ys, P y)
    (h : ∀ x ∈ xs, ∀ y ∈ ys, ahead y x = true) : Keeps P ahead (xs ++ ys) (ys ++ xs) := by
  refine ⟨List.perm_append_comm, fun c hc => ?_⟩
  rw [List.filter_append, List.filter_append]
  by_cases hne : xs.filter (tied ahead c) = []
  · rw [hne, List.nil_append, List.append_nil]
  · obtain ⟨x, hmem⟩ := List.exists_mem_of_ne_nil _ hne
    obtain ⟨hxs, htied⟩ := List.mem_filter.mp hmem
    simp only [tied, Bool.and_eq_true, Bool.not_eq_true'] at htied
    have hnil : ys.filter (tied ahead c) = [] := by
      refine List.filter_eq_nil_iff.mpr fun y hys hty => ?_
      simp only [tied, Bool.and_eq_true, Bool.not_eq_true'] at hty
      have hyx := h x hxs y hys
      rw [ho.not_trans (hx x hxs) hc (hy y hys) htied.1 hty.2] at hyx
      cases hyx
    rw [hnil, List.nil_append, List.append_nil]

/-- A run in which each item goes ahead of all before it can be turned round. -/
theorem reverse (ho : Ranked P ahead) (hx : ∀ x ∈ xs, P x)
    (h : xs.Pairwise fun a b => ahead b a = true) : Keeps P ahead xs xs.reverse := by
  induction xs with
  | nil => exact refl []
  | cons x xs ih =>
      rw [List.pairwise_cons] at h
      rw [List.forall_mem_cons] at hx
      have hswap : Keeps P ahead ([x] ++ xs.reverse) (xs.reverse ++ [x]) := by
        refine swap ho (by simpa using hx.1) (by simpa using hx.2) ?_
        intro a ha y hy
        obtain rfl := List.mem_singleton.mp ha
        exact h.1 y (List.mem_reverse.mp hy)
      rw [List.reverse_cons]
      exact ((ih hx.2 h.2).append_left [x]).trans hswap

/-- What is kept in one direction is kept in the other. -/
theorem reverse_flip (h : Keeps P (fun a b => ahead b a) xs ys) :
    Keeps P ahead xs.reverse ys.reverse := by
  refine ⟨(List.reverse_perm ys).trans (h.perm.trans (List.reverse_perm xs).symm), fun c hc => ?_⟩
  have hf : tied (fun a b => ahead b a) c = tied ahead c := by
    funext x
    exact Bool.and_comm _ _
  rw [List.filter_reverse, List.filter_reverse, ← hf, h.order c hc]

end Keeps

namespace Ascending

variable {xs ys : List α}

theorem reverse_flip (h : Ascending (fun a b => ahead b a) xs) : Ascending ahead xs.reverse :=
  List.pairwise_reverse.mpr h

theorem flip_reverse (h : Ascending ahead xs) : Ascending (fun a b => ahead b a) xs.reverse :=
  List.pairwise_reverse.mpr h

theorem append (hx : Ascending ahead xs) (hy : Ascending ahead ys)
    (h : ∀ x ∈ xs, ∀ y ∈ ys, ahead y x = false) : Ascending ahead (xs ++ ys) :=
  List.pairwise_append.mpr ⟨hx, hy, h⟩

/-- In order, all items that do not go behind another one stand at the head. -/
theorem not_ahead_closed (ho : Ranked P ahead) (hx : ∀ x ∈ xs, P x) (h : Ascending ahead xs)
    {z : α} (hz : P z) :
    xs.Pairwise fun a b => (!ahead z b) = true → (!ahead z a) = true := by
  refine h.imp_of_mem fun ha hb hba hzb => ?_
  simp only [Bool.not_eq_true'] at hzb ⊢
  exact ho.not_trans (hx _ ha) (hx _ hb) hz hba hzb

/-- In order, all items that go ahead of another one stand at the head. -/
theorem ahead_closed (ho : Ranked P ahead) (hx : ∀ x ∈ xs, P x) (h : Ascending ahead xs)
    {z : α} (hz : P z) :
    xs.Pairwise fun a b => ahead b z = true → ahead a z = true :=
  h.imp_of_mem fun ha hb hba hbz => ho.ahead_of_ahead (hx _ ha) (hx _ hb) hz hba hbz

end Ascending

end TypeStencil.Sorting
