import Mathlib.Data.String.Basic
import TypeStencil.Proofs.Sorting.Stable

/-!
Sorting by texts of which no two are the same: there is one sorted list, and its texts increase
strictly by code points.
-/
namespace TypeStencil.Sorting

section

variable {α β ε : Type} {key : α → String}

/-- Items by the order of their texts. -/
def textBefore (key : α → String) (a b : α) : Bool :=
  decide (key a < key b)

/-- In order, texts of which no two are the same increase strictly. -/
theorem Ascending.increasing {xs : List α} (h : Ascending (textBefore key) xs)
    (hn : (xs.map key).Nodup) : (xs.map key).Pairwise (· < ·) := by
  refine List.pairwise_map.mpr (List.Pairwise.imp ?_ (h.and (List.pairwise_map.mp hn)))
  intro a b hab
  have hle : key a ≤ key b := by
    simpa only [textBefore, decide_eq_false_iff_not, not_lt] using hab.1
  exact lt_of_le_of_ne hle hab.2

/-- Images of items are ranked as the texts of these items are. -/
theorem ranked_image (f : α → β) {before : β → β → Bool}
    (h : ∀ a b, before (f a) (f b) = textBefore key a b) : Ranked (· ∈ Set.range f) before where
  asymm := by
    rintro _ _ ⟨a, rfl⟩ ⟨b, rfl⟩ hab
    simp only [h, textBefore, decide_eq_true_eq, decide_eq_false_iff_not] at hab ⊢
    exact lt_asymm hab
  between := by
    rintro _ _ _ ⟨a, rfl⟩ ⟨b, rfl⟩ ⟨c, rfl⟩ hac
    simp only [h, textBefore, decide_eq_true_eq] at hac ⊢
    rcases lt_or_ge (key a) (key b) with hab | hba
    · exact .inl hab
    · exact .inr (lt_of_le_of_lt hba hac)

/-- Images of items whose texts differ are sorted by these texts. -/
theorem sort_by_text (lt : β → β → Except ε Bool) (key : α → String) (f : α → β)
    (hlt : ∀ a b, lt (f a) (f b) = .ok (textBefore key a b)) (xs : List α)
    (hn : (xs.map key).Nodup) :
    ∃ zs : List α, sort lt (xs.map f) = .ok (zs.map f) ∧ zs.Perm xs ∧
      (zs.map key).Pairwise (· < ·) := by
  let before : β → β → Bool := fun x y => (lt x y).toOption.getD false
  have hbefore : ∀ a b, before (f a) (f b) = textBefore key a b := by
    intro a b
    simp only [before, hlt, Except.toOption, Option.getD_some]
  have hltb : ∀ {x y}, x ∈ Set.range f → y ∈ Set.range f → lt x y = .ok (before x y) := by
    rintro _ _ ⟨a, rfl⟩ ⟨b, rfl⟩
    rw [hlt, hbefore]
  obtain ⟨ys, hok, hasc, hkeeps⟩ := sort_stable (ranked_image f hbefore) hltb (xs.map f) (by simp)
  have hcomp : Relation.Comp (fun us (zs : List α) => us = zs.map f) List.Perm ys xs := by
    rw [List.eq_map_comp_perm]
    exact hkeeps.perm
  obtain ⟨zs, rfl, hperm⟩ := hcomp
  have hzs : Ascending (textBefore key) zs :=
    (List.pairwise_map.mp hasc).imp fun {a b} hab => (hbefore b a).symm.trans hab
  exact ⟨zs, hok, hperm, hzs.increasing ((hperm.map key).nodup_iff.mpr hn)⟩

end

/-- There is one order of items in which their texts increase strictly. -/
theorem eq_of_perm {α : Type} {key : α → String} {xs ys : List α} (h : xs.Perm ys)
    (hx : (xs.map key).Pairwise (· < ·)) (hy : (ys.map key).Pairwise (· < ·)) : xs = ys :=
  h.eq_of_pairwise (fun _ _ _ _ hab hba => absurd hab (lt_asymm hba)) (List.pairwise_map.mp hx)
    (List.pairwise_map.mp hy)

/-- Items whose texts increase strictly are settled by which items they are. -/
theorem eq_of_increasing {α : Type} (key : α → String) {xs ys : List α}
    (hx : (xs.map key).Pairwise (· < ·)) (hy : (ys.map key).Pairwise (· < ·))
    (h : ∀ x, x ∈ xs ↔ x ∈ ys) : xs = ys := by
  have hne : ∀ {zs : List α}, (zs.map key).Pairwise (· < ·) → zs.Nodup := fun hz =>
    (List.pairwise_map.mp hz).imp fun hlt he => ne_of_lt hlt (congrArg key he)
  exact eq_of_perm ((List.perm_ext_iff_of_nodup (hne hx) (hne hy)).mpr h) hx hy

end TypeStencil.Sorting

namespace TypeStencil

open Sorting

theorem Value.lt_str (s t : String) : Value.lt (.str s) (.str t) = .ok (decide (s < t)) := rfl

/-- Texts that are sorted as values. -/
theorem sortValues_texts {texts : List String} (hn : texts.Nodup) :
    ∃ sorted : List String, sortValues (.list (texts.map .str)) = .ok (sorted.map .str) ∧
      sorted.Perm texts ∧ sorted.Pairwise (· < ·) := by
  obtain ⟨sorted, hok, hperm, hinc⟩ := sort_by_text Value.lt id Value.str Value.lt_str texts
    (by rwa [List.map_id])
  refine ⟨sorted, ?_, hperm, by rwa [List.map_id] at hinc⟩
  simp only [sortValues, Value.items, Except.mapError, ok_bind, hok]

/-- Entries under texts that are sorted by their names. -/
theorem sortByKey_named {α : Type} {members : List (String × α)}
    (hn : (members.map Prod.fst).Nodup) :
    ∃ sorted : List (String × α),
      sortByKey (fun e : Scalar × α => .ok (.scalar e.1)) (members.map fun e => (.str e.1, e.2)) =
        .ok (sorted.map fun e => (.str e.1, e.2)) ∧
      sorted.Perm members ∧ (sorted.map Prod.fst).Pairwise (· < ·) := by
  obtain ⟨sorted, hok, hperm, hinc⟩ := sort_by_text
    (fun a b : Value × Scalar × α => Value.lt a.1 b.1) Prod.fst
    (fun e : String × α => (Value.str e.1, Scalar.str e.1, e.2)) (fun a b => Value.lt_str a.1 b.1)
    members hn
  refine ⟨sorted, ?_, hperm, hinc⟩
  have hkeyed : ((members.map fun e => (Scalar.str e.1, e.2)).mapM fun x => do
      return (← Except.ok (ε := Fault) (Value.scalar x.1), x)) =
      .ok (members.map fun e => (Value.str e.1, Scalar.str e.1, e.2)) := by
    simp only [ok_bind, List.mapM_pure, List.map_map]
    rfl
  rw [sortByKey, hkeyed, ok_bind, hok]
  simp only [Except.mapError, ok_bind, List.map_map]
  rfl

end TypeStencil
