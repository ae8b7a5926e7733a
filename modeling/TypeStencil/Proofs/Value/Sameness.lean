import Mathlib.Data.Finset.Card
import Mathlib.Data.List.Nodup
import TypeStencil.Value.Entries

/-!
Sameness of scalars as equality of what they stand for, and how many different scalars a list has.
Entries that are put under names one after another are as many as the names are different.
-/
namespace TypeStencil

namespace Scalar

/-- What the scalars that are the same have in common: the size of a number, or else the scalar. -/
def identity (s : Scalar) : Measure ⊕ Scalar :=
  match s.measure? with
  | some m => .inl m
  | none => .inr s

theorem same_iff {a b : Scalar} : a.same b = true ↔ a.identity = b.identity := by
  unfold same identity
  cases a.measure? <;> cases b.measure? <;> simp

/-- How many different scalars there are among some. -/
def countDifferent (names : List Scalar) : Nat :=
  (names.map identity).toFinset.card

theorem countDifferent_eq_zero {names : List Scalar} : countDifferent names = 0 ↔ names = [] := by
  rw [countDifferent, Finset.card_eq_zero, List.toFinset_eq_empty_iff, List.map_eq_nil_iff]

theorem any_same_iff {names : List Scalar} {name : Scalar} :
    (names.any (·.same name)) = true ↔ name.identity ∈ names.map identity := by
  simp only [List.any_eq_true, same_iff, List.mem_map]

/-- A name that is the same as an earlier one does not count. -/
theorem countDifferent_cons (name : Scalar) (names : List Scalar) :
    countDifferent (name :: names) =
      countDifferent names + if names.any (·.same name) then 0 else 1 := by
  simp only [countDifferent, List.map_cons, List.toFinset_cons]
  by_cases h : names.any (·.same name) = true
  · rw [if_pos h, Finset.insert_eq_of_mem (List.mem_toFinset.mpr (any_same_iff.mp h))]
    rfl
  · rw [if_neg h, Finset.card_insert_of_notMem]
    rwa [List.mem_toFinset, ← any_same_iff]

theorem countDifferent_perm {names others : List Scalar} (h : names.Perm others) :
    countDifferent names = countDifferent others := by
  rw [countDifferent, countDifferent, List.toFinset_eq_of_perm _ _ (h.map identity)]

end Scalar

namespace Entries

variable {α : Type}

/-- No two names of the entries are the same. -/
def Distinct (entries : Entries α) : Prop :=
  (entries.names.map Scalar.identity).Nodup

instance (entries : Entries α) : Decidable entries.Distinct :=
  inferInstanceAs (Decidable (List.Nodup _))

theorem contains_iff {entries : Entries α} {name : Scalar} :
    entries.contains name = true ↔ name.identity ∈ entries.names.map Scalar.identity := by
  simp only [contains, List.any_eq_true, Scalar.same_iff, names, List.mem_map,
    exists_exists_and_eq_and]

/-- A name that the entries have keeps its place, and a new one comes last. -/
theorem identities_put (entries : Entries α) (name : Scalar) (x : α) :
    (entries.put name x).names.map Scalar.identity =
      entries.names.map Scalar.identity ++
        if entries.contains name then [] else [name.identity] := by
  induction entries with
  | nil => rfl
  | cons e rest ih =>
      rw [put]
      cases h : e.1.same name with
      | true => simp [contains, h, names]
      | false =>
          simp only [names, contains, List.map_cons, List.any_cons, h, Bool.false_or,
            List.cons_append, List.cons.injEq, true_and, Bool.false_eq_true, if_false] at ih ⊢
          exact ih

theorem Distinct.put {entries : Entries α} (h : entries.Distinct) (name : Scalar) (x : α) :
    (entries.put name x).Distinct := by
  rw [Distinct, identities_put]
  cases hname : entries.contains name with
  | true =>
      rw [if_pos rfl, List.append_nil]
      exact h
  | false =>
      have hnew : name.identity ∉ entries.names.map Scalar.identity := fun hmem =>
        absurd (contains_iff.mpr hmem) (by simp [hname])
      rw [if_neg Bool.false_ne_true, ← List.concat_eq_append]
      exact h.concat hnew

theorem toFinset_put (entries : Entries α) (name : Scalar) (x : α) :
    ((entries.put name x).names.map Scalar.identity).toFinset =
      insert name.identity (entries.names.map Scalar.identity).toFinset := by
  rw [identities_put]
  cases hname : entries.contains name with
  | true =>
      rw [Finset.insert_eq_of_mem (List.mem_toFinset.mpr (contains_iff.mp hname))]
      simp
  | false =>
      rw [if_neg Bool.false_ne_true, List.toFinset_append, Finset.union_comm]
      rfl

theorem Distinct.length_eq {entries : Entries α} (h : entries.Distinct) :
    entries.length = Scalar.countDifferent entries.names := by
  rw [Scalar.countDifferent, List.toFinset_card_of_nodup h]
  simp [names]

theorem update_distinct {entries : Entries α} (h : entries.Distinct) (more : Entries α) :
    (entries.update more).Distinct ∧
      ((entries.update more).names.map Scalar.identity).toFinset =
        (entries.names.map Scalar.identity).toFinset ∪
          (more.names.map Scalar.identity).toFinset := by
  induction more generalizing entries with
  | nil => exact ⟨h, by simp [update, names]⟩
  | cons e rest ih =>
      obtain ⟨hdistinct, hset⟩ := ih (h.put e.1 e.2)
      refine ⟨hdistinct, ?_⟩
      rw [show entries.update (e :: rest) = (entries.put e.1 e.2).update rest from rfl, hset,
        toFinset_put]
      simp [names, Finset.insert_union, Finset.union_insert]

/-- Put one after another, entries are as many as their names are different. -/
theorem length_update_nil (more : Entries α) :
    (Entries.update [] more).length = Scalar.countDifferent more.names := by
  have hempty : Distinct ([] : Entries α) := List.nodup_nil
  obtain ⟨hdistinct, hset⟩ := update_distinct hempty more
  rw [hdistinct.length_eq, Scalar.countDifferent, hset]
  simp [names, Scalar.countDifferent]

theorem update_nil_eq_nil {more : Entries α} : update [] more = [] ↔ more = [] := by
  rw [← List.length_eq_zero_iff, length_update_nil, Scalar.countDifferent_eq_zero, names,
    List.map_eq_nil_iff]

end Entries

end TypeStencil
