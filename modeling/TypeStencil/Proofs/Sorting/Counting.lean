import TypeStencil.Proofs.Sorting.Order

/-!
Where a test holds of no item behind the first without it, the searches count exactly the items at
the head that have the property, and an item is put in right behind those that it does not go ahead
of.
-/
namespace TypeStencil.Sorting

variable {α ε : Type} {test : α → Except ε Bool} {p : α → Bool}

/-- The property of a later item is one of all items before it. -/
def Closed (p : α → Bool) (xs : List α) : Prop :=
  xs.Pairwise fun a b => p b = true → p a = true

namespace Closed

variable {front back : List α} {y : α}

theorem takeWhile_of_holds (h : Closed p (front ++ y :: back)) (hy : p y = true) :
    (front ++ y :: back).takeWhile p = front ++ y :: back.takeWhile p := by
  have hfront : ∀ x ∈ front, p x = true :=
    fun x hx => (List.pairwise_append.mp h).2.2 x hx y List.mem_cons_self hy
  rw [List.takeWhile_append_of_pos hfront, List.takeWhile_cons_of_pos hy]

end Closed

/-- The items at the head that have a property end in front of the first without it. -/
theorem takeWhile_of_fails {front back : List α} {y : α} (hy : p y = false) :
    (front ++ y :: back).takeWhile p = front.takeWhile p := by
  rw [List.takeWhile_append]
  split
  · rename_i hall
    have hself : front.takeWhile p = front :=
      (List.takeWhile_prefix p).eq_of_length hall
    rw [List.takeWhile_cons_of_neg (by simp [hy]), List.append_nil, hself]
  · rfl

/-- A list is the part in front of a place, the item there and the part behind it. -/
theorem take_append_of_drop {xs back : List α} {y : α} {n : Nat} (h : xs.drop n = y :: back) :
    xs.take n ++ y :: back = xs ∧ (xs.take n).length = n := by
  have hsplit : xs.take n ++ y :: back = xs := by
    rw [← h, List.take_append_drop]
  refine ⟨hsplit, ?_⟩
  have hlen := congrArg List.length hsplit
  simp only [List.length_append, List.length_take, List.length_cons] at hlen ⊢
  omega

theorem countByHalving_of_cons {r : Rounding} {xs back : List α} {y : α}
    (h : xs.drop (r.middle xs.length) = y :: back) (hy : test y = .ok (p y)) :
    countByHalving r test xs =
      if p y then (countByHalving r test back).map (r.middle xs.length + 1 + ·)
      else countByHalving r test (xs.take (r.middle xs.length)) := by
  rw [countByHalving.eq_def]
  split
  · rename_i hnil
    rw [h] at hnil
    cases hnil
  · rename_i y' back' hcons
    rw [h] at hcons
    obtain ⟨rfl, rfl⟩ := List.cons.inj hcons
    rw [hy]
    cases p y with
    | true => cases countByHalving r test back <;> rfl
    | false => rfl

theorem countInStrides_of_cons {r : Rounding} {gap : Nat} {xs more : List α} {y : α}
    (h : xs.drop gap = y :: more) (hy : test y = .ok (p y)) :
    countInStrides r test gap xs =
      if p y then (countInStrides r test (2 * gap + 1) more).map (gap + 1 + ·)
      else countByHalving r test (xs.take gap) := by
  rw [countInStrides.eq_def]
  split
  · rename_i hnil
    rw [h] at hnil
    cases hnil
  · rename_i y' more' hcons
    rw [h] at hcons
    obtain ⟨rfl, rfl⟩ := List.cons.inj hcons
    rw [hy]
    cases p y with
    | true => cases countInStrides r test (2 * gap + 1) more <;> rfl
    | false => rfl

theorem countByHalving_eq (r : Rounding) (xs : List α) (ht : ∀ x ∈ xs, test x = .ok (p x))
    (h : Closed p xs) : countByHalving r test xs = .ok (xs.takeWhile p).length := by
  induction xs using countByHalving.induct (r := r) with
  | case1 xs hdrop =>
      have hnil : xs = [] := by
        rcases Nat.eq_zero_or_pos xs.length with h0 | h0
        · exact List.length_eq_zero_iff.mp h0
        · have hlt := r.middle_lt h0
          have hle := List.drop_eq_nil_iff.mp hdrop
          omega
      rw [countByHalving.eq_def]
      split
      · rw [hnil]
        rfl
      · rename_i hcons
        rw [hdrop] at hcons
        cases hcons
  | case2 xs y back hdrop _ _ _ ihback ihfront =>
      obtain ⟨hsplit, hlen⟩ := take_append_of_drop hdrop
      have hy : test y = .ok (p y) := ht y (by rw [← hsplit]; simp)
      rw [countByHalving_of_cons hdrop hy]
      have ht' := hsplit ▸ ht
      have h' := hsplit ▸ h
      cases hp : p y with
      | true =>
          rw [if_pos rfl, ihback (fun x hx => ht' x (by simp [hx]))
            (List.pairwise_append.mp h').2.1.tail]
          conv => rhs; rw [← hsplit, h'.takeWhile_of_holds hp]
          simp only [Except.map, List.length_append, List.length_cons, hlen]
          congr 1
          omega
      | false =>
          rw [if_neg (by simp), ihfront (fun x hx => ht' x (by simp [hx]))
            (List.pairwise_append.mp h').1]
          conv => rhs; rw [← hsplit, takeWhile_of_fails hp]

theorem countInStrides_eq (r : Rounding) (gap : Nat) (xs : List α)
    (ht : ∀ x ∈ xs, test x = .ok (p x)) (h : Closed p xs) :
    countInStrides r test gap xs = .ok (xs.takeWhile p).length := by
  induction gap, xs using countInStrides.induct with
  | case1 gap xs hdrop =>
      rw [countInStrides.eq_def]
      split
      · exact countByHalving_eq r xs ht h
      · rename_i hcons
        rw [hdrop] at hcons
        cases hcons
  | case2 gap xs y more hdrop _ ih =>
      obtain ⟨hsplit, hlen⟩ := take_append_of_drop hdrop
      have hy : test y = .ok (p y) := ht y (by rw [← hsplit]; simp)
      rw [countInStrides_of_cons hdrop hy]
      have ht' := hsplit ▸ ht
      have h' := hsplit ▸ h
      cases hp : p y with
      | true =>
          rw [if_pos rfl, ih (fun x hx => ht' x (by simp [hx]))
            (List.pairwise_append.mp h').2.1.tail]
          conv => rhs; rw [← hsplit, h'.takeWhile_of_holds hp]
          simp only [Except.map, List.length_append, List.length_cons, hlen]
          congr 1
          omega
      | false =>
          rw [if_neg (by simp), countByHalving_eq r _ (fun x hx => ht' x (by simp [hx]))
            (List.pairwise_append.mp h').1]
          conv => rhs; rw [← hsplit, takeWhile_of_fails hp]

theorem countAhead_eq (r : Rounding) (test : α → Except ε Bool) (xs : List α)
    (ht : ∀ x ∈ xs, test x = .ok (p x))
    (h : Closed p xs) : countAhead r test xs = .ok (xs.takeWhile p).length := by
  cases xs with
  | nil => rfl
  | cons x xs =>
      rw [List.forall_mem_cons] at ht
      rw [countAhead, ht.1]
      cases hp : p x with
      | true =>
          simp only [bind, Except.bind, pure, Except.pure, ite_true]
          rw [countInStrides_eq r 0 xs ht.2 (List.pairwise_cons.mp h).2,
            List.takeWhile_cons_of_pos hp, List.length_cons, Nat.add_comm]
      | false =>
          rw [List.takeWhile_cons_of_neg (by simp [hp])]
          rfl

end TypeStencil.Sorting
