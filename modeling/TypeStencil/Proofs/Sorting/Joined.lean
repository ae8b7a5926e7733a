import Mathlib.Data.List.Pairwise
import TypeStencil.Proofs.Sorting.Permutation

/-!
What a comparison that may refuse its arguments has answered when a sort succeeds. Wherever an item
joins a run, or two runs become one, some item of the one side is compared with some item of the
other; so in the end any two items are joined by comparisons that were answered. A relation that
holds between compared items and goes on along them therefore holds between all items.
-/
namespace TypeStencil.Sorting

variable {α ε : Type} {lt : α → α → Except ε Bool} {R : α → α → Prop}

/-- A count from the head asks about the first item. -/
theorem exists_of_countAhead {x : α} {xs : List α} {r : Rounding} {test : α → Except ε Bool}
    {n : Nat} (hok : countAhead r test (x :: xs) = .ok n) : ∃ holds, test x = .ok holds := by
  rw [countAhead] at hok
  obtain ⟨holds, hholds, -⟩ := bind_eq_ok.mp hok
  exact ⟨holds, hholds⟩

/-- A relation that every answered comparison is evidence of, and that goes on along its evidence
in both directions. -/
structure Joins (lt : α → α → Except ε Bool) (R : α → α → Prop) : Prop where
  of_ok : ∀ {a b : α} {less : Bool}, lt a b = .ok less → R a b
  symm : ∀ {a b : α}, R a b → R b a
  trans : ∀ {a b c : α}, R a b → R b c → R a c

namespace Joins

variable {xs ys : List α} {x y : α}

theorem pairwise_perm (h : Joins lt R) (hp : xs.Perm ys) (hxs : xs.Pairwise R) : ys.Pairwise R :=
  (hp.pairwise_iff h.symm).mp hxs

/-- Two joined lists are joined by one comparison between them. -/
theorem pairwise_append (h : Joins lt R) (hxs : xs.Pairwise R) (hys : ys.Pairwise R) (hx : x ∈ xs)
    (hy : y ∈ ys) (hxy : R x y) : (xs ++ ys).Pairwise R := by
  -- An item need not be related to itself where its list has no other; `x` and `y` are, by way of
  -- each other.
  have hclose : ∀ {zs : List α} {a b : α}, zs.Pairwise R → a ∈ zs → b ∈ zs → R a a → R a b := by
    intro zs a b hzs ha hb haa
    have : Std.Symm R := ⟨fun _ _ => h.symm⟩
    by_cases hab : a = b
    · exact hab ▸ haa
    · exact hzs.forall ha hb hab
  refine List.pairwise_append.mpr ⟨hxs, hys, ?_⟩
  intro a ha b hb
  have hxx : R x x := h.trans hxy (h.symm hxy)
  have hyy : R y y := h.trans (h.symm hxy) hxy
  exact h.trans (h.symm (hclose hxs hx ha hxx)) (h.trans hxy (hclose hys hy hb hyy))

theorem pairwise_cons (h : Joins lt R) (hys : ys.Pairwise R) (hy : y ∈ ys) (hxy : R x y) :
    (x :: ys).Pairwise R :=
  h.pairwise_append (List.pairwise_singleton R x) hys List.mem_cons_self hy hxy

theorem pairwise_insert (h : Joins lt R) (hxs : xs.Pairwise R) (hok : insert lt x xs = .ok ys) :
    ys.Pairwise R := by
  have hperm : (x :: xs).Perm ys := by
    refine Multiset.coe_eq_coe.mp ?_
    rw [bag_insert hok, ← Multiset.cons_coe, ← Multiset.singleton_add, add_comm]
  apply h.pairwise_perm hperm
  cases hdrop : xs.drop (xs.length / 2) with
  | nil =>
      have hnone : xs = [] ∧ insert lt x xs = .ok [x] := insert_of_nil hdrop
      rw [hnone.1]
      exact List.pairwise_singleton R x
  | cons y back =>
      rw [insert_of_cons hdrop] at hok
      obtain ⟨less, hless, -⟩ := bind_eq_ok.mp hok
      have hy : y ∈ xs := List.mem_of_mem_drop (hdrop ▸ List.mem_cons_self)
      exact h.pairwise_cons hxs hy (h.of_ok hless)

theorem pairwise_insertAll (h : Joins lt R) {more : List α} (hxs : xs.Pairwise R)
    (hok : more.foldlM (fun acc z => insert lt z acc) xs = .ok ys) : ys.Pairwise R := by
  induction more generalizing xs with
  | nil =>
      obtain rfl := Except.ok.inj hok
      exact hxs
  | cons z rest ih =>
      rw [List.foldlM_cons] at hok
      obtain ⟨acc, hacc, hok⟩ := bind_eq_ok.mp hok
      exact ih (h.pairwise_insert hxs hacc) hok

theorem pairwise_continueRun (h : Joins lt R) {descending : Bool} {last : α}
    {cut : List α × List α} (hok : continueRun lt descending last xs = .ok cut) :
    (last :: cut.1).Pairwise R := by
  induction xs generalizing last cut with
  | nil =>
      obtain rfl := Except.ok.inj hok
      exact List.pairwise_singleton R last
  | cons x xs ih =>
      rw [continueRun] at hok
      obtain ⟨less, hless, hok⟩ := bind_eq_ok.mp hok
      split at hok
      · obtain ⟨⟨run, rest⟩, hrun, hok⟩ := bind_eq_ok.mp hok
        obtain rfl := Except.ok.inj hok
        exact h.pairwise_cons (ih hrun) List.mem_cons_self (h.symm (h.of_ok hless))
      · obtain rfl := Except.ok.inj hok
        exact List.pairwise_singleton R last

theorem pairwise_headRun (h : Joins lt R) {cut : List α × List α} (hok : headRun lt xs = .ok cut) :
    cut.1.Pairwise R := by
  rw [headRun.eq_def] at hok
  split at hok
  · obtain rfl := Except.ok.inj hok
    exact List.Pairwise.nil
  · next x =>
      obtain rfl := Except.ok.inj hok
      exact List.pairwise_singleton R x
  · next x y rest =>
      obtain ⟨descending, hless, hok⟩ := bind_eq_ok.mp hok
      obtain ⟨⟨run, tail⟩, hrun, hok⟩ := bind_eq_ok.mp hok
      obtain rfl := Except.ok.inj hok
      have hall : (x :: y :: run).Pairwise R :=
        h.pairwise_cons (h.pairwise_continueRun hrun) List.mem_cons_self (h.symm (h.of_ok hless))
      cases descending with
      | true => exact h.pairwise_perm (List.reverse_perm _).symm hall
      | false => exact hall

theorem pairwise_mergeRuns (h : Joins lt R) {patience : Nat} {merged : List α × Nat}
    (hxs : xs.Pairwise R) (hys : ys.Pairwise R)
    (hok : mergeRuns lt patience xs ys = .ok merged) : merged.1.Pairwise R := by
  have hperm : (xs ++ ys).Perm merged.1 :=
    Multiset.coe_eq_coe.mp ((Multiset.coe_add xs ys).symm.trans (bag_mergeRuns hok).symm)
  apply h.pairwise_perm hperm
  cases xs with
  | nil => exact hys
  | cons x xs =>
      cases ys with
      | nil =>
          rw [List.append_nil]
          exact hxs
      | cons y ys =>
          rw [mergeRuns.eq_def] at hok
          obtain ⟨front, hfront, -⟩ := bind_eq_ok.mp hok
          obtain ⟨holds, hholds⟩ := exists_of_countAhead hfront
          obtain ⟨less, hless, -⟩ := bind_eq_ok.mp hholds
          have hxy : R x y := h.symm (h.of_ok hless)
          exact h.pairwise_append hxs hys List.mem_cons_self List.mem_cons_self hxy

theorem pairwise_mergeAbove (h : Joins lt R) {power patience : Nat} {top : Run α}
    {runs : List (Run α)} {merged : Run α × List (Run α) × Nat} (htop : top.items.Pairwise R)
    (hruns : ∀ r ∈ runs, r.items.Pairwise R)
    (hok : mergeAbove lt power patience top runs = .ok merged) :
    merged.1.items.Pairwise R ∧ ∀ r ∈ merged.2.1, r.items.Pairwise R := by
  induction runs generalizing top patience with
  | nil =>
      obtain rfl := Except.ok.inj hok
      exact ⟨htop, hruns⟩
  | cons below rest ih =>
      have hparts := List.forall_mem_cons.mp hruns
      rw [mergeAbove] at hok
      split at hok
      · obtain ⟨⟨items, q⟩, hitems, hok⟩ := bind_eq_ok.mp hok
        exact ih (h.pairwise_mergeRuns hparts.1 htop hitems) hparts.2 hok
      · obtain rfl := Except.ok.inj hok
        exact ⟨htop, hruns⟩

theorem pairwise_mergeAll (h : Joins lt R) {patience : Nat} {runs : List (Run α)}
    (hruns : ∀ r ∈ runs, r.items.Pairwise R) (hok : mergeAll lt patience runs = .ok ys) :
    ys.Pairwise R := by
  induction patience, runs using mergeAll.induct generalizing ys with
  | case1 =>
      rw [mergeAll] at hok
      obtain rfl := Except.ok.inj hok
      exact List.Pairwise.nil
  | case2 _ run =>
      rw [mergeAll] at hok
      obtain rfl := Except.ok.inj hok
      exact hruns run List.mem_cons_self
  | case3 patience top below =>
      simp only [List.forall_mem_cons] at hruns
      obtain ⟨htop, hbelow, -⟩ := hruns
      rw [mergeAll] at hok
      obtain ⟨merged, hmerged, hok⟩ := bind_eq_ok.mp hok
      obtain rfl := Except.ok.inj hok
      exact h.pairwise_mergeRuns hbelow htop hmerged
  | case4 patience top middle bottom rest hlen ih =>
      simp only [List.forall_mem_cons] at hruns
      obtain ⟨htop, hmiddle, hbottom, hrest⟩ := hruns
      rw [mergeAll, if_pos hlen] at hok
      obtain ⟨⟨items, q⟩, hitems, hok⟩ := bind_eq_ok.mp hok
      refine ih items q ?_ hok
      simp only [List.forall_mem_cons]
      exact ⟨htop, h.pairwise_mergeRuns hbottom hmiddle hitems, hrest⟩
  | case5 patience top middle bottom rest hlen ih =>
      simp only [List.forall_mem_cons] at hruns
      obtain ⟨htop, hmiddle, hbottom, hrest⟩ := hruns
      rw [mergeAll, if_neg hlen] at hok
      obtain ⟨⟨items, q⟩, hitems, hok⟩ := bind_eq_ok.mp hok
      refine ih items q ?_ hok
      simp only [List.forall_mem_cons]
      exact ⟨h.pairwise_mergeRuns hmiddle htop hitems, hbottom, hrest⟩

/-- Every run on the stack is joined, and merging leaves one. -/
theorem pairwise_sortRest (h : Joins lt R) {n fuel start patience : Nat} {runs : List (Run α)}
    {rest : List α} (hruns : ∀ r ∈ runs, r.items.Pairwise R)
    (hok : sortRest lt n fuel start patience runs rest = .ok ys) : ys.Pairwise R := by
  induction fuel generalizing start patience runs rest with
  | zero =>
      rw [sortRest] at hok
      exact h.pairwise_mergeAll hruns hok
  | succ fuel ih =>
      cases rest with
      | nil =>
          rw [sortRest.eq_def] at hok
          exact h.pairwise_mergeAll hruns hok
      | cons x xs =>
          rw [sortRest.eq_def] at hok
          obtain ⟨⟨head, tail⟩, hhead, hok⟩ := bind_eq_ok.mp hok
          obtain ⟨items, hitems, hok⟩ := bind_eq_ok.mp hok
          have hnew : items.Pairwise R := h.pairwise_insertAll (h.pairwise_headRun hhead) hitems
          cases runs with
          | nil => exact ih (List.forall_mem_singleton.mpr hnew) hok
          | cons top below =>
              obtain ⟨⟨top', below', q⟩, hmerged, hok⟩ := bind_eq_ok.mp hok
              obtain ⟨htop, hbelow⟩ := List.forall_mem_cons.mp hruns
              obtain ⟨htop', hbelow'⟩ := h.pairwise_mergeAbove htop hbelow hmerged
              refine ih ?_ hok
              simp only [List.forall_mem_cons]
              exact ⟨hnew, htop', hbelow'⟩

/-- A list is sorted only if all its items are joined. -/
theorem pairwise_sort (h : Joins lt R) (hok : sort lt xs = .ok ys) : xs.Pairwise R :=
  h.pairwise_perm (perm_sort hok) (h.pairwise_sortRest (List.forall_mem_nil _) hok)

end Joins

end TypeStencil.Sorting
