import Mathlib.Algebra.Order.Group.Multiset
import Mathlib.Tactic.Abel
import TypeStencil.Proofs.Sequencing
import TypeStencil.Sorting

/-!
Sorting keeps all items, whatever the comparison says of them: where it does not fail, it gives a
permutation of the list.
-/
namespace TypeStencil.Sorting

variable {α ε : Type} {lt : α → α → Except ε Bool}

theorem take_add_drop (n : Nat) (xs : List α) :
    (xs.take n : Multiset α) + (xs.drop n : Multiset α) = xs := by
  rw [Multiset.coe_add, List.take_append_drop]

namespace Strands

variable {s s' : Strands α} {d : Direction}

/-- All items of a merge, taken or not. -/
def bag (s : Strands α) : Multiset α :=
  s.taken + s.other + s.lead

theorem bag_takeLead (s : Strands α) (n : Nat) : (s.takeLead n).bag = s.bag := by
  rw [bag, bag, ← take_add_drop n s.lead]
  simp only [takeLead, ← Multiset.coe_add, Multiset.coe_reverse]
  abel

theorem bag_takeOther (s : Strands α) (n : Nat) : (s.takeOther n).bag = s.bag := by
  rw [bag, bag, ← take_add_drop n s.other]
  simp only [takeOther, ← Multiset.coe_add, Multiset.coe_reverse]
  abel

theorem bag_result (s : Strands α) : (s.result : Multiset α) = s.bag := by
  rw [result, ← Multiset.coe_add, ← Multiset.coe_add, Multiset.coe_reverse, bag]

theorem bag_stretchLead {n : Nat} (h : stretchLead lt d s = .ok (n, s')) : s'.bag = s.bag := by
  rw [stretchLead] at h
  split at h
  · cases h
    rfl
  · obtain ⟨count, -, h⟩ := bind_eq_ok.mp h
    obtain ⟨-, rfl⟩ := Prod.mk.inj (Except.ok.inj h)
    split
    · exact bag_takeLead s count
    · rw [bag_takeOther, bag_takeLead]

theorem bag_stretchOther {n : Nat} (h : stretchOther lt d s = .ok (n, s')) : s'.bag = s.bag := by
  rw [stretchOther] at h
  split at h
  · cases h
    rfl
  · obtain ⟨count, -, h⟩ := bind_eq_ok.mp h
    obtain ⟨-, rfl⟩ := Prod.mk.inj (Except.ok.inj h)
    split
    · exact bag_takeOther s count
    · rw [bag_takeLead, bag_takeOther]

/-- A stretch of one run and then one of the other keep the items if each does. -/
theorem bag_both {first second : Strands α → Except ε (Nat × Strands α)} {n : Nat}
    (hfirst : ∀ {m t}, first s = .ok (m, t) → t.bag = s.bag)
    (hsecond : ∀ {m t u}, second t = .ok (m, u) → u.bag = t.bag)
    (h : (do
      let (m, s) ← first s
      if s.isSettled then return (m, s)
      else
        let (n, s) ← second s
        return (max m n, s)) = .ok (n, s')) : s'.bag = s.bag := by
  obtain ⟨⟨m, t⟩, ht, h⟩ := bind_eq_ok.mp h
  dsimp only at h
  split at h
  · obtain ⟨-, rfl⟩ := Prod.mk.inj (Except.ok.inj h)
    exact hfirst ht
  · obtain ⟨⟨k, u⟩, hu, h⟩ := bind_eq_ok.mp h
    obtain ⟨-, rfl⟩ := Prod.mk.inj (Except.ok.inj h)
    rw [hsecond hu, hfirst ht]

theorem bag_stretches {n : Nat} (h : stretches lt d s = .ok (n, s')) : s'.bag = s.bag := by
  cases d with
  | forwards => exact bag_both bag_stretchLead bag_stretchOther h
  | backwards => exact bag_both bag_stretchOther bag_stretchLead h

theorem bag_merge {fuel patience : Nat} {pace : Pace} {merged : List α × Nat}
    (h : merge lt d fuel patience pace s = .ok merged) : (merged.1 : Multiset α) = s.bag := by
  induction fuel generalizing patience pace s with
  | zero =>
      obtain rfl := Except.ok.inj h
      exact bag_result s
  | succ fuel ih =>
      rw [merge.eq_def] at h
      dsimp only at h
      split at h
      · obtain rfl := Except.ok.inj h
        exact bag_result s
      split at h
      · split at h
        · obtain ⟨won, -, h⟩ := bind_eq_ok.mp h
          split at h
          · rw [ih h, bag_takeOther]
          · rw [ih h, bag_takeLead]
        · obtain rfl := Except.ok.inj h
          exact bag_result s
      · obtain ⟨⟨longest, next⟩, hnext, h⟩ := bind_eq_ok.mp h
        have hbag := bag_stretches hnext
        dsimp only at h
        split at h
        · obtain rfl := Except.ok.inj h
          rw [bag_result, hbag]
        split at h
        · rw [ih h, hbag]
        · rw [ih h, hbag]

end Strands

theorem bag_mergeOverlap {patience : Nat} {xs ys : List α} {merged : List α × Nat}
    (h : mergeOverlap lt patience xs ys = .ok merged) :
    (merged.1 : Multiset α) = xs + ys := by
  rw [mergeOverlap] at h
  dsimp only at h
  split at h
  · rw [Strands.bag_merge h, Strands.bag_takeOther, Strands.bag]
    simp only [Multiset.coe_nil]
    abel
  · obtain ⟨⟨found, q⟩, hfound, h⟩ := bind_eq_ok.mp h
    obtain rfl := Except.ok.inj h
    rw [Multiset.coe_reverse, Strands.bag_merge hfound, Strands.bag_takeOther, Strands.bag]
    simp only [Multiset.coe_nil, Multiset.coe_reverse]
    abel

theorem bag_mergeRuns {patience : Nat} {xs ys : List α} {merged : List α × Nat}
    (h : mergeRuns lt patience xs ys = .ok merged) :
    (merged.1 : Multiset α) = xs + ys := by
  rw [mergeRuns.eq_def] at h
  split at h
  · obtain rfl := Except.ok.inj h
    exact (add_zero _).symm
  · next ys y rest =>
      obtain ⟨front, -, h⟩ := bind_eq_ok.mp h
      split at h
      · obtain rfl := Except.ok.inj h
        exact (Multiset.coe_add _ _).symm
      · obtain ⟨back, -, h⟩ := bind_eq_ok.mp h
        dsimp only at h
        split at h
        · obtain rfl := Except.ok.inj h
          exact (Multiset.coe_add _ _).symm
        · obtain ⟨⟨found, q⟩, hfound, h⟩ := bind_eq_ok.mp h
          obtain rfl := Except.ok.inj h
          have hxs := take_add_drop front xs
          have hys := take_add_drop ((y :: rest).length - back) (y :: rest)
          dsimp only
          rw [← Multiset.coe_add, ← Multiset.coe_add, bag_mergeOverlap hfound, ← hxs, ← hys,
            add_assoc, add_assoc, add_assoc]

theorem bag_insert {x : α} {xs ys : List α} (h : insert lt x xs = .ok ys) :
    (ys : Multiset α) = xs + {x} := by
  induction xs using insert.induct generalizing ys with
  | case1 xs hdrop =>
      obtain ⟨rfl, hok⟩ := insert_of_nil hdrop
      rw [hok] at h
      obtain rfl := Except.ok.inj h
      rfl
  | case2 xs y back hdrop _ ihfront ihback =>
      have hxs : (xs.take (xs.length / 2) : Multiset α) + (y :: back) = xs :=
        hdrop ▸ take_add_drop (xs.length / 2) xs
      rw [insert_of_cons hdrop] at h
      obtain ⟨less, -, h⟩ := bind_eq_ok.mp h
      split at h
      · obtain ⟨zs, hzs, h⟩ := bind_eq_ok.mp h
        obtain rfl := Except.ok.inj h
        rw [← hxs, ← Multiset.coe_add, ihfront hzs]
        abel
      · obtain ⟨zs, hzs, h⟩ := bind_eq_ok.mp h
        obtain rfl := Except.ok.inj h
        rw [← hxs, ← Multiset.coe_add, ← Multiset.cons_coe, ← Multiset.cons_coe, ihback hzs,
          add_assoc, Multiset.cons_add]

theorem bag_insertAll {xs ys zs : List α}
    (h : zs.foldlM (fun acc z => insert lt z acc) xs = .ok ys) :
    (ys : Multiset α) = xs + zs := by
  induction zs generalizing xs with
  | nil =>
      obtain rfl := Except.ok.inj h
      exact (add_zero _).symm
  | cons z rest ih =>
      rw [List.foldlM_cons] at h
      obtain ⟨acc, hacc, h⟩ := bind_eq_ok.mp h
      rw [ih h, bag_insert hacc, ← Multiset.cons_coe, ← Multiset.singleton_add, add_assoc]

theorem append_continueRun {descending : Bool} {last : α} {xs : List α} {cut : List α × List α}
    (h : continueRun lt descending last xs = .ok cut) : cut.1 ++ cut.2 = xs := by
  induction xs generalizing last cut with
  | nil =>
      obtain rfl := Except.ok.inj h
      rfl
  | cons x xs ih =>
      rw [continueRun] at h
      obtain ⟨less, -, h⟩ := bind_eq_ok.mp h
      split at h
      · obtain ⟨⟨run, rest⟩, hrun, h⟩ := bind_eq_ok.mp h
        obtain rfl := Except.ok.inj h
        exact congrArg (x :: ·) (ih hrun)
      · obtain rfl := Except.ok.inj h
        rfl

theorem bag_headRun {xs : List α} {cut : List α × List α} (h : headRun lt xs = .ok cut) :
    (cut.1 : Multiset α) + cut.2 = xs := by
  rw [headRun.eq_def] at h
  split at h
  · obtain rfl := Except.ok.inj h
    rfl
  · obtain rfl := Except.ok.inj h
    rfl
  · obtain ⟨descending, -, h⟩ := bind_eq_ok.mp h
    obtain ⟨⟨run, rest⟩, hrun, h⟩ := bind_eq_ok.mp h
    obtain rfl := Except.ok.inj h
    rw [← append_continueRun hrun]
    cases descending with
    | true => exact (congrArg (· + _) (Multiset.coe_reverse _)).trans (Multiset.coe_add _ _)
    | false => exact Multiset.coe_add _ _

/-- The first item always goes into the run. -/
theorem length_headRun {x : α} {xs : List α} {cut : List α × List α}
    (h : headRun lt (x :: xs) = .ok cut) : cut.2.length ≤ xs.length := by
  cases xs with
  | nil =>
      obtain rfl := Except.ok.inj h
      exact Nat.le_refl _
  | cons y rest =>
      obtain ⟨descending, -, h⟩ := bind_eq_ok.mp h
      obtain ⟨⟨run, tail⟩, hrun, h⟩ := bind_eq_ok.mp h
      obtain rfl := Except.ok.inj h
      have hlength := congrArg List.length (append_continueRun hrun)
      simp only [List.length_append, List.length_cons] at hlength ⊢
      omega

/-- The items of runs, one after the other. -/
def heap (runs : List (Run α)) : Multiset α :=
  (runs.map fun r => (r.items : Multiset α)).sum

theorem heap_cons (r : Run α) (runs : List (Run α)) :
    heap (r :: runs) = r.items + heap runs := by
  rw [heap, List.map_cons, List.sum_cons, heap]

theorem bag_mergeAbove {power patience : Nat} {top : Run α} {runs : List (Run α)}
    {merged : Run α × List (Run α) × Nat} (h : mergeAbove lt power patience top runs = .ok merged) :
    (merged.1.items : Multiset α) + heap merged.2.1 = top.items + heap runs := by
  induction runs generalizing top patience with
  | nil =>
      obtain rfl := Except.ok.inj h
      rfl
  | cons below rest ih =>
      rw [mergeAbove] at h
      split at h
      · obtain ⟨⟨items, q⟩, hitems, h⟩ := bind_eq_ok.mp h
        rw [ih h, heap_cons, bag_mergeRuns hitems]
        abel
      · obtain rfl := Except.ok.inj h
        rfl

theorem bag_mergeAll {patience : Nat} {runs : List (Run α)} {ys : List α}
    (h : mergeAll lt patience runs = .ok ys) : (ys : Multiset α) = heap runs := by
  induction patience, runs using mergeAll.induct generalizing ys with
  | case1 =>
      rw [mergeAll] at h
      obtain rfl := Except.ok.inj h
      rfl
  | case2 _ run =>
      rw [mergeAll] at h
      obtain rfl := Except.ok.inj h
      exact (add_zero _).symm
  | case3 patience top below =>
      rw [mergeAll] at h
      obtain ⟨merged, hmerged, h⟩ := bind_eq_ok.mp h
      obtain rfl := Except.ok.inj h
      rw [bag_mergeRuns hmerged, heap_cons, heap_cons, add_comm]
      exact congrArg (_ + ·) (add_zero _).symm
  | case4 patience top middle bottom rest hlen ih =>
      rw [mergeAll, if_pos hlen] at h
      obtain ⟨⟨items, q⟩, hitems, h⟩ := bind_eq_ok.mp h
      rw [ih items q h]
      simp only [heap_cons, bag_mergeRuns hitems]
      abel
  | case5 patience top middle bottom rest hlen ih =>
      rw [mergeAll, if_neg hlen] at h
      obtain ⟨⟨items, q⟩, hitems, h⟩ := bind_eq_ok.mp h
      rw [ih items q h]
      simp only [heap_cons, bag_mergeRuns hitems]
      abel

theorem bag_sortRest {n fuel start patience : Nat} {runs : List (Run α)} {rest ys : List α}
    (hfuel : rest.length ≤ fuel) (h : sortRest lt n fuel start patience runs rest = .ok ys) :
    (ys : Multiset α) = heap runs + rest := by
  induction fuel generalizing start patience runs rest with
  | zero =>
      obtain rfl := List.length_eq_zero_iff.mp (Nat.le_zero.mp hfuel)
      rw [sortRest] at h
      exact (bag_mergeAll h).trans (add_zero _).symm
  | succ fuel ih =>
      cases rest with
      | nil =>
          rw [sortRest.eq_def] at h
          exact (bag_mergeAll h).trans (add_zero _).symm
      | cons x xs =>
          rw [sortRest.eq_def] at h
          obtain ⟨⟨head, tail⟩, hhead, h⟩ := bind_eq_ok.mp h
          obtain ⟨items, hitems, h⟩ := bind_eq_ok.mp h
          have hxs : (items : Multiset α) + tail.drop (runLength n - head.length) = (x :: xs) := by
            rw [bag_insertAll hitems, add_assoc, take_add_drop]
            exact bag_headRun hhead
          have hfuel' : (tail.drop (runLength n - head.length)).length ≤ fuel := by
            have hshorter : tail.length ≤ xs.length := length_headRun hhead
            simp only [List.length_drop, List.length_cons] at hfuel ⊢
            omega
          cases runs with
          | nil =>
              rw [ih hfuel' h, heap_cons, ← hxs, add_comm _ (heap []), add_assoc]
          | cons top below =>
              obtain ⟨⟨top', below', q⟩, hmerged, h⟩ := bind_eq_ok.mp h
              have hheap := bag_mergeAbove hmerged
              rw [ih hfuel' h, heap_cons, heap_cons, heap_cons, ← hheap, ← hxs]
              dsimp only
              abel

/-- Sorting gives a permutation, whatever the comparison says. -/
theorem perm_sort {xs ys : List α} (h : sort lt xs = .ok ys) : ys.Perm xs :=
  Multiset.coe_eq_coe.mp ((bag_sortRest (Nat.le_refl _) h).trans (zero_add _))

/-- Items that their keys stand beside. -/
theorem map_keyed {key : α → Except Fault Value} {xs : List α} {keyed : List (Value × α)}
    (h : (xs.mapM fun x => do return (← key x, x)) = .ok keyed) : keyed.map Prod.snd = xs := by
  have hall := mapM_eq_ok.mp h
  clear h
  induction hall with
  | nil => rfl
  | cons hx _ ih =>
      obtain ⟨k, -, hx⟩ := bind_eq_ok.mp hx
      obtain rfl := Except.ok.inj hx
      exact congrArg (_ :: ·) ih

theorem perm_sortByKey {key : α → Except Fault Value} {xs ys : List α}
    (h : sortByKey key xs = .ok ys) : ys.Perm xs := by
  obtain ⟨keyed, hkeyed, h⟩ := bind_eq_ok.mp h
  obtain ⟨sorted, hsorted, h⟩ := bind_eq_ok.mp h
  obtain rfl := Except.ok.inj h
  rw [← map_keyed hkeyed]
  exact (perm_sort (mapError_eq_ok.mp hsorted)).map Prod.snd

end TypeStencil.Sorting
