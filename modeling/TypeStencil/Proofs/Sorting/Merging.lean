import TypeStencil.Proofs.Sequencing
import TypeStencil.Proofs.Sorting.Counting

/-!
Merging two runs in order gives the items of both in order, and of tied items those of the first
run come first. The invariant of a merge holds in either direction, since only the order of
arguments differs.
-/
namespace TypeStencil.Sorting

variable {α ε : Type} {P : α → Prop} {ahead : α → α → Bool} {p : α → Bool} {xs : List α}

theorem take_takeWhile_length (p : α → Bool) (xs : List α) :
    xs.take (xs.takeWhile p).length = xs.takeWhile p := by
  conv => lhs; arg 2; rw [← List.takeWhile_append_dropWhile (p := p) (l := xs)]
  exact List.take_left

theorem drop_takeWhile_length (p : α → Bool) (xs : List α) :
    xs.drop (xs.takeWhile p).length = xs.dropWhile p := by
  conv => lhs; arg 2; rw [← List.takeWhile_append_dropWhile (p := p) (l := xs)]
  exact List.drop_left

theorem Closed.not_of_mem_dropWhile (h : Closed p xs) : ∀ x ∈ xs.dropWhile p, p x = false := by
  intro x hx
  cases hd : xs.dropWhile p with
  | nil =>
      rw [hd] at hx
      cases hx
  | cons z zs =>
      have hz : p z = false := by
        have := List.head?_dropWhile_not p xs
        rw [hd] at this
        simpa using this
      have hsub : Closed p (z :: zs) := hd ▸ h.sublist (List.dropWhile_sublist p)
      rw [hd, List.mem_cons] at hx
      rcases hx with rfl | hx
      · exact hz
      · cases hp : p x with
        | false => rfl
        | true =>
            have := List.rel_of_pairwise_cons hsub hx hp
            rw [hz] at this
            cases this

/-- A search cuts a list where the test begins to fail. -/
theorem countAhead_cut (r : Rounding) {t : α → Except ε Bool} (ht : ∀ x ∈ xs, t x = .ok (p x))
    (h : Closed p xs) :
    ∃ n, countAhead r t xs = .ok n ∧ (∀ x ∈ xs.take n, p x = true) ∧
      ∀ x ∈ xs.drop n, p x = false := by
  refine ⟨_, countAhead_eq r t xs ht h, fun x hx => ?_, fun x hx => ?_⟩
  · rw [take_takeWhile_length] at hx
    exact List.mem_takeWhile_imp hx
  · rw [drop_takeWhile_length] at hx
    exact h.not_of_mem_dropWhile x hx

/-- A search for what an item does not stand ahead of cuts a list in order where it begins to. -/
theorem countAhead_not_ahead (ho : Ranked P ahead) (test : α → α → Except ε Bool)
    (ht : ∀ {y x}, P y → P x → test y x = .ok (ahead y x)) (r : Rounding) {y : α} (hy : P y)
    (hP : ∀ x ∈ xs, P x) (hxs : Ascending ahead xs) :
    ∃ n, countAhead r (fun x => return !(← test y x)) xs = .ok n ∧
      (∀ x ∈ xs.take n, ahead y x = false) ∧ ∀ x ∈ xs.drop n, ahead y x = true := by
  obtain ⟨n, hcount, hfront, hrest⟩ := countAhead_cut (p := fun x => !ahead y x) r
    (t := fun x => return !(← test y x)) (fun x hx => by rw [ht hy (hP x hx)]; rfl)
    (hxs.not_ahead_closed ho hP hy)
  simp only [Bool.not_eq_true', Bool.not_eq_false'] at hfront hrest
  exact ⟨n, hcount, hfront, hrest⟩

/-- What the first of some items in order does not stand ahead of, none of them stands ahead of. -/
theorem Ascending.none_ahead (ho : Ranked P ahead) {x y : α} {ys : List α} (hx : P x)
    (hys : ∀ z ∈ y :: ys, P z) (h : Ascending ahead (y :: ys)) (hyx : ahead y x = false) :
    ∀ z ∈ y :: ys, ahead z x = false := by
  intro z hz
  rcases List.mem_cons.mp hz with rfl | hmem
  · exact hyx
  · exact ho.not_trans hx (hys y List.mem_cons_self) (hys z hz) hyx
      (List.rel_of_pairwise_cons h hmem)

/-- What stands ahead of the first of some items in order stands ahead of all of them. -/
theorem Ascending.all_behind (ho : Ranked P ahead) {x y : α} {xs : List α} (hy : P y)
    (hxs : ∀ z ∈ x :: xs, P z) (h : Ascending ahead (x :: xs)) (hyx : ahead y x = true) :
    ∀ z ∈ x :: xs, ahead y z = true := by
  intro z hz
  rcases List.mem_cons.mp hz with rfl | hmem
  · exact hyx
  · exact ho.ahead_of_not_ahead hy (hxs x List.mem_cons_self) (hxs z hz) hyx
      (List.rel_of_pairwise_cons h hmem)

namespace Strands

/-- What a merge of `input` keeps from step to step: the items taken stand in order in front of all
others, and the last item of the lead run stays behind the other run. -/
structure Mergeable (P : α → Prop) (ahead : α → α → Bool) (input : List α) (s : Strands α) :
    Prop where
  all : ∀ x ∈ input, P x
  keeps : Keeps P ahead input (s.taken.reverse ++ s.lead ++ s.other)
  taken : Ascending ahead s.taken.reverse
  lead : Ascending ahead s.lead
  other : Ascending ahead s.other
  behind : ∀ t ∈ s.taken, ∀ x ∈ s.lead ++ s.other, ahead x t = false
  last : ∀ x, s.lead.getLast? = some x → ∀ y ∈ s.other, ahead y x = true

def size (s : Strands α) : Nat :=
  s.lead.length + s.other.length

variable {input : List α} {s : Strands α}

namespace Mergeable

theorem of_lead (h : Mergeable P ahead input s) {x : α} (hx : x ∈ s.lead) : P x :=
  h.keeps.all h.all x (by simp [hx])

theorem of_other (h : Mergeable P ahead input s) {x : α} (hx : x ∈ s.other) : P x :=
  h.keeps.all h.all x (by simp [hx])

/-- Items of the lead run may be taken when no item of the other run goes ahead of them. -/
theorem takeLead (h : Mergeable P ahead input s) (n : Nat)
    (hn : ∀ x ∈ s.lead.take n, ∀ y ∈ s.other, ahead y x = false) :
    Mergeable P ahead input (s.takeLead n) := by
  have hlead : Ascending ahead (s.lead.take n ++ s.lead.drop n) := by
    rw [List.take_append_drop]
    exact h.lead
  have hcross := (List.pairwise_append.mp hlead).2.2
  refine ⟨h.all, ?_, ?_, h.lead.sublist (List.drop_sublist n _), h.other, ?_, ?_⟩
  · have hsame : (s.takeLead n).taken.reverse ++ (s.takeLead n).lead ++ (s.takeLead n).other =
        s.taken.reverse ++ s.lead ++ s.other := by
      simp [Strands.takeLead]
    rw [hsame]
    exact h.keeps
  · simp only [Strands.takeLead, List.reverse_append, List.reverse_reverse]
    refine h.taken.append (h.lead.sublist (List.take_sublist n _)) ?_
    intro t ht x hx
    exact h.behind t (List.mem_reverse.mp ht) x
      (List.mem_append_left _ (List.mem_of_mem_take hx))
  · intro t ht x hx
    simp only [Strands.takeLead, List.mem_append, List.mem_reverse] at ht hx
    rcases ht with ht | ht
    · rcases hx with hx | hx
      · exact hcross t ht x hx
      · exact hn t ht x hx
    · refine h.behind t ht x (List.mem_append.mpr ?_)
      exact hx.imp List.mem_of_mem_drop id
  · intro x hx y hy
    simp only [Strands.takeLead] at hx hy
    rw [List.getLast?_drop] at hx
    split at hx
    · cases hx
    · exact h.last x hx y hy

/-- Items of the other run may be taken when they go ahead of all items of the lead run. -/
theorem takeOther (ho : Ranked P ahead) (h : Mergeable P ahead input s) (n : Nat)
    (hn : ∀ y ∈ s.other.take n, ∀ x ∈ s.lead, ahead y x = true) :
    Mergeable P ahead input (s.takeOther n) := by
  have hother : Ascending ahead (s.other.take n ++ s.other.drop n) := by
    rw [List.take_append_drop]
    exact h.other
  have hcross := (List.pairwise_append.mp hother).2.2
  have hswap : Keeps P ahead (s.lead ++ s.other.take n) (s.other.take n ++ s.lead) :=
    .swap ho (fun x hx => h.of_lead hx) (fun y hy => h.of_other (List.mem_of_mem_take hy))
      (fun x hx y hy => hn y hy x hx)
  refine ⟨h.all, ?_, ?_, h.lead, h.other.sublist (List.drop_sublist n _), ?_, ?_⟩
  · refine h.keeps.trans ?_
    have hmove := (hswap.append_left s.taken.reverse).append_right (s.other.drop n)
    simpa [Strands.takeOther] using hmove
  · simp only [Strands.takeOther, List.reverse_append, List.reverse_reverse]
    refine h.taken.append (h.other.sublist (List.take_sublist n _)) ?_
    intro t ht x hx
    exact h.behind t (List.mem_reverse.mp ht) x
      (List.mem_append_right _ (List.mem_of_mem_take hx))
  · intro t ht x hx
    simp only [Strands.takeOther, List.mem_append, List.mem_reverse] at ht hx
    rcases ht with ht | ht
    · have hP := h.of_other (List.mem_of_mem_take ht)
      rcases hx with hx | hx
      · exact ho.asymm hP (h.of_lead hx) (hn t ht x hx)
      · exact hcross t ht x hx
    · refine h.behind t ht x (List.mem_append.mpr ?_)
      exact hx.imp id List.mem_of_mem_drop
  · intro x hx y hy
    exact h.last x hx y (List.mem_of_mem_drop hy)

theorem takeLead_next (h : Mergeable P ahead input s)
    (hn : ∀ x, s.lead.head? = some x → ∀ y ∈ s.other, ahead y x = false) :
    Mergeable P ahead input (s.takeLead 1) := by
  refine h.takeLead 1 fun x hx => hn x ?_
  rwa [List.take_one, Option.mem_toList] at hx

theorem takeOther_next (ho : Ranked P ahead) (h : Mergeable P ahead input s)
    (hn : ∀ y, s.other.head? = some y → ∀ x ∈ s.lead, ahead y x = true) :
    Mergeable P ahead input (s.takeOther 1) := by
  refine h.takeOther ho 1 fun y hy => hn y ?_
  rwa [List.take_one, Option.mem_toList] at hy

/-- No item of the other run goes ahead of an item that its next one does not go ahead of. -/
theorem none_ahead (ho : Ranked P ahead) (h : Mergeable P ahead input s) {x y : α}
    (hx : x ∈ s.lead) (hy : s.other.head? = some y) (hyx : ahead y x = false) :
    ∀ z ∈ s.other, ahead z x = false := by
  obtain ⟨ys, hys⟩ := List.head?_eq_some_iff.mp hy
  have hother := h.other
  rw [hys] at hother ⊢
  exact hother.none_ahead ho (h.of_lead hx) (fun z hz => h.of_other (hys ▸ hz)) hyx

/-- An item that goes ahead of the next one of the lead run goes ahead of all of them. -/
theorem all_behind (ho : Ranked P ahead) (h : Mergeable P ahead input s) {x y : α}
    (hx : s.lead.head? = some x) (hy : y ∈ s.other) (hyx : ahead y x = true) :
    ∀ z ∈ s.lead, ahead y z = true := by
  obtain ⟨xs, hxs⟩ := List.head?_eq_some_iff.mp hx
  have hlead := h.lead
  rw [hxs] at hlead ⊢
  exact hlead.all_behind ho (h.of_other hy) (fun z hz => h.of_lead (hxs ▸ hz)) hyx

/-- When no comparison is needed any more, the last item of the lead run goes to the end. -/
theorem result (ho : Ranked P ahead) (h : Mergeable P ahead input s) (hs : s.isSettled = true) :
    Ascending ahead s.result ∧ Keeps P ahead input s.result := by
  have hlead : ∀ x ∈ s.lead, ∀ y ∈ s.other, ahead y x = true := by
    intro x hx y hy
    simp only [isSettled, Bool.or_eq_true, List.isEmpty_iff, decide_eq_true_eq] at hs
    rcases hs with hnil | hone
    · rw [hnil] at hy
      cases hy
    · obtain ⟨z, hz⟩ := List.length_eq_one_iff.mp
        (Nat.le_antisymm hone (List.length_pos_of_mem hx))
      rw [hz, List.mem_singleton] at hx
      subst hx
      exact h.last x (by rw [hz]; rfl) y hy
  constructor
  · refine (h.taken.append h.other ?_).append h.lead ?_
    · intro t ht y hy
      exact h.behind t (List.mem_reverse.mp ht) y (List.mem_append_right _ hy)
    · intro t ht x hx
      rcases List.mem_append.mp ht with ht | ht
      · exact h.behind t (List.mem_reverse.mp ht) x (List.mem_append_left _ hx)
      · exact ho.asymm (h.of_other ht) (h.of_lead hx) (hlead x hx t ht)
  · refine h.keeps.trans ?_
    have hswap : Keeps P ahead (s.lead ++ s.other) (s.other ++ s.lead) :=
      .swap ho (fun x hx => h.of_lead hx) (fun y hy => h.of_other hy) hlead
    simpa [Strands.result] using hswap.append_left s.taken.reverse

end Mergeable

variable {lt : α → α → Except ε Bool} {d : Direction}

/-- What a step of a merge comes to: a state from which the merge goes on with fewer items, unless
it is settled. -/
def Advances (P : α → Prop) (ahead : α → α → Bool) (input : List α) (s : Strands α)
    (r : Except ε (Nat × Strands α)) : Prop :=
  ∃ n next, r = .ok (n, next) ∧ Mergeable P ahead input next ∧ next.size ≤ s.size ∧
    (next.isSettled = false → next.size < s.size)

theorem lead_ne_nil (hs : s.isSettled = false) : s.lead ≠ [] := by
  intro hnil
  simp [isSettled, hnil] at hs

theorem other_ne_nil (hs : s.isSettled = false) : s.other ≠ [] := by
  intro hnil
  simp [isSettled, hnil] at hs

theorem size_takeLead_le (n : Nat) : (s.takeLead n).size ≤ s.size := by
  simp only [size, Strands.takeLead, List.length_drop]
  omega

theorem size_takeOther_le (n : Nat) : (s.takeOther n).size ≤ s.size := by
  simp only [size, Strands.takeOther, List.length_drop]
  omega

theorem size_takeLead_lt (hs : s.isSettled = false) : (s.takeLead 1).size < s.size := by
  have := List.length_pos_iff.mpr (lead_ne_nil hs)
  simp only [size, Strands.takeLead, List.length_drop]
  omega

theorem size_takeOther_lt (hs : s.isSettled = false) : (s.takeOther 1).size < s.size := by
  have := List.length_pos_iff.mpr (other_ne_nil hs)
  simp only [size, Strands.takeOther, List.length_drop]
  omega

theorem stretchLead_advances (ho : Ranked P ahead)
    (hw : ∀ {y x}, P y → P x → wins lt d y x = .ok (ahead y x))
    (h : Mergeable P ahead input s) (hs : s.isSettled = false) :
    Advances P ahead input s (stretchLead lt d s) := by
  obtain ⟨y, ys, hy⟩ := List.exists_cons_of_ne_nil (other_ne_nil hs)
  have hnext : s.other.head? = some y := by rw [hy, List.head?_cons]
  obtain ⟨n, hcount, hfront, hrest⟩ := countAhead_not_ahead ho (wins lt d) hw (rounding d)
    (h.of_other (List.mem_of_head? hnext)) (fun x hx => h.of_lead hx) h.lead
  have heq : stretchLead lt d s =
      .ok (n, if (s.takeLead n).isSettled then s.takeLead n else (s.takeLead n).takeOther 1) := by
    rw [stretchLead, hy]
    dsimp only
    rw [hcount]
    rfl
  have htake : Mergeable P ahead input (s.takeLead n) := h.takeLead n fun x hx =>
    h.none_ahead ho (List.mem_of_mem_take hx) hnext (hfront x hx)
  refine ⟨n, _, heq, ?_⟩
  have hle := size_takeLead_le (s := s) n
  cases hsettled : (s.takeLead n).isSettled with
  | true => exact ⟨htake, hle, fun hf => by simp [hsettled] at hf⟩
  | false =>
      have hlt := size_takeOther_lt hsettled
      refine ⟨htake.takeOther_next ho ?_, by simp; omega, fun _ => by simp; omega⟩
      intro z hz
      obtain rfl := Option.some.inj (hnext.symm.trans hz)
      exact hrest

theorem stretchOther_advances (ho : Ranked P ahead)
    (hw : ∀ {y x}, P y → P x → wins lt d y x = .ok (ahead y x))
    (h : Mergeable P ahead input s) (hs : s.isSettled = false) :
    Advances P ahead input s (stretchOther lt d s) := by
  obtain ⟨x, xs, hx⟩ := List.exists_cons_of_ne_nil (lead_ne_nil hs)
  have hnext : s.lead.head? = some x := by rw [hx, List.head?_cons]
  have hxP : P x := h.of_lead (List.mem_of_head? hnext)
  obtain ⟨n, hcount, hfront, hrest⟩ := countAhead_cut (p := fun y => ahead y x) (rounding d)
    (t := fun y => wins lt d y x) (fun y hy => hw (h.of_other hy) hxP)
    (Ascending.ahead_closed ho (fun y hy => h.of_other hy) h.other hxP)
  have heq : stretchOther lt d s =
      .ok (n, if (s.takeOther n).isSettled then s.takeOther n else (s.takeOther n).takeLead 1) := by
    rw [stretchOther, hx]
    dsimp only
    rw [hcount]
    rfl
  have htake : Mergeable P ahead input (s.takeOther n) := h.takeOther ho n fun y hy =>
    h.all_behind ho hnext (List.mem_of_mem_take hy) (hfront y hy)
  refine ⟨n, _, heq, ?_⟩
  have hle := size_takeOther_le (s := s) n
  cases hsettled : (s.takeOther n).isSettled with
  | true => exact ⟨htake, hle, fun hf => by simp [hsettled] at hf⟩
  | false =>
      have hlt := size_takeLead_lt hsettled
      refine ⟨htake.takeLead_next ?_, by simp; omega, fun _ => by simp; omega⟩
      intro z hz
      obtain rfl := Option.some.inj (hnext.symm.trans hz)
      exact hrest

theorem stretches_advances (ho : Ranked P ahead)
    (hw : ∀ {y x}, P y → P x → wins lt d y x = .ok (ahead y x))
    (h : Mergeable P ahead input s) (hs : s.isSettled = false) :
    Advances P ahead input s (stretches lt d s) := by
  have hboth : ∀ first second : Strands α → Except ε (Nat × Strands α),
      (∀ t, Mergeable P ahead input t → t.isSettled = false → Advances P ahead input t (first t)) →
      (∀ t, Mergeable P ahead input t → t.isSettled = false → Advances P ahead input t (second t)) →
      Advances P ahead input s (first s >>= fun r =>
        if r.2.isSettled then return r
        else second r.2 >>= fun q => return (max r.1 q.1, q.2)) := by
    intro first second hfirst hsecond
    obtain ⟨m, t, hm, ht, hle, hlt⟩ := hfirst s h hs
    rw [hm]
    cases hsettled : t.isSettled with
    | true =>
        refine ⟨m, t, ?_, ht, hle, hlt⟩
        simp only [bind, Except.bind, hsettled, if_true]
        rfl
    | false =>
        obtain ⟨n, u, hn, hu, hle', hlt'⟩ := hsecond t ht hsettled
        refine ⟨max m n, u, ?_, hu, by omega, fun hf => ?_⟩
        · simp only [bind, Except.bind, hsettled, Bool.false_eq_true, if_false, hn]
          rfl
        · have := hlt' hf
          omega
  cases d with
  | forwards =>
      exact hboth _ _ (fun t ht hts => stretchLead_advances ho hw ht hts)
        (fun t ht hts => stretchOther_advances ho hw ht hts)
  | backwards =>
      exact hboth _ _ (fun t ht hts => stretchOther_advances ho hw ht hts)
        (fun t ht hts => stretchLead_advances ho hw ht hts)

/-- All items of `input` come out in order. -/
def Sorts (P : α → Prop) (ahead : α → α → Bool) (input : List α)
    (r : Except ε (List α × Nat)) : Prop :=
  ∃ zs rest, r = .ok (zs, rest) ∧ Ascending ahead zs ∧ Keeps P ahead input zs

/-- A merge with a step for each item ends with all items in order. -/
theorem merge_sorted (ho : Ranked P ahead)
    (hw : ∀ {y x}, P y → P x → wins lt d y x = .ok (ahead y x)) (fuel patience : Nat) (pace : Pace)
    (s : Strands α) (h : Mergeable P ahead input s) (hfuel : s.size ≤ fuel) :
    Sorts P ahead input (merge lt d fuel patience pace s) := by
  induction fuel generalizing patience pace s with
  | zero =>
      have hs : s.isSettled = true := by
        simp only [size, Nat.le_zero, Nat.add_eq_zero_iff, List.length_eq_zero_iff] at hfuel
        simp [isSettled, hfuel.2]
      exact ⟨s.result, patience, by rw [merge], h.result ho hs⟩
  | succ fuel ih =>
      rw [merge.eq_def]
      cases hs : s.isSettled with
      | true => exact ⟨s.result, patience, by simp [hs], h.result ho hs⟩
      | false =>
          simp only [hs, Bool.false_eq_true, if_false]
          obtain ⟨x, xs, hx⟩ := List.exists_cons_of_ne_nil (lead_ne_nil hs)
          obtain ⟨y, ys, hy⟩ := List.exists_cons_of_ne_nil (other_ne_nil hs)
          have hxnext : s.lead.head? = some x := by rw [hx, List.head?_cons]
          have hynext : s.other.head? = some y := by rw [hy, List.head?_cons]
          have hxmem := List.mem_of_head? hxnext
          have hymem := List.mem_of_head? hynext
          cases pace with
          | single leads others =>
              simp only [hx, hy, hw (h.of_other hymem) (h.of_lead hxmem), bind, Except.bind]
              cases hyx : ahead y x with
              | true =>
                  simp only [if_true]
                  have hsize := size_takeOther_lt hs
                  refine ih _ _ _ (h.takeOther_next ho fun z hz => ?_) (by omega)
                  obtain rfl := Option.some.inj (hynext.symm.trans hz)
                  exact h.all_behind ho hxnext hymem hyx
              | false =>
                  simp only [Bool.false_eq_true, if_false]
                  have hsize := size_takeLead_lt hs
                  refine ih _ _ _ (h.takeLead_next fun z hz => ?_) (by omega)
                  obtain rfl := Option.some.inj (hxnext.symm.trans hz)
                  exact h.none_ahead ho hxmem hynext hyx
          | stretched =>
              obtain ⟨n, t, hn, ht, hle, hlt⟩ := stretches_advances ho hw h hs
              simp only [hn, bind, Except.bind]
              cases hsettled : t.isSettled with
              | true => exact ⟨t.result, patience, by simp; rfl, ht.result ho hsettled⟩
              | false =>
                  have := hlt hsettled
                  simp only [Bool.false_eq_true, if_false]
                  split
                  · exact ih _ _ _ ht (by omega)
                  · exact ih _ _ _ ht (by omega)

end Strands

open Strands

variable {before : α → α → Bool} {lt : α → α → Except ε Bool} {ys : List α}

/-- Before anything is taken, only the items at the ends of the runs have to be known. -/
theorem Strands.Mergeable.start (hx : ∀ x ∈ xs, P x) (hy : ∀ y ∈ ys, P y)
    (hxs : Ascending ahead xs) (hys : Ascending ahead ys)
    (hlast : ∀ x, xs.getLast? = some x → ∀ y ∈ ys, ahead y x = true) :
    Mergeable P ahead (xs ++ ys) ⟨xs, ys, []⟩ := by
  refine ⟨?_, .refl _, .nil, hxs, hys, ?_, hlast⟩
  · intro x hmem
    exact (List.mem_append.mp hmem).elim (hx x) (hy x)
  · intro t ht
    cases ht

theorem mergeOverlap_sorted (ho : Ranked P before)
    (hlt : ∀ {a b}, P a → P b → lt a b = .ok (before a b)) (patience : Nat)
    (hx : ∀ x ∈ xs, P x) (hy : ∀ y ∈ ys, P y) (hxs : Ascending before xs)
    (hys : Ascending before ys)
    (hfirst : ∀ y, ys.head? = some y → ∀ x ∈ xs, before y x = true)
    (hlast : ∀ x, xs.getLast? = some x → ∀ y ∈ ys, before y x = true) :
    Sorts P before (xs ++ ys) (mergeOverlap lt patience xs ys) := by
  rw [mergeOverlap]
  split
  · refine merge_sorted ho (d := .forwards) (fun ha hb => hlt ha hb) _ _ _ _
      ((Mergeable.start hx hy hxs hys hlast).takeOther_next ho hfirst) ?_
    exact size_takeOther_le 1
  · have hstart : Mergeable P (fun a b => before b a) (ys.reverse ++ xs.reverse)
        ⟨ys.reverse, xs.reverse, []⟩ := by
      refine .start (by simpa using hy) (by simpa using hx) hys.flip_reverse hxs.flip_reverse ?_
      intro y hmem x hxmem
      rw [List.getLast?_reverse] at hmem
      exact hfirst y hmem x (List.mem_reverse.mp hxmem)
    obtain ⟨zs, rest, hok, hasc, hkeeps⟩ := merge_sorted (d := .backwards)
      ho.flip (fun ha hb => hlt hb ha) (xs.length + ys.length) patience (.single 0 0) _
      (hstart.takeOther_next ho.flip fun x hmem y hymem => by
        rw [List.head?_reverse] at hmem
        exact hlast x hmem y (List.mem_reverse.mp hymem))
      ((size_takeOther_le 1).trans (by simp [size]; omega))
    refine ⟨zs.reverse, rest, by rw [hok]; rfl, hasc.reverse_flip, ?_⟩
    simpa using hkeeps.reverse_flip

theorem Ascending.not_last_before (ho : Ranked P before) {x : α} (hx : P x)
    (h : Ascending before xs) (hlast : xs.getLast? = some x) : ∀ z ∈ xs, before x z = false := by
  obtain ⟨init, rfl⟩ := List.getLast?_eq_some_iff.mp hlast
  intro z hz
  rcases List.mem_append.mp hz with hz | hz
  · exact (List.pairwise_append.mp h).2.2 z hz x List.mem_cons_self
  · rw [List.mem_singleton.mp hz]
    exact ho.irrefl hx

/-- What lies in front of the overlap of two runs and what lies behind it stays where it is. -/
theorem around_overlap {low overlap high : List α} (hxs : Ascending before (low ++ xs))
    (hys : Ascending before (ys ++ high)) (hover : Ascending before overlap)
    (hkeeps : Keeps P before (xs ++ ys) overlap)
    (hlow : ∀ x ∈ low, ∀ y ∈ ys ++ high, before y x = false)
    (hhigh : ∀ x ∈ xs, ∀ y ∈ high, before y x = false) :
    Ascending before (low ++ overlap ++ high) ∧
      Keeps P before ((low ++ xs) ++ (ys ++ high)) (low ++ overlap ++ high) := by
  obtain ⟨hlows, -, hlowxs⟩ := List.pairwise_append.mp hxs
  obtain ⟨-, hhighs, hyshigh⟩ := List.pairwise_append.mp hys
  constructor
  · refine Ascending.append (Ascending.append hlows hover ?_) hhighs ?_
    · intro x hx z hz
      rcases List.mem_append.mp (hkeeps.perm.subset hz) with hz | hz
      · exact hlowxs x hx z hz
      · exact hlow x hx z (List.mem_append_left _ hz)
    · intro z hz y hy
      rcases List.mem_append.mp hz with hz | hz
      · exact hlow z hz y (List.mem_append_right _ hy)
      · rcases List.mem_append.mp (hkeeps.perm.subset hz) with hz | hz
        · exact hhigh z hz y hy
        · exact hyshigh z hz y hy
  · have hparts := (hkeeps.append_left low).append_right high
    simpa using hparts

/-- Two runs are in order when their overlap is merged. -/
theorem sorts_of_overlap (ho : Ranked P before)
    (hlt : ∀ {a b}, P a → P b → lt a b = .ok (before a b)) (patience : Nat)
    (low xs ys high : List α) (hx : ∀ x ∈ low ++ xs, P x) (hy : ∀ y ∈ ys ++ high, P y)
    (hxs : Ascending before (low ++ xs)) (hys : Ascending before (ys ++ high))
    (hlow : ∀ x ∈ low, ∀ y ∈ ys ++ high, before y x = false)
    (hfirst : ∀ x ∈ xs, ∀ y, ys.head? = some y → before y x = true)
    (hlast : ∀ x, xs.getLast? = some x →
      (∀ y ∈ ys, before y x = true) ∧ ∀ y ∈ high, before y x = false) :
    Sorts P before ((low ++ xs) ++ (ys ++ high)) (do
      let (merged, patience) ← mergeOverlap lt patience xs ys
      return (low ++ merged ++ high, patience)) := by
  obtain ⟨hxlow, hxrun⟩ := List.forall_mem_append.mp hx
  obtain ⟨hyrun, hyhigh⟩ := List.forall_mem_append.mp hy
  have hxsrun : Ascending before xs := hxs.sublist (List.sublist_append_right low xs)
  obtain ⟨zs, rest, hok, hasc, hkeeps⟩ := mergeOverlap_sorted ho hlt patience hxrun hyrun hxsrun
    (hys.sublist (List.sublist_append_left ys high)) (fun y hy x hx => hfirst x hx y hy)
    fun x hx => (hlast x hx).1
  refine ⟨_, rest, by rw [hok]; rfl, around_overlap hxs hys hasc hkeeps hlow fun z hz y hy => ?_⟩
  obtain ⟨x, hlastx⟩ : ∃ x, xs.getLast? = some x :=
    Option.isSome_iff_exists.mp (List.getLast?_isSome.mpr (List.ne_nil_of_mem hz))
  have hxP := hxrun x (List.mem_of_getLast? hlastx)
  exact ho.not_trans (hxrun z hz) hxP (hyhigh y hy) (hxsrun.not_last_before ho hxP hlastx z hz)
    ((hlast x hlastx).2 y hy)

theorem mergeRuns_sorted (ho : Ranked P before)
    (hlt : ∀ {a b}, P a → P b → lt a b = .ok (before a b)) (patience : Nat)
    (hx : ∀ x ∈ xs, P x) (hy : ∀ y ∈ ys, P y) (hxs : Ascending before xs)
    (hys : Ascending before ys) :
    Sorts P before (xs ++ ys) (mergeRuns lt patience xs ys) := by
  cases ys with
  | nil => exact ⟨xs, patience, rfl, hxs, by simpa using Keeps.refl xs⟩
  | cons y ys =>
      have hyP : P y := hy y List.mem_cons_self
      obtain ⟨front, hcount, hfront, hhigh⟩ := countAhead_not_ahead ho lt hlt .up hyP hx hxs
      have hsplit := List.take_append_drop front xs
      have hlow : ∀ x ∈ xs.take front, ∀ z ∈ y :: ys, before z x = false := fun x hmem =>
        hys.none_ahead ho (hx x (List.mem_of_mem_take hmem)) hy (hfront x hmem)
      rw [mergeRuns]
      dsimp only
      rw [hcount, ok_bind]
      cases hlast : (xs.drop front).getLast? with
      | none =>
          have hnil := List.getLast?_eq_none_iff.mp hlast
          rw [hnil, List.append_nil] at hsplit
          refine ⟨xs ++ y :: ys, patience, rfl, hxs.append hys ?_, .refl _⟩
          rw [← hsplit]
          exact hlow
      | some x =>
          have hxmem : x ∈ xs.drop front := List.mem_of_getLast? hlast
          -- Seen from the end, the second run is in order for the flipped comparison.
          obtain ⟨back, hcount', hback, hbehind⟩ := countAhead_not_ahead ho.flip
            (fun a b => lt b a) (fun ha hb => hlt hb ha) .down
            (hx x (List.mem_of_mem_drop hxmem)) (fun z hz => hy z (List.mem_reverse.mp hz))
            hys.flip_reverse
          simp only [List.drop_reverse, List.take_reverse, List.mem_reverse] at hback hbehind
          dsimp only
          rw [hcount', ok_bind]
          split
          · rename_i hzero
            rw [hzero, List.drop_zero] at hback
            have hyx := hhigh x hxmem
            rw [hback y List.mem_cons_self] at hyx
            cases hyx
          · generalize (y :: ys).length - back = middle at *
            have hsplit' := List.take_append_drop middle (y :: ys)
            have hall := sorts_of_overlap ho hlt patience (xs.take front) (xs.drop front)
              ((y :: ys).take middle) ((y :: ys).drop middle)
              (hsplit.symm ▸ hx) (hsplit'.symm ▸ hy) (hsplit.symm ▸ hxs) (hsplit'.symm ▸ hys)
              (hsplit'.symm ▸ hlow)
              (fun w hw z hz => by
                rw [List.head?_take] at hz
                split at hz
                · cases hz
                · exact Option.some.inj hz ▸ hhigh w hw)
              (fun z hz => by
                obtain rfl := Option.some.inj (hlast.symm.trans hz)
                exact ⟨hbehind, hback⟩)
            rwa [hsplit, hsplit'] at hall

end TypeStencil.Sorting
