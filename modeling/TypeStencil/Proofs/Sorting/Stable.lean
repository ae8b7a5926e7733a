import TypeStencil.Proofs.Sorting.Merging

/-!
Sorting is stable: where all items of a list can be compared, it comes out in order, and tied items
stay in the order in which they were. What a list is cut into and how its runs are merged keeps the
items of all runs and of the rest.
-/
namespace TypeStencil.Sorting

variable {α ε : Type} {P : α → Prop} {before : α → α → Bool} {lt : α → α → Except ε Bool}

/-- An item is put where a run in order begins to stand behind it. -/
theorem insert_cut (ho : Ranked P before)
    (hlt : ∀ {a b}, P a → P b → lt a b = .ok (before a b)) {x : α} (hxP : P x) (xs : List α)
    (hx : ∀ y ∈ xs, P y) (hxs : Ascending before xs) :
    ∃ front back, xs = front ++ back ∧ insert lt x xs = .ok (front ++ x :: back) ∧
      (∀ y ∈ front, before x y = false) ∧ ∀ y ∈ back, before x y = true := by
  induction xs using insert.induct with
  | case1 xs hdrop =>
      obtain ⟨rfl, hok⟩ := insert_of_nil hdrop
      exact ⟨[], [], rfl, hok, nofun, nofun⟩
  | case2 xs y rest hdrop _ ihhead ihrest =>
      obtain ⟨hsplit, -⟩ := take_append_of_drop hdrop
      rw [insert_of_cons hdrop, hlt hxP (hx y (by rw [← hsplit]; simp)), ok_bind]
      generalize xs.take (xs.length / 2) = head at *
      subst hsplit
      rw [List.forall_mem_append] at hx
      obtain ⟨hhead, hrest, hcross⟩ := List.pairwise_append.mp hxs
      cases hxy : before x y with
      | true =>
          obtain ⟨front, back, rfl, hok, hfront, hback⟩ := ihhead hx.1 hhead
          have hbehind := Ascending.all_behind ho hxP hx.2 hrest hxy
          refine ⟨front, back ++ y :: rest, by simp, ?_, hfront,
            List.forall_mem_append.mpr ⟨hback, hbehind⟩⟩
          simp only [if_true, hok, ok_bind, List.append_assoc, List.cons_append]
          rfl
      | false =>
          obtain ⟨front, back, rfl, hok, hfront, hback⟩ :=
            ihrest (fun z hz => hx.2 z (List.mem_cons_of_mem y hz)) hrest.tail
          have hahead : ∀ z ∈ head, before x z = false := fun z hz =>
            ho.not_trans (hx.1 z hz) (hx.2 y List.mem_cons_self) hxP
              (hcross z hz y List.mem_cons_self) hxy
          refine ⟨head ++ y :: front, back, by simp, ?_,
            List.forall_mem_append.mpr ⟨hahead, List.forall_mem_cons.mpr ⟨hxy, hfront⟩⟩, hback⟩
          simp only [Bool.false_eq_true, if_false, hok, List.append_assoc, List.cons_append]
          rfl

/-- A run stays one when an item is put into it, which counts as the last of the items it is tied
with. -/
theorem insert_sorted (ho : Ranked P before)
    (hlt : ∀ {a b}, P a → P b → lt a b = .ok (before a b)) {x : α} (hxP : P x) (xs : List α)
    (hx : ∀ y ∈ xs, P y) (hxs : Ascending before xs) :
    ∃ zs, insert lt x xs = .ok zs ∧ Ascending before zs ∧ Keeps P before (xs ++ [x]) zs := by
  obtain ⟨front, back, rfl, hok, hfront, hback⟩ := insert_cut ho hlt hxP xs hx hxs
  rw [List.forall_mem_append] at hx
  obtain ⟨hfrontasc, hbackasc, hcross⟩ := List.pairwise_append.mp hxs
  have hhead : Ascending before (x :: back) :=
    List.pairwise_cons.mpr ⟨fun y hy => ho.asymm hxP (hx.2 y hy) (hback y hy), hbackasc⟩
  have hasc : Ascending before (front ++ x :: back) :=
    Ascending.append hfrontasc hhead fun y hy =>
      List.forall_mem_cons.mpr ⟨hfront y hy, hcross y hy⟩
  have hswap : Keeps P before (back ++ [x]) ([x] ++ back) :=
    .swap ho hx.2 (List.forall_mem_singleton.mpr hxP)
      fun y hy => List.forall_mem_singleton.mpr (hback y hy)
  refine ⟨front ++ x :: back, hok, hasc, ?_⟩
  rw [List.append_assoc]
  exact hswap.append_left front

/-- Putting one item after another into a run. -/
theorem insertAll_sorted (ho : Ranked P before)
    (hlt : ∀ {a b}, P a → P b → lt a b = .ok (before a b)) (more run : List α)
    (hmore : ∀ x ∈ more, P x) (hx : ∀ x ∈ run, P x) (hrun : Ascending before run) :
    ∃ zs, more.foldlM (fun acc z => insert lt z acc) run = .ok zs ∧ Ascending before zs ∧
      Keeps P before (run ++ more) zs := by
  induction more generalizing run with
  | nil => exact ⟨run, rfl, hrun, by simpa using Keeps.refl run⟩
  | cons x more ih =>
      rw [List.forall_mem_cons] at hmore
      obtain ⟨zs, hok, hasc, hkeeps⟩ := insert_sorted ho hlt hmore.1 run hx hrun
      have hzs : ∀ z ∈ zs, P z := hkeeps.all (by
        intro z hz
        rcases List.mem_append.mp hz with hz | hz
        · exact hx z hz
        · exact List.mem_singleton.mp hz ▸ hmore.1)
      obtain ⟨us, hok', hasc', hkeeps'⟩ := ih zs hmore.2 hzs hasc
      refine ⟨us, by rw [List.foldlM_cons, hok, ok_bind, hok'], hasc', ?_⟩
      have hparts := (hkeeps.append_right more).trans hkeeps'
      simpa using hparts

/-- A stretch whose items all stand in one direction to each other may begin with one more item, if
that item and the next one stand in this direction. -/
theorem Ranked.directed_cons (ho : Ranked P before) {descending : Bool} {x y : α} {run : List α}
    (hx : ∀ z ∈ x :: y :: run, P z) (hyx : before y x = descending)
    (hrun : (y :: run).Pairwise fun a b => before b a = descending) :
    (x :: y :: run).Pairwise fun a b => before b a = descending := by
  refine List.pairwise_cons.mpr ⟨?_, hrun⟩
  intro z hz
  rcases List.mem_cons.mp hz with rfl | hmem
  · exact hyx
  · have hzy := List.rel_of_pairwise_cons hrun hmem
    have hxP := hx x List.mem_cons_self
    have hyP := hx y (List.mem_cons_of_mem x List.mem_cons_self)
    have hzP := hx z (List.mem_cons_of_mem x hz)
    cases descending with
    | true => exact ho.trans hzP hyP hxP hzy hyx
    | false => exact ho.not_trans hxP hyP hzP hyx hzy

/-- A run goes on as long as each item stands to the one before it as the second to the first. -/
theorem continueRun_splits (ho : Ranked P before)
    (hlt : ∀ {a b}, P a → P b → lt a b = .ok (before a b)) (descending : Bool) (last : α)
    (xs : List α) (hx : ∀ x ∈ last :: xs, P x) :
    ∃ run rest, continueRun lt descending last xs = .ok (run, rest) ∧ run ++ rest = xs ∧
      (last :: run).Pairwise fun a b => before b a = descending := by
  induction xs generalizing last with
  | nil => exact ⟨[], [], rfl, rfl, List.pairwise_singleton _ last⟩
  | cons x xs ih =>
      obtain ⟨hlastP, hrestP⟩ := List.forall_mem_cons.mp hx
      rw [continueRun, hlt (hrestP x List.mem_cons_self) hlastP, ok_bind]
      by_cases hd : before x last = descending
      · obtain ⟨run, rest, hok, rfl, hrun⟩ := ih x hrestP
        have hrunP : ∀ z ∈ last :: x :: run, P z := fun z hz =>
          hx z (List.mem_append_left rest hz)
        refine ⟨x :: run, rest, ?_, rfl, ho.directed_cons hrunP hd hrun⟩
        rw [if_pos (by simp [hd]), hok]
        rfl
      · exact ⟨[], x :: xs, by rw [if_neg (by simpa using hd)]; rfl, rfl,
          List.pairwise_singleton _ last⟩

/-- A stretch that descends is in order when it is turned round. -/
theorem Ascending.of_descending (ho : Ranked P before) {xs : List α} (hx : ∀ x ∈ xs, P x)
    (h : xs.Pairwise fun a b => before b a = true) : Ascending before xs.reverse :=
  List.pairwise_reverse.mpr (h.imp_of_mem fun ha hb hba => ho.asymm (hx _ hb) (hx _ ha) hba)

/-- The run at the head of a list, turned round where it descends. -/
theorem headRun_sorted (ho : Ranked P before)
    (hlt : ∀ {a b}, P a → P b → lt a b = .ok (before a b)) (x : α) (xs : List α)
    (hx : ∀ y ∈ x :: xs, P y) :
    ∃ run rest, headRun lt (x :: xs) = .ok (run, rest) ∧ Ascending before run ∧
      Keeps P before (x :: xs) (run ++ rest) ∧ rest.length ≤ xs.length := by
  cases xs with
  | nil => exact ⟨[x], [], rfl, List.pairwise_singleton _ x, .refl _, Nat.le_refl 0⟩
  | cons y xs =>
      obtain ⟨hxP, hrestP⟩ := List.forall_mem_cons.mp hx
      obtain ⟨run, rest, hok, rfl, hrun⟩ := continueRun_splits ho hlt (before y x) y xs hrestP
      have hrunP : ∀ z ∈ x :: y :: run, P z := fun z hz => hx z (List.mem_append_left rest hz)
      have hdirected := ho.directed_cons hrunP rfl hrun
      have hlen : rest.length ≤ (y :: (run ++ rest)).length := by
        simp only [List.length_cons, List.length_append]
        omega
      rw [headRun, hlt (hrestP y List.mem_cons_self) hxP, ok_bind, hok]
      cases hd : before y x with
      | true =>
          rw [hd] at hdirected
          exact ⟨(x :: y :: run).reverse, rest, rfl, .of_descending ho hrunP hdirected,
            (Keeps.reverse ho hrunP hdirected).append_right rest, hlen⟩
      | false =>
          rw [hd] at hdirected
          exact ⟨x :: y :: run, rest, rfl, hdirected, .refl _, hlen⟩

/-- The next run of a list is the one at its head, into which the items behind it are put up to the
length of runs. -/
theorem nextRun_sorted (ho : Ranked P before)
    (hlt : ∀ {a b}, P a → P b → lt a b = .ok (before a b)) (most : Nat) (x : α) (xs : List α)
    (hx : ∀ y ∈ x :: xs, P y) :
    ∃ head rest items, headRun lt (x :: xs) = .ok (head, rest) ∧
      (rest.take (most - head.length)).foldlM (fun acc z => insert lt z acc) head = .ok items ∧
      Ascending before items ∧
      Keeps P before (x :: xs) (items ++ rest.drop (most - head.length)) ∧
      rest.length ≤ xs.length := by
  obtain ⟨head, rest, hok, hasc, hkeeps, hlen⟩ := headRun_sorted ho hlt x xs hx
  obtain ⟨hheadP, hrestP⟩ := List.forall_mem_append.mp (hkeeps.all hx)
  obtain ⟨items, hok', hasc', hkeeps'⟩ := insertAll_sorted ho hlt
    (rest.take (most - head.length)) head
    (fun y hy => hrestP y (List.mem_of_mem_take hy)) hheadP hasc
  refine ⟨head, rest, items, hok, hok', hasc', hkeeps.trans ?_, hlen⟩
  have hall := hkeeps'.append_right (rest.drop (most - head.length))
  rwa [List.append_assoc, List.take_append_drop] at hall

/-- All items of some runs, of which the last in the list comes first. -/
def pile (runs : List (Run α)) : List α :=
  (runs.reverse.map Run.items).flatten

@[simp] theorem pile_nil : pile ([] : List (Run α)) = [] := rfl

@[simp] theorem pile_cons (r : Run α) (runs : List (Run α)) :
    pile (r :: runs) = pile runs ++ r.items := by
  simp [pile]

/-- What sorting keeps: the runs are in order, and together with the items that are left they hold
what was given. -/
structure Piled (P : α → Prop) (before : α → α → Bool) (input : List α) (runs : List (Run α))
    (rest : List α) : Prop where
  all : ∀ x ∈ input, P x
  sorted : ∀ r ∈ runs, Ascending before r.items
  keeps : Keeps P before input (pile runs ++ rest)

namespace Piled

variable {input rest : List α} {runs : List (Run α)}

theorem of_run (h : Piled P before input runs rest) {r : Run α} (hr : r ∈ runs) {x : α}
    (hx : x ∈ r.items) : P x := by
  refine h.keeps.all h.all x (List.mem_append_left _ ?_)
  exact List.mem_flatten.mpr ⟨r.items, List.mem_map_of_mem (List.mem_reverse.mpr hr), hx⟩

theorem of_rest (h : Piled P before input runs rest) {x : α} (hx : x ∈ rest) : P x :=
  h.keeps.all h.all x (List.mem_append_right _ hx)

theorem mergeRuns (above : List (Run α)) {below : List (Run α)} {r s : Run α}
    (h : Piled P before input (above ++ r :: s :: below) rest) (ho : Ranked P before)
    (hlt : ∀ {a b}, P a → P b → lt a b = .ok (before a b)) (patience : Nat) :
    Strands.Sorts P before (s.items ++ r.items) (mergeRuns lt patience s.items r.items) := by
  have hr : r ∈ above ++ r :: s :: below := by simp
  have hs : s ∈ above ++ r :: s :: below := by simp
  exact mergeRuns_sorted ho hlt patience (fun x hx => h.of_run hs hx) (fun x hx => h.of_run hr hx)
    (h.sorted s hs) (h.sorted r hr)

/-- Two neighbouring runs may be replaced by one with their items. -/
theorem merge (above : List (Run α)) {below : List (Run α)} {r s : Run α} (t : Run α)
    (h : Piled P before input (above ++ r :: s :: below) rest)
    (hasc : Ascending before t.items) (hkeeps : Keeps P before (s.items ++ r.items) t.items) :
    Piled P before input (above ++ t :: below) rest := by
  refine ⟨h.all, ?_, ?_⟩
  · intro u hu
    rcases List.mem_append.mp hu with hu | hu
    · exact h.sorted u (List.mem_append_left _ hu)
    · rcases List.mem_cons.mp hu with rfl | hu
      · exact hasc
      · exact h.sorted u (by simp [hu])
  · have hpart : ∀ runs : List (Run α), pile (above ++ runs) = pile runs ++ pile above := by
      intro runs
      simp [pile]
    have hmove := ((hkeeps.append_left (pile below)).append_right (pile above)).append_right rest
    have hfrom := h.keeps
    rw [hpart, pile_cons, pile_cons] at hfrom
    rw [hpart, pile_cons]
    exact hfrom.trans (by simpa using hmove)

end Piled

theorem mergeAbove_piled (ho : Ranked P before)
    (hlt : ∀ {a b}, P a → P b → lt a b = .ok (before a b)) {input rest : List α}
    (power patience : Nat) (top : Run α) (below : List (Run α))
    (h : Piled P before input (top :: below) rest) :
    ∃ top' below' patience', mergeAbove lt power patience top below = .ok (top', below', patience') ∧
      Piled P before input (top' :: below') rest := by
  induction below generalizing patience top with
  | nil => exact ⟨top, [], patience, rfl, h⟩
  | cons next below ih =>
      rw [mergeAbove]
      split
      · obtain ⟨zs, q, hok, hasc, hkeeps⟩ := Piled.mergeRuns [] h ho hlt patience
        rw [hok, ok_bind]
        exact ih q ⟨next.start, zs, 0⟩ (Piled.merge [] _ h hasc hkeeps)
      · exact ⟨top, next :: below, patience, rfl, h⟩

theorem mergeAll_sorted (ho : Ranked P before)
    (hlt : ∀ {a b}, P a → P b → lt a b = .ok (before a b)) {input : List α} (patience : Nat)
    (runs : List (Run α)) (h : Piled P before input runs []) :
    ∃ zs, mergeAll lt patience runs = .ok zs ∧ Ascending before zs ∧ Keeps P before input zs := by
  induction patience, runs using mergeAll.induct with
  | case1 => exact ⟨[], by rw [mergeAll], .nil, by simpa using h.keeps⟩
  | case2 _ run =>
      exact ⟨run.items, by rw [mergeAll], h.sorted run (by simp), by simpa using h.keeps⟩
  | case3 patience top below =>
      obtain ⟨zs, q, hok, hasc, hkeeps⟩ := Piled.mergeRuns [] h ho hlt patience
      have hdone := Piled.merge [] ⟨0, zs, 0⟩ h hasc hkeeps
      exact ⟨zs, by rw [mergeAll, hok]; rfl, hasc, by simpa using hdone.keeps⟩
  | case4 patience top middle bottom rest hlen ih =>
      obtain ⟨zs, q, hok, hasc, hkeeps⟩ := Piled.mergeRuns [top] h ho hlt patience
      rw [mergeAll, if_pos hlen, hok, ok_bind]
      exact ih zs q (Piled.merge [top] _ h hasc hkeeps)
  | case5 patience top middle bottom rest hlen ih =>
      obtain ⟨zs, q, hok, hasc, hkeeps⟩ := Piled.mergeRuns [] h ho hlt patience
      rw [mergeAll, if_neg hlen, hok, ok_bind]
      exact ih zs q (Piled.merge [] _ h hasc hkeeps)

/-- The next run is cut off the items that are left. -/
theorem Piled.push {input rest rest' : List α} {runs : List (Run α)} {r : Run α}
    (h : Piled P before input runs rest) (hasc : Ascending before r.items)
    (hkeeps : Keeps P before rest (r.items ++ rest')) : Piled P before input (r :: runs) rest' := by
  refine ⟨h.all, List.forall_mem_cons.mpr ⟨hasc, h.sorted⟩, ?_⟩
  have hmove := h.keeps.trans (hkeeps.append_left (pile runs))
  simpa using hmove

/-- The power of a run says when it is merged, not what it holds. -/
theorem Piled.withPower {input rest : List α} {top : Run α} {runs : List (Run α)} {power : Nat}
    (h : Piled P before input (top :: runs) rest) :
    Piled P before input ({ top with power } :: runs) rest :=
  ⟨h.all, List.forall_mem_cons.mpr (List.forall_mem_cons.mp h.sorted), by simpa using h.keeps⟩

theorem sortRest_sorted (ho : Ranked P before)
    (hlt : ∀ {a b}, P a → P b → lt a b = .ok (before a b)) {input : List α}
    (n fuel start patience : Nat) (runs : List (Run α)) (rest : List α)
    (h : Piled P before input runs rest) (hfuel : rest.length ≤ fuel) :
    ∃ zs, sortRest lt n fuel start patience runs rest = .ok zs ∧ Ascending before zs ∧
      Keeps P before input zs := by
  induction fuel generalizing start patience runs rest with
  | zero =>
      obtain rfl := List.length_eq_zero_iff.mp (Nat.le_zero.mp hfuel)
      rw [sortRest]
      exact mergeAll_sorted ho hlt patience runs h
  | succ fuel ih =>
      cases rest with
      | nil =>
          rw [sortRest]
          exact mergeAll_sorted ho hlt patience runs h
          exact Nat.succ_ne_zero fuel
      | cons x xs =>
          obtain ⟨head, rest, items, hhead, hitems, hasc, hkeeps, hlen⟩ :=
            nextRun_sorted ho hlt (runLength n) x xs fun y hy => h.of_rest hy
          have hfuel' : (rest.drop (runLength n - head.length)).length ≤ fuel := by
            simp only [List.length_drop, List.length_cons] at hfuel ⊢
            omega
          rw [sortRest, hhead, ok_bind]
          dsimp only
          rw [hitems, ok_bind]
          cases runs with
          | nil => exact ih _ _ _ _ (h.push hasc hkeeps) hfuel'
          | cons top below =>
              obtain ⟨top', below', q, hok, hmerged⟩ := mergeAbove_piled ho hlt
                (borderPower n top.start top.items.length items.length) patience top below h
              dsimp only
              rw [hok, ok_bind]
              exact ih _ _ _ _ (hmerged.withPower.push hasc hkeeps) hfuel'

/-- A list whose items can all be compared is sorted stably. -/
theorem sort_stable (ho : Ranked P before)
    (hlt : ∀ {a b}, P a → P b → lt a b = .ok (before a b)) (xs : List α) (hx : ∀ x ∈ xs, P x) :
    ∃ zs, sort lt xs = .ok zs ∧ Ascending before zs ∧ Keeps P before xs zs :=
  sortRest_sorted ho hlt _ _ _ _ [] xs ⟨hx, by simp, .refl xs⟩ (Nat.le_refl _)

end TypeStencil.Sorting
