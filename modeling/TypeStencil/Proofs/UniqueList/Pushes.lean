import Mathlib.Data.List.Induction
import Mathlib.Data.List.TakeWhile
import TypeStencil.Proofs.Value.Merging
import TypeStencil.UniqueList

/-!
Runs of pushes. The items and the set of what was seen go in step: a push adds to both or to none,
and this also holds up to where a push fails. Hence, whatever is pushed, in how many pushes, the
list holds the first occurrences among all that was processed, in order. Numbers of different kinds
may equal each other; the float that is no number equals nothing, and so it is left out here.
-/
namespace TypeStencil

namespace Value

/-- A value that equals itself. -/
def IsOrdinary (v : Value) : Prop :=
  v ≠ .float .nan

theorem equal_scalar {a : Scalar} (ha : IsOrdinary (.scalar a)) (b : Scalar) :
    equal (.scalar a) (.scalar b) = a.same b := by
  rw [equal.eq_def]
  split
  · next hnan => exact absurd hnan ha
  · rfl

end Value

open Value

namespace UniqueList

/-- The items that equal no earlier item. -/
def firsts (items : List Scalar) : List Scalar :=
  (items.zipIdx.filter fun e =>
    !(items.take e.2).any fun y => equal (.scalar y) (.scalar e.1)).map Prod.fst

/-- The items of a push in front of the first that cannot be an item. -/
def processed (items : List Value) : List Scalar :=
  (items.takeWhile fun v => v.scalar?.isSome).filterMap Value.scalar?

/-- What a push comes to: it fails at the first value that cannot be an item. -/
def outcome (items : List Value) : Except TypeFault Unit :=
  match items.find? fun v => v.scalar?.isNone with
  | none => .ok ()
  | some v => .error (.unhashable v.kind)

/-- Pushes one after another, with what each comes to; one that fails does not end the run. -/
def pushEach (l : UniqueList) : List (List Value) → UniqueList × List (Except TypeFault Unit)
  | [] => (l, [])
  | items :: rest =>
    let (l, result) := l.pushAll items
    let (l, results) := l.pushEach rest
    (l, result :: results)

/-- The items are what was seen, and nothing was seen twice. -/
structure InStep (l : UniqueList) : Prop where
  names : l.seen.names = l.items
  distinct : l.seen.Distinct

/-- What a list is after all of some items were processed. -/
structure Deduplicates (l : UniqueList) (given : List Scalar) : Prop where
  inStep : l.InStep
  items : l.toList = (firsts given).map .scalar
  different : l.toList.Pairwise fun v w => v.equal w = false
  contains : ∀ x : Scalar,
    l.contains (.scalar x) = .ok (l.toList.any fun v => v.equal (.scalar x))
  size : l.size = l.toList.length
  joined : ∀ xs ys, (l.pushAll xs).2 = .ok () →
    (l.pushAll xs).1.pushAll ys = l.pushAll (xs ++ ys)
  present : ∀ xs, (∀ v ∈ xs, l.contains v = .ok true) → l.pushAll xs = (l, .ok ())

section

variable {l : UniqueList} {pushed : List Scalar}

theorem firsts_snoc (items : List Scalar) (x : Scalar) :
    firsts (items ++ [x]) = firsts items ++
      if items.any fun y => equal (.scalar y) (.scalar x) then [] else [x] := by
  have hearlier : ∀ e ∈ items.zipIdx, (items ++ [x]).take e.2 = items.take e.2 := by
    intro e he
    exact List.take_append_of_le_length (List.snd_lt_of_mem_zipIdx he).le
  rw [firsts, List.zipIdx_append, List.filter_append, List.map_append]
  congr 1
  · rw [firsts]
    refine congrArg _ (List.filter_congr fun e he => ?_)
    rw [hearlier e he]
  · simp only [List.zipIdx_singleton, Nat.zero_add, List.filter_cons, List.filter_nil,
      List.take_left]
    cases items.any fun y => equal (.scalar y) (.scalar x) <;> rfl

theorem any_equal {items : List Scalar} (h : ∀ y ∈ items, IsOrdinary (.scalar y)) (x : Scalar) :
    (items.any fun y => equal (.scalar y) (.scalar x)) = items.any (·.same x) := by
  rw [Bool.eq_iff_iff, List.any_eq_true, List.any_eq_true]
  refine exists_congr fun y => and_congr_right fun hy => ?_
  rw [equal_scalar (h y hy)]

theorem firsts_snoc_of_ordinary (h : ∀ y ∈ pushed, IsOrdinary (.scalar y)) (x : Scalar) :
    firsts (pushed ++ [x]) = firsts pushed ++ if pushed.any (·.same x) then [] else [x] := by
  rw [firsts_snoc, any_equal h]

theorem any_same_of_same {x y : Scalar} (h : y.same x = true) (items : List Scalar) :
    items.any (·.same y) = items.any (·.same x) := by
  refine List.any_congr rfl fun z => ?_
  rw [Scalar.same_comm, Scalar.same_eq_of_same h, Scalar.same_comm]

/-- None of the items is lost among the first occurrences. -/
theorem any_firsts (h : ∀ y ∈ pushed, IsOrdinary (.scalar y)) (x : Scalar) :
    (firsts pushed).any (·.same x) = pushed.any (·.same x) := by
  -- An item is a first one by what stands before it, so the induction adds items at the end.
  induction pushed using List.reverseRecOn with
  | nil => rfl
  | append_singleton before y ih =>
      have hbefore : ∀ y ∈ before, IsOrdinary (.scalar y) :=
        fun y hy => h y (List.mem_append_left _ hy)
      rw [firsts_snoc_of_ordinary hbefore, List.any_append, List.any_append, ih hbefore]
      cases hy : before.any (·.same y) with
      | false => rfl
      | true =>
          rw [if_pos rfl, List.any_nil, Bool.or_false, List.any_cons, List.any_nil, Bool.or_false]
          cases hx : y.same x with
          | true => rw [← any_same_of_same hx, hy, Bool.or_true]
          | false => rw [Bool.or_false]

theorem inStep_empty : empty.InStep :=
  ⟨rfl, List.nodup_nil⟩

/-- What was seen is found among the items. -/
theorem InStep.has_eq (h : l.InStep) (x : Scalar) : l.has x = l.items.any (·.same x) := by
  rw [has, Bool.eq_iff_iff, Entries.contains_iff, h.names, Scalar.any_same_iff]

/-- An item that was not seen is added to the items and to what was seen. -/
theorem InStep.push (h : l.InStep) (x : Scalar) : (l.push x).InStep := by
  rw [UniqueList.push]
  split
  · exact h
  · next hnew =>
      rw [has, Entries.contains_iff] at hnew
      refine ⟨?_, h.distinct.put x ()⟩
      rw [Entries.put_of_notMem hnew, Entries.names, List.map_append, List.map_singleton]
      exact congrArg (· ++ [x]) h.names

/-- A push leaves the items and what was seen in step, also one that fails on its way. -/
theorem InStep.pushAll (h : l.InStep) (items : List Value) : (l.pushAll items).1.InStep := by
  induction items generalizing l with
  | nil => exact h
  | cons v rest ih =>
      cases v with
      | scalar x => exact ih (h.push x)
      | list vs => exact h
      | table es => exact h

theorem InStep.pushEach (h : l.InStep) (pushes : List (List Value)) :
    (l.pushEach pushes).1.InStep := by
  induction pushes generalizing l with
  | nil => exact h
  | cons items rest ih => exact ih (h.pushAll items)

theorem InStep.items_push (h : l.InStep) (x : Scalar) :
    (l.push x).items = l.items ++ if l.items.any (·.same x) then [] else [x] := by
  rw [UniqueList.push, h.has_eq]
  cases l.items.any (·.same x) with
  | true => exact (List.append_nil _).symm
  | false => rfl

/-- One more item is appended if it is the first of its kind. -/
theorem items_push_firsts (hstep : l.InStep) (h : ∀ y ∈ pushed, IsOrdinary (.scalar y))
    (hl : l.items = firsts pushed) (x : Scalar) : (l.push x).items = firsts (pushed ++ [x]) := by
  rw [hstep.items_push, firsts_snoc_of_ordinary h, hl, any_firsts h]

/-- A push goes on with what was pushed before, up to where it fails. -/
theorem pushAll_firsts {items : List Value} (hstep : l.InStep)
    (h : ∀ y ∈ pushed, IsOrdinary (.scalar y)) (hitems : ∀ v ∈ items, IsOrdinary v)
    (hl : l.items = firsts pushed) :
    (l.pushAll items).1.items = firsts (pushed ++ processed items) ∧
      (l.pushAll items).2 = outcome items := by
  induction items generalizing l pushed with
  | nil => exact ⟨hl.trans (congrArg _ (List.append_nil pushed).symm), rfl⟩
  | cons v rest ih =>
      rw [List.forall_mem_cons] at hitems
      cases v with
      | scalar x =>
          have hx : ∀ y ∈ pushed ++ [x], IsOrdinary (.scalar y) := by
            rw [List.forall_mem_append, List.forall_mem_singleton]
            exact ⟨h, hitems.1⟩
          obtain ⟨hheld, hresult⟩ := ih (hstep.push x) hx hitems.2 (items_push_firsts hstep h hl x)
          rw [List.append_assoc] at hheld
          exact ⟨hheld, hresult⟩
      | list vs => exact ⟨hl.trans (congrArg _ (List.append_nil pushed).symm), rfl⟩
      | table es => exact ⟨hl.trans (congrArg _ (List.append_nil pushed).symm), rfl⟩

theorem processed_ordinary {items : List Value} (h : ∀ v ∈ items, IsOrdinary v) :
    ∀ y ∈ processed items, IsOrdinary (.scalar y) := by
  intro y hy
  rw [processed, List.mem_filterMap] at hy
  obtain ⟨v, hv, hscalar⟩ := hy
  cases v with
  | scalar x =>
      obtain rfl := Option.some.inj hscalar
      exact h _ ((List.takeWhile_prefix _).subset hv)
  | list vs => cases hscalar
  | table es => cases hscalar

theorem pushEach_firsts {pushes : List (List Value)} (hstep : l.InStep)
    (h : ∀ y ∈ pushed, IsOrdinary (.scalar y))
    (hpushes : ∀ items ∈ pushes, ∀ v ∈ items, IsOrdinary v) (hl : l.items = firsts pushed) :
    (l.pushEach pushes).1.items = firsts (pushed ++ pushes.flatMap processed) ∧
      (l.pushEach pushes).2 = pushes.map outcome := by
  induction pushes generalizing l pushed with
  | nil => exact ⟨hl.trans (congrArg _ (List.append_nil pushed).symm), rfl⟩
  | cons items rest ih =>
      rw [List.forall_mem_cons] at hpushes
      obtain ⟨hheld, hresult⟩ := pushAll_firsts hstep h hpushes.1 hl
      have hordinary : ∀ y ∈ pushed ++ processed items, IsOrdinary (.scalar y) := by
        rw [List.forall_mem_append]
        exact ⟨h, processed_ordinary hpushes.1⟩
      obtain ⟨hall, hresults⟩ := ih (hstep.pushAll items) hordinary hpushes.2 hheld
      rw [List.append_assoc] at hall
      exact ⟨hall, congrArg₂ _ hresult hresults⟩

/-- Scalars can all be items, so that a list can be made of them. -/
theorem ofItems_scalars (h : ∀ y ∈ pushed, IsOrdinary (.scalar y)) :
    ∃ start, ofItems (pushed.map .scalar) = .ok start ∧ start.InStep ∧
      start.items = firsts pushed := by
  have hordinary : ∀ v ∈ pushed.map Value.scalar, IsOrdinary v := by
    rw [List.forall_mem_map]
    exact h
  have hprocessed : processed (pushed.map .scalar) = pushed := by
    rw [processed, List.takeWhile_map, List.filterMap_map]
    have hall : pushed.takeWhile (fun x => (Value.scalar x).scalar?.isSome) = pushed :=
      List.takeWhile_eq_self_iff.mpr fun _ _ => rfl
    exact (congrArg _ hall).trans (List.filterMap_some)
  have houtcome : outcome (pushed.map .scalar) = .ok () := by
    rw [outcome, List.find?_eq_none.mpr]
    rw [List.forall_mem_map]
    exact fun x _ => Bool.false_ne_true
  have hnone : ∀ y ∈ ([] : List Scalar), IsOrdinary (.scalar y) := by simp
  obtain ⟨hheld, hresult⟩ := pushAll_firsts inStep_empty hnone hordinary rfl
  rw [hprocessed, List.nil_append] at hheld
  rw [houtcome] at hresult
  exact ⟨_, congrArg (Except.map _) hresult, inStep_empty.pushAll _, hheld⟩

theorem pushAll_append {xs ys : List Value} (h : (l.pushAll xs).2 = .ok ()) :
    (l.pushAll xs).1.pushAll ys = l.pushAll (xs ++ ys) := by
  induction xs generalizing l with
  | nil => rfl
  | cons v rest ih =>
      cases v with
      | scalar x => exact ih h
      | list vs => cases h
      | table es => cases h

theorem pushAll_present {xs : List Value} (h : ∀ v ∈ xs, l.contains v = .ok true) :
    l.pushAll xs = (l, .ok ()) := by
  induction xs with
  | nil => rfl
  | cons v rest ih =>
      rw [List.forall_mem_cons] at h
      cases v with
      | scalar x =>
          have hhas : l.has x = true := Except.ok.inj h.1
          have hpush : l.push x = l := if_pos hhas
          rw [pushAll, hpush, ih h.2]
      | list vs => cases h.1
      | table es => cases h.1

theorem firsts_subset (items : List Scalar) : firsts items ⊆ items := by
  intro x hx
  rw [firsts, List.mem_map] at hx
  obtain ⟨e, he, rfl⟩ := hx
  exact List.fst_mem_of_mem_zipIdx (List.mem_of_mem_filter he)

/-- An item is found by what it equals, since numbers of different kinds are one identity. -/
theorem deduplicates_of_items (hstep : l.InStep) (h : ∀ y ∈ pushed, IsOrdinary (.scalar y))
    (hl : l.items = firsts pushed) : l.Deduplicates pushed := by
  have hheld : ∀ y ∈ l.items, IsOrdinary (.scalar y) := by
    rw [hl]
    exact fun y hy => h y (firsts_subset _ hy)
  have hdifferent : l.items.Pairwise fun x y => x.identity ≠ y.identity := by
    rw [← hstep.names]
    exact List.pairwise_map.mp hstep.distinct
  exact {
    inStep := hstep
    items := congrArg (List.map _) hl
    different := by
      rw [toList, List.pairwise_map]
      refine hdifferent.imp_of_mem fun hx _ hne => ?_
      rw [equal_scalar (hheld _ hx), Bool.eq_false_iff]
      exact mt Scalar.same_iff.mp hne
    contains := by
      intro x
      rw [toList, List.any_map]
      exact congrArg _ ((hstep.has_eq x).trans (any_equal hheld x).symm)
    size := (List.length_map _).symm
    joined := fun _ _ => pushAll_append
    present := fun _ => pushAll_present }

end

/-- Whatever is pushed onto a list of scalars, and whether or not the pushes come to an end. -/
theorem gathers_first_occurrences (initial : List Scalar) (pushes : List (List Value))
    (hinitial : ∀ x ∈ initial, IsOrdinary (.scalar x))
    (hpushes : ∀ items ∈ pushes, ∀ v ∈ items, IsOrdinary v) :
    ∃ start, ofItems (initial.map .scalar) = .ok start ∧
      (start.pushEach pushes).2 = pushes.map outcome ∧
      (start.pushEach pushes).1.Deduplicates (initial ++ pushes.flatMap processed) := by
  obtain ⟨start, hstart, hstep, hitems⟩ := ofItems_scalars hinitial
  obtain ⟨hheld, hresults⟩ := pushEach_firsts hstep hinitial hpushes hitems
  have hordinary : ∀ y ∈ initial ++ pushes.flatMap processed, IsOrdinary (.scalar y) := by
    rw [List.forall_mem_append]
    refine ⟨hinitial, fun y hy => ?_⟩
    obtain ⟨items, hitems, hy⟩ := List.mem_flatMap.mp hy
    exact processed_ordinary (hpushes items hitems) y hy
  exact ⟨start, hstart, hresults,
    deduplicates_of_items (hstep.pushEach pushes) hordinary hheld⟩

/-- The number one comes in three kinds, and a list among the texts ends one of the pushes. -/
theorem gathers_first_occurrences_kinds :
    let pushes : List (List Value) := [[.bool true, .str "a"], [.str "b", .list [], .str "c"],
      [.float (.finite false 0x10000000000000 (-52)), .str "a"]]
    let given : List Scalar := [.int 1, .bool true, .str "a", .str "b",
      .float (.finite false 0x10000000000000 (-52)), .str "a"]
    firsts given = [.int 1, .str "a", .str "b"] ∧
      ∃ start, ofItems [.int 1] = .ok start ∧
        (start.pushEach pushes).2 = [.ok (), .error (.unhashable .list), .ok ()] ∧
        (start.pushEach pushes).1.Deduplicates given := by
  intro pushes given
  have hinitial : ∀ x ∈ [Scalar.int 1], IsOrdinary (.scalar x) := by
    simp [IsOrdinary]
  have hpushes : ∀ items ∈ pushes, ∀ v ∈ items, IsOrdinary v := by
    simp [pushes, IsOrdinary]
  exact ⟨by decide +kernel, gathers_first_occurrences [.int 1] pushes hinitial hpushes⟩

end UniqueList

end TypeStencil
