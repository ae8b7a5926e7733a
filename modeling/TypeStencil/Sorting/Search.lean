/-!
Counting how many items at the head of a list have a property that none has behind the first
without it. Few items are asked, so a test that may fail fails at as few of them as possible.
-/
namespace TypeStencil.Sorting

variable {α ε : Type}

/-- Which of two middle items is asked first. -/
inductive Rounding where
  | down
  | up
  deriving DecidableEq, Repr

namespace Rounding

/-- The position of the middle of so many items; rounding up goes towards the end. -/
def middle (r : Rounding) (n : Nat) : Nat :=
  match r with
  | up => n / 2
  | down => (n - 1) / 2

theorem middle_lt (r : Rounding) {n : Nat} (h : 0 < n) : r.middle n < n := by
  cases r <;> simp only [middle] <;> omega

end Rounding

/-- Counts by halving. -/
def countByHalving (r : Rounding) (test : α → Except ε Bool) (xs : List α) : Except ε Nat :=
  match h : xs.drop (r.middle xs.length) with
  | [] => .ok 0
  | y :: back =>
    have counted := congrArg List.length h
    have bound : 0 < xs.length := by
      rw [List.length_drop, List.length_cons] at counted
      omega
    have := r.middle_lt bound
    do
      if ← test y then return r.middle xs.length + 1 + (← countByHalving r test back)
      else countByHalving r test (xs.take (r.middle xs.length))
termination_by xs.length
decreasing_by
  all_goals rw [List.length_drop, List.length_cons] at counted
  · omega
  · rw [List.length_take]
    omega

/-- Counts in strides that grow until one goes too far, of which the first passes over `gap`
items. -/
def countInStrides (r : Rounding) (test : α → Except ε Bool) (gap : Nat) (xs : List α) :
    Except ε Nat :=
  match h : xs.drop gap with
  | [] => countByHalving r test xs
  | y :: more =>
    have counted := congrArg List.length h
    do
      if ← test y then return gap + 1 + (← countInStrides r test (2 * gap + 1) more)
      else countByHalving r test (xs.take gap)
termination_by xs.length
decreasing_by
  rw [List.length_drop, List.length_cons] at counted
  omega

/-- Counts from the head on, where the count is thought to be small. -/
def countAhead (r : Rounding) (test : α → Except ε Bool) : List α → Except ε Nat
  | [] => .ok 0
  | x :: xs => do
    if ← test x then return 1 + (← countInStrides r test 0 xs) else return 0

end TypeStencil.Sorting
