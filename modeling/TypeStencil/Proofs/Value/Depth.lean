import TypeStencil.Config
import TypeStencil.Proofs.Sequencing
import TypeStencil.Proofs.Value.Merging

/-!
Values of JSON texts, and how deep values are nested. Such a value is the same as itself, a value is
no deeper than one that it is the same as, and what is found in a value lies less deep than it.
-/
namespace TypeStencil.Value

/-- The values of JSON texts: floats are numbers, and tables have texts as names, each only once. -/
inductive IsJson : Value → Prop
  | scalar {s : Scalar} : s ≠ .float .nan → IsJson (.scalar s)
  | list {items : List Value} : (∀ v ∈ items, IsJson v) → IsJson (.list items)
  | table {entries : Entries Value} : (∀ e ∈ entries, e.1.kind = .str) → entries.Distinct →
    (∀ e ∈ entries, IsJson e.2) → IsJson (.table entries)

mutual

/-- How many lists and tables lie around the innermost of them. -/
def depth : Value → Nat
  | .scalar _ => 0
  | .list items => depthItems items + 1
  | .table entries => depthEntries entries + 1

def depthItems : List Value → Nat
  | [] => 0
  | v :: rest => max (depth v) (depthItems rest)

def depthEntries : List (Scalar × Value) → Nat
  | [] => 0
  | (_, v) :: rest => max (depth v) (depthEntries rest)

end

theorem depth_le_items {items : List Value} {v : Value} (h : v ∈ items) :
    v.depth ≤ depthItems items := by
  induction items with
  | nil => cases h
  | cons first rest ih =>
      rw [depthItems]
      rcases List.mem_cons.mp h with rfl | h
      · exact Nat.le_max_left _ _
      · exact (ih h).trans (Nat.le_max_right _ _)

theorem depth_le_entries {entries : Entries Value} {e : Scalar × Value} (h : e ∈ entries) :
    e.2.depth ≤ depthEntries entries := by
  induction entries with
  | nil => cases h
  | cons first rest ih =>
      rw [depthEntries]
      rcases List.mem_cons.mp h with rfl | h
      · exact Nat.le_max_left _ _
      · exact (ih h).trans (Nat.le_max_right _ _)

/-- Entries are the same as others if each is the same as what is found under its name. -/
theorem sameEntries_cons {e : Scalar × Value} {xs ys : Entries Value} :
    sameEntries (e :: xs) ys = true ↔
      (∃ y, Entries.find? ys e.1 = some y ∧ e.2.same y = true) ∧ sameEntries xs ys = true := by
  rw [sameEntries, Bool.and_eq_true, Entries.find?]
  cases List.find? (fun other => other.1.same e.1) ys <;> simp

mutual

theorem depth_le_of_same {v w : Value} (h : v.same w = true) : v.depth ≤ w.depth := by
  cases v with
  | scalar a => exact Nat.zero_le _
  | list xs =>
      cases w with
      | list ys => exact Nat.succ_le_succ (depthItems_le h)
      | scalar b => cases h
      | table ys => cases h
  | table xs =>
      cases w with
      | table ys => exact Nat.succ_le_succ (depthEntries_le ((Bool.and_eq_true _ _).mp h).2)
      | scalar b => cases h
      | list ys => cases h

theorem depthItems_le {xs ys : List Value} (h : sameItems xs ys = true) :
    depthItems xs ≤ depthItems ys := by
  cases xs with
  | nil => exact Nat.zero_le _
  | cons x xs =>
      cases ys with
      | nil => cases h
      | cons y ys =>
          obtain ⟨hx, hxs⟩ := (Bool.and_eq_true _ _).mp h
          exact max_le_max (depth_le_of_same hx) (depthItems_le hxs)

theorem depthEntries_le {xs ys : Entries Value} (h : sameEntries xs ys = true) :
    depthEntries xs ≤ depthEntries ys := by
  cases xs with
  | nil => exact Nat.zero_le _
  | cons e xs =>
      obtain ⟨k, x⟩ := e
      obtain ⟨⟨y, hfind, hx⟩, hxs⟩ := sameEntries_cons.mp h
      obtain ⟨found, hmem, -, rfl⟩ := Entries.mem_of_find? hfind
      exact max_le ((depth_le_of_same hx).trans (depth_le_entries hmem)) (depthEntries_le hxs)

end

theorem sameItems_self {items : List Value} (h : ∀ v ∈ items, v.same v = true) :
    sameItems items items = true := by
  induction items with
  | nil => rfl
  | cons v rest ih =>
      rw [List.forall_mem_cons] at h
      exact (Bool.and_eq_true _ _).mpr ⟨h.1, ih h.2⟩

theorem sameEntries_of_subset {entries some : Entries Value} (h : entries.Distinct)
    (hsub : some ⊆ entries) (hsame : ∀ e ∈ some, e.2.same e.2 = true) :
    sameEntries some entries = true := by
  induction some with
  | nil => rfl
  | cons e rest ih =>
      rw [List.cons_subset] at hsub
      rw [List.forall_mem_cons] at hsame
      refine sameEntries_cons.mpr ⟨⟨e.2, ?_, hsame.1⟩, ih hsub.2 hsame.2⟩
      rw [Entries.find?, h.find?_of_mem hsub.1, Option.map_some]

theorem IsJson.same_self {v : Value} (h : v.IsJson) : v.same v = true := by
  induction h with
  | scalar => exact Scalar.same_refl _
  | list _ ih => exact sameItems_self ih
  | table _ hdistinct _ ih =>
      exact (Bool.and_eq_true _ _).mpr
        ⟨beq_self_eq_true _, sameEntries_of_subset hdistinct (List.Subset.refl _) ih⟩

/-- Entries that are the same have the same values under their names. -/
theorem sameEntries_mem {xs ys : Entries Value} (h : sameEntries xs ys = true)
    {e : Scalar × Value} (he : e ∈ xs) : ∃ y, Entries.find? ys e.1 = some y ∧ e.2.same y = true := by
  induction xs with
  | nil => cases he
  | cons first xs ih =>
      obtain ⟨hfirst, hxs⟩ := sameEntries_cons.mp h
      rcases List.mem_cons.mp he with rfl | he
      · exact hfirst
      · exact ih hxs he

/-- The items of a value lie no deeper than the value. -/
theorem depth_mem_items {v item : Value} {items : List Value} (h : v.items = .ok items)
    (hitem : item ∈ items) : item.depth ≤ v.depth := by
  cases v with
  | scalar s =>
      cases s with
      | str s =>
          obtain rfl := Except.ok.inj h
          obtain ⟨c, -, rfl⟩ := List.mem_map.mp hitem
          exact Nat.le_refl _
      | _ => cases h
  | list xs =>
      obtain rfl := Except.ok.inj h
      exact (depth_le_items hitem).trans (Nat.le_succ _)
  | table entries =>
      obtain rfl := Except.ok.inj h
      obtain ⟨e, -, rfl⟩ := List.mem_map.mp hitem
      exact Nat.zero_le _

end TypeStencil.Value

namespace TypeStencil.Config

open Value

theorem pairOf_eq_ok {index : Nat} {item : Value} {p : Value × Value} :
    pairOf index item = .ok p ↔ item.items = .ok [p.1, p.2] := by
  rw [pairOf]
  split
  · next h => simp [h]
  · next k v h => simp [h, Prod.ext_iff]
  · next items hne h =>
      rw [h]
      constructor
      · intro hp
        cases hp
      · exact fun hp => absurd (Except.ok.inj hp) (hne _ _)

theorem depth_pairsFrom {d : Nat} {items : List Value} {index : Nat} {entries found : Entries Value}
    (h : pairsFrom entries index items = .ok found) (hitems : ∀ v ∈ items, v.depth < d)
    (hentries : ∀ e ∈ entries, e.2.depth < d) : ∀ e ∈ found, e.2.depth < d := by
  induction items generalizing index entries with
  | nil =>
      obtain rfl := Except.ok.inj h
      exact hentries
  | cons item rest ih =>
      rw [List.forall_mem_cons] at hitems
      obtain ⟨⟨k, v⟩, hpair, h⟩ := bind_eq_ok.mp h
      obtain ⟨name, -, h⟩ := bind_eq_ok.mp h
      refine ih h hitems.2 fun e he => ?_
      rcases Entries.mem_put he with he | he
      · exact hentries e he
      · have hv : v.depth ≤ item.depth :=
          depth_mem_items (pairOf_eq_ok.mp hpair) (by simp)
        rw [he]
        exact hv.trans_lt hitems.1

/-- What is found in a value that is read as a table lies less deep than the value. -/
theorem depth_tableOf {v : Value} {entries : Entries Value} (h : tableOf v = .ok entries) :
    ∀ e ∈ entries, e.2.depth < v.depth := by
  cases v with
  | table entries' =>
      obtain rfl := Except.ok.inj h
      exact fun e he => Nat.lt_succ_of_le (depth_le_entries he)
  | list items =>
      refine depth_pairsFrom (show pairsFrom [] 0 items = .ok _ from h) ?_ (List.forall_mem_nil _)
      exact fun v hv => Nat.lt_succ_of_le (depth_le_items hv)
  | scalar s =>
      obtain ⟨items, hitems, h⟩ := bind_eq_ok.mp h
      cases s with
      | str s =>
          obtain rfl := Except.ok.inj hitems
          cases hs : s.toList with
          | nil =>
              rw [hs] at h
              obtain rfl := Except.ok.inj h
              exact List.forall_mem_nil _
          | cons c rest =>
              -- A text of one character is no pair.
              rw [hs] at h
              obtain ⟨p, hpair, -⟩ := bind_eq_ok.mp h
              have hone := Except.ok.inj (pairOf_eq_ok.mp hpair)
              simp at hone
      | _ => cases hitems

end TypeStencil.Config
