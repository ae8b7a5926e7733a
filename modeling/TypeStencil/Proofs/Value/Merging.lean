import TypeStencil.Proofs.Value.Sameness

/-!
Looking up names in entries that are laid over others, and picking entries by their names.
-/
namespace TypeStencil

namespace Scalar

theorem same_refl (a : Scalar) : a.same a = true :=
  same_iff.mpr rfl

theorem same_eq_of_same {a b : Scalar} (h : a.same b = true) (c : Scalar) :
    a.same c = b.same c := by
  rw [Bool.eq_iff_iff, same_iff, same_iff, same_iff.mp h]

theorem same_comm (a b : Scalar) : a.same b = b.same a := by
  rw [Bool.eq_iff_iff, same_iff, same_iff, eq_comm]

/-- A text is the same as itself alone. -/
theorem same_str_iff {a : Scalar} {s : String} : a.same (.str s) = true ↔ a = .str s := by
  constructor
  · intro h
    cases a with
    | str t => exact eq_of_beq h
    | _ => cases h
  · rintro rfl
    exact same_refl _

end Scalar

namespace Entries

variable {α : Type}

theorem find?_cons (e : Scalar × α) (rest : Entries α) (name : Scalar) :
    find? (e :: rest) name = if e.1.same name then some e.2 else find? rest name := by
  unfold find?
  rw [List.find?_cons]
  cases e.1.same name <;> rfl

theorem find?_put (entries : Entries α) (name k : Scalar) (x : α) :
    (entries.put name x).find? k = if name.same k then some x else entries.find? k := by
  induction entries with
  | nil => exact find?_cons _ _ _
  | cons e rest ih =>
      rw [put]
      cases hname : e.1.same name with
      | true =>
          rw [if_pos rfl, find?_cons, find?_cons, Scalar.same_eq_of_same hname]
          split <;> rfl
      | false =>
          rw [if_neg Bool.false_ne_true, find?_cons, find?_cons, ih]
          cases hk : e.1.same k with
          | true =>
              have hne : name.same k = false := by
                rw [Scalar.same_comm, ← Scalar.same_eq_of_same hk, hname]
              rw [hne]
              rfl
          | false => rfl

theorem mem_put {entries : Entries α} {name : Scalar} {x : α} {e : Scalar × α}
    (h : e ∈ entries.put name x) : e ∈ entries ∨ e.2 = x := by
  induction entries with
  | nil => exact .inr (congrArg Prod.snd (List.mem_singleton.mp h))
  | cons first rest ih =>
      rw [put] at h
      split at h
      · rcases List.mem_cons.mp h with rfl | h
        · exact .inr rfl
        · exact .inl (List.mem_cons_of_mem _ h)
      · rcases List.mem_cons.mp h with rfl | h
        · exact .inl List.mem_cons_self
        · exact (ih h).imp_left (List.mem_cons_of_mem _)

theorem find?_eq_none {entries : Entries α} {name : Scalar} :
    entries.find? name = none ↔ name.identity ∉ entries.names.map Scalar.identity := by
  rw [← contains_iff, find?, Option.map_eq_none_iff, List.find?_eq_none, contains,
    List.any_eq_true]
  simp

theorem mem_of_find? {entries : Entries α} {name : Scalar} {x : α}
    (h : entries.find? name = some x) : ∃ e ∈ entries, e.1.same name = true ∧ e.2 = x := by
  obtain ⟨e, he, hx⟩ := Option.map_eq_some_iff.mp h
  have hname := List.find?_some (p := fun e : Scalar × α => e.1.same name) he
  exact ⟨e, List.mem_of_find?_eq_some he, hname, hx⟩

theorem find?_str_eq_none {entries : Entries α} {s : String} :
    entries.find? (.str s) = none ↔ .str s ∉ entries.names := by
  rw [find?, Option.map_eq_none_iff, List.find?_eq_none, names, List.mem_map]
  simp only [Scalar.same_str_iff, not_exists, not_and]

theorem mem_of_find?_str {entries : Entries α} {s : String} {x : α}
    (h : entries.find? (.str s) = some x) : (.str s, x) ∈ entries := by
  obtain ⟨e, he, hname, rfl⟩ := mem_of_find? h
  rwa [← Scalar.same_str_iff.mp hname]

theorem Distinct.of_cons {e : Scalar × α} {rest : Entries α} (h : Distinct (e :: rest)) :
    e.1.identity ∉ rest.names.map Scalar.identity ∧ Distinct rest :=
  List.nodup_cons.mp h

/-- An entry of distinct entries is the one that is found under its name. -/
theorem Distinct.find?_of_mem {entries : Entries α} (h : entries.Distinct) {e : Scalar × α}
    (he : e ∈ entries) : List.find? (fun other => other.1.same e.1) entries = some e := by
  induction entries with
  | nil => cases he
  | cons first rest ih =>
      obtain ⟨hnew, hrest⟩ := h.of_cons
      rcases List.mem_cons.mp he with rfl | he
      · exact List.find?_cons_of_pos (Scalar.same_refl _)
      · rw [List.find?_cons_of_neg, ih hrest he]
        rw [Scalar.same_iff]
        exact fun heq => hnew (heq ▸ List.mem_map_of_mem (List.mem_map_of_mem he))

/-- Entries laid over others are found first. -/
theorem find?_update {more : Entries α} (h : more.Distinct) (entries : Entries α) (k : Scalar) :
    (entries.update more).find? k = (more.find? k).or (entries.find? k) := by
  induction more generalizing entries with
  | nil => rfl
  | cons e rest ih =>
      obtain ⟨hnew, hrest⟩ := h.of_cons
      change ((entries.put e.1 e.2).update rest).find? k = _
      rw [ih hrest, find?_put, find?_cons]
      cases hk : e.1.same k with
      | false => rfl
      | true =>
          rw [Scalar.same_iff.mp hk] at hnew
          rw [find?_eq_none.mpr hnew]
          rfl

theorem put_of_notMem {entries : Entries α} {name : Scalar}
    (h : name.identity ∉ entries.names.map Scalar.identity) (x : α) :
    entries.put name x = entries ++ [(name, x)] := by
  induction entries with
  | nil => rfl
  | cons e rest ih =>
      rw [names, List.map_cons, List.map_cons, List.mem_cons, not_or] at h
      rw [put, if_neg, ih h.2, List.cons_append]
      rw [Scalar.same_iff]
      exact fun heq => h.1 heq.symm

theorem update_of_distinct {entries more : Entries α} (h : Distinct (entries ++ more)) :
    entries.update more = entries ++ more := by
  induction more generalizing entries with
  | nil => exact (List.append_nil _).symm
  | cons e rest ih =>
      have hnew : e.1.identity ∉ entries.names.map Scalar.identity := by
        rw [Distinct, names, List.map_append, List.map_append, List.nodup_append] at h
        exact fun hmem => h.2.2 _ hmem _ List.mem_cons_self rfl
      change (entries.put e.1 e.2).update rest = _
      rw [put_of_notMem hnew, ih, List.append_assoc, List.singleton_append]
      rwa [List.append_assoc, List.singleton_append]

/-- Distinct entries put one after another are as they were. -/
theorem update_nil {more : Entries α} (h : more.Distinct) : update [] more = more :=
  update_of_distinct h

section

variable {q : Scalar → Bool} (hq : ∀ a b : Scalar, a.same b = true → q a = q b)

include hq

theorem filter_put (entries : Entries α) (name : Scalar) (x : α) :
    (entries.put name x).filter (fun e => q e.1) =
      if q name then put (entries.filter fun e => q e.1) name x
      else entries.filter fun e => q e.1 := by
  induction entries with
  | nil => cases h : q name <;> simp [put, h]
  | cons e rest ih =>
      rw [put]
      cases hname : e.1.same name with
      | true => cases h : q name <;> simp [put, h, hq _ _ hname, hname]
      | false => cases h : q name <;> cases he : q e.1 <;> simp_all [put]

/-- Picking by name can be done before the entries are laid over others. -/
theorem filter_update (entries more : Entries α) :
    (entries.update more).filter (fun e => q e.1) =
      update (entries.filter fun e => q e.1) (more.filter fun e => q e.1) := by
  induction more generalizing entries with
  | nil => rfl
  | cons e rest ih =>
      change ((entries.put e.1 e.2).update rest).filter _ = _
      rw [ih, filter_put hq, List.filter_cons]
      cases q e.1 <;> rfl

theorem find?_filter (entries : Entries α) {k : Scalar} (hk : q k = true) :
    find? (entries.filter fun e => q e.1) k = entries.find? k := by
  induction entries with
  | nil => rfl
  | cons e rest ih =>
      rw [List.filter_cons, find?_cons e rest]
      cases he : q e.1 with
      | true => rw [if_pos rfl, find?_cons, ih]
      | false =>
          rw [if_neg Bool.false_ne_true, ih, if_neg]
          intro hsame
          rw [hq _ _ hsame, hk] at he
          cases he

end

theorem Distinct.filter {entries : Entries α} (h : entries.Distinct) (q : Scalar × α → Bool) :
    Distinct (entries.filter q) :=
  h.sublist ((List.filter_sublist.map _).map _)

end Entries

end TypeStencil
