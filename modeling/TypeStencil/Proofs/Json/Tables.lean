import TypeStencil.Json.Reader
import TypeStencil.Proofs.Sequencing
import TypeStencil.Proofs.Value.Sameness

/-!
Tables that are read from JSON texts. A name that an object repeats keeps one entry, so that the
entries of every table that is read have distinct names.
-/
namespace TypeStencil.Json

/-- If the value is a table, its entries have distinct names. -/
def NamesOnce (v : Value) : Prop :=
  ∀ entries : Entries Value, v = .table entries → entries.Distinct

section

variable {fuel depth : Nat} {s rest : List Char} {v : Value}

theorem NamesOnce.scalar (a : Scalar) : NamesOnce (.scalar a) := by
  intro entries h
  cases h

theorem NamesOnce.list (items : List Value) : NamesOnce (.list items) := by
  intro entries h
  cases h

theorem NamesOnce.table {entries : Entries Value} (h : entries.Distinct) :
    NamesOnce (.table entries) := by
  intro other heq
  cases heq
  exact h

theorem distinct_nil : Entries.Distinct ([] : Entries Value) :=
  List.nodup_nil

theorem namesOnce_items {read : List Value} (h : items fuel depth s read = .ok (v, rest)) :
    NamesOnce v := by
  induction fuel generalizing s read with
  | zero => cases h
  | succ fuel ih =>
      rw [items] at h
      obtain ⟨⟨item, r⟩, -, h⟩ := bind_eq_ok.mp h
      dsimp only at h
      split at h
      · cases h
        exact .list _
      · exact ih h
      · cases h

theorem namesOnce_members {read : Entries Value} (hread : read.Distinct)
    (h : members fuel depth s read = .ok (v, rest)) : NamesOnce v := by
  induction fuel generalizing s read with
  | zero => cases h
  | succ fuel ih =>
      rw [members.eq_def] at h
      dsimp only at h
      split at h
      · obtain ⟨⟨name, r⟩, -, h⟩ := bind_eq_ok.mp h
        dsimp only at h
        split at h
        · obtain ⟨⟨item, r⟩, -, h⟩ := bind_eq_ok.mp h
          dsimp only at h
          have hput := hread.put (.str name) item
          split at h
          · cases h
            exact .table hput
          · exact ih hput h
          · cases h
        · cases h
      · cases h

theorem namesOnce_value (h : value fuel depth s = .ok (v, rest)) : NamesOnce v := by
  cases fuel with
  | zero => cases h
  | succ fuel =>
      rw [value.eq_def] at h
      dsimp only at h
      split at h
      · obtain ⟨⟨text, r⟩, -, h⟩ := bind_eq_ok.mp h
        cases h
        exact .scalar _
      · split at h
        · cases h
        · cases h
          exact .table distinct_nil
        · exact namesOnce_members distinct_nil h
      · split at h
        · cases h
        · cases h
          exact .list _
        · exact namesOnce_items h
      · split at h
        · cases h
          exact .scalar _
        · obtain ⟨⟨n, r⟩, -, h⟩ := bind_eq_ok.mp h
          cases h
          exact .scalar _

/-- A table that is read from a text has distinct names. -/
theorem distinct_of_read {text : String} {entries : Entries Value}
    (h : read text = .ok (.table entries)) : entries.Distinct := by
  have hdocument : document text.toList = .ok (.table entries) := by
    unfold read at h
    dsimp only at h
    split at h
    · next v hv =>
        obtain rfl := Except.ok.inj h
        exact hv
    · cases h
    · cases h
    · cases h
  unfold document at hdocument
  split at hdocument
  · cases hdocument
  · obtain ⟨⟨v, r⟩, hvalue, hdocument⟩ := bind_eq_ok.mp hdocument
    dsimp only at hdocument
    split at hdocument
    · obtain rfl := Except.ok.inj hdocument
      exact namesOnce_value hvalue entries rfl
    · cases hdocument

end

end TypeStencil.Json
