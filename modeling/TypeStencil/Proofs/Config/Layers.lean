import TypeStencil.Config.File
import TypeStencil.Proofs.Sequencing
import TypeStencil.Proofs.Value.Merging

/-!
Layers of settings: what a configuration is built from when saved entries are laid over the
defaults. A setting has the value that the entries of `custom` give it, if they do, and else the
value that was saved; the other entries of `custom` come into `custom` again. A file that is read
is such a layer.
-/
namespace TypeStencil

namespace Setting

theorem ofName?_name (k : Setting) : ofName? k.name = some k := by
  cases k <;> rfl

theorem ofName?_eq_some {s : String} {k : Setting} : ofName? s = some k ↔ s = k.name := by
  constructor
  · intro h
    exact (eq_of_beq (List.find?_some (p := fun other : Setting => other.name == s) h)).symm
  · rintro rfl
    exact ofName?_name k

end Setting

namespace Config

theorem settingOf?_eq_some {name : Scalar} {k : Setting} :
    settingOf? name = some k ↔ name = .str k.name := by
  cases name with
  | str s => simp [settingOf?, Setting.ofName?_eq_some]
  | _ => simp [settingOf?]

/-- Names that are the same name the same setting. -/
theorem settingOf?_eq_of_same {a b : Scalar} (h : a.same b = true) :
    settingOf? a = settingOf? b := by
  have hname (k : Setting) : settingOf? a = some k ↔ settingOf? b = some k := by
    rw [settingOf?_eq_some, settingOf?_eq_some, ← Scalar.same_str_iff, ← Scalar.same_str_iff,
      Scalar.same_eq_of_same h]
  exact Option.ext hname

/-- The entries that are no setting. -/
def unknown (entries : Entries Value) : Entries Value :=
  entries.filter fun e => (settingOf? e.1).isNone

theorem unknown_update (entries more : Entries Value) :
    unknown (entries.update more) = (unknown entries).update (unknown more) :=
  Entries.filter_update (q := fun name => (settingOf? name).isNone)
    (fun _ _ h => by rw [settingOf?_eq_of_same h]) entries more

theorem unknown_distinct {entries : Entries Value} (h : entries.Distinct) :
    (unknown entries).Distinct :=
  h.filter _

theorem unknown_map (settings : List Setting) (value : Setting → Value) :
    unknown (settings.map fun k => (.str k.name, value k)) = [] := by
  rw [unknown, List.filter_eq_nil_iff]
  intro e he
  obtain ⟨k, -, rfl⟩ := List.mem_map.mp he
  simp [settingOf?_eq_some.mpr rfl]

/-- The settings other than `custom`, as they are saved. -/
def fieldEntries (c : Config) : Entries Value :=
  (Setting.all.filter (· ≠ .custom)).map fun k => (.str k.name, c.get k)

theorem fieldEntries_distinct (c : Config) : c.fieldEntries.Distinct := by
  have hnames : (c.fieldEntries.names.map Scalar.identity) =
      ((Setting.all.filter (· ≠ .custom)).map fun k => Scalar.str k.name).map Scalar.identity := rfl
  rw [Entries.Distinct, hnames]
  decide

theorem find?_fieldEntries (c : Config) (k : Setting) :
    c.fieldEntries.find? (.str k.name) = if k = .custom then none else some (c.get k) := by
  cases k <;> rfl

theorem find?_baseEntries (k : Setting) : baseEntries.find? (.str k.name) = some k.default := by
  cases k <;> rfl

theorem savedEntries_eq {c : Config} {entries : Entries Value} (h : c.custom = .table entries) :
    c.savedEntries = .ok (c.fieldEntries.update entries) := by
  rw [savedEntries, h]
  rfl

/-- The value that a setting is loaded with after entries of `custom` have been saved. -/
def loadedValue (c : Config) (entries : Entries Value) (k : Setting) : Value :=
  (entries.find? (.str k.name)).getD (if k = .custom then .table [] else c.get k)

theorem ofEntries_eq {entries more : Entries Value} {value : Setting → Value}
    (hmore : unknown entries = more)
    (hvalue : ∀ k : Setting, (entries.find? (.str k.name)).getD k.default = value k) :
    ofEntries entries =
      if more.isEmpty then .ok (ofFunction value)
      else (tableOf ((value .custom).orElse (.table []))).map fun existing =>
        ofFunction fun k => if k = .custom then .table (existing.update more) else value k := by
  have hknown (k : Setting) : Value.field? (entries.filter fun e => (settingOf? e.1).isSome)
      k.name = entries.find? (.str k.name) :=
    Entries.find?_filter (q := fun name => (settingOf? name).isSome)
      (fun _ _ h => by rw [settingOf?_eq_of_same h]) entries
      (by rw [settingOf?_eq_some.mpr rfl]; rfl)
  unfold ofEntries
  simp only [hknown, hvalue]
  rw [unknown] at hmore
  rw [hmore]
  split
  · rfl
  · cases tableOf ((value .custom).orElse (.table [])) <;> rfl

/-- What saved settings and entries of `custom` are loaded as. -/
theorem layered_saved (c : Config) {entries : Entries Value} (h : entries.Distinct) :
    layered (c.fieldEntries.update entries) [] =
      if (unknown entries).isEmpty then .ok (ofFunction (c.loadedValue entries))
      else (tableOf ((c.loadedValue entries .custom).orElse (.table []))).map fun existing =>
        ofFunction fun k =>
          if k = .custom then .table (existing.update (unknown entries))
          else c.loadedValue entries k := by
  have hunknown := unknown_distinct h
  have hsaved : (c.fieldEntries.update entries).Distinct :=
    (Entries.update_distinct c.fieldEntries_distinct entries).1
  refine ofEntries_eq ?_ fun k => ?_
  · change unknown (baseEntries.update (c.fieldEntries.update entries)) = _
    rw [unknown_update, unknown_update, baseEntries, fieldEntries, unknown_map, unknown_map,
      Entries.update_nil hunknown, Entries.update_nil hunknown]
  · change (Entries.find? (baseEntries.update (c.fieldEntries.update entries)) _).getD _ = _
    rw [Entries.find?_update hsaved, Entries.find?_update h, find?_baseEntries, find?_fieldEntries,
      loadedValue]
    cases entries.find? (.str k.name) with
    | some v => rfl
    | none => cases k <;> rfl

section Files

variable {fs : FileSystem} {file overrides : Entries Value}

theorem isJsonFile_of_readFile {p : FilePath} (h : readFile fs p = .ok file) :
    isJsonFile p = true := by
  obtain ⟨found, -, h⟩ := bind_eq_ok.mp h
  cases found with
  | false => cases h
  | true =>
      cases hjson : isJsonFile p with
      | true => rfl
      | false =>
          rw [hjson] at h
          cases h

theorem load_readFile {s : String} (h : readFile fs (.ofString s) = .ok file) :
    (load fs (.str s) overrides).result = layered file overrides := by
  have hpresent : (Value.str s).isPresent = true := by
    cases hempty : s.isEmpty with
    | false => simp [Value.isPresent, Scalar.isPresent, hempty]
    | true =>
        have hjson := isJsonFile_of_readFile h
        rw [String.isEmpty_iff.mp hempty] at hjson
        exact absurd hjson (by decide)
  rw [load, if_pos hpresent, pathOf, Traced.of_ok_bind, h, Traced.of_ok_bind,
    Traced.result_sequence]
  rfl

end Files

end Config

end TypeStencil
