import TypeStencil.Proofs.Config.RoundTrip
import TypeStencil.Proofs.Json.Tables

/-!
Which layer a setting comes from. The overrides are laid over the file and the file over the
defaults, name by name, before the entries inside `custom` are brought together with those at the
top. So the settings follow their layers, and a name that is no setting may not: an override inside
`custom` yields to an entry of the file at the top, and a `custom` among the overrides takes the
place of the file's as a whole.
-/
namespace TypeStencil.Config

variable {file overrides layer : Entries Value} {name : Scalar}

/-- If the layer has a `custom`, it is a table. -/
def CustomIsTable (layer : Entries Value) : Prop :=
  ∀ v, layer.find? (.str Setting.custom.name) = some v → ∃ entries, v = .table entries

/-- The entries that a layer has inside `custom`. -/
def customEntries (layer : Entries Value) : Entries Value :=
  match layer.find? (.str Setting.custom.name) with
  | some (.table entries) => entries
  | _ => []

/-- What a layer supplies for a name that is no setting, at the top or else inside `custom`. -/
def supplied? (layer : Entries Value) (name : Scalar) : Option Value :=
  (layer.find? name).or ((customEntries layer).find? name)

/-- The value that the uppermost layer has for a setting. -/
def settingValue (file overrides : Entries Value) (k : Setting) : Value :=
  ((overrides.find? (.str k.name)).or (file.find? (.str k.name))).getD k.default

/-- The entries inside the `custom` of the uppermost layer that has one. -/
def uppermostCustom (file overrides : Entries Value) : Entries Value :=
  if (overrides.find? (.str Setting.custom.name)).isSome then customEntries overrides
  else customEntries file

/-- The entries of `custom` that the layers come to. -/
def mergedCustom (file overrides : Entries Value) : Entries Value :=
  (uppermostCustom file overrides).update ((unknown file).update (unknown overrides))

/-- The ways in which a name that is no setting does not follow its layers. -/
inductive Displaced (file overrides : Entries Value) (name : Scalar) : Prop where
  /-- The overrides have the name inside `custom` alone, and the file has it at the top. -/
  | outranked (v w : Value) : overrides.find? name = none →
      (customEntries overrides).find? name = some v → file.find? name = some w → v ≠ w →
      Displaced file overrides name
  /-- The overrides have a `custom` without the name, and the file has the name inside `custom`
  alone. -/
  | dropped (v : Value) : (overrides.find? (.str Setting.custom.name)).isSome →
      supplied? overrides name = none → file.find? name = none →
      (customEntries file).find? name = some v → Displaced file overrides name

section Lookup

theorem customEntries_eq_nil (h : layer.find? (.str Setting.custom.name) = none) :
    customEntries layer = [] := by
  rw [customEntries, h]

theorem customEntries_eq {entries : Entries Value}
    (h : layer.find? (.str Setting.custom.name) = some (.table entries)) :
    customEntries layer = entries := by
  rw [customEntries, h]

theorem customIsTable_of_none (h : layer.find? (.str Setting.custom.name) = none) :
    CustomIsTable layer := by
  intro v hv
  rw [h] at hv
  cases hv

theorem customIsTable_of_table {entries : Entries Value}
    (h : layer.find? (.str Setting.custom.name) = some (.table entries)) :
    CustomIsTable layer := by
  intro v hv
  exact ⟨entries, Option.some.inj (hv.symm.trans h)⟩

theorem settingValue_custom (hfile : CustomIsTable file) (hoverrides : CustomIsTable overrides) :
    settingValue file overrides .custom = .table (uppermostCustom file overrides) := by
  unfold settingValue uppermostCustom
  cases hover : overrides.find? (.str Setting.custom.name) with
  | some v =>
      obtain ⟨entries, rfl⟩ := hoverrides v hover
      rw [customEntries_eq hover]
      rfl
  | none =>
      cases hbelow : file.find? (.str Setting.custom.name) with
      | some v =>
          obtain ⟨entries, rfl⟩ := hfile v hbelow
          rw [customEntries_eq hbelow]
          rfl
      | none =>
          rw [customEntries_eq_nil hbelow]
          rfl

theorem find?_unknown_of_none (hname : settingOf? name = none) :
    (unknown layer).find? name = layer.find? name :=
  Entries.find?_filter (q := fun name => (settingOf? name).isNone)
    (fun _ _ h => by rw [settingOf?_eq_of_same h]) layer (by rw [hname]; rfl)

/-- An entry of the merged `custom` comes from the top of the overrides, the top of the file or the
uppermost `custom`, whichever has the name first. -/
theorem find?_mergedCustom (hfile : file.Distinct) (hoverrides : overrides.Distinct)
    (hname : settingOf? name = none) :
    (mergedCustom file overrides).find? name =
      ((overrides.find? name).or (file.find? name)).or
        ((uppermostCustom file overrides).find? name) := by
  have hunknown := unknown_distinct hoverrides
  have hmerged := (Entries.update_distinct (unknown_distinct hfile) (unknown overrides)).1
  rw [mergedCustom, Entries.find?_update hmerged, Entries.find?_update hunknown,
    find?_unknown_of_none hname, find?_unknown_of_none hname]

end Lookup

/-- What layers are merged to. -/
theorem layered_layers (hfile : file.Distinct) (hoverrides : overrides.Distinct)
    (hcustom : ∀ layer ∈ [file, overrides], CustomIsTable layer) :
    layered file overrides = .ok (ofFunction fun k =>
      if k = .custom then .table (mergedCustom file overrides)
      else settingValue file overrides k) := by
  rw [List.forall_mem_cons, List.forall_mem_singleton] at hcustom
  have hsettings := settingValue_custom hcustom.1 hcustom.2
  have hunknown : unknown ((baseEntries.update file).update overrides) =
      (unknown file).update (unknown overrides) := by
    rw [unknown_update, unknown_update, baseEntries, unknown_map,
      Entries.update_nil (unknown_distinct hfile)]
  have hvalue (k : Setting) :
      (((baseEntries.update file).update overrides).find? (.str k.name)).getD k.default =
        settingValue file overrides k := by
    rw [Entries.find?_update hoverrides, Entries.find?_update hfile, find?_baseEntries,
      settingValue]
    cases overrides.find? (.str k.name) <;> cases file.find? (.str k.name) <;> rfl
  rw [layered, ofEntries_eq hunknown hvalue]
  split
  · next hempty =>
      -- Nothing is laid over `custom`, which is then as its layer has it.
      congr 2
      funext k
      split
      · next hk =>
          rw [hk, hsettings, mergedCustom, List.isEmpty_iff.mp hempty]
          rfl
      · rfl
  · have hpresent : tableOf ((settingValue file overrides .custom).orElse (.table [])) =
        .ok (uppermostCustom file overrides) := by
      rw [hsettings, Value.orElse]
      cases uppermostCustom file overrides <;> rfl
    rw [hpresent]
    rfl

/-- With a `custom` among the overrides, a name that does not follow its layers is displaced. -/
theorem displaced_of_ne (hsome : (overrides.find? (.str Setting.custom.name)).isSome)
    (hne : ((overrides.find? name).or (file.find? name)).or
        ((customEntries overrides).find? name) ≠
      (supplied? overrides name).or (supplied? file name)) :
    Displaced file overrides name := by
  unfold supplied? at hne
  cases htop : overrides.find? name with
  | some v => simp [htop] at hne
  | none =>
      cases hnested : (customEntries overrides).find? name with
      | some v =>
          cases hbelow : file.find? name with
          | some w =>
              refine .outranked v w htop hnested hbelow ?_
              rintro rfl
              simp [htop, hnested, hbelow] at hne
          | none => simp [htop, hnested, hbelow] at hne
      | none =>
          cases hbelow : file.find? name with
          | some w => simp [htop, hnested, hbelow] at hne
          | none =>
              cases hinside : (customEntries file).find? name with
              | some w =>
                  exact .dropped w hsome (by simp [supplied?, htop, hnested]) hbelow hinside
              | none => simp [htop, hnested, hbelow, hinside] at hne

/-- A name follows its layers unless it is displaced. -/
theorem find?_mergedCustom_iff (hfile : file.Distinct) (hoverrides : overrides.Distinct)
    (hname : settingOf? name = none) :
    (mergedCustom file overrides).find? name =
        (supplied? overrides name).or (supplied? file name) ↔
      ¬ Displaced file overrides name := by
  rw [find?_mergedCustom hfile hoverrides hname]
  constructor
  · intro heq hdisplaced
    cases hdisplaced with
    | outranked v w htop hnested hbelow hne =>
        rw [supplied?, htop, hnested, hbelow] at heq
        exact hne (Option.some.inj heq).symm
    | dropped v hsome hnone hbelow hnested =>
        obtain ⟨htop, hinside⟩ := Option.or_eq_none_iff.mp hnone
        rw [hnone, supplied?, htop, hbelow, hnested, uppermostCustom, if_pos hsome, hinside] at heq
        cases heq
  · intro hfollows
    unfold uppermostCustom
    split
    · next hsome => exact not_imp_comm.mp (displaced_of_ne hsome) hfollows
    · next hsome =>
        have hnone := Option.not_isSome_iff_eq_none.mp hsome
        rw [supplied?, customEntries_eq_nil hnone, Option.or_assoc]
        change _ = ((overrides.find? name).or none).or (supplied? file name)
        rw [Option.or_none]
        rfl

section Files

variable {fs : FileSystem} {s : String}

/-- The entries of a file have distinct names. -/
theorem distinct_of_readFile {p : FilePath} (h : readFile fs p = .ok file) : file.Distinct := by
  have hjson := isJsonFile_of_readFile h
  obtain ⟨found, -, h⟩ := bind_eq_ok.mp h
  cases found with
  | false => cases h
  | true =>
      simp only [hjson, Bool.not_true, Bool.false_eq_true, if_false] at h
      split at h
      · cases h
      · cases h
      · next text _ =>
          split at h
          · cases h
          · cases h
          · cases h
          · next entries hread =>
              obtain rfl := Except.ok.inj h
              exact Json.distinct_of_read hread
          · cases h

/-- A file and overrides whose `custom`, if any, is a table are loaded. Every setting but `custom`
is as in the overrides, else as in the file, else the default. For any other name the entries at
the top go first, those of the overrides before those of the file, and then the entries inside the
uppermost `custom`. So a name is as in the overrides and else as in the file, wherever these have
it, exactly if it is not displaced. -/
theorem load_layers (hfile : readFile fs (.ofString s) = .ok file)
    (hoverrides : overrides.Distinct)
    (hcustom : ∀ layer ∈ [file, overrides], CustomIsTable layer) :
    ∃ (c : Config) (entries : Entries Value),
      (load fs (.str s) overrides).result = .ok c ∧ c.custom = .table entries ∧
      (∀ k ≠ .custom, c.get k =
        ((overrides.find? (.str k.name)).or (file.find? (.str k.name))).getD k.default) ∧
      ∀ name, settingOf? name = none →
        entries.find? name = ((overrides.find? name).or (file.find? name)).or
          ((uppermostCustom file overrides).find? name) ∧
        (entries.find? name = (supplied? overrides name).or (supplied? file name) ↔
          ¬ Displaced file overrides name) := by
  have hdistinct := distinct_of_readFile hfile
  refine ⟨_, mergedCustom file overrides,
    (load_readFile hfile).trans (layered_layers hdistinct hoverrides hcustom), rfl, ?_, ?_⟩
  · intro k hk
    rw [get_ofFunction, if_neg hk]
    rfl
  · intro name hname
    exact ⟨find?_mergedCustom hdistinct hoverrides hname,
      find?_mergedCustom_iff hdistinct hoverrides hname⟩

theorem exists_readFile {p : FilePath} {text : String} (hplace : fs.Writable p)
    (hsuffix : isJsonFile p = true) (htext : Unreturned text)
    (hread : Json.read text = .ok (.table file)) :
    ∃ fs', fs.write p (utf8Bytes text) = .ok fs' ∧ readFile fs' p = .ok file := by
  obtain ⟨fs', hwrite⟩ := hplace (utf8Bytes text)
  exact ⟨fs', hwrite, readFile_text hwrite hsuffix htext hread⟩

theorem writable_work :
    (FileSystem.atDirectory ["work"]).Writable (.ofString "config.json") :=
  fun _ => ⟨_, rfl⟩

/-- The file has a setting and a name that is none; the overrides have another setting, and
another such name inside `custom`. -/
theorem load_layers_indented :
    let text := "\x7b\"output_dir\": \"src/api\", \"banner\": \"x\"\x7d"
    let overrides : Entries Value :=
      [(.str "indent_size", .int 8), (.str "custom", .object [("licence", .str "z")])]
    ∃ fs, (FileSystem.atDirectory ["work"]).write (.ofString "config.json") (utf8Bytes text) =
        .ok fs ∧
      ∃ c, (load fs (.str "config.json") overrides).result = .ok c ∧
        c.outputDir = .str "src/api" ∧ c.indentSize = .int 8 ∧
        ∃ entries : Entries Value, c.custom = .table entries ∧
          entries.find? (.str "banner") = some (.str "x") ∧
          entries.find? (.str "licence") = some (.str "z") := by
  intro text overrides
  have hread : Json.read text =
      .ok (.table [(.str "output_dir", .str "src/api"), (.str "banner", .str "x")]) := by
    rw [Json.read, show text = String.ofList _ from rfl, String.toList_ofList]
    rfl
  obtain ⟨fs, hwrite, hfile⟩ := exists_readFile writable_work (by decide) (by decide) hread
  have hcustom : ∀ layer ∈
      [[(.str "output_dir", .str "src/api"), (.str "banner", .str "x")], overrides],
      CustomIsTable layer := by
    rw [List.forall_mem_cons, List.forall_mem_singleton]
    exact ⟨customIsTable_of_none rfl, customIsTable_of_table rfl⟩
  obtain ⟨c, entries, hload, hentries, hsettings, hnames⟩ :=
    load_layers hfile (by decide) hcustom
  exact ⟨fs, hwrite, c, hload, hsettings .outputDir (by decide),
    hsettings .indentSize (by decide), entries, hentries, (hnames (.str "banner") (by decide)).1,
    (hnames (.str "licence") (by decide)).1⟩

/-- A name does not always follow its layers: an entry of the file at the top goes before an
override inside `custom`, and an override of `custom` drops what the file has inside. -/
theorem not_follows_layers :
    let text := "\x7b\"banner\": \"x\", \"custom\": \x7b\"licence\": \"z\"\x7d\x7d"
    let overrides : Entries Value := [(.str "custom", .object [("banner", .str "y")])]
    ∃ fs file, (FileSystem.atDirectory ["work"]).write (.ofString "config.json")
        (utf8Bytes text) = .ok fs ∧
      readFile fs (.ofString "config.json") = .ok file ∧
      supplied? overrides (.str "banner") = some (.str "y") ∧
      supplied? overrides (.str "licence") = none ∧
      supplied? file (.str "licence") = some (.str "z") ∧
      ∃ c, (load fs (.str "config.json") overrides).result = .ok c ∧
        c.custom = .object [("banner", .str "x")] := by
  intro text overrides
  have hread : Json.read text = .ok (.table
      [(.str "banner", .str "x"), (.str "custom", .object [("licence", .str "z")])]) := by
    rw [Json.read, show text = String.ofList _ from rfl, String.toList_ofList]
    rfl
  obtain ⟨fs, hwrite, hfile⟩ := exists_readFile writable_work (by decide) (by decide) hread
  exact ⟨fs, _, hwrite, hfile, rfl, rfl, rfl, _, (load_readFile hfile).trans rfl, rfl⟩

end Files

end TypeStencil.Config
