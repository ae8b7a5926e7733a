import TypeStencil.Proofs.Config.Layers
import TypeStencil.Proofs.Files.Writing
import TypeStencil.Proofs.Json.Written
import TypeStencil.Proofs.Text.Utf8
import TypeStencil.Proofs.Value.Depth

/-!
Saving a configuration and loading it again. The file is read as the entries that were saved, and
the configuration comes back exactly if no entry of `custom` is named as a setting: such an entry
is saved as the setting, and `custom` would have to hold itself to come back with it.
-/
namespace TypeStencil

namespace FileSystem

variable {fs fs' : FileSystem} {p : FilePath}

/-- A file can be written at the path, whatever it holds. -/
def Writable (fs : FileSystem) (p : FilePath) : Prop :=
  ∀ content, ∃ fs', fs.write p content = .ok fs'

theorem read_written {content : List UInt8} (h : fs.write p content = .ok fs') :
    fs'.exists? p = .ok true ∧ fs'.read p = .ok content := by
  obtain ⟨hchanges, hlocate, hnode⟩ := changes_of_write h
  have hplace := hchanges.locate hlocate
  refine ⟨?_, read_eq_ok.mpr ⟨_, hplace, hnode⟩⟩
  rw [exists?, find?, hplace]
  dsimp only
  rw [hnode]
  rfl

theorem readText_written {text : String} (h : fs.write p (utf8Bytes text) = .ok fs')
    (htext : Unreturned text) : fs'.readText p = .ok (.ok text) := by
  rw [readText, (read_written h).2, ok_bind, Text.Utf8.decode_utf8Bytes, Except.map,
    Text.unifyBreaks_of_notMem htext, String.ofList_toList]
  rfl

end FileSystem

/-- The indented text of a value is read as the value. -/
def Json.RoundTrips (v : Value) : Prop :=
  Json.read (Json.write Json.indented v) = .ok v

namespace Config

/-- Every setting has the same value in both configurations. -/
def Same (c c' : Config) : Prop :=
  ∀ k, (c.get k).same (c'.get k) = true

theorem readFile_text {fs fs' : FileSystem} {p : FilePath} {text : String}
    {entries : Entries Value} (h : fs.write p (utf8Bytes text) = .ok fs')
    (hsuffix : isJsonFile p = true) (htext : Unreturned text)
    (hread : Json.read text = .ok (.table entries)) : readFile fs' p = .ok entries := by
  rw [readFile, (FileSystem.read_written h).1, hsuffix, FileSystem.readText_written h htext]
  dsimp only
  rw [hread]
  rfl

theorem readFile_written {fs fs' : FileSystem} {p : FilePath} {saved : Entries Value}
    (h : fs.write p (utf8Bytes (Json.write Json.indented (.table saved))) = .ok fs')
    (hsuffix : isJsonFile p = true) (htrip : Json.RoundTrips (.table saved)) :
    readFile fs' p = .ok saved :=
  readFile_text h hsuffix (Json.unreturned_write _ _) htrip

theorem load_written {fs fs' : FileSystem} {s : String} {saved : Entries Value}
    (h : fs.write (.ofString s) (utf8Bytes (Json.write Json.indented (.table saved))) = .ok fs')
    (hsuffix : isJsonFile (.ofString s) = true) (htrip : Json.RoundTrips (.table saved)) :
    (load fs' (.str s) []).result = layered saved [] :=
  load_readFile (readFile_written h hsuffix htrip)

section

variable {c c' : Config} {entries : Entries Value}

theorem mem_unknown {e : Scalar × Value} :
    e ∈ unknown entries ↔ e ∈ entries ∧ ∀ k : Setting, e.1 ≠ .str k.name := by
  rw [unknown, List.mem_filter, Option.isNone_iff_eq_none, Option.eq_none_iff_forall_ne_some]
  simp only [ne_eq, settingOf?_eq_some]

theorem find?_unknown (k : Setting) : (unknown entries).find? (.str k.name) = none := by
  rw [Entries.find?_str_eq_none]
  intro hmem
  obtain ⟨e, he, hname⟩ := List.mem_map.mp hmem
  exact (mem_unknown.mp he).2 k hname

/-- Without an entry named as a setting, all of `custom` goes into `custom` again. -/
theorem layered_saved_self (hcustom : c.custom = .table entries) (hdistinct : entries.Distinct)
    (h : ∀ k : Setting, .str k.name ∉ entries.names) :
    layered (c.fieldEntries.update entries) [] = .ok c := by
  have hunknown : unknown entries = entries :=
    List.filter_eq_self.mpr fun e he => (List.mem_filter.mp
      (mem_unknown.mpr ⟨he, fun k hk => h k (List.mem_map.mpr ⟨e, he, hk⟩)⟩)).2
  have hvalue (k : Setting) :
      c.loadedValue entries k = if k = .custom then .table [] else c.get k := by
    rw [loadedValue, Entries.find?_str_eq_none.mpr (h k), Option.getD_none]
  rw [layered_saved c hdistinct, hunknown]
  split
  · next hempty =>
      rw [List.isEmpty_iff.mp hempty] at hcustom
      have hget : c.loadedValue entries = c.get := by
        funext k
        rw [hvalue]
        split
        · next hk => rw [hk, get, hcustom]
        · rfl
      rw [hget, ofFunction_get]
  · have hget : (fun k => if k = .custom then .table entries else c.loadedValue entries k) =
        c.get := by
      funext k
      split
      · next hk => rw [hk, get, hcustom]
      · next hk => rw [hvalue, if_neg hk]
    rw [hvalue, if_pos rfl]
    change Except.ok (ofFunction fun k => if k = .custom then .table (Entries.update [] entries)
      else c.loadedValue entries k) = _
    rw [Entries.update_nil hdistinct, hget, ofFunction_get]

/-- What `custom` is loaded as: its value, or that value with the entries that are no setting laid
over it. -/
theorem custom_layered (hdistinct : entries.Distinct)
    (h : layered (c.fieldEntries.update entries) [] = .ok c') :
    (unknown entries = [] ∧ c'.custom = c.loadedValue entries .custom) ∨
      ∃ existing, tableOf ((c.loadedValue entries .custom).orElse (.table [])) = .ok existing ∧
        c'.custom = .table (existing.update (unknown entries)) := by
  rw [layered_saved c hdistinct] at h
  split at h
  · next hempty =>
      obtain rfl := Except.ok.inj h
      exact .inl ⟨List.isEmpty_iff.mp hempty, rfl⟩
  · cases hexisting : tableOf ((c.loadedValue entries .custom).orElse (.table [])) with
    | error f =>
        rw [hexisting] at h
        cases h
    | ok existing =>
        rw [hexisting] at h
        obtain rfl := Except.ok.inj h
        exact .inr ⟨existing, rfl, rfl⟩

/-- Without an entry named as `custom`, the entries that are no setting come back alone. -/
theorem custom_layered_of_none (hdistinct : entries.Distinct)
    (h : layered (c.fieldEntries.update entries) [] = .ok c')
    (hnone : entries.find? (.str Setting.custom.name) = none) :
    c'.custom = .table (unknown entries) := by
  have hvalue : c.loadedValue entries .custom = .table [] := by
    rw [loadedValue, hnone, Option.getD_none, if_pos rfl]
  rcases custom_layered hdistinct h with ⟨hempty, hcustom⟩ | ⟨existing, hexisting, hcustom⟩
  · rw [hcustom, hvalue, hempty]
  · rw [hvalue] at hexisting
    obtain rfl : [] = existing := Except.ok.inj hexisting
    rw [hcustom, Entries.update_nil (unknown_distinct hdistinct)]

/-- A `custom` that comes back has no entry named as itself: what is loaded under that name comes
out of the entry, and lies less deep than the entry does. -/
theorem find?_custom_of_same (hdistinct : entries.Distinct)
    (h : layered (c.fieldEntries.update entries) [] = .ok c')
    (hsame : (Value.table entries).same c'.custom = true) :
    entries.find? (.str Setting.custom.name) = none := by
  cases hfind : entries.find? (.str Setting.custom.name) with
  | none => rfl
  | some v =>
      exfalso
      have hmem : (.str Setting.custom.name, v) ∈ entries := Entries.mem_of_find?_str hfind
      have hvalue : c.loadedValue entries .custom = v := by
        rw [loadedValue, hfind, Option.getD_some]
      rcases custom_layered hdistinct h with ⟨-, hcustom⟩ | ⟨existing, hexisting, hcustom⟩
      · rw [hcustom, hvalue] at hsame
        have hdepth : (Value.table entries).depth ≤ v.depth := Value.depth_le_of_same hsame
        have hless : v.depth < (Value.table entries).depth :=
          Nat.lt_succ_of_le (Value.depth_le_entries hmem)
        omega
      · rw [hvalue] at hexisting
        rw [hcustom] at hsame
        obtain ⟨w, hw, hvw⟩ :=
          Value.sameEntries_mem ((Bool.and_eq_true _ _).mp hsame).2 hmem
        rw [Entries.find?_update (unknown_distinct hdistinct), find?_unknown, Option.none_or] at hw
        have hdepth : v.depth ≤ w.depth := Value.depth_le_of_same hvw
        rw [Value.orElse] at hexisting
        split at hexisting
        · have hless : w.depth < v.depth :=
            depth_tableOf hexisting _ (Entries.mem_of_find?_str hw)
          omega
        · obtain rfl : [] = existing := Except.ok.inj hexisting
          cases hw

/-- A `custom` that comes back has no entry named as a setting. -/
theorem notMem_of_same (hdistinct : entries.Distinct)
    (h : layered (c.fieldEntries.update entries) [] = .ok c')
    (hsame : (Value.table entries).same c'.custom = true) (k : Setting) :
    .str k.name ∉ entries.names := by
  intro hmem
  obtain ⟨e, he, hname⟩ := List.mem_map.mp hmem
  rw [custom_layered_of_none hdistinct h (find?_custom_of_same hdistinct h hsame)] at hsame
  have hlength : entries.length = (unknown entries).length :=
    eq_of_beq ((Bool.and_eq_true _ _).mp hsame).1
  have hall := List.filter_eq_self.mp (List.filter_sublist.eq_of_length hlength.symm) e he
  exact (mem_unknown.mp (List.mem_filter.mpr ⟨he, hall⟩)).2 k hname

/-- A configuration of JSON values, with a table as `custom`, comes back the same from a JSON file
exactly if no entry of `custom` is named as a setting; it is then the very same. -/
theorem load_save_iff {fs : FileSystem} {s : String} (hplace : fs.Writable (.ofString s))
    (hsuffix : isJsonFile (.ofString s) = true) (hjson : ∀ k, (c.get k).IsJson)
    (hcustom : c.custom = .table entries)
    (htrip : ∀ saved, c.savedEntries = .ok saved → Json.RoundTrips (.table saved)) :
    ∃ fs', c.save fs (.ofString s) = .ok fs' ∧
      ((∃ c', (load fs' (.str s) []).result = .ok c' ∧ c.Same c') ↔
        ∀ k : Setting, .str k.name ∉ entries.names) ∧
      ((∀ k : Setting, .str k.name ∉ entries.names) →
        (load fs' (.str s) []).result = .ok c) := by
  have hdistinct : entries.Distinct := by
    have htable := hjson .custom
    rw [get, hcustom] at htable
    cases htable with
    | table _ hdistinct _ => exact hdistinct
  have hsaved := savedEntries_eq hcustom
  obtain ⟨fs', hwrite⟩ := hplace
    (utf8Bytes (Json.write Json.indented (.table (c.fieldEntries.update entries))))
  have hload := load_written hwrite hsuffix (htrip _ hsaved)
  have hself := layered_saved_self hcustom hdistinct
  refine ⟨fs', ?_, ⟨?_, fun hnames => ?_⟩, fun hnames => ?_⟩
  · rw [save, savedText, hsaved, ok_bind]
    change (fs.write _ _).mapError _ = _
    rw [hwrite]
    rfl
  · rintro ⟨c', hc', hsame⟩ k
    have hsame := hsame .custom
    rw [get, hcustom] at hsame
    exact notMem_of_same hdistinct (hload.symm.trans hc') hsame k
  · exact ⟨c, hload.trans (hself hnames), fun k => (hjson k).same_self⟩
  · exact hload.trans (hself hnames)

end

/-- A configuration of short texts, with one entry that is no setting. -/
def terse : Config where
  templateDir := .null
  functionTemplate := .str "f"
  propertyTemplate := .str "p"
  classTemplate := .str "c"
  outputDir := .str "out"
  functionFolder := .str "f"
  interfaceFolder := .str "i"
  classFolder := .str "c"
  fileExtension := .str ".ts"
  indentSize := .int 4
  custom := .table [(.str "banner", .str "x")]

def terseEntries : Entries Value :=
  terse.fieldEntries.update [(.str "banner", .str "x")]

def terseText : String :=
  "\x7b
  \"template_dir\": null,
  \"function_template\": \"f\",
  \"property_template\": \"p\",
  \"class_template\": \"c\",
  \"output_dir\": \"out\",
  \"function_folder\": \"f\",
  \"interface_folder\": \"i\",
  \"class_folder\": \"c\",
  \"file_extension\": \".ts\",
  \"indent_size\": 4,
  \"banner\": \"x\"\n\x7d"

theorem write_terse : Json.write Json.indented (.table terseEntries) = terseText := by
  decide +kernel

set_option maxRecDepth 8000 in
theorem read_terse : Json.read terseText = .ok (.table terseEntries) := by
  rw [Json.read, show terseText = String.ofList _ from rfl, String.toList_ofList]
  rfl

theorem load_save_terse : ∃ fs',
    terse.save (.atDirectory ["work"]) (.ofString "saved.json") = .ok fs' ∧
      (load fs' (.str "saved.json") []).result = .ok terse := by
  have hplace : (FileSystem.atDirectory ["work"]).Writable (.ofString "saved.json") :=
    fun _ => ⟨_, rfl⟩
  have hjson (k : Setting) : (terse.get k).IsJson := by
    cases k with
    | custom =>
        refine .table (by decide) (by decide) (List.forall_mem_singleton.mpr ?_)
        exact .scalar (by decide)
    | _ => exact .scalar (by decide)
  have hnames (k : Setting) : .str k.name ∉ Entries.names [(.str "banner", Value.str "x")] := by
    cases k <;> decide
  have htrip : ∀ saved, terse.savedEntries = .ok saved → Json.RoundTrips (.table saved) := by
    intro saved hsaved
    obtain rfl : terseEntries = saved := Except.ok.inj hsaved
    rw [Json.RoundTrips, write_terse, read_terse]
  obtain ⟨fs', hsave, -, hself⟩ := load_save_iff hplace (by decide) hjson rfl htrip
  exact ⟨fs', hsave, hself hnames⟩

end Config

end TypeStencil
