import TypeStencil.Proofs.CommandLine.Steps
import TypeStencil.Proofs.Files.Writing
import TypeStencil.Proofs.Generation.Paths

/-!
What a run does to the file system. Nothing is written before everything is generated, so that a
run that fails in a foreseen way leaves no trace; and every file that is written stays as written,
since no two of them have one place.
-/
namespace TypeStencil.CommandLine

open TypeStencil.Action FileSystem

/-- A file system after outputs have been written: each file holds the text of its artifact with a
line break behind it, and nothing else has changed but for directories on the way. -/
structure Written (fs fs' : FileSystem) (outputs : List Output) : Prop where
  holds : ∀ o ∈ outputs, fs'.read o.path = .ok (utf8Bytes (o.artifact.text ++ "\n"))
  changes : Changes (fun l => ∃ o ∈ outputs, Along fs.current o.path.parent l)
    (fun l => ∃ o ∈ outputs, l = o.path.resolve fs.current) fs fs'

section

variable {s s' : Session}

theorem written_of_writeOutput {o : Output} {u : Unit}
    (h : (writeOutput o).after s = (.ok u, s')) : Written s.files s'.files [o] := by
  obtain ⟨_, s₁, hmade, h⟩ := Action.bind_eq_ok.mp h
  obtain ⟨_, s₂, hwritten, hlog⟩ := Action.bind_eq_ok.mp h
  have hchanges : Changes (Along s.files.current o.path.parent) (fun _ => False) s.files
      s₁.files := by
    rw [Action.ensureDirectories, bind_after_files] at hmade
    obtain ⟨_, s₀, hset, hresult⟩ := Action.bind_eq_ok.mp hmade
    obtain rfl : { s with files := _ } = s₀ := congrArg Prod.snd hset
    obtain rfl : _ = s₁ := congrArg Prod.snd hresult
    exact changes_ensureDirectories
  rw [Action.writeText, bind_after_files] at hwritten
  obtain ⟨files, s₀, hwrite, hset⟩ := Action.bind_eq_ok.mp hwritten
  obtain rfl : _ = s₀ := congrArg Prod.snd hwrite
  obtain rfl : { s₁ with files := files } = s₂ := congrArg Prod.snd hset
  obtain rfl : { s₁ with files := files, events := _ } = s' := congrArg Prod.snd hlog
  have hwrite := mapError_eq_ok.mp (congrArg Prod.fst hwrite)
  obtain ⟨hfile, hlocate, hnode⟩ := changes_of_write hwrite
  refine ⟨?_, ?_⟩
  · intro o' ho'
    obtain rfl := List.mem_singleton.mp ho'
    exact read_eq_ok.mpr ⟨_, hfile.locate hlocate, hnode⟩
  · refine (hchanges.mono ?_ fun _ => False.elim).trans (hfile.mono (fun _ => False.elim) ?_)
    · exact fun l hl => ⟨o, List.mem_singleton_self o, hl⟩
    · exact fun l hl => ⟨o, List.mem_singleton_self o, hchanges.current ▸ hl⟩

/-- A file that has been written keeps its text while files at other places are written. -/
theorem Written.cons {fs fs₁ fs' : FileSystem} {o : Output} {rest : List Output}
    (ho : Written fs fs₁ [o]) (hrest : Written fs₁ fs' rest)
    (hplace : ∀ o' ∈ rest, o.path.resolve fs.current ≠ o'.path.resolve fs.current) :
    Written fs fs' (o :: rest) := by
  have hcurrent := ho.changes.current
  refine ⟨List.forall_mem_cons.mpr ⟨?_, hrest.holds⟩, ?_⟩
  · obtain ⟨l, hl, hnode⟩ := read_eq_ok.mp (ho.holds o (List.mem_singleton_self o))
    have hapart : ¬ ∃ o' ∈ rest, l = o'.path.resolve fs₁.current := by
      rintro ⟨o', ho', hl'⟩
      rw [eq_of_locate hl, hcurrent] at hl'
      exact hplace o' ho' hl'
    exact read_eq_ok.mpr ⟨l, hrest.changes.locate hl, hrest.changes.file_stays hnode hapart⟩
  · have hmore := hrest.changes
    rw [hcurrent] at hmore
    refine (ho.changes.mono ?_ ?_).trans (hmore.mono ?_ ?_)
    · exact fun l ⟨o', ho', hl⟩ => ⟨o', List.mem_cons.mpr (.inl (List.mem_singleton.mp ho')), hl⟩
    · exact fun l ⟨o', ho', hl⟩ => ⟨o', List.mem_cons.mpr (.inl (List.mem_singleton.mp ho')), hl⟩
    · exact fun l ⟨o', ho', hl⟩ => ⟨o', List.mem_cons_of_mem o ho', hl⟩
    · exact fun l ⟨o', ho', hl⟩ => ⟨o', List.mem_cons_of_mem o ho', hl⟩

theorem written_of_writeOutputs {outputs : List Output} {u : Unit}
    (hplaces : (outputs.map fun o => o.path.resolve s.files.current).Nodup)
    (h : (outputs.forM writeOutput).after s = (.ok u, s')) :
    Written s.files s'.files outputs := by
  induction outputs generalizing s with
  | nil =>
      obtain rfl : s = s' := congrArg Prod.snd h
      exact ⟨by simp, .refl _ _ _⟩
  | cons o rest ih =>
      rw [List.map_cons, List.nodup_cons] at hplaces
      obtain ⟨_, s₁, ho, hrest⟩ := Action.bind_eq_ok.mp h
      have hwritten := written_of_writeOutput ho
      have hmore := ih (by rw [hwritten.changes.current]; exact hplaces.2) hrest
      refine hwritten.cons hmore fun o' ho' heq => hplaces.1 ?_
      rw [heq]
      exact List.mem_map_of_mem ho'

/-- What can go wrong while outputs are written is nothing that a run has an answer to. -/
theorem unforeseen_writeOutput (o : Output) : Unforeseen (writeOutput o) := by
  refine .bind ?_ fun _ => .bind ?_ fun _ => .log _ _
  · exact .bind .files fun fs => .bind (.modify _) fun _ => .ofMapError fun _ => rfl
  · exact .bind .files fun fs => .bind (.ofMapError fun _ => rfl) fun files => .modify _

variable {world : World} {a : Arguments} {c : Config} {g : Generated} {document : Value}
  {code : Nat}

theorem keepsFiles_printOutput (o : Output) : KeepsFiles (printOutput c o) :=
  .bind .get fun _ => .bind (.ofResult _) fun rule =>
    .bind (.printLine rule) fun _ => .printLines _

theorem unforeseen_printOutput (o : Output) : Unforeseen (printOutput c o) :=
  .bind .get fun _ => .bind (.ofMapError fun _ => rfl) fun _ =>
    .bind (.modify _) fun _ => .printLines _

theorem unforeseen_pathOf (v : Value) : Unforeseen (Action.of (Config.pathOf v)) := by
  refine .ofResult fun e he => ?_
  unfold Config.pathOf at he
  split at he
  · cases he
  · obtain rfl := Except.error.inj he
    rfl

theorem unforeseen_deliver : Unforeseen (deliver a c g) := by
  refine .bind (.forM (fun _ => .print _) _) fun _ => ?_
  dsimp only
  split
  · exact .bind (.forM unforeseen_printOutput _) fun _ => .pure 0
  · exact .bind (unforeseen_pathOf _) fun directory =>
      .bind (.forM unforeseen_writeOutput _) fun _ => .bind (.print _) fun _ => .pure 0

/-- A delivery prints all outputs or writes them all. -/
theorem written_of_deliver
    (hplaces : (g.outputs.map fun o => o.path.resolve s.files.current).Nodup)
    (h : (deliver a c g).after s = (.ok code, s')) :
    code = 0 ∧ (if a.stdout then s'.files = s.files else Written s.files s'.files g.outputs) := by
  obtain ⟨_, s₁, hwarned, h⟩ := Action.bind_eq_ok.mp h
  have hfiles : s₁.files = s.files := (KeepsFiles.forM (fun _ => .print _) _).of_eq hwarned
  dsimp only at h
  split at h
  · rename_i hstdout
    rw [if_pos hstdout]
    obtain ⟨_, s₂, hprinted, h⟩ := Action.bind_eq_ok.mp h
    cases h
    exact ⟨rfl, ((KeepsFiles.forM keepsFiles_printOutput _).of_eq hprinted).trans hfiles⟩
  · rename_i hstdout
    rw [if_neg hstdout]
    obtain ⟨directory, s₂, hdirectory, h⟩ := Action.bind_eq_ok.mp h
    obtain ⟨_, s₃, hwritten, h⟩ := Action.bind_eq_ok.mp h
    obtain ⟨_, s₄, hprinted, h⟩ := Action.bind_eq_ok.mp h
    cases h
    have hfiles₂ := ((KeepsFiles.ofResult _).of_eq hdirectory).trans hfiles
    have hfiles₄ := (KeepsFiles.print _).of_eq hprinted
    rw [← hfiles₂] at hplaces ⊢
    rw [hfiles₄]
    exact ⟨rfl, written_of_writeOutputs hplaces hwritten⟩

theorem unforeseen_generate : Unforeseen (generate a c document) := by
  refine .bind .files fun fs => ?_
  dsimp only
  split
  · next g hg =>
      exact .bind (.ofOk fun _ => ⟨g, hg⟩) fun _ => unforeseen_deliver
  · exact .bind (.modify _) fun _ => .bind (.print _) fun _ => .pure 1

/-- A failed generation ends with the code 1 and leaves the files alone, any other is delivered. -/
theorem of_generate (h : (generate a c document).after s = (.ok code, s')) :
    (code = 1 ∧ s'.files = s.files) ∨
      ∃ g s₁, (Generation.run s.files c none document).result = .ok g ∧ s₁.files = s.files ∧
        (deliver a c g).after s₁ = (.ok code, s') := by
  rw [generate, bind_after_files] at h
  dsimp only at h
  split at h
  · next g hg =>
      obtain ⟨_, s₁, htraced, h⟩ := Action.bind_eq_ok.mp h
      exact .inr ⟨g, s₁, hg, (KeepsFiles.ofTraced _).of_eq htraced, h⟩
  · obtain ⟨_, s₁, hmodified, h⟩ := Action.bind_eq_ok.mp h
    obtain ⟨_, s₂, hprinted, h⟩ := Action.bind_eq_ok.mp h
    cases h
    have hfiles := (KeepsFiles.print _).of_eq hprinted
    cases hmodified
    exact .inl ⟨rfl, hfiles⟩

theorem keepsFiles_configure : KeepsFiles (configure a) :=
  .bind .files fun _ => .bind (.ofTraced _) fun c => .bind .files fun _ =>
    .bind (.ofResult _) fun _ => .bind (.forM (fun _ => .print _) _) fun _ => .pure c

theorem load_of_configure (h : (configure a).after s = (.ok c, s')) :
    (Config.load s.files (valueOf a.config) (overrides a)).result = .ok c := by
  rw [configure, bind_after_files] at h
  obtain ⟨c', s₁, hload, h⟩ := Action.bind_eq_ok.mp h
  obtain ⟨_, s₂, -, h⟩ := Action.bind_eq_ok.mp h
  obtain ⟨_, s₃, -, h⟩ := Action.bind_eq_ok.mp h
  obtain ⟨_, s₄, -, h⟩ := Action.bind_eq_ok.mp h
  cases h
  exact congrArg Prod.fst hload

theorem keepsFiles_listReferences : KeepsFiles (listReferences c) :=
  .bind (.ofResult _) fun _ => .bind (.ofResult _) fun _ => .bind .get fun _ =>
    .bind (.printLines _) fun _ => .pure 0

theorem touchesLast_perform : TouchesLast (perform world a) := by
  refine .bind keepsFiles_configure fun c => ?_
  split
  · exact .ofKeepsFiles keepsFiles_listReferences
  · split
    · exact .ofKeepsFiles (.throw _)
    · exact .bind .files fun _ => .bind (.ofTraced _) fun _ => .bind (.ofTraced _) fun _ =>
        .ofUnforeseen unforeseen_generate

/-- What a run that returns a code has done to the files. -/
inductive Returns (world : World) (a : Arguments) : Nat → FileSystem → Prop
  | failed : Returns world a 1 world.files
  | shown (h : a.stdout = true ∨ a.listReferences = true) : Returns world a 0 world.files
  | written {c : Config} {loaded : Loaded} {g : Generated} {fs' : FileSystem}
      (hstdout : a.stdout = false) (hlist : a.listReferences = false)
      (hc : (Config.load world.files (valueOf a.config) (overrides a)).result = .ok c)
      (hloaded : (Loader.load world (valueOf a.file) (valueOf a.url)
        Loader.defaultTimeout).result = .ok loaded)
      (hg : (Generation.run world.files c none loaded.document).result = .ok g)
      (hwritten : Written world.files fs' g.outputs) : Returns world a 0 fs'

section

variable
  (hextension : ∀ c, (Config.load world.files (valueOf a.config) (overrides a)).result = .ok c →
    '/' ∉ c.fileExtension.text.toList)

include hextension

theorem returns_of_perform (hs : s.files = world.files)
    (h : (perform world a).after s = (.ok code, s')) : Returns world a code s'.files := by
  obtain ⟨c, s₁, hconfigured, h⟩ := Action.bind_eq_ok.mp h
  have hfiles₁ := (keepsFiles_configure.of_eq hconfigured).trans hs
  have hc := load_of_configure hconfigured
  rw [hs] at hc
  split at h
  · next hlist =>
      have hfiles := (keepsFiles_listReferences.of_eq h).trans hfiles₁
      obtain ⟨references, s₂, -, h⟩ := Action.bind_eq_ok.mp h
      obtain ⟨table, s₃, -, h⟩ := Action.bind_eq_ok.mp h
      obtain ⟨_, s₄, -, h⟩ := Action.bind_eq_ok.mp h
      obtain ⟨_, s₅, -, h⟩ := Action.bind_eq_ok.mp h
      cases h
      rw [hfiles]
      exact .shown (.inr hlist)
  · rename_i hlist
    split at h
    · cases h
    · rw [bind_after_files, hfiles₁] at h
      obtain ⟨loaded, s₂, hloaded, h⟩ := Action.bind_eq_ok.mp h
      obtain ⟨_, s₃, hlogged, h⟩ := Action.bind_eq_ok.mp h
      have hfiles₂ := ((KeepsFiles.ofTraced _).of_eq hloaded).trans hfiles₁
      have hfiles₃ := ((KeepsFiles.ofTraced _).of_eq hlogged).trans hfiles₂
      rcases of_generate h with ⟨rfl, hfiles⟩ | ⟨g, s₄, hg, hfiles₄, h⟩
      · rw [hfiles, hfiles₃]
        exact .failed
      · rw [hfiles₃] at hg hfiles₄
        have hplaces := Generation.places_nodup_of_run (hextension c hc) hg s₄.files.current
        obtain ⟨rfl, hdelivered⟩ := written_of_deliver hplaces h
        rw [hfiles₄] at hdelivered
        split at hdelivered
        · next hstdout =>
            rw [hdelivered]
            exact .shown (.inl hstdout)
        · next hstdout =>
            exact .written (Bool.eq_false_iff.mpr hstdout) (Bool.eq_false_iff.mpr hlist) hc
              (congrArg Prod.fst hloaded) hg hdelivered

theorem returns_of_carryOut (hs : s.files = world.files)
    (h : (carryOut world a).after s = (.ok code, s')) : Returns world a code s'.files := by
  rw [carryOut, after_tryCatch] at h
  rcases hperform : (perform world a).after s with ⟨f | n, s₁⟩
  · rw [hperform] at h
    dsimp only at h
    split at h
    · next hforeseen =>
        obtain ⟨_, s₂, hprinted, h⟩ := Action.bind_eq_ok.mp h
        cases h
        rw [(KeepsFiles.print _).of_eq hprinted,
          touchesLast_perform s f s₁ hperform hforeseen, hs]
        exact .failed
    · cases h
  · rw [hperform] at h
    cases h
    exact returns_of_perform hextension hs hperform

end

end

/-- A run that returns ends with the code 0 or 1. With 1, or if it was to print the artifacts or
the references, it leaves the files alone; otherwise it has generated a document, and each file
holds the text of its artifact with a line break behind it, while nothing else has changed but for
directories on the way. -/
theorem effect_of_run {world : World} {line : List String} {a : Arguments} {code : Nat}
    (hline : parse line = .ok a)
    (hextension : ∀ c,
      (Config.load world.files (valueOf a.config) (overrides a)).result = .ok c →
        '/' ∉ c.fileExtension.text.toList)
    (h : (run world line).result = .ok code) :
    (code = 0 ∨ code = 1) ∧
      (code = 1 ∨ a.stdout = true ∨ a.listReferences = true →
        (run world line).files = world.files) ∧
      (code = 0 → a.stdout = false → a.listReferences = false →
        ∃ c loaded g,
          (Config.load world.files (valueOf a.config) (overrides a)).result = .ok c ∧
          (Loader.load world (valueOf a.file) (valueOf a.url)
            Loader.defaultTimeout).result = .ok loaded ∧
          (Generation.run world.files c none loaded.document).result = .ok g ∧
          Written world.files (run world line).files g.outputs) := by
  have hrun : run world line =
      let after := (carryOut world a).after ⟨world.width, world.files, "", []⟩
      outcomeOf a after.1 after.2 := by
    rw [run, hline]
    rfl
  have hreturns : Returns world a code (run world line).files := by
    rw [hrun] at h ⊢
    exact returns_of_carryOut hextension rfl (Prod.ext h rfl)
  generalize (run world line).files = files at hreturns ⊢
  cases hreturns with
  | failed => exact ⟨.inr rfl, fun _ => rfl, fun hcode => absurd hcode (by decide)⟩
  | shown hshown =>
      refine ⟨.inl rfl, fun _ => rfl, fun _ hstdout hlist => ?_⟩
      rw [hstdout, hlist] at hshown
      simp at hshown
  | written hstdout hlist hc hloaded hg hwritten =>
      refine ⟨.inl rfl, fun hsilent => ?_, fun _ _ _ => ⟨_, _, _, hc, hloaded, hg, hwritten⟩⟩
      rw [hstdout, hlist] at hsilent
      simp at hsilent

/-- A run that writes one interface, with a template of its own. -/
theorem effect_of_run_with_templates :
    let document := "\x7b\"classes\": [\x7b\"name\": \"User\"\x7d]\x7d".toUTF8.data.toList
    let world : World := {
      files := {
        nodes := [(["users.json"], .file document), (["own"], .directory),
          (["own", "service-class.ts.j2"], .file [0x78])]
        current := [] }
      fetch := fun _ _ => .timeout
      decode := fun _ _ => "" }
    let line := ["users.json", "--template-dir", "own"]
    let a : Arguments := { file := "users.json", templateDir := "own" }
    parse line = .ok a ∧
      (∀ c, (Config.load world.files (valueOf a.config) (overrides a)).result = .ok c →
        '/' ∉ c.fileExtension.text.toList) ∧
      (run world line).result = .ok 0 ∧ ((0 : Nat) = 0 ∨ (0 : Nat) = 1) ∧
      ((0 : Nat) = 1 ∨ a.stdout = true ∨ a.listReferences = true →
        (run world line).files = world.files) ∧
      ((0 : Nat) = 0 → a.stdout = false → a.listReferences = false →
        ∃ c loaded g,
          (Config.load world.files (valueOf a.config) (overrides a)).result = .ok c ∧
          (Loader.load world (valueOf a.file) (valueOf a.url)
            Loader.defaultTimeout).result = .ok loaded ∧
          (Generation.run world.files c none loaded.document).result = .ok g ∧
          Written world.files (run world line).files g.outputs) := by
  intro document world line a
  have hevaluated : (parse line).toOption = some a ∧ (run world line).result.toOption = some 0 := by
    decide +kernel +revert
  have hline : parse line = .ok a := toOption_eq_some.mp hevaluated.1
  have hrun : (run world line).result = .ok 0 := toOption_eq_some.mp hevaluated.2
  have hload : (Config.load world.files (valueOf a.config) (overrides a)).result =
      .ok { Config.default with templateDir := .str "own" } := by
    with_unfolding_all rfl
  have hextension : ∀ c,
      (Config.load world.files (valueOf a.config) (overrides a)).result = .ok c →
        '/' ∉ c.fileExtension.text.toList := by
    intro c hc
    obtain rfl := Except.ok.inj (hload.symm.trans hc)
    simp [Config.default, Config.ofFunction, Setting.default, Value.text, Scalar.text]
  exact ⟨hline, hextension, hrun, effect_of_run hline hextension hrun⟩

end TypeStencil.CommandLine
