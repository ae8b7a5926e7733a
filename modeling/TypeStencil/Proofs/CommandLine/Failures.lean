import TypeStencil.Proofs.CommandLine.Effect
import TypeStencil.Proofs.Display.Messages
import TypeStencil.Proofs.Source.Loading

/-!
What a run makes of a document that cannot be loaded. A fault of the loader's own kind is reported,
if its message can be shown, and the run ends with the code 1; any other fault ends the run as it
is.
-/
namespace TypeStencil.CommandLine

open TypeStencil.Action TypeStencil.Loader

section Source

variable {file url : Option String} {ofFile ofUrl : String → Prop}

/-- What holds of the one source that is given. -/
inductive FromSource (file url : Option String) (ofFile ofUrl : String → Prop) : Prop
  | file (s : String) : given? file = some s → given? url = none → ofFile s →
      FromSource file url ofFile ofUrl
  | url (s : String) : given? file = none → given? url = some s → ofUrl s →
      FromSource file url ofFile ofUrl

theorem isPresent_valueOf (v : Option String) : (valueOf v).isPresent = (given? v).isSome := by
  cases v with
  | none => rfl
  | some s =>
      change (!s.isEmpty) = (given? (some s)).isSome
      rw [given?, Option.filter]
      cases s.isEmpty <;> rfl

theorem valueOf_eq_str {v : Option String} {s : String} (h : given? v = some s) :
    valueOf v = .str s := by
  rw [(Option.filter_eq_some_iff.mp h).1]
  rfl

theorem fromSource_file {s : String} (hfile : given? file = some s) (hurl : given? url = none) :
    FromSource file url ofFile ofUrl ↔ ofFile s := by
  constructor
  · intro h
    cases h with
    | file s' hs' _ h =>
        obtain rfl := Option.some.inj (hfile.symm.trans hs')
        exact h
    | url s' hnone _ _ => cases hfile.symm.trans hnone
  · exact .file s hfile hurl

theorem fromSource_url {s : String} (hfile : given? file = none) (hurl : given? url = some s) :
    FromSource file url ofFile ofUrl ↔ ofUrl s := by
  constructor
  · intro h
    cases h with
    | file s' hs' _ _ => cases hfile.symm.trans hs'
    | url s' _ hs' h =>
        obtain rfl := Option.some.inj (hurl.symm.trans hs')
        exact h
  · exact .url s hfile hurl

theorem not_fromSource (h : (given? file).isSome = (given? url).isSome) :
    ¬ FromSource file url ofFile ofUrl := by
  rintro (⟨s, hfile, hurl, -⟩ | ⟨s, hfile, hurl, -⟩) <;>
  · rw [hfile, hurl] at h
    cases h

/-- The one source that is given is read as a document. -/
def Loads (world : World) (file url : Option String) (timeout : Value) (loaded : Loaded) : Prop :=
  FromSource file url (fun s => FileLoads world.files (.ofString s) loaded)
    fun s => UrlLoads world s timeout loaded

/-- The faults that come out of loading from the one source without a report. -/
def Escapes (world : World) (file url : Option String) (timeout : Value) (f : Fault) : Prop :=
  FromSource file url (fun s => FileEscape world.files (.ofString s) f)
    fun s => UrlEscape world s timeout f

theorem ends_load (world : World) (file url : Option String) (timeout : Value) :
    Ends (load world (valueOf file) (valueOf url) timeout).result (Loads world file url timeout)
      (Escapes world file url timeout) := by
  rw [load, isPresent_valueOf, isPresent_valueOf]
  cases hfile : given? file with
  | none =>
      cases hurl : given? url with
      | none =>
          have hsame : (given? file).isSome = (given? url).isSome := by rw [hfile, hurl]
          exact .of_reported rfl (fun _ => not_fromSource hsame) fun _ => not_fromSource hsame
      | some s =>
          rw [valueOf_eq_str hurl]
          exact (ends_loadUrl world s timeout).congr
            (fun loaded => by rw [Loads, fromSource_url hfile hurl])
            fun f => by rw [Escapes, fromSource_url hfile hurl]
  | some s =>
      cases hurl : given? url with
      | none =>
          rw [valueOf_eq_str hfile]
          exact (ends_loadFile world s).congr
            (fun loaded => by rw [Loads, fromSource_file hfile hurl])
            fun f => by rw [Escapes, fromSource_file hfile hurl]
      | some t =>
          have hsame : (given? file).isSome = (given? url).isSome := by rw [hfile, hurl]; rfl
          exact .of_reported rfl (fun _ => not_fromSource hsame) fun _ => not_fromSource hsame

theorem unforeseen_of_reply {decode : Option String → List UInt8 → String} {reply : HttpReply}
    {f : Fault} (h : ReplyEscape decode reply f) :
    isForeseen f = false := by
  cases h <;> rfl

/-- A fault that comes out of loading without a report is none that a run has an answer to. -/
theorem unforeseen_of_escapes {world : World} {timeout : Value} {f : Fault}
    (h : Escapes world file url timeout f) : isForeseen f = false := by
  cases h with
  | file s _ _ h => cases h <;> rfl
  | url s _ _ h =>
      cases h with
      | host cause _ => rfl
      | reply f _ h => exact unforeseen_of_reply h

end Source

section Run

variable {world : World} {a : Arguments} {c : Config} {s s' : Session} {f : Fault}

/-- A session in which nothing has been done. -/
def start (world : World) : Session :=
  ⟨world.width, world.files, "", []⟩

/-- The lines in which a fault is reported. -/
def reportLines (width : Nat) (f : Fault) : Except MarkupFault (List (List Char)) :=
  Display.messageLines width ("[red]✗ Error:[/red] " ++ f.message)

def printed (lines : List (List Char)) : String :=
  String.join (lines.map fun line => String.ofList line ++ "\n")

/-- A run that reports a fault after all that a session has printed, and ends with the code 1. -/
def Reports (outcome : Outcome) (s : Session) (f : Fault) : Prop :=
  ∃ lines, reportLines s.width f = .ok lines ∧ outcome.result = .ok 1 ∧
    outcome.output = s.output ++ printed lines

theorem after_printLines (lines : List (List Char)) (s : Session) :
    (printLines lines).after s = (.ok (), { s with output := s.output ++ printed lines }) := by
  induction lines generalizing s with
  | nil =>
      change _ = (_, { s with output := s.output ++ "" })
      rw [String.append_empty]
      rfl
  | cons line rest ih =>
      change ((printLine line) >>= fun _ => printLines rest).after s = _
      rw [after_bind, printLine, after_modify]
      dsimp only
      rw [ih, printed, printed, List.map_cons, String.join_cons, String.append_assoc,
        String.append_assoc, String.append_assoc]

theorem after_print_ok {message : String} {lines : List (List Char)}
    (h : Display.messageLines s.width message = .ok lines) :
    (print message).after s = (.ok (), { s with output := s.output ++ printed lines }) := by
  rw [print, after_bind, after_get]
  dsimp only
  rw [after_bind, after_of, h]
  exact after_printLines lines s

theorem after_print_error {message : String} {m : MarkupFault}
    (h : Display.messageLines s.width message = .error m) :
    (print message).after s = (.error (.markup m), s) := by
  rw [print, after_bind, after_get]
  dsimp only
  rw [after_bind, after_of, h]
  rfl

theorem run_eq {line : List String} (hline : parse line = .ok a) :
    run world line = outcomeOf a ((carryOut world a).after (start world)).1
      ((carryOut world a).after (start world)).2 := by
  rw [run, hline]
  rfl

theorem configure_of_no_warnings {events : List Event}
    (hload : Config.load s.files (valueOf a.config) (overrides a) = ⟨events, .ok c⟩)
    (hwarnings : c.warnings s.files = .ok []) :
    (configure a).after s = (.ok c, { s with events := s.events ++ events }) := by
  rw [configure, bind_after_files, after_bind, after_ofTraced, hload]
  dsimp only
  rw [bind_after_files, after_bind, after_of]
  dsimp only
  rw [hwarnings]
  rfl

/-- A run that has been configured and cannot load its document ends its steps there. -/
theorem perform_of_load_error (hs : s.files = world.files)
    (hconfigured : (configure a).after s = (.ok c, s')) (hlist : a.listReferences = false)
    (hgiven : (given? a.file).isSome ∨ (given? a.url).isSome)
    (hload : (load world (valueOf a.file) (valueOf a.url) defaultTimeout).result = .error f) :
    ∃ events, (perform world a).after s = (.error f, { s' with events := events }) := by
  have hfiles : s'.files = world.files := (keepsFiles_configure.of_eq hconfigured).trans hs
  have hworld : { world with files := s'.files } = world := by rw [hfiles]
  have hsource : ((given? a.file).isNone && (given? a.url).isNone) = false := by
    rcases hgiven with h | h <;> simp [← Option.not_isSome, h]
  rw [perform, after_bind, hconfigured, hlist]
  dsimp only
  rw [if_neg Bool.false_ne_true, hsource, if_neg Bool.false_ne_true, bind_after_files, after_bind,
    after_ofTraced, hworld, hload]
  exact ⟨_, rfl⟩

/-- Ends of a run whose document cannot be loaded. -/
theorem run_of_load_error {line : List String} (hline : parse line = .ok a)
    (hconfigured : (configure a).after (start world) = (.ok c, s))
    (hlist : a.listReferences = false)
    (hgiven : (given? a.file).isSome ∨ (given? a.url).isSome)
    (hload : (load world (valueOf a.file) (valueOf a.url) defaultTimeout).result = .error f) :
    (isForeseen f = false → (run world line).result = .error f) ∧
      (isForeseen f = true → ∀ lines, reportLines s.width f = .ok lines →
        Reports (run world line) s f) ∧
      (isForeseen f = true → ∀ m, reportLines s.width f = .error m →
        (run world line).result = .error (.markup m)) := by
  obtain ⟨events, hperform⟩ := perform_of_load_error rfl hconfigured hlist hgiven hload
  rw [run_eq hline, carryOut, after_tryCatch, hperform]
  dsimp only
  refine ⟨fun hforeseen => ?_, fun hforeseen lines hlines => ?_, fun hforeseen m hm => ?_⟩
  · rw [hforeseen]
    rfl
  · rw [hforeseen, if_pos rfl, after_bind,
      after_print_ok (s := { s with events := events }) hlines]
    exact ⟨lines, hlines, rfl, rfl⟩
  · rw [hforeseen, if_pos rfl, after_bind,
      after_print_error (s := { s with events := events }) hm]
    rfl

/-- Loading from a file, from a URL and from the one source that is given comes to a document, to a
fault of the loader's own kind or to a fault that escapes, and the faults that escape are known.
A run that has been configured and is given a source that does not load reports a fault of the
loader's own kind and ends with the code 1, unless the tags in its message keep it from being
shown; a fault that escapes loading escapes the run. -/
theorem failures_of_loading (world : World) :
    (∀ path, Ends (loadFile world (.str path)).result (FileLoads world.files (.ofString path))
      (FileEscape world.files (.ofString path))) ∧
    (∀ url timeout, Ends (loadUrl world (.str url) timeout).result (UrlLoads world url timeout)
      (UrlEscape world url timeout)) ∧
    (∀ file url timeout, Ends (load world (valueOf file) (valueOf url) timeout).result
      (Loads world file url timeout) (Escapes world file url timeout)) ∧
    ∀ line a c s, parse line = .ok a → (configure a).after (start world) = (.ok c, s) →
      a.listReferences = false → (given? a.file).isSome ∨ (given? a.url).isSome →
      (∀ f, Escapes world a.file a.url defaultTimeout f → (run world line).result = .error f) ∧
      ∀ f, (load world (valueOf a.file) (valueOf a.url) defaultTimeout).result =
          .error (.loader f) →
        (Reports (run world line) s (.loader f) ∨
          ∃ m, reportLines s.width (.loader f) = .error m ∧
            (run world line).result = .error (.markup m)) ∧
        (Markup.IsUntagged f.message.toList → Reports (run world line) s (.loader f)) := by
  refine ⟨ends_loadFile world, ends_loadUrl world, ends_load world, ?_⟩
  intro line a c s hline hconfigured hlist hgiven
  constructor
  · intro f hf
    have hload := (((ends_load world a.file a.url defaultTimeout).error_iff f).mpr hf).1
    exact (run_of_load_error hline hconfigured hlist hgiven hload).1 (unforeseen_of_escapes hf)
  · intro f hload
    obtain ⟨-, hreports, hmarkup⟩ := run_of_load_error hline hconfigured hlist hgiven hload
    constructor
    · cases hlines : reportLines s.width (.loader f) with
      | ok lines => exact .inl (hreports rfl lines hlines)
      | error m => exact .inr ⟨m, rfl, hmarkup rfl m hlines⟩
    · intro huntagged
      obtain ⟨lines, hlines⟩ := Markup.messageLines_error huntagged s.width
      exact hreports rfl lines hlines

/-- A run with a file that is not there. -/
theorem failures_of_loading_missing :
    let world : World := {
      files := ⟨[], []⟩
      fetch := fun _ _ => .timeout
      decode := fun _ _ => "" }
    parse ["d.json"] = .ok { file := "d.json" } ∧
      (configure { file := "d.json" }).after (start world) = (.ok .default, start world) ∧
      (∀ f, ¬ FileEscape world.files (.ofString "d.json") f) ∧
      Reports (run world ["d.json"]) (start world) (.loader (.fileNotFound "d.json")) := by
  intro world
  obtain ⟨hfile, -, -, hrun⟩ := failures_of_loading world
  have hline : parse ["d.json"] = .ok { file := "d.json" } :=
    toOption_eq_some.mp (by decide +kernel)
  have hsettings : Config.load world.files .null [] = ⟨[], .ok .default⟩ := by
    with_unfolding_all rfl
  have hwarnings : Config.warnings ⟨[], []⟩ .default = .ok [] :=
    toOption_eq_some.mp (by decide +kernel)
  have hconfigured : (configure { file := "d.json" }).after (start world) =
      (.ok .default, start world) := configure_of_no_warnings hsettings hwarnings
  have hload : (load world (.str "d.json") .null defaultTimeout).result =
      .error (.loader (.fileNotFound "d.json")) := by rfl
  have huntagged : Markup.IsUntagged (LoaderFault.fileNotFound "d.json").message.toList :=
    Markup.isUntagged_of_notMem (by decide)
  refine ⟨hline, hconfigured, (hfile "d.json").isClean_iff.mp (.inr ⟨_, rfl⟩), ?_⟩
  exact ((hrun _ _ _ _ hline hconfigured rfl (.inl rfl)).2 _ hload).2 huntagged

/-- Not every fault is reported. A byte that is no UTF-8 comes out of loading and of the run as it
is, and a message about a file that is not there cannot be shown with a closing tag in it. -/
theorem not_always_reported :
    let world : World := {
      files := ⟨[(["d.json"], .file [0xFF])], []⟩
      fetch := fun _ _ => .timeout
      decode := fun _ _ => "" }
    (¬ IsClean (loadFile world (.str "d.json")).result ∧
      ∀ code, (run world ["d.json"]).result ≠ .ok code) ∧
    IsClean (loadFile world (.str "x[/b].json")).result ∧
      ∀ code, (run world ["x[/b].json"]).result ≠ .ok code := by
  intro world
  have hruns : (run world ["d.json"]).result.toOption = none ∧
      (run world ["x[/b].json"]).result.toOption = none := by
    decide +kernel +revert
  have hnone {result : Except Fault Nat} (h : result.toOption = none) (code : Nat) :
      result ≠ .ok code := by
    rintro rfl
    cases h
  refine ⟨⟨?_, hnone hruns.1⟩, .inr ⟨_, rfl⟩, hnone hruns.2⟩
  intro hclean
  exact (ends_loadFile world "d.json").isClean_iff.mp hclean _ (.encoding _ rfl)

end Run

end TypeStencil.CommandLine
