import TypeStencil.Proofs.Files.Writing
import TypeStencil.Proofs.Sequencing
import TypeStencil.Source.Loader

/-!
How loading a document ends. It succeeds exactly if the source can be read as JSON. Most of what
goes wrong is reported as a fault of the loader, but not all: a path with a name that is too long,
bytes that are no UTF-8, an integer that is too long, a nesting that is too deep, a malformed host
and an error status without a response come out as they are.
-/
namespace TypeStencil.Loader

/-- The faults of the loader's own kind. -/
def isReported : Fault → Bool
  | .loader _ => true
  | _ => false

/-- The result is a document or a fault of the loader's own kind. -/
def IsClean (result : Except Fault Loaded) : Prop :=
  (∃ loaded, result = .ok loaded) ∨ ∃ f, result = .error (.loader f)

/-- Which documents a result can hold, and which faults come out of it without a report. -/
structure Ends (result : Except Fault Loaded) (loads : Loaded → Prop) (escapes : Fault → Prop) :
    Prop where
  ok_iff : ∀ loaded, result = .ok loaded ↔ loads loaded
  error_iff : ∀ f, result = .error f ∧ isReported f = false ↔ escapes f
  isClean_iff : IsClean result ↔ ∀ f, ¬ escapes f

section Ends

variable {result : Except Fault Loaded} {loads loads' : Loaded → Prop}
  {escapes escapes' : Fault → Prop}

theorem Ends.of_cases
    (hcases : (∃ loaded, result = .ok loaded ∧ loads loaded) ∨
      (∃ f, result = .error (.loader f)) ∨ ∃ f, result = .error f ∧ escapes f)
    (hloads : ∀ loaded, loads loaded → result = .ok loaded)
    (hescapes : ∀ f, escapes f → result = .error f ∧ isReported f = false) :
    Ends result loads escapes := by
  refine ⟨fun loaded => ⟨?_, hloads loaded⟩, fun f => ⟨?_, hescapes f⟩, ?_, ?_⟩
  · intro hok
    rcases hcases with ⟨x, hx, hloaded⟩ | ⟨f, hf⟩ | ⟨f, hf, -⟩
    · obtain rfl := Except.ok.inj (hx.symm.trans hok)
      exact hloaded
    · cases hf.symm.trans hok
    · cases hf.symm.trans hok
  · rintro ⟨herror, hreported⟩
    rcases hcases with ⟨x, hx, -⟩ | ⟨g, hg⟩ | ⟨g, hg, hescaped⟩
    · cases hx.symm.trans herror
    · obtain rfl := Except.error.inj (hg.symm.trans herror)
      cases hreported
    · obtain rfl := Except.error.inj (hg.symm.trans herror)
      exact hescaped
  · intro hclean f hf
    obtain ⟨herror, hreported⟩ := hescapes f hf
    rcases hclean with ⟨x, hx⟩ | ⟨g, hg⟩
    · cases hx.symm.trans herror
    · obtain rfl := Except.error.inj (hg.symm.trans herror)
      cases hreported
  · intro hnone
    rcases hcases with ⟨x, hx, -⟩ | hreported | ⟨f, -, hf⟩
    · exact .inl ⟨x, hx⟩
    · exact .inr hreported
    · exact absurd hf (hnone f)

theorem Ends.of_reported {f : LoaderFault} (hresult : result = .error (.loader f))
    (hloads : ∀ loaded, ¬ loads loaded) (hescapes : ∀ f, ¬ escapes f) :
    Ends result loads escapes :=
  .of_cases (.inr (.inl ⟨f, hresult⟩)) (fun loaded h => absurd h (hloads loaded))
    fun f h => absurd h (hescapes f)

theorem Ends.of_ok (loaded : Loaded) (hresult : result = .ok loaded)
    (hloads : ∀ other, loads other ↔ other = loaded) (hescapes : ∀ f, ¬ escapes f) :
    Ends result loads escapes := by
  refine .of_cases (.inl ⟨loaded, hresult, (hloads loaded).mpr rfl⟩) ?_
    fun f h => absurd h (hescapes f)
  intro other hother
  rw [(hloads other).mp hother, hresult]

theorem Ends.of_escape {f : Fault} (hresult : result = .error f) (hreported : isReported f = false)
    (hloads : ∀ loaded, ¬ loads loaded) (hescapes : ∀ g, escapes g ↔ g = f) :
    Ends result loads escapes := by
  refine .of_cases (.inr (.inr ⟨f, hresult, (hescapes f).mpr rfl⟩))
    (fun loaded h => absurd h (hloads loaded)) ?_
  intro g hg
  rw [(hescapes g).mp hg]
  exact ⟨hresult, hreported⟩

theorem Ends.congr (h : Ends result loads escapes)
    (hloads : ∀ loaded, loads loaded ↔ loads' loaded)
    (hescapes : ∀ f, escapes f ↔ escapes' f) : Ends result loads' escapes' := by
  obtain rfl : loads = loads' := funext fun loaded => propext (hloads loaded)
  obtain rfl : escapes = escapes' := funext fun f => propext (hescapes f)
  exact h

end Ends

section File

variable {fs : FileSystem} {p : FilePath}

/-- A file that is read as a document. -/
def FileLoads (fs : FileSystem) (p : FilePath) (loaded : Loaded) : Prop :=
  loaded.source = p.text ∧
    ∃ text, fs.readText p = .ok (.ok text) ∧ Json.read text = .ok loaded.document

/-- The faults that come out of loading a file without a report. -/
inductive FileEscape (fs : FileSystem) (p : FilePath) : Fault → Prop
  | longName (path : String) : fs.locate p = .error (.refused .longName path) →
      FileEscape fs p (.file (.refused .longName path))
  | encoding (cause : Text.Utf8Fault) : fs.readText p = .ok (.error cause) →
      FileEscape fs p (.utf8 cause)
  | longInteger (text : String) (digits : Nat) : fs.readText p = .ok (.ok text) →
      Json.read text = .error (.longInteger digits) →
      FileEscape fs p (.value (.longInteger digits))
  | deepNesting (text : String) (within : Json.Container) : fs.readText p = .ok (.ok text) →
      Json.read text = .error (.deepNesting within) → FileEscape fs p (.deepNesting within)

theorem exists_of_readText {r : Except Text.Utf8Fault String} (h : fs.readText p = .ok r) :
    fs.exists? p = .ok true := by
  obtain ⟨content, hread, -⟩ := bind_eq_ok.mp h
  obtain ⟨l, hl, hnode⟩ := FileSystem.read_eq_ok.mp hread
  rw [FileSystem.exists?, FileSystem.find?, hl]
  dsimp only
  rw [hnode]
  rfl

theorem exists?_eq_error {cause : FileFault} : fs.exists? p = .error cause ↔
    ∃ path, cause = .refused .longName path ∧ fs.locate p = .error cause := by
  rw [FileSystem.exists?, FileSystem.find?]
  constructor
  · intro h
    split at h
    · cases h
    · next path hlocate =>
        obtain rfl := Except.error.inj h
        exact ⟨path, rfl, hlocate⟩
    · cases h
  · rintro ⟨path, rfl, hlocate⟩
    rw [hlocate]
    rfl

theorem result_loadFile (world : World) (s : String) :
    (loadFile world (.str s)).result =
      match world.files.exists? (.ofString s), world.files.readText (.ofString s) with
      | .error cause, _ => .error (.file cause)
      | .ok false, _ => .error (.loader (.fileNotFound (FilePath.ofString s).text))
      | .ok true, .error cause =>
        .error (.loader (.fileUnreadable (FilePath.ofString s).text cause))
      | .ok true, .ok (.error cause) => .error (.utf8 cause)
      | .ok true, .ok (.ok text) =>
        match Json.read text with
        | .ok document => .ok ⟨(FilePath.ofString s).text, document⟩
        | .error (.misread m) => .error (.loader (.fileMalformed (FilePath.ofString s).text m))
        | .error (.longInteger n) => .error (.value (.longInteger n))
        | .error (.deepNesting within) => .error (.deepNesting within) := by
  rw [loadFile, Traced.result_sequence]
  change (Traced.of _ >>= _).result = _
  rcases world.files.exists? (.ofString s) with cause | found
  · rfl
  · cases found with
    | false => rfl
    | true =>
        change (Traced.of (.ok true) >>= _).result = _
        rw [Traced.of_ok_bind]
        rcases world.files.readText (.ofString s) with cause | cause | text
        · rfl
        · rfl
        · dsimp only
          rcases Json.read text with (m | n | within) | document <;> rfl

theorem ends_loadFile (world : World) (s : String) :
    Ends (loadFile world (.str s)).result (FileLoads world.files (.ofString s))
      (FileEscape world.files (.ofString s)) := by
  rw [result_loadFile]
  refine .of_cases ?_ ?_ ?_
  · split
    · next cause hexists =>
        obtain ⟨path, rfl, hlocate⟩ := exists?_eq_error.mp hexists
        exact .inr (.inr ⟨_, rfl, .longName path hlocate⟩)
    · exact .inr (.inl ⟨_, rfl⟩)
    · exact .inr (.inl ⟨_, rfl⟩)
    · next cause _ htext => exact .inr (.inr ⟨_, rfl, .encoding cause htext⟩)
    · next text _ htext =>
        split
        · next document hread => exact .inl ⟨_, rfl, rfl, text, htext, hread⟩
        · exact .inr (.inl ⟨_, rfl⟩)
        · next n hread => exact .inr (.inr ⟨_, rfl, .longInteger text n htext hread⟩)
        · next within hread => exact .inr (.inr ⟨_, rfl, .deepNesting text within htext hread⟩)
  · rintro ⟨source, document⟩ ⟨rfl, text, htext, hread⟩
    rw [exists_of_readText htext, htext]
    dsimp only
    rw [hread]
  · intro f hf
    cases hf with
    | longName path hlocate =>
        rw [exists?_eq_error.mpr ⟨path, rfl, hlocate⟩]
        exact ⟨rfl, rfl⟩
    | encoding cause htext =>
        rw [exists_of_readText htext, htext]
        exact ⟨rfl, rfl⟩
    | longInteger text digits htext hread =>
        rw [exists_of_readText htext, htext]
        dsimp only
        rw [hread]
        exact ⟨rfl, rfl⟩
    | deepNesting text within htext hread =>
        rw [exists_of_readText htext, htext]
        dsimp only
        rw [hread]
        exact ⟨rfl, rfl⟩

end File

section Reply

variable {decode : Option String → List UInt8 → String} {url : String}

/-- A reply that is read as a document. -/
inductive ReplyLoads (decode : Option String → List UInt8 → String) (url : String)
    (loaded : Loaded) : HttpReply → Prop
  | intro (status : Int) (charset? : Option String) (body : List UInt8) : loaded.source = url →
      isErrorStatus status = false →
      Json.read (decode charset? body) = .ok loaded.document →
      ReplyLoads decode url loaded (.response status charset? body)

/-- The faults that come out of a reply without a report. -/
inductive ReplyEscape (decode : Option String → List UInt8 → String) : HttpReply → Fault → Prop
  | noResponse : ReplyEscape decode (.statusError none) (.noAttribute .null "status_code")
  | deepNesting (status : Int) (charset? : Option String) (body : List UInt8)
      (within : Json.Container) :
      isErrorStatus status = false →
      Json.read (decode charset? body) = .error (.deepNesting within) →
      ReplyEscape decode (.response status charset? body) (.deepNesting within)

section

variable {status : Int} {charset? : Option String} {body : List UInt8}

theorem replyLoads_response {loaded : Loaded} :
    ReplyLoads decode url loaded (.response status charset? body) ↔ loaded.source = url ∧
      isErrorStatus status = false ∧ Json.read (decode charset? body) = .ok loaded.document := by
  constructor
  · rintro ⟨_, _, _, hsource, hstatus, hread⟩
    exact ⟨hsource, hstatus, hread⟩
  · rintro ⟨hsource, hstatus, hread⟩
    exact .intro status charset? body hsource hstatus hread

theorem replyEscape_response {f : Fault} :
    ReplyEscape decode (.response status charset? body) f ↔ isErrorStatus status = false ∧
      ∃ within, f = .deepNesting within ∧
        Json.read (decode charset? body) = .error (.deepNesting within) := by
  constructor
  · rintro (_ | ⟨_, _, _, within, hstatus, hread⟩)
    exact ⟨hstatus, within, rfl, hread⟩
  · rintro ⟨hstatus, within, rfl, hread⟩
    exact .deepNesting status charset? body within hstatus hread

end

theorem replyEscape_noResponse {f : Fault} :
    ReplyEscape decode (.statusError none) f ↔ f = .noAttribute .null "status_code" := by
  constructor
  · rintro ⟨⟩
    rfl
  · rintro rfl
    exact .noResponse

theorem ends_ofReply (decode : Option String → List UInt8 → String) (url : String)
    (reply : HttpReply) :
    Ends (ofReply decode url reply).result (ReplyLoads decode url · reply)
      (ReplyEscape decode reply) := by
  cases reply with
  | timeout => exact .of_reported rfl nofun nofun
  | invalid text => exact .of_reported rfl nofun nofun
  | failed text => exact .of_reported rfl nofun nofun
  | statusError code? =>
      cases code? with
      | some code => exact .of_reported rfl nofun nofun
      | none => exact .of_escape rfl rfl nofun fun f => replyEscape_noResponse
  | response status charset? body =>
      rw [ofReply]
      cases hstatus : isErrorStatus status with
      | true =>
          exact .of_reported rfl (by simp [replyLoads_response, hstatus])
            (by simp [replyEscape_response, hstatus])
      | false =>
          rw [if_neg Bool.false_ne_true]
          cases hread : Json.read (decode charset? body) with
          | ok document =>
              refine .of_ok ⟨url, document⟩ rfl ?_ (by simp [replyEscape_response, hread])
              rintro ⟨source, other⟩
              simp [replyLoads_response, hstatus, hread, eq_comm]
          | error cause =>
              have hloads : ∀ loaded,
                  ¬ ReplyLoads decode url loaded (.response status charset? body) := by
                simp [replyLoads_response, hread]
              cases cause with
              | deepNesting within =>
                  refine .of_escape rfl rfl hloads ?_
                  simp [replyEscape_response, hstatus, hread]
              | _ => exact .of_reported rfl hloads (by simp [replyEscape_response, hread])

end Reply

section Url

/-- A URL with a scheme and a host. -/
def IsComplete (url : String) : Prop :=
  ∃ parts, Url.parts url = .ok parts ∧ parts.scheme ≠ [] ∧ parts.host ≠ []

/-- A URL that is read as a document. -/
def UrlLoads (world : World) (url : String) (timeout : Value) (loaded : Loaded) : Prop :=
  IsComplete url ∧ ReplyLoads world.decode url loaded (world.fetch url timeout)

/-- The faults that come out of loading from a URL without a report. -/
inductive UrlEscape (world : World) (url : String) (timeout : Value) : Fault → Prop
  | host (cause : ValueFault) : Url.parts url = .error cause →
      UrlEscape world url timeout (.value cause)
  | reply (f : Fault) : IsComplete url → ReplyEscape world.decode (world.fetch url timeout) f →
      UrlEscape world url timeout f

theorem result_loadUrl (world : World) (url : String) (timeout : Value) :
    (loadUrl world (.str url) timeout).result =
      match Url.parts url with
      | .error cause => .error (.value cause)
      | .ok parts =>
        if parts.scheme.isEmpty || parts.host.isEmpty then .error (.loader (.invalidUrl url))
        else (ofReply world.decode url (world.fetch url timeout)).result := by
  rw [loadUrl, Traced.result_sequence]
  change (Traced.of _ >>= _).result = _
  rcases Url.parts url with cause | parts
  · rfl
  · change (ite _ _ _ : Traced _).result = ite _ _ _
    cases parts.scheme.isEmpty || parts.host.isEmpty with
    | true => rfl
    | false => exact Traced.result_sequence _ _

theorem ends_loadUrl (world : World) (url : String) (timeout : Value) :
    Ends (loadUrl world (.str url) timeout).result (UrlLoads world url timeout)
      (UrlEscape world url timeout) := by
  rw [result_loadUrl]
  cases hparts : Url.parts url with
  | error cause =>
      have hincomplete : ¬ IsComplete url := by
        rintro ⟨parts, hok, -⟩
        cases hparts.symm.trans hok
      refine .of_cases (.inr (.inr ⟨_, rfl, .host cause hparts⟩))
        (fun loaded h => absurd h.1 hincomplete) fun f hf => ?_
      cases hf with
      | host cause' hcause =>
          obtain rfl := Except.error.inj (hparts.symm.trans hcause)
          exact ⟨rfl, rfl⟩
      | reply f hcomplete => exact absurd hcomplete hincomplete
  | ok parts =>
      dsimp only
      cases hempty : parts.scheme.isEmpty || parts.host.isEmpty with
      | true =>
          have hincomplete : ¬ IsComplete url := by
            rintro ⟨parts', hok, hscheme, hhost⟩
            obtain rfl := Except.ok.inj (hparts.symm.trans hok)
            simp [hscheme, hhost] at hempty
          refine .of_reported rfl (fun loaded h => hincomplete h.1) fun f hf => ?_
          cases hf with
          | host cause hcause => cases hparts.symm.trans hcause
          | reply f hcomplete => exact hincomplete hcomplete
      | false =>
          have hcomplete : IsComplete url := by
            simp only [Bool.or_eq_false_iff, List.isEmpty_eq_false_iff] at hempty
            exact ⟨parts, hparts, hempty⟩
          rw [if_neg Bool.false_ne_true]
          refine (ends_ofReply world.decode url (world.fetch url timeout)).congr
            (fun loaded => ⟨fun h => ⟨hcomplete, h⟩, And.right⟩) fun f => ⟨.reply f hcomplete, ?_⟩
          intro hf
          cases hf with
          | host cause hcause => cases hparts.symm.trans hcause
          | reply f _ h => exact h

end Url

end TypeStencil.Loader
