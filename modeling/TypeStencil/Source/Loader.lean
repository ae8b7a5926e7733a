import TypeStencil.Files.FileSystem
import TypeStencil.Source.Url
import TypeStencil.Trace

/-!
Loading a document from a file or a URL. Whatever goes wrong on the way is reported as one kind of
fault, with a record in the log.
-/
namespace TypeStencil

/-- How a request for a URL ends. A response may name the charset of its body. -/
inductive HttpReply where
  | response (status : Int) (charset? : Option String) (body : List UInt8)
  | timeout
  | statusError (code? : Option Int)
  | invalid (text : String)
  | failed (text : String)
  deriving Repr

/-- What a program finds around it: files, the network with a client that turns the body of a
response into text, and a terminal with so many cells a line. -/
structure World where
  files : FileSystem
  fetch : String → Value → HttpReply
  decode : Option String → List UInt8 → String
  width : Nat := 80

/-- A document and where it comes from. -/
structure Loaded where
  source : String
  document : Value
  deriving Repr

namespace Loader

/-- Logs a fault and fails with it. -/
def refuse {α : Type} (message : String) (f : LoaderFault) : Traced α := do
  Traced.log .error message
  Traced.fail (.loader f)

def loadFile (world : World) (file : Value) : Traced Loaded :=
  match file with
  | .str s => do
    let p := FilePath.ofString s
    Traced.log .debug ("Attempting to load descriptors from file: " ++ p.text)
    if !(← Traced.of ((world.files.exists? p).mapError .file)) then
      refuse ("File not found: " ++ p.text) (.fileNotFound p.text)
    else
      match world.files.readText p with
      | .error f =>
        refuse ("Error reading file " ++ p.text ++ ": " ++ f.message) (.fileUnreadable p.text f)
      | .ok (.error f) => Traced.fail (.utf8 f)
      | .ok (.ok text) =>
        match Json.read text with
        | .error (.misread m) =>
          refuse ("Invalid JSON in file " ++ p.text ++ ": " ++ m.message) (.fileMalformed p.text m)
        | .error (.longInteger n) => Traced.fail (.value (.longInteger n))
        | .error (.deepNesting within) => Traced.fail (.deepNesting within)
        | .ok document => do
          Traced.log .info ("Loaded descriptors from " ++ p.text)
          return ⟨p.text, document⟩
  | v => Traced.fail (.type (.notPath v.kind))

def isErrorStatus (status : Int) : Bool :=
  400 ≤ status && status < 600

def refuseStatus (url : String) (code : Int) : Traced Loaded :=
  refuse ("HTTP error " ++ toString code ++ " for URL: " ++ url) (.status code url)

def refuseDocument (url : String) (cause : ResponseProblem) : Traced Loaded :=
  refuse ("Invalid JSON response from URL " ++ url ++ ": " ++ cause.message)
    (.notDocument url cause)

/-- The document of a reply. -/
def ofReply (decode : Option String → List UInt8 → String) (url : String) (reply : HttpReply) :
    Traced Loaded :=
  match reply with
  | .timeout => refuse ("Request timeout for URL: " ++ url) (.timeout url)
  | .statusError (some code) => refuseStatus url code
  | .statusError none => Traced.fail (.noAttribute .null "status_code")
  | .invalid text => refuseDocument url (.request text)
  | .failed text =>
    refuse ("Request error for URL " ++ url ++ ": " ++ text) (.request url text)
  | .response status charset? body =>
    if isErrorStatus status then refuseStatus url status
    else
      match Json.read (decode charset? body) with
      | .error (.deepNesting within) => Traced.fail (.deepNesting within)
      | .error cause => refuseDocument url (.json cause)
      | .ok document => do
        Traced.log .info ("Loaded descriptors from " ++ url)
        return ⟨url, document⟩

def loadUrl (world : World) (url timeout : Value) : Traced Loaded := do
  Traced.log .debug ("Attempting to load descriptors from URL: " ++ url.text)
  match url with
  | .str url => do
    let parts ← Traced.of ((Url.parts url).mapError .value)
    if parts.scheme.isEmpty || parts.host.isEmpty then
      refuse ("Invalid URL format: " ++ url) (.invalidUrl url)
    else do
      Traced.event (.fetched url timeout)
      ofReply world.decode url (world.fetch url timeout)
  | v => Traced.fail (.noAttribute v.kind "decode")

/-- Loads from the one source that is given. -/
def load (world : World) (file url timeout : Value) : Traced Loaded :=
  if !file.isPresent && !url.isPresent then Traced.fail (.loader .noSource)
  else if file.isPresent && url.isPresent then Traced.fail (.loader .twoSources)
  else if file.isPresent then loadFile world file
  else loadUrl world url timeout

/-- In seconds. -/
def defaultTimeout : Value := .int 30

end Loader

end TypeStencil
