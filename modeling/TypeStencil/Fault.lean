import TypeStencil.Display.Markup
import TypeStencil.Json.Reader
import TypeStencil.Template.Fault
import TypeStencil.Text.Utf8

/-!
Everything that can go wrong, as causes. The wording of each cause is given by its `message`
function and nowhere else.
-/
namespace TypeStencil

/-- A value of the wrong kind for what is done with it. -/
inductive TypeFault where
  | unhashable (found : Kind)
  | notIterable (found : Kind)
  | unordered (left right : Kind)
  | notLines (found : Kind)
  | missingFields (descriptor : String) (fields : List String)
  | memberNotObject (found : Kind)
  | notIndexable (found : Kind)
  | listIndex (found : Kind)
  | textIndex (found : Kind)
  | noLength (found : Kind)
  | notLowered (found : Kind)
  | repeatCount (found : Kind)
  | extraArguments (function : String) (least most given : Nat)
  | unknownArgument (function name : String)
  | repeatedArgument (function name : String)
  | notPath (found : Kind)
  | notJoinable (found : Kind)
  | notJoined (index : Nat) (found : Kind)
  | notPair (index : Nat)
  | notLevel (found : Value)
  deriving Repr

namespace TypeFault

/-- Field names between quotes, as an enumeration. -/
def enumeration (names : List String) : String :=
  match names.map fun n => "'" ++ n ++ "'" with
  | [] => ""
  | [a] => a
  | [a, b] => a ++ " and " ++ b
  | many => String.intercalate ", " many.dropLast ++ ", and " ++ many.getLastD ""

def message : TypeFault → String
  | unhashable k => "unhashable type: '" ++ k.name ++ "'"
  | notIterable k => "'" ++ k.name ++ "' object is not iterable"
  | unordered l r =>
    "'<' not supported between instances of '" ++ l.name ++ "' and '" ++ r.name ++ "'"
  | notLines k => "expected string or bytes-like object, got '" ++ k.name ++ "'"
  | missingFields descriptor fields =>
    descriptor ++ ".__init__() missing " ++ toString fields.length ++
      " required positional argument" ++ (if fields.length = 1 then "" else "s") ++ ": " ++
      enumeration fields
  | memberNotObject k => "member must be an object, got " ++ k.name
  | notIndexable k => "'" ++ k.name ++ "' object is not subscriptable"
  | listIndex k => "list indices must be integers or slices, not " ++ k.name
  | textIndex k => "string indices must be integers, not '" ++ k.name ++ "'"
  | noLength k => "object of type '" ++ k.name ++ "' has no len()"
  | notLowered k =>
    "descriptor 'lower' for 'str' objects doesn't apply to a '" ++ k.name ++ "' object"
  | repeatCount k => "can't multiply sequence by non-int of type '" ++ k.name ++ "'"
  | extraArguments function least most given =>
    let expected :=
      if least = most then
        "takes " ++ toString most ++ " positional argument" ++ (if most = 1 then "" else "s")
      else "takes from " ++ toString least ++ " to " ++ toString most ++ " positional arguments"
    function ++ "() " ++ expected ++ " but " ++ toString given ++
      (if given = 1 then " was given" else " were given")
  | unknownArgument function name =>
    function ++ "() got an unexpected keyword argument '" ++ name ++ "'"
  | repeatedArgument function name =>
    function ++ "() got multiple values for argument '" ++ name ++ "'"
  | notPath k => "expected str, bytes or os.PathLike object, not " ++ k.name
  | notJoinable k =>
    "join() argument must be str, bytes, or os.PathLike object, not '" ++ k.name ++ "'"
  | notJoined index k =>
    "sequence item " ++ toString index ++ ": expected str instance, " ++ k.name ++ " found"
  | notPair index =>
    "cannot convert dictionary update sequence element #" ++ toString index ++ " to a sequence"
  | notLevel v => "Level not an integer or a valid string: " ++ v.text

end TypeFault

/-- What the file system refuses to do. -/
inductive FileProblem where
  | missing
  | occupied
  | notDirectory
  | isDirectory
  | longName
  deriving DecidableEq, Repr

namespace FileProblem

def number : FileProblem → Nat
  | missing => 2
  | occupied => 17
  | notDirectory => 20
  | isDirectory => 21
  | longName => 36

def phrase : FileProblem → String
  | missing => "No such file or directory"
  | occupied => "File exists"
  | notDirectory => "Not a directory"
  | isDirectory => "Is a directory"
  | longName => "File name too long"

end FileProblem

/-- A path that is refused, or one that holds a null and so is no path at all. -/
inductive FileFault where
  | refused (problem : FileProblem) (path : String)
  | nullInPath
  deriving DecidableEq, Repr

def FileFault.message : FileFault → String
  | refused problem path =>
    "[Errno " ++ toString problem.number ++ "] " ++ problem.phrase ++ ": " ++ Text.quoted path
  | nullInPath => "embedded null byte"

/-- Settings that cannot be loaded or saved. -/
inductive ConfigFault where
  | notFound (path : String)
  | notJson (path : String)
  | malformed (path : String) (cause : Json.Misread)
  | unreadable (path : String) (cause : FileFault)
  | notObject (path : String)
  | unwritable (path : String) (cause : FileFault)
  deriving Repr

namespace ConfigFault

def message : ConfigFault → String
  | notFound path => "Configuration file not found: " ++ path
  | notJson path => "Configuration file must be JSON: " ++ path
  | malformed path cause =>
    "Invalid JSON in configuration file " ++ path ++ ": " ++ cause.message
  | unreadable path cause =>
    "Failed to load configuration file " ++ path ++ ": " ++ cause.message
  | notObject path => "Configuration file must contain a JSON object: " ++ path
  | unwritable path cause => "Failed to save configuration to " ++ path ++ ": " ++ cause.message

end ConfigFault

/-- Documents from which no artifacts can be generated. -/
inductive GeneratorFault where
  | noClasses
  | entryNotObject (found : Kind)
  | unnamed
  | member (className : Value) (cause : TypeFault)
  | sameFile (first second fileName : String)
  deriving Repr

namespace GeneratorFault

def message : GeneratorFault → String
  | noClasses => "Descriptor document must contain a 'classes' list"
  | entryNotObject k => "Class entry must be an object, got " ++ k.name
  | unnamed => "Class entry is missing 'name'"
  | member className cause =>
    "Invalid member in class " ++ className.quoted ++ ": " ++ cause.message
  | sameFile first second fileName =>
    "Classes '" ++ first ++ "' and '" ++ second ++ "' both map to file '" ++ fileName ++ "'"

end GeneratorFault

/-- Why a response is not the expected document. -/
inductive ResponseProblem where
  | json (cause : Json.Refusal)
  | request (text : String)
  deriving Repr

def ResponseProblem.message : ResponseProblem → String
  | json cause => cause.message
  | request text => text

/-- Documents that cannot be loaded. -/
inductive LoaderFault where
  | noSource
  | twoSources
  | fileNotFound (path : String)
  | fileMalformed (path : String) (cause : Json.Misread)
  | fileUnreadable (path : String) (cause : FileFault)
  | invalidUrl (url : String)
  | timeout (url : String)
  | status (code : Int) (url : String)
  | notDocument (url : String) (cause : ResponseProblem)
  | request (url text : String)
  deriving Repr

namespace LoaderFault

def message : LoaderFault → String
  | noSource => "Either file_path or url must be provided"
  | twoSources => "Cannot specify both file_path and url"
  | fileNotFound path => "File not found: " ++ path
  | fileMalformed path cause => "Invalid JSON in file " ++ path ++ ": " ++ cause.message
  | fileUnreadable path cause => "Error reading file " ++ path ++ ": " ++ cause.message
  | invalidUrl url => "Invalid URL: " ++ url
  | timeout url => "Request timeout for URL: " ++ url
  | status code url => "HTTP error " ++ toString code ++ " for URL: " ++ url
  | notDocument url cause => "Invalid JSON response from URL " ++ url ++ ": " ++ cause.message
  | request url text => "Request error for URL " ++ url ++ ": " ++ text

end LoaderFault

/-- A value of the right kind that is not acceptable. -/
inductive ValueFault where
  | unknownCase (found : Value)
  | pairLength (index length : Nat)
  | unknownLevel (name : String)
  | noPath
  | unbalancedHost
  | laterAddress
  | bracketedAddress
  | notAddress (host : String)
  | disguisedHost (host : String)
  | longInteger (digits : Nat)
  deriving Repr

namespace ValueFault

def message : ValueFault → String
  | unknownCase found => found.quoted ++ " is not a valid NamingCase"
  | pairLength index length =>
    "dictionary update sequence element #" ++ toString index ++ " has length " ++
      toString length ++ "; 2 is required"
  | unknownLevel name => "Unknown level: " ++ Text.quoted name
  | noPath => "no path specified"
  | unbalancedHost => "Invalid IPv6 URL"
  | laterAddress => "IPvFuture address is invalid"
  | bracketedAddress => "An IPv4 address cannot be in brackets"
  | notAddress host => Text.quoted host ++ " does not appear to be an IPv4 or IPv6 address"
  | disguisedHost host =>
    "netloc '" ++ host ++ "' contains invalid characters under NFKC normalization"
  | longInteger digits => (Json.Refusal.longInteger digits).message

end ValueFault

inductive Fault where
  | type (cause : TypeFault)
  | value (cause : ValueFault)
  | key (key : Scalar)
  | range (indexed : Kind)
  | wideIndex
  | wideCount
  | noAttribute (owner : Kind) (name : String)
  | readOnly (name : String)
  | utf8 (cause : Text.Utf8Fault)
  | file (cause : FileFault)
  | template (cause : TemplateFault)
  | rendering (subject : String) (cause : Fault)
  | config (cause : ConfigFault)
  | generator (cause : GeneratorFault)
  | loader (cause : LoaderFault)
  | noInput
  | markup (cause : MarkupFault)
  | deepNesting (within : Json.Container)
  deriving Repr

namespace Fault

def wideInteger : String :=
  "cannot fit 'int' into an index-sized integer"

def message : Fault → String
  | type cause => cause.message
  | value cause => cause.message
  | key k => k.quoted
  | range .str => "string index out of range"
  | range k => k.name ++ " index out of range"
  | wideIndex => wideInteger
  | wideCount => wideInteger
  | noAttribute owner name => "'" ++ owner.name ++ "' object has no attribute '" ++ name ++ "'"
  | readOnly name => "property '" ++ name ++ "' of 'ClassModel' object has no setter"
  | utf8 cause => cause.message
  | file cause => cause.message
  | template cause => cause.message
  | rendering subject cause => "Failed to render template " ++ subject ++ ": " ++ cause.message
  | config cause => cause.message
  | generator cause => cause.message
  | loader cause => cause.message
  | noInput => "No input given: pass a descriptor file or --url"
  | markup cause => cause.message
  | deepNesting within => (Json.Refusal.deepNesting within).message

end Fault

instance : Coe TypeFault Fault := ⟨.type⟩

end TypeStencil
