import TypeStencil.Source.HostAddress

/-!
The parts of a URL that say whether something can be fetched from it: its scheme and its host.
-/
namespace TypeStencil

structure UrlParts where
  scheme : List Char
  host : List Char
  deriving DecidableEq, Repr

namespace Url

def isSchemeChar (c : Char) : Bool :=
  Text.isUpperAscii c || Text.isLowerAscii c || Text.isDigitAscii c ||
    c == '+' || c == '-' || c == '.'

def isLetter (c : Char) : Bool :=
  Text.isUpperAscii c || Text.isLowerAscii c

/-- Controls and spaces in front are dropped, and tabs and line breaks everywhere. -/
def clean (url : List Char) : List Char :=
  (url.dropWhile fun c => c.toNat ≤ 0x20).filter fun c => c != '\t' && c != '\r' && c != '\n'

/-- A scheme begins with a letter and ends at the first colon. -/
def splitScheme (url : List Char) : List Char × List Char :=
  match url.span (· != ':') with
  | (scheme, _ :: rest) =>
    if (scheme.head?.any isLetter) && scheme.all isSchemeChar then (scheme, rest) else ([], url)
  | (_, []) => ([], url)

/-- The host stands behind two slashes. -/
def hostOf : List Char → List Char
  | '/' :: '/' :: r => r.takeWhile fun c => c != '/' && c != '?' && c != '#'
  | _ => []

/-- Characters that stand for a slash, a colon or another delimiter in some compatible form. -/
def disguised : List Char :=
  ['\u2047', '\u2048', '\u2049', '\u2100', '\u2101', '\u2105', '\u2106', '\u2A74', '\uFE13',
    '\uFE16', '\uFE55', '\uFE56', '\uFE5F', '\uFE6B', '\uFF03', '\uFF0F', '\uFF1A', '\uFF1F',
    '\uFF20']

/-- The host and port of a place, without the user in front of them. -/
def withoutUser (place : List Char) : List Char :=
  (place.reverse.takeWhile (· != '@')).reverse

/-- An address between brackets stands behind nothing and in front of nothing but a port. -/
def checkBrackets (place : List Char) : Except ValueFault Unit :=
  let host := withoutUser place
  match host.span (· != '[') with
  | ([], _ :: r) => do
    match (r.dropWhile (· != ']')).drop 1 with
    | [] => pure ()
    | ':' :: _ => pure ()
    | _ => throw .unbalancedHost
    HostAddress.check (r.takeWhile (· != ']'))
  | (_, _ :: _) => throw .unbalancedHost
  | (_, []) => HostAddress.check (host.takeWhile (· != ':'))

/-- Brackets come in pairs around an address, and no delimiter hides in a host. -/
def checkHost (place : List Char) : Except ValueFault Unit := do
  if place.contains '[' != place.contains ']' then throw .unbalancedHost
  if place.contains '[' then checkBrackets place
  if place.any disguised.contains then throw (.disguisedHost (String.ofList place))

def parts (url : String) : Except ValueFault UrlParts := do
  let (scheme, rest) := splitScheme (clean url.toList)
  let host := hostOf rest
  checkHost host
  return ⟨scheme, host⟩

end Url

end TypeStencil
