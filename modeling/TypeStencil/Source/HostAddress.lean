import TypeStencil.Fault
import TypeStencil.Text.Lines

/-!
Addresses that stand for a host between brackets: of version 6, as groups of hexadecimal digits of
which one run of zeros may be left out, or of a later version that is named in front.
-/
namespace TypeStencil.HostAddress

def isHexDigit (c : Char) : Bool :=
  (Json.hexValue? c).isSome

/-- A number below 256 without needless zeros. -/
def isOctet (s : List Char) : Bool :=
  !s.isEmpty && s.length ≤ 3 && s.all Text.isDigitAscii && (s == ['0'] || s.head? != some '0') &&
    Json.natOfDigits s ≤ 255

def isVersion4 (s : List Char) : Bool :=
  let octets := Text.splitAt '.' s
  octets.length == 4 && octets.all isOctet

def isGroup (s : List Char) : Bool :=
  !s.isEmpty && s.length ≤ 4 && s.all isHexDigit

/-- The last two groups may be written as an address of version 4. -/
def withTail (groups : List (List Char)) : Option (List (List Char)) :=
  let last := groups.getLastD []
  if !last.contains '.' then some groups
  else if isVersion4 last then some (groups.dropLast ++ [['0'], ['0']])
  else none

/-- An empty group at the outer end of a part says that nothing stands there. -/
def outerGroups (part : List (List Char)) : List (List Char) :=
  if part == [[]] then [] else part

/-- Groups with a gap after the first `before` of them. -/
def isGapped (groups : List (List Char)) (before : Nat) : Bool :=
  let high := outerGroups (groups.take before)
  let low := outerGroups (groups.drop (before + 1))
  high.length + low.length < 8 && high.all isGroup && low.all isGroup

/-- Positions of the empty groups that are neither first nor last. -/
def gaps (groups : List (List Char)) : List Nat :=
  (List.range groups.length).filter fun n =>
    0 < n && n + 1 < groups.length && (groups.getD n []).isEmpty

def areGroups (groups : List (List Char)) : Bool :=
  match gaps groups with
  | [] => groups.length == 8 && groups.all isGroup
  | [before] => groups.length ≤ 9 && isGapped groups before
  | _ => false

/-- The address in front of a percent sign and the zone behind it, which may not be empty. -/
def hasZone (s : List Char) : Bool :=
  match s.dropWhile (· != '%') with
  | [] => true
  | _ :: zone => !zone.isEmpty && !zone.contains '%'

def isVersion6 (s : List Char) : Bool :=
  let groups := Text.splitAt ':' (s.takeWhile (· != '%'))
  hasZone s && 3 ≤ groups.length && (withTail groups).any areGroups

/-- A version of hexadecimal digits behind a `v`, a point, and something more. -/
def isLaterVersion (s : List Char) : Bool :=
  let digits := s.drop 1
  !(digits.takeWhile isHexDigit).isEmpty &&
    match digits.dropWhile isHexDigit with
    | '.' :: r => !r.isEmpty
    | _ => false

/-- Checks what stands between the brackets of a host. -/
def check (host : List Char) : Except ValueFault Unit :=
  if host.head? == some 'v' then
    if isLaterVersion host then .ok () else .error .laterAddress
  else if isVersion4 host then .error .bracketedAddress
  else if isVersion6 host then .ok ()
  else .error (.notAddress (String.ofList host))

end TypeStencil.HostAddress
