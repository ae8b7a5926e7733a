import TypeStencil.Display.Emoji
import TypeStencil.Display.Style

/-!
Messages with style tags in square brackets. On a plain terminal the tags show nothing, but a tag
that closes must have one that it closes. A bracket is text where no tag begins, and a backslash in
front of a tag makes it text. Names between colons are written out as pictographs.
-/
namespace TypeStencil

/-- A closing tag with nothing to close, or a tag with a colour that lacks a part. Positions count
the characters of the message. -/
inductive MarkupFault where
  | unmatched (tag : String) (position : Nat)
  | nothingOpen (position : Nat)
  | emptyColourPart
  deriving DecidableEq, Repr

def MarkupFault.message : MarkupFault → String
  | unmatched tag position =>
    "closing tag '[" ++ tag ++ "]' at position " ++ toString position ++
      " doesn't match any open tag"
  | nothingOpen position =>
    "closing tag '[/]' at position " ++ toString position ++ " has nothing to close"
  | emptyColourPart => "invalid literal for int() with base 10: ''"

namespace Markup

/-- Texts that stand in the message, texts that escapes stand for, and tags. -/
inductive Piece where
  | text (s : List Char)
  | escape (s : List Char)
  | tag (body : List Char) (position : Nat)
  deriving DecidableEq, Repr

def opensTag (c : Char) : Bool :=
  Text.isLowerAscii c || c == '#' || c == '/' || c == '@'

def isInside (c : Char) : Bool :=
  c != ']' && c != '['

/-- The body of the tag whose bracket stands just before, and what follows the tag. -/
def tagBody? : List Char → Option (List Char × List Char)
  | [] => none
  | c :: r =>
    if opensTag c then
      match r.dropWhile isInside with
      | ']' :: rest => some (c :: r.takeWhile isInside, rest)
      | _ => none
    else none

theorem length_of_tagBody? {s body rest : List Char} (h : tagBody? s = some (body, rest)) :
    s.length = body.length + 1 + rest.length := by
  cases s with
  | nil => simp [tagBody?] at h
  | cons c r =>
    simp only [tagBody?] at h
    split at h
    · split at h
      next after hafter =>
        simp only [Option.some.injEq, Prod.mk.injEq] at h
        obtain ⟨rfl, rfl⟩ := h
        have whole := congrArg List.length (List.takeWhile_append_dropWhile (p := isInside) (l := r))
        rw [hafter] at whole
        simp only [List.length_append, List.length_cons] at whole ⊢
        omega
      next => simp at h
    · simp at h

def slash : Char := '\\'

/-- What stands for some backslashes and the tag behind them: each two are one, and one that is
left over makes the tag text. -/
def escaped (count : Nat) (body : List Char) (position : Nat) : List Piece :=
  let shown := List.replicate (count / 2) slash
  if count % 2 = 1 then [.escape shown, .escape ('[' :: body ++ [']'])]
  else [.escape shown, .tag body (position + count)]

/-- Puts text in front of pieces. -/
def textThen (s : List Char) : List Piece → List Piece
  | .text t :: rest => .text (s ++ t) :: rest
  | rest => .text s :: rest

/-- The pieces of a message; `slashes` backslashes have been read just before. -/
def piecesFrom (slashes position : Nat) (s : List Char) : List Piece :=
  match s with
  | [] => [.text (List.replicate slashes slash)]
  | c :: r =>
    if c = slash then piecesFrom (slashes + 1) position r
    else if c = '[' then
      match _h : tagBody? r with
      | some (body, rest) =>
        escaped slashes body position ++ piecesFrom 0 (position + slashes + body.length + 2) rest
      | none =>
        textThen (List.replicate (slashes - 1) slash ++ ['['])
          (piecesFrom 0 (position + slashes + 1) r)
    else
      textThen (List.replicate slashes slash ++ [c]) (piecesFrom 0 (position + slashes + 1) r)
  termination_by s.length
  decreasing_by
    all_goals simp only [List.length_cons]
    · omega
    · have := length_of_tagBody? _h
      omega
    · omega
    · omega

def pieces (s : String) : List Piece :=
  piecesFrom 0 0 s.toList

/-- The name that tags are told apart by. -/
def normalName (name : List Char) : Except MarkupFault (List Char) :=
  (Display.Style.nameOf name).mapError fun _ => .emptyColourPart

/-- Bells, backspaces, vertical tabs, form feeds and carriage returns move a terminal. -/
def isTerminalControl (c : Char) : Bool :=
  c.toNat == 7 || c.toNat == 8 || c.toNat == 11 || c.toNat == 12 || c.toNat == 13

/-- What a text shows. -/
def visible (s : List Char) : List Char :=
  (Display.Emoji.resolve s).filter fun c => !isTerminalControl c

/-- The shown text of pieces after the tags that are open, the last one first. -/
def shown : List (List Char) → List Piece → Except MarkupFault (List Char)
  | _, [] => .ok []
  | opened, .text s :: rest => do return visible s ++ (← shown opened rest)
  | opened, .escape s :: rest => do return visible s ++ (← shown opened rest)
  | opened, .tag body position :: rest =>
    match body.takeWhile (· != '=') with
    | '/' :: name =>
      if (Text.strip name).isEmpty then
        match opened with
        | [] => .error (.nothingOpen position)
        | _ :: outer => shown outer rest
      else do
        let name ← normalName name
        if opened.contains name then shown (opened.erase name) rest
        else throw (.unmatched (String.ofList body) position)
    | name => do shown ((← normalName name) :: opened) rest

/-- What a message shows. -/
def plain (s : String) : Except MarkupFault (List Char) :=
  shown [] (pieces s)

end Markup

end TypeStencil
