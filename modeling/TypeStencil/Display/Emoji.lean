import TypeStencil.Display.EmojiTable
import TypeStencil.Text.Blank
import TypeStencil.Text.Case

/-!
Pictographs written by their names between two colons. What has no name stays as it is.
-/
namespace TypeStencil.Display.Emoji

def inName (c : Char) : Bool :=
  c != ':' && !Text.isBlank c

/-- The name between a colon that stands just before and the next one, and what follows. -/
def name? (s : List Char) : Option (List Char × List Char) :=
  match s.dropWhile inName with
  | ':' :: rest => some (s.takeWhile inName, rest)
  | _ => none

theorem length_of_name? {s name rest : List Char} (h : name? s = some (name, rest)) :
    s.length = name.length + 1 + rest.length := by
  simp only [name?] at h
  split at h
  next after hafter =>
    simp only [Option.some.injEq, Prod.mk.injEq] at h
    obtain ⟨rfl, rfl⟩ := h
    have whole := congrArg List.length (List.takeWhile_append_dropWhile (p := inName) (l := s))
    rw [hafter] at whole
    simp only [List.length_append, List.length_cons] at whole
    omega
  next => simp at h

/-- The ends of a name that choose between the form as a pictograph and the form as text, and the
selectors that ask for it. -/
def variants : List (String × Char) := [("-emoji", '\uFE0F'), ("-text", '\uFE0E')]

/-- What a name stands for. -/
def sign? (name : List Char) : Option (List Char) := do
  let variant := variants.find? fun v => v.1.toList.isSuffixOf name
  let ending := (variant.map fun v => v.1.length).getD 0
  let plain := name.take (name.length - ending)
  let sign ← table.lookup (String.ofList (Text.lower plain))
  return sign.toList ++ (variant.map (·.2)).toList

/-- Puts the pictographs of a text in the places of their names. -/
def resolve (s : List Char) : List Char :=
  match s with
  | [] => []
  | c :: r =>
    if c = ':' then
      match _h : name? r with
      | some (name, rest) => ((sign? name).getD (c :: name ++ [c])) ++ resolve rest
      | none => c :: resolve r
    else c :: resolve r
  termination_by s.length
  decreasing_by
    all_goals simp only [List.length_cons]
    · have := length_of_name? _h
      omega
    · omega
    · omega

end TypeStencil.Display.Emoji
