/-!
Reading bytes as UTF-8. The first byte that no valid sequence allows is reported with its place
and with what is wrong there.
-/
namespace TypeStencil.Text

inductive Utf8Problem where
  | startByte
  | continuationByte
  | endOfData
  deriving DecidableEq, Repr

/-- The bytes from `first` up to `past` cannot be read; `byte` is the first of them. -/
structure Utf8Fault where
  byte : UInt8
  first : Nat
  past : Nat
  problem : Utf8Problem
  deriving DecidableEq, Repr

namespace Utf8Problem

def message : Utf8Problem → String
  | startByte => "invalid start byte"
  | continuationByte => "invalid continuation byte"
  | endOfData => "unexpected end of data"

end Utf8Problem

def hexByte (b : UInt8) : String :=
  let digits := Nat.toDigits 16 b.toNat
  "0x" ++ String.ofList (List.replicate (2 - digits.length) '0' ++ digits)

def Utf8Fault.message (f : Utf8Fault) : String :=
  let place :=
    if f.past = f.first + 1 then "byte " ++ hexByte f.byte ++ " in position " ++ toString f.first
    else "bytes in position " ++ toString f.first ++ "-" ++ toString (f.past - 1)
  "'utf-8' codec can't decode " ++ place ++ ": " ++ f.problem.message

namespace Utf8

/-- How a sequence continues after its first byte: the range of the second byte and how many
bytes follow in all. -/
structure Head where
  low : Nat
  high : Nat
  tail : Nat
  bits : Nat

/-- The first byte of a sequence of several bytes. -/
def head? (b : Nat) : Option Head :=
  if 0xC2 ≤ b ∧ b ≤ 0xDF then some ⟨0x80, 0xBF, 1, b - 0xC0⟩
  else if b = 0xE0 then some ⟨0xA0, 0xBF, 2, 0⟩
  else if b = 0xED then some ⟨0x80, 0x9F, 2, 0xD⟩
  else if 0xE1 ≤ b ∧ b ≤ 0xEF then some ⟨0x80, 0xBF, 2, b - 0xE0⟩
  else if b = 0xF0 then some ⟨0x90, 0xBF, 3, 0⟩
  else if 0xF1 ≤ b ∧ b ≤ 0xF3 then some ⟨0x80, 0xBF, 3, b - 0xF0⟩
  else if b = 0xF4 then some ⟨0x80, 0x8F, 3, 4⟩
  else none

/-- Reads the bytes after the first: the code point, or the number of good bytes and what stopped
the reading. -/
def continuation (low high bits : Nat) : Nat → List UInt8 → Nat → Except (Nat × Utf8Problem) Nat
  | 0, _, _ => .ok bits
  | _ + 1, [], good => .error (good, .endOfData)
  | n + 1, b :: r, good =>
    if low ≤ b.toNat ∧ b.toNat ≤ high then
      continuation 0x80 0xBF (bits * 64 + (b.toNat - 0x80)) n r (good + 1)
    else .error (good, .continuationByte)

/-- Reads bytes from position `at` on; `skip` bytes belong to a character already read. -/
def decodeFrom : List UInt8 → Nat → Nat → Except Utf8Fault (List Char)
  | [], _, _ => .ok []
  | _ :: r, pos, skip + 1 => decodeFrom r (pos + 1) skip
  | b :: r, pos, 0 =>
    if b.toNat < 0x80 then return Char.ofNat b.toNat :: (← decodeFrom r (pos + 1) 0)
    else match head? b.toNat with
      | none => .error ⟨b, pos, pos + 1, .startByte⟩
      | some h => match continuation h.low h.high h.bits h.tail r 1 with
        | .error (good, problem) => .error ⟨b, pos, pos + good, problem⟩
        | .ok n => return Char.ofNat n :: (← decodeFrom r (pos + 1) h.tail)

def decode (bytes : List UInt8) : Except Utf8Fault (List Char) :=
  decodeFrom bytes 0 0

end Utf8

end TypeStencil.Text
