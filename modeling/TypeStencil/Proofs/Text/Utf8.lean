import Mathlib.Data.List.Basic
import TypeStencil.Files.FileSystem
import TypeStencil.Proofs.Sequencing

/-!
Reading what was written in UTF-8. Every character is read back from its bytes, so that a text is
read back from its bytes.
-/
namespace TypeStencil

theorem toList_loop (bytes : ByteArray) (i : Nat) (read : List UInt8) :
    ByteArray.toList.loop bytes i read = read.reverse ++ bytes.data.toList.drop i := by
  fun_induction ByteArray.toList.loop bytes i read with
  | case1 i read hlt ih =>
      have hget : bytes.get! i = bytes.data[i] := getElem!_pos bytes.data i hlt
      have hdrop : bytes.data.toList.drop i = bytes.data[i] :: bytes.data.toList.drop (i + 1) :=
        List.drop_eq_getElem_cons hlt
      rw [ih, hdrop, hget, List.reverse_cons, List.append_assoc, List.singleton_append]
  | case2 i read hge =>
      rw [List.drop_eq_nil_of_le (Nat.not_lt.mp hge), List.append_nil]

/-- The bytes of a text are those of its characters in turn. -/
theorem utf8Bytes_eq (s : String) : utf8Bytes s = s.toList.flatMap String.utf8EncodeChar := by
  have hbytes : s.toUTF8 = (s.toList.flatMap String.utf8EncodeChar).toByteArray :=
    String.utf8Encode_toList.symm
  rw [utf8Bytes, hbytes, ByteArray.toList, toList_loop, List.reverse_nil, List.nil_append,
    List.drop_zero, List.toList_data_toByteArray]

namespace Text.Utf8

theorem decodeFrom_skip (tail rest : List UInt8) (pos : Nat) :
    decodeFrom (tail ++ rest) pos tail.length = decodeFrom rest (pos + tail.length) 0 := by
  induction tail generalizing pos with
  | nil => rfl
  | cons b tail ih =>
      rw [List.cons_append, List.length_cons, decodeFrom, ih, Nat.add_right_comm, Nat.add_assoc]

/-- A sequence of several bytes gives one character, and reading goes on after it. -/
theorem decodeFrom_sequence {b : UInt8} {tail : List UInt8} {low high bits n : Nat}
    (hb : 0x80 ≤ b.toNat) (hhead : head? b.toNat = some ⟨low, high, tail.length, bits⟩)
    (rest : List UInt8) (pos : Nat)
    (hn : continuation low high bits tail.length (tail ++ rest) 1 = .ok n) :
    decodeFrom (b :: tail ++ rest) pos 0 =
      (decodeFrom rest (pos + 1 + tail.length) 0).map (Char.ofNat n :: ·) := by
  rw [List.cons_append, decodeFrom, if_neg (Nat.not_lt.mpr hb), hhead]
  dsimp only
  rw [hn, decodeFrom_skip]
  cases decodeFrom rest (pos + 1 + tail.length) 0 <;> rfl

theorem decodeFrom_ascii {b : UInt8} (hb : b.toNat < 0x80) (rest : List UInt8) (pos : Nat) :
    decodeFrom (b :: rest) pos 0 =
      (decodeFrom rest (pos + 1) 0).map (Char.ofNat b.toNat :: ·) := by
  rw [decodeFrom, if_pos hb]
  cases decodeFrom rest (pos + 1) 0 <;> rfl

theorem continuation_cons {low high bits n good : Nat} {b : UInt8} (hlow : low ≤ b.toNat)
    (hhigh : b.toNat ≤ high) (rest : List UInt8) :
    continuation low high bits (n + 1) (b :: rest) good =
      continuation 0x80 0xBF (bits * 64 + (b.toNat - 0x80)) n rest (good + 1) :=
  if_pos ⟨hlow, hhigh⟩

theorem toNat_ofNat {n : Nat} (h : n < 256) : (UInt8.ofNat n).toNat = n := by
  rw [UInt8.toNat_ofNat', Nat.mod_eq_of_lt h]

variable {v : Nat}

theorem head?_two (hlow : 0x80 ≤ v) (hhigh : v < 0x800) :
    head? (v / 64 % 32 + 192) = some ⟨0x80, 0xBF, 1, v / 64⟩ := by
  have hfirst : v / 64 % 32 + 192 = v / 64 + 192 := by omega
  rw [hfirst, head?, if_pos (by omega), Nat.add_sub_cancel]

/-- The range of the second byte leaves out what has a shorter sequence, and the surrogates. -/
theorem head?_three (hlow : 0x800 ≤ v) (hhigh : v < 0x10000) (hvalid : v < 0xD800 ∨ 0xDFFF < v) :
    ∃ low high, head? (v / 4096 % 16 + 224) = some ⟨low, high, 2, v / 4096⟩ ∧ 0x80 ≤ low ∧
      low ≤ v / 64 % 64 + 128 ∧ v / 64 % 64 + 128 ≤ high := by
  have hfirst : v / 4096 % 16 + 224 = v / 4096 + 224 := by omega
  rw [hfirst, head?, if_neg (by omega)]
  by_cases hzero : v / 4096 = 0
  · rw [if_pos (by omega), hzero]
    exact ⟨_, _, rfl, by omega, by omega, by omega⟩
  by_cases hthirteen : v / 4096 = 13
  · rw [if_neg (by omega), if_pos (by omega), hthirteen]
    exact ⟨_, _, rfl, by omega, by omega, by omega⟩
  · rw [if_neg (by omega), if_neg (by omega), if_pos (by omega), Nat.add_sub_cancel]
    exact ⟨_, _, rfl, by omega, by omega, by omega⟩

theorem head?_four (hlow : 0x10000 ≤ v) (hhigh : v < 0x110000) :
    ∃ low high, head? (v / 262144 % 8 + 240) = some ⟨low, high, 3, v / 262144⟩ ∧ 0x80 ≤ low ∧
      low ≤ v / 4096 % 64 + 128 ∧ v / 4096 % 64 + 128 ≤ high := by
  have hfirst : v / 262144 % 8 + 240 = v / 262144 + 240 := by omega
  rw [hfirst, head?, if_neg (by omega), if_neg (by omega), if_neg (by omega), if_neg (by omega)]
  by_cases hzero : v / 262144 = 0
  · rw [if_pos (by omega), hzero]
    exact ⟨_, _, rfl, by omega, by omega, by omega⟩
  by_cases hfour : v / 262144 = 4
  · rw [if_neg (by omega), if_neg (by omega), if_pos (by omega), hfour]
    exact ⟨_, _, rfl, by omega, by omega, by omega⟩
  · rw [if_neg (by omega), if_pos (by omega), Nat.add_sub_cancel]
    exact ⟨_, _, rfl, by omega, by omega, by omega⟩

/-- A character is read back from its bytes. -/
theorem decodeFrom_encode (c : Char) (rest : List UInt8) (pos : Nat) :
    ∃ after, decodeFrom (String.utf8EncodeChar c ++ rest) pos 0 =
      (decodeFrom rest after 0).map (c :: ·) := by
  have hvalid : c.toNat < 0xD800 ∨ 0xDFFF < c.toNat ∧ c.toNat < 0x110000 := c.valid
  have hc : Char.ofNat c.toNat = c := Char.ofNat_toNat c
  unfold String.utf8EncodeChar
  rw [show c.val.toNat = c.toNat from rfl]
  generalize c.toNat = v at hvalid hc ⊢
  dsimp only
  by_cases hone : v ≤ 127
  · rw [if_pos hone]
    have hv : (UInt8.ofNat v).toNat = v := toNat_ofNat (by omega)
    refine ⟨pos + 1, ?_⟩
    rw [List.singleton_append, decodeFrom_ascii (by omega), hv, hc]
  -- Every byte after the first holds six bits more, and the last one makes up the character.
  have hlast := toNat_ofNat (n := v % 64 + 128) (by omega)
  have hsixth := toNat_ofNat (n := v / 64 % 64 + 128) (by omega)
  by_cases htwo : v ≤ 2047
  · rw [if_neg hone, if_pos htwo, ← hc]
    have hfirst := toNat_ofNat (n := v / 64 % 32 + 192) (by omega)
    refine ⟨_, decodeFrom_sequence (by omega) (hfirst ▸ head?_two (by omega) (by omega)) rest pos
      ?_⟩
    rw [List.singleton_append, List.length_singleton, continuation_cons (by omega) (by omega),
      hlast, continuation]
    exact congrArg Except.ok (by omega)
  by_cases hthree : v ≤ 65535
  · rw [if_neg hone, if_neg htwo, if_pos hthree, ← hc]
    have hfirst := toNat_ofNat (n := v / 4096 % 16 + 224) (by omega)
    obtain ⟨low, high, hhead, hrange, hlow, hhigh⟩ :=
      head?_three (v := v) (by omega) (by omega) (by omega)
    refine ⟨_, decodeFrom_sequence (by omega) (hfirst ▸ hhead) rest pos ?_⟩
    change continuation low high (v / 4096) 2 (_ :: _ :: rest) 1 = _
    rw [continuation_cons (by omega) (by omega), continuation_cons (by omega) (by omega), hlast,
      hsixth, continuation]
    exact congrArg Except.ok (by omega)
  · rw [if_neg hone, if_neg htwo, if_neg hthree, ← hc]
    have hfirst := toNat_ofNat (n := v / 262144 % 8 + 240) (by omega)
    have htwelfth := toNat_ofNat (n := v / 4096 % 64 + 128) (by omega)
    obtain ⟨low, high, hhead, hrange, hlow, hhigh⟩ :=
      head?_four (v := v) (by omega) (by omega)
    refine ⟨_, decodeFrom_sequence (by omega) (hfirst ▸ hhead) rest pos ?_⟩
    change continuation low high (v / 262144) 3 (_ :: _ :: _ :: rest) 1 = _
    rw [continuation_cons (by omega) (by omega), continuation_cons (by omega) (by omega),
      continuation_cons (by omega) (by omega), hlast, hsixth, htwelfth, continuation]
    exact congrArg Except.ok (by omega)

theorem decodeFrom_flatMap (s : List Char) (pos : Nat) :
    decodeFrom (s.flatMap String.utf8EncodeChar) pos 0 = .ok s := by
  induction s generalizing pos with
  | nil => rfl
  | cons c s ih =>
      obtain ⟨after, hafter⟩ := decodeFrom_encode c (s.flatMap String.utf8EncodeChar) pos
      rw [List.flatMap_cons, hafter, ih]
      rfl

theorem decode_utf8Bytes (s : String) : decode (utf8Bytes s) = .ok s.toList := by
  rw [decode, utf8Bytes_eq, decodeFrom_flatMap]

end Text.Utf8

end TypeStencil
