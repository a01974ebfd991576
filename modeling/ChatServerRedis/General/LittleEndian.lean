import Mathlib.Algebra.Group.Nat.Defs
import Mathlib.Data.List.Basic

/-! # Fixed-width little-endian fields

`encode width number` are the `width` low bytes of a number, least significant
first, and `read width` takes such a field off the front of a byte string.
`read_eq_some` is the round trip in both directions: a field can be read exactly
when the bytes are the encoding of its value followed by the rest.
-/

namespace LittleEndian

def value : List (BitVec 8) → Nat
  | [] => 0
  | byte :: bytes => byte.toNat + 256 * value bytes

def encode : Nat → Nat → List (BitVec 8)
  | 0, _ => []
  | width + 1, number => BitVec.ofNat 8 number :: encode width (number / 256)

/-- Take a field off the front; `none` when too few bytes remain. -/
def read (width : Nat) (bytes : List (BitVec 8)) : Option (Nat × List (BitVec 8)) :=
  if width ≤ bytes.length then some (value (bytes.take width), bytes.drop width) else none

/-! ## Encoding and decoding are inverse -/

@[simp] theorem encode_length (width number : Nat) : (encode width number).length = width := by
  induction width generalizing number with
  | zero => rfl
  | succ width inductionHypothesis => simp [encode, inductionHypothesis]

theorem value_lt (bytes : List (BitVec 8)) : value bytes < 256 ^ bytes.length := by
  induction bytes with
  | nil => simp [value]
  | cons byte bytes inductionHypothesis =>
    have small := byte.isLt
    simp only [value, List.length_cons, Nat.pow_succ]
    omega

theorem encode_value (bytes : List (BitVec 8)) : encode bytes.length (value bytes) = bytes := by
  induction bytes with
  | nil => rfl
  | cons byte bytes inductionHypothesis =>
    have small := byte.isLt
    have quotient : (byte.toNat + 256 * value bytes) / 256 = value bytes := by omega
    simp only [value, List.length_cons, encode, quotient, inductionHypothesis]
    congr 1
    apply BitVec.eq_of_toNat_eq
    simp only [BitVec.toNat_ofNat]
    omega

theorem value_encode (width number : Nat) : value (encode width number) = number % 256 ^ width := by
  induction width generalizing number with
  | zero => simp [encode, value, Nat.mod_one]
  | succ width inductionHypothesis =>
    have shift : number % 256 ^ (width + 1) = number % 256 + 256 * (number / 256 % 256 ^ width) := by
      rw [Nat.pow_succ', Nat.mod_mul]
    simp only [encode, value, inductionHypothesis, BitVec.toNat_ofNat, shift]

/-! ## Reading a field -/

theorem read_encode (width number : Nat) (rest : List (BitVec 8)) :
    read width (encode width number ++ rest) = some (number % 256 ^ width, rest) := by
  simp [read, value_encode]

theorem read_eq_none {width : Nat} {bytes : List (BitVec 8)} :
    read width bytes = none ↔ bytes.length < width := by
  simp [read]

theorem read_eq_some {width number : Nat} {bytes rest : List (BitVec 8)} :
    read width bytes = some (number, rest) ↔
      number < 256 ^ width ∧ bytes = encode width number ++ rest := by
  constructor
  · intro parsed
    unfold read at parsed
    split at parsed
    · next enough =>
      have taken : (bytes.take width).length = width := by simp [enough]
      simp only [Option.some.injEq, Prod.mk.injEq] at parsed
      obtain ⟨rfl, rfl⟩ := parsed
      refine ⟨by simpa only [taken] using value_lt (bytes.take width), ?_⟩
      have front := encode_value (bytes.take width)
      rw [taken] at front
      rw [front, List.take_append_drop]
    · cases parsed
  · rintro ⟨bound, rfl⟩
    rw [read_encode, Nat.mod_eq_of_lt bound]

end LittleEndian
