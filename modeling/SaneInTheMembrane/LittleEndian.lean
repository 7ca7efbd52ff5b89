import Mathlib.Data.List.Basic
import Mathlib.Data.Nat.ModEq
import Mathlib.Tactic.Ring

/-!
Little-endian words of a fixed width, as `std::memcpy` copies an unsigned
integer on the supported machines: the low byte comes first.
-/

namespace SaneInTheMembrane.LittleEndian

def encode : (width : Nat) → Nat → List UInt8
  | 0, _ => []
  | width + 1, n => UInt8.ofNat (n % 256) :: encode width (n / 256)

def decode : List UInt8 → Nat
  | [] => 0
  | byte :: rest => byte.toNat + 256 * decode rest

@[simp] theorem encode_length (width n : Nat) : (encode width n).length = width := by
  induction width generalizing n with
  | zero => rfl
  | succ width ih => simp [encode, ih]

theorem decode_encode (width n : Nat) : decode (encode width n) = n % 256 ^ width := by
  induction width generalizing n with
  | zero => simp [encode, decode, Nat.mod_one]
  | succ width ih =>
      have low : (UInt8.ofNat (n % 256)).toNat = n % 256 := by simp
      rw [encode, decode, ih, low, Nat.pow_succ', Nat.mod_mul]

theorem decode_lt (data : List UInt8) : decode data < 256 ^ data.length := by
  induction data with
  | nil => simp [decode]
  | cons byte rest ih =>
      have low : byte.toNat < 256 := byte.toNat_lt
      simp only [decode, List.length_cons, Nat.pow_succ]
      omega

theorem encode_decode (data : List UInt8) : encode data.length (decode data) = data := by
  induction data with
  | nil => rfl
  | cons byte rest ih =>
      have low : byte.toNat < 256 := byte.toNat_lt
      have head : (byte.toNat + 256 * decode rest) % 256 = byte.toNat := by omega
      have tail : (byte.toNat + 256 * decode rest) / 256 = decode rest := by omega
      simp only [decode, List.length_cons, encode, head, tail, ih, UInt8.ofNat_toNat]

theorem decode_encode_of_lt (width n : Nat) (fits : n < 256 ^ width) :
    decode (encode width n) = n := by
  rw [decode_encode, Nat.mod_eq_of_lt fits]

end SaneInTheMembrane.LittleEndian
