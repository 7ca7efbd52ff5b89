import Mathlib.Data.Int.ModEq

/-!
Fields of a machine word. Masking keeps a remainder, shifting multiplies as long as
nothing is pushed out, and words whose bits do not overlap add up.
-/

namespace SaneInTheMembrane.BitFields

theorem toNat_and_mask {bits : Nat} (word mask : UInt64) (ones : mask.toNat = 2 ^ bits - 1) :
    (word &&& mask).toNat = word.toNat % 2 ^ bits := by
  rw [UInt64.toNat_and, ones, Nat.and_two_pow_sub_one_eq_mod]

theorem toNat_shiftLeft_of_lt (word shift : UInt64) (short : shift.toNat < 64)
    (fits : word.toNat * 2 ^ shift.toNat < 2 ^ 64) :
    (word <<< shift).toNat = word.toNat * 2 ^ shift.toNat := by
  rw [UInt64.toNat_shiftLeft, Nat.mod_eq_of_lt short, Nat.shiftLeft_eq, Nat.mod_eq_of_lt fits]

/-- A masked field in its place: nothing of it is pushed out. -/
theorem toNat_field {bits : Nat} (word mask shift : UInt64) (ones : mask.toNat = 2 ^ bits - 1)
    (short : shift.toNat < 64) (inside : bits + shift.toNat ≤ 64) :
    ((word &&& mask) <<< shift).toNat = word.toNat % 2 ^ bits * 2 ^ shift.toNat := by
  have masked := toNat_and_mask word mask ones
  have below : word.toNat % 2 ^ bits < 2 ^ bits := Nat.mod_lt _ (Nat.two_pow_pos bits)
  have fits : word.toNat % 2 ^ bits * 2 ^ shift.toNat < 2 ^ 64 :=
    calc word.toNat % 2 ^ bits * 2 ^ shift.toNat
        < 2 ^ bits * 2 ^ shift.toNat := Nat.mul_lt_mul_of_pos_right below (Nat.two_pow_pos _)
      _ = 2 ^ (bits + shift.toNat) := (Nat.pow_add 2 bits shift.toNat).symm
      _ ≤ 2 ^ 64 := Nat.pow_le_pow_right (by decide) inside
  rw [toNat_shiftLeft_of_lt _ _ short (by rwa [masked]), masked]

theorem toNat_or_of_lt (shift : Nat) (first second : UInt64) (aligned : 2 ^ shift ∣ first.toNat)
    (below : second.toNat < 2 ^ shift) :
    (first ||| second).toNat = first.toNat + second.toNat := by
  obtain ⟨high, times⟩ := aligned
  rw [UInt64.toNat_or, times, Nat.two_pow_add_eq_or_of_lt below]

/-- A signed number and the word it is cast to agree modulo every power that the word
can tell. -/
theorem toNat_toUInt64_emod {bits : Nat} (small : bits ≤ 64) (number : Int64) :
    ((number.toUInt64.toNat % 2 ^ bits : Nat) : Int) = number.toInt % 2 ^ bits := by
  have divides : (2 ^ bits : Int) ∣ 2 ^ 64 := pow_dvd_pow 2 small
  have word : number.toInt = Int.bmod number.toUInt64.toNat (2 ^ 64) :=
    BitVec.toInt_eq_toNat_bmod number.toBitVec
  calc ((number.toUInt64.toNat % 2 ^ bits : Nat) : Int)
      = (number.toUInt64.toNat : Int) % 2 ^ bits := by rw [Int.natCast_emod, Int.natCast_pow]; rfl
    _ = (number.toUInt64.toNat : Int) % 2 ^ 64 % 2 ^ bits :=
        (Int.emod_emod_of_dvd _ divides).symm
    _ = number.toInt % 2 ^ 64 % 2 ^ bits := by
        rw [word]
        exact congrArg (· % 2 ^ bits) (Int.bmod_emod).symm
    _ = number.toInt % 2 ^ bits := Int.emod_emod_of_dvd _ divides

theorem toUInt64_mod_eq_iff {bits : Nat} (small : bits ≤ 64) (first second : Int64) :
    first.toUInt64.toNat % 2 ^ bits = second.toUInt64.toNat % 2 ^ bits ↔
      first.toInt ≡ second.toInt [ZMOD 2 ^ bits] := by
  rw [Int.ModEq, ← toNat_toUInt64_emod small, ← toNat_toUInt64_emod small, Int.natCast_inj]

end SaneInTheMembrane.BitFields
