import Mathlib.Data.List.Basic

/-!
Numbers written in decimal. A number can be read back from its digits, also where
something that is no digit follows them.
-/

namespace SaneInTheMembrane.Decimal

theorem toDigits_injective {m n : Nat} (same : Nat.toDigits 10 m = Nat.toDigits 10 n) : m = n :=
  calc m = Nat.ofDigitChars 10 (Nat.toDigits 10 m) 0 := Nat.ofDigitChars_ten_toDigits.symm
    _ = Nat.ofDigitChars 10 (Nat.toDigits 10 n) 0 := by rw [same]
    _ = n := Nat.ofDigitChars_ten_toDigits

theorem toString_injective {m n : Nat} (same : toString m = toString n) : m = n := by
  apply toDigits_injective
  rw [← Nat.toList_repr, ← Nat.toList_repr, ← Nat.toString_eq_repr, ← Nat.toString_eq_repr, same]

theorem isDigit_of_mem {n : Nat} {c : Char} (member : c ∈ Nat.toDigits 10 n) :
    c.isDigit = true :=
  Nat.isDigit_of_mem_toDigits (by decide) (by decide) member

def NoDigitFirst (text : List Char) : Prop := ∀ c, text.head? = some c → c.isDigit = false

theorem noDigitFirst_nil : NoDigitFirst [] := by
  intro c first
  cases first

theorem noDigitFirst_of_head {text : List Char} {c : Char} (first : text.head? = some c)
    (other : c.isDigit = false) : NoDigitFirst text := by
  intro d second
  rw [first] at second
  rwa [← Option.some.inj second]

theorem noDigitFirst_takeWhile {text : List Char} (ends : NoDigitFirst text) (p : Char → Bool) :
    NoDigitFirst (text.takeWhile p) := by
  cases text with
  | nil => exact noDigitFirst_nil
  | cons c rest =>
      rw [List.takeWhile_cons]
      split
      next => exact noDigitFirst_of_head rfl (ends c rfl)
      next => exact noDigitFirst_nil

theorem takeWhile_toDigits (n : Nat) {rest : List Char} (ends : NoDigitFirst rest) :
    (Nat.toDigits 10 n ++ rest).takeWhile Char.isDigit = Nat.toDigits 10 n := by
  rw [List.takeWhile_append_of_pos fun c member => isDigit_of_mem member]
  have none : rest.takeWhile Char.isDigit = [] := by
    cases rest with
    | nil => rfl
    | cons c more => simp [ends c rfl]
  rw [none, List.append_nil]

/-- What follows the digits of different numbers does not make them the same text. -/
theorem toDigits_append_injective {m n : Nat} {first second : List Char}
    (firstEnds : NoDigitFirst first) (secondEnds : NoDigitFirst second)
    (same : Nat.toDigits 10 m ++ first = Nat.toDigits 10 n ++ second) : m = n := by
  apply toDigits_injective
  rw [← takeWhile_toDigits m firstEnds, same, takeWhile_toDigits n secondEnds]

end SaneInTheMembrane.Decimal
