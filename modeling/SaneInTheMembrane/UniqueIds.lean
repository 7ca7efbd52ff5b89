import Mathlib.Data.Nat.ModEq
import SaneInTheMembrane.BitFields
import SaneInTheMembrane.Decimal
import SaneInTheMembrane.FilePaths

/-!
Service/UniqueIdGenerator.cpp, and the temporary files that CFileManager names by the
ids. An id packs the clock, a number that each thread counts, and a hash of the
thread into one word. The count alone keeps 4096 draws of a thread apart.
-/

namespace SaneInTheMembrane.UniqueIds

section Model

def timeBits : UInt64 := 44
def seqBits : UInt64 := 12
def threadBits : UInt64 := 8

def timeMask : UInt64 := (1 <<< timeBits) - 1
def seqMask : UInt64 := (1 <<< seqBits) - 1
def threadMask : UInt64 := (1 <<< threadBits) - 1

def seqShift : UInt64 := threadBits
def timeShift : UInt64 := threadBits + seqBits

/-- The thread's own variables. -/
structure CUniqueIdGenerator where
  sequenceNumber : UInt64 := 0
  threadHash : UInt64 := 0
  deriving DecidableEq, Repr

namespace CUniqueIdGenerator

/-- The hash of the thread's id is taken while none is stored; it may be zero itself. -/
def hashed (generator : CUniqueIdGenerator) (idHash : UInt64) : CUniqueIdGenerator :=
  if generator.threadHash = 0 then { generator with threadHash := idHash } else generator

def id (generator : CUniqueIdGenerator) (idHash : UInt64) (clock : Int64) :
    UInt64 × CUniqueIdGenerator :=
  let generator := generator.hashed idHash
  let sequenceNumber := generator.sequenceNumber
  let timeNow := clock.toUInt64
  let id : UInt64 := 0
  let id := id ||| ((timeNow &&& timeMask) <<< timeShift)
  let id := id ||| ((sequenceNumber &&& seqMask) <<< seqShift)
  let id := id ||| (generator.threadHash &&& threadMask)
  (id, { generator with sequenceNumber := sequenceNumber + 1 })

def after (generator : CUniqueIdGenerator) (idHash : UInt64) (clock : Nat → Int64) :
    Nat → CUniqueIdGenerator
  | 0 => generator
  | draw + 1 => ((after generator idHash clock draw).id idHash (clock draw)).2

def drawn (generator : CUniqueIdGenerator) (idHash : UInt64) (clock : Nat → Int64)
    (draw : Nat) : UInt64 :=
  ((generator.after idHash clock draw).id idHash (clock draw)).1

end CUniqueIdGenerator

/-- `none` is the overload without an extension. That for a `std::string` passes its text
up to the first NUL. -/
def generateTempFilepath (tempDir : List Char) (id : UInt64) (extension : Option (List Char)) :
    List Char :=
  let filepath := FilePaths.append tempDir (Nat.toDigits 10 id.toNat)
  match extension with
  | none => filepath
  | some extension => FilePaths.replaceExtension filepath extension

end Model

section Packing
open CUniqueIdGenerator

theorem time_field (word : UInt64) :
    ((word &&& timeMask) <<< timeShift).toNat = word.toNat % 2 ^ 44 * 2 ^ 20 :=
  BitFields.toNat_field word timeMask timeShift rfl (by decide) (by decide)

theorem seq_field (word : UInt64) :
    ((word &&& seqMask) <<< seqShift).toNat = word.toNat % 2 ^ 12 * 2 ^ 8 :=
  BitFields.toNat_field word seqMask seqShift rfl (by decide) (by decide)

theorem thread_field (word : UInt64) : (word &&& threadMask).toNat = word.toNat % 2 ^ 8 :=
  BitFields.toNat_and_mask _ _ rfl

theorem id_toNat (generator : CUniqueIdGenerator) (idHash : UInt64) (clock : Int64) :
    (generator.id idHash clock).1.toNat =
      clock.toUInt64.toNat % 2 ^ 44 * 2 ^ 20 + generator.sequenceNumber.toNat % 2 ^ 12 * 2 ^ 8 +
        (generator.hashed idHash).threadHash.toNat % 2 ^ 8 := by
  have same : (generator.hashed idHash).sequenceNumber = generator.sequenceNumber := by
    unfold hashed
    split <;> rfl
  have time := time_field clock.toUInt64
  have seq := seq_field generator.sequenceNumber
  have thread := thread_field (generator.hashed idHash).threadHash
  have front := BitFields.toNat_or_of_lt 20
    ((clock.toUInt64 &&& timeMask) <<< timeShift)
    ((generator.sequenceNumber &&& seqMask) <<< seqShift) (by omega) (by omega)
  have whole := BitFields.toNat_or_of_lt 8
    ((clock.toUInt64 &&& timeMask) <<< timeShift |||
      (generator.sequenceNumber &&& seqMask) <<< seqShift)
    ((generator.hashed idHash).threadHash &&& threadMask) (by omega) (by omega)
  simp only [CUniqueIdGenerator.id, same, UInt64.zero_or]
  rw [whole, front, time, seq, thread]

/-- The fields neither overlap nor lose bits. -/
theorem id_eq_iff (first second : CUniqueIdGenerator) (firstHash secondHash : UInt64)
    (firstClock secondClock : Int64) :
    (first.id firstHash firstClock).1 = (second.id secondHash secondClock).1 ↔
      firstClock.toInt ≡ secondClock.toInt [ZMOD 2 ^ 44] ∧
      first.sequenceNumber.toNat ≡ second.sequenceNumber.toNat [MOD 2 ^ 12] ∧
      (first.hashed firstHash).threadHash.toNat ≡
        (second.hashed secondHash).threadHash.toNat [MOD 2 ^ 8] := by
  rw [← UInt64.toNat_inj, id_toNat, id_toNat, ← BitFields.toUInt64_mod_eq_iff (by decide)]
  unfold Nat.ModEq
  omega

end Packing

section Drawing
open CUniqueIdGenerator
variable (generator : CUniqueIdGenerator) (idHash : UInt64) (clock : Nat → Int64)

theorem after_sequenceNumber (draw : Nat) :
    (generator.after idHash clock draw).sequenceNumber.toNat =
      (generator.sequenceNumber.toNat + draw) % 2 ^ 64 := by
  induction draw with
  | zero => exact (Nat.mod_eq_of_lt generator.sequenceNumber.toNat_lt).symm
  | succ draw ih =>
      have counted : (generator.after idHash clock (draw + 1)).sequenceNumber =
          (generator.after idHash clock draw).sequenceNumber + 1 := by
        simp only [CUniqueIdGenerator.after, CUniqueIdGenerator.id, hashed]
        split <;> rfl
      rw [counted, UInt64.toNat_add, ih]
      simp only [UInt64.toNat_one]
      omega

theorem drawn_ne {first second : Nat} (before : first < second) (near : second < first + 4096) :
    generator.drawn idHash clock first ≠ generator.drawn idHash clock second := by
  intro same
  have fields := (id_eq_iff _ _ _ _ _ _).mp same
  have counts := fields.2.1
  rw [Nat.ModEq, after_sequenceNumber, after_sequenceNumber] at counts
  omega

end Drawing

section Paths

theorem digits_only {id : Nat} {c : Char} (other : c.isDigit = false) :
    c ∉ Nat.toDigits 10 id := by
  intro member
  simp [Decimal.isDigit_of_mem member] at other

theorem generateTempFilepath_eq (tempDir : List Char) (id : UInt64)
    (extension : Option (List Char)) :
    ∃ rest, Decimal.NoDigitFirst rest ∧ generateTempFilepath tempDir id extension =
      FilePaths.joint tempDir ++ (Nat.toDigits 10 id.toNat ++ rest) := by
  have slashless : '/' ∉ Nat.toDigits 10 id.toNat := digits_only rfl
  have dotless : '.' ∉ Nat.toDigits 10 id.toNat := digits_only rfl
  have relative : (Nat.toDigits 10 id.toNat).head? ≠ some '/' :=
    fun first => slashless (List.mem_of_mem_head? first)
  unfold generateTempFilepath
  rw [FilePaths.append_relative tempDir relative]
  cases extension with
  | none => exact ⟨[], Decimal.noDigitFirst_nil, by simp⟩
  | some extension =>
      dsimp only
      rw [FilePaths.replaceExtension_dotless _ _
        (by rwa [FilePaths.filename_joint tempDir slashless]), List.append_assoc]
      refine ⟨_, ?_, rfl⟩
      split
      next kept =>
        rcases kept with rfl | dotted
        · exact Decimal.noDigitFirst_nil
        · exact Decimal.noDigitFirst_of_head dotted rfl
      next => exact Decimal.noDigitFirst_of_head rfl rfl

/-- The first element behind the directory starts with the digits. -/
theorem digits_head (id : Nat) (rest : List Char) :
    (FilePaths.elements (Nat.toDigits 10 id ++ rest)).head? =
      some (Nat.toDigits 10 id ++ rest.takeWhile (· ≠ '/')) := by
  have slashless : '/' ∉ Nat.toDigits 10 id := digits_only rfl
  have taken := FilePaths.takeWhile_without slashless rest
  have named : (Nat.toDigits 10 id ++ rest).takeWhile (· ≠ '/') ≠ [] := by
    rw [taken]
    exact List.append_ne_nil_of_left_ne_nil Nat.toDigits_ne_nil _
  rw [FilePaths.elements_head _ named, taken]

theorem paths_differ (tempDir : List Char) {first second : UInt64} (differ : first ≠ second)
    (firstExtension secondExtension : Option (List Char)) :
    ¬ FilePaths.SameElements (generateTempFilepath tempDir first firstExtension)
      (generateTempFilepath tempDir second secondExtension) := by
  intro same
  obtain ⟨firstRest, firstEnds, firstPath⟩ :=
    generateTempFilepath_eq tempDir first firstExtension
  obtain ⟨secondRest, secondEnds, secondPath⟩ :=
    generateTempFilepath_eq tempDir second secondExtension
  rw [FilePaths.SameElements, firstPath, secondPath, FilePaths.elements_joint,
    FilePaths.elements_joint] at same
  have heads := congrArg List.head? (List.append_cancel_left same)
  rw [digits_head, digits_head] at heads
  apply differ
  apply UInt64.toNat_inj.mp
  exact Decimal.toDigits_append_injective (Decimal.noDigitFirst_takeWhile firstEnds _)
    (Decimal.noDigitFirst_takeWhile secondEnds _) (Option.some.inj heads)

end Paths

/-- Ids are equal exactly when their fields are. So whatever the clock does, draws of a
thread that are less than 4096 apart have different ids, and their files different paths. -/
theorem ids_collide_iff (idHash : UInt64) (clock : Nat → Int64) (generator : CUniqueIdGenerator)
    (earlier later : Nat) (before : earlier < later) (near : later < earlier + 4096) :
    (∀ (first second : CUniqueIdGenerator) (firstHash secondHash : UInt64)
        (firstClock secondClock : Int64),
      (first.id firstHash firstClock).1 = (second.id secondHash secondClock).1 ↔
        firstClock.toInt ≡ secondClock.toInt [ZMOD 2 ^ 44] ∧
        first.sequenceNumber.toNat ≡ second.sequenceNumber.toNat [MOD 2 ^ 12] ∧
        (first.hashed firstHash).threadHash.toNat ≡
          (second.hashed secondHash).threadHash.toNat [MOD 2 ^ 8]) ∧
    generator.drawn idHash clock earlier ≠ generator.drawn idHash clock later ∧
    ∀ (tempDir : List Char) (firstExtension secondExtension : Option (List Char)),
      ¬ FilePaths.SameElements
        (generateTempFilepath tempDir (generator.drawn idHash clock earlier) firstExtension)
        (generateTempFilepath tempDir (generator.drawn idHash clock later) secondExtension) := by
  have differ := drawn_ne generator idHash clock before near
  refine ⟨id_eq_iff, differ, ?_⟩
  intro tempDir firstExtension secondExtension
  exact paths_differ tempDir differ firstExtension secondExtension

theorem ids_differ_across_wrap :
    let generator : CUniqueIdGenerator := { sequenceNumber := UInt64.ofNat (2 ^ 64 - 1) }
    generator.drawn 7 (fun _ => 0) 0 ≠ generator.drawn 7 (fun _ => 0) 4095 :=
  (ids_collide_iff 7 (fun _ => 0) _ 0 4095 (by decide) (by decide)).2.1

end SaneInTheMembrane.UniqueIds
