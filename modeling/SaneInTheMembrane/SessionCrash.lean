import SaneInTheMembrane.SessionService

/-!
A crash inside `CSessionService::save_session`. The save overwrites the only
copy, so each state of the file on the way is what the next start reads.
-/

namespace SaneInTheMembrane.SessionCrash

open ImageContainer LittleEndian LengthFraming SessionCodec SessionService

/-- The next start finds the list saved before or the list being saved. -/
def Recovers (previous saved : List SImageItemSerialized) (base : Nat) (file : SessionFile) :
    Prop :=
  readSession base file = .done (.ok previous) ∨ readSession base file = .done (.ok saved)

theorem readSession_records (base : Nat) (data : List UInt8) (items : List SImageItemSerialized)
    (fits : base + (serializeItems items).length < 2 ^ 63) :
    readSession base (some (sessionHeader data ++ serializeItems items)) = .done (.ok items) := by
  rw [readSession_header base data _ fits,
    deserializeItems_serializeItems ⟨base, serializeItems items, fits⟩ items rfl]

theorem readSession_torn (base : Nat) (data : List UInt8) (items : List SImageItemSerialized)
    (body : List UInt8) (part : Nat) (positive : 0 < part) (proper : part < (frame 8 body).length)
    (small : (frame 8 body).length < 2 ^ 63)
    (fits : base + (serializeItems items ++ (frame 8 body).take part).length < 2 ^ 63)
    (result : List SImageItemSerialized) :
    readSession base (some (sessionHeader data ++
      (serializeItems items ++ (frame 8 body).take part))) ≠ .done (.ok result) := by
  rw [readSession_header base data _ fits]
  rcases deserializeItems_torn ⟨base, _, fits⟩ items body part positive proper small rfl with
    outside | error
  · simp [outside]
  · simp [error]

section Crash
variable (saved : List SImageItemSerialized) (payload : Bytes)
  (encoded : payload.data = serializeItems saved) (base : Nat)
  (fits : base + payload.data.length < 2 ^ 63)
include encoded fits

theorem readSession_first (count : Nat) :
    readSession base (some (sessionHeader payload.data ++ serializeItems (saved.take count))) =
      .done (.ok (saved.take count)) := by
  apply readSession_records
  have := serializeItems_take_le saved count
  rw [encoded] at fits
  omega

/-- A file left by a crash that decodes at all holds the header and the first
whole records. -/
theorem decoded_is_first (file : SessionFile) (state : file ∈ saveStates payload.data)
    (items : List SImageItemSerialized) (read : readSession base file = .done (.ok items)) :
    ∃ count ≤ saved.length,
      file = some (sessionHeader payload.data ++ serializeItems (saved.take count)) ∧
      items = saved.take count := by
  rcases (mem_saveStates _ _).mp state with ⟨cut, short, rfl⟩ | ⟨cut, inside, rfl⟩
  · -- Part of the header: `load_session` refuses the file.
    have refused := loadSession_short ((sessionHeader payload.data).take cut) (by simp; omega)
    simp [readSession, refused] at read
  · have whole := readSession_first saved payload encoded base fits
    rw [encoded] at inside fits
    rcases serializeItems_cut saved cut inside with ⟨count, within, taken⟩ | torn
    · rw [encoded, taken, ← encoded] at read ⊢
      refine ⟨count, within, rfl, ?_⟩
      rw [whole count] at read
      simpa using read.symm
    · -- Part of a record: the length word or the bounds check gives it away.
      obtain ⟨count, body, part, positive, proper, bodyLength, taken⟩ := torn
      have shorter := congrArg List.length taken
      rw [List.length_take] at shorter
      rw [encoded, taken, ← encoded] at read
      exact absurd read (readSession_torn base _ _ body part positive proper (by omega)
        (by omega) items)

end Crash

/-- The states of the file in which a crash loses nothing: all records have
reached it, or those that have are the list saved before. -/
theorem crash_recovery_iff (previous saved : List SImageItemSerialized) (payload : Bytes)
    (encoded : payload.data = serializeItems saved) (file : SessionFile)
    (state : file ∈ saveStates payload.data) (base : Nat)
    (fits : base + payload.data.length < 2 ^ 63) :
    Recovers previous saved base file ↔
      ∃ count ≤ saved.length,
        file = some (sessionHeader payload.data ++ serializeItems (saved.take count)) ∧
        (count = saved.length ∨ previous = saved.take count) := by
  have decoded := decoded_is_first saved payload encoded base fits file state
  have first := readSession_first saved payload encoded base fits
  constructor
  · rintro (old | new)
    · obtain ⟨count, within, shape, same⟩ := decoded previous old
      exact ⟨count, within, shape, Or.inr same⟩
    · obtain ⟨count, within, shape, same⟩ := decoded saved new
      have length := congrArg List.length same
      rw [List.length_take, Nat.min_eq_left within] at length
      exact ⟨count, within, shape, Or.inl length.symm⟩
  · rintro ⟨count, _, rfl, whole | old⟩
    · right
      rw [first count, whole, List.take_length]
    · left
      rw [first count, old]

theorem appended_page_recovers_old :
    let old : SImageItemSerialized := ⟨doubleTransforms.identity, 1, [97]⟩
    let new : SImageItemSerialized := ⟨doubleTransforms.identity, 2, [98]⟩
    Recovers [old] [old, new] 4096
      (some (sessionHeader (serializeItems [old, new]) ++ serializeItems [old])) := by
  intro old new
  let payload : Bytes := ⟨8192, serializeItems [old, new], by decide +kernel⟩
  have state : some (sessionHeader payload.data ++ serializeItems [old]) ∈
      saveStates payload.data :=
    (mem_saveStates _ _).mpr (Or.inr ⟨(serializeItems [old]).length, by decide +kernel, by
      decide +kernel⟩)
  exact (crash_recovery_iff [old] [old, new] payload rfl _ state 4096 (by decide +kernel)).mpr
    ⟨1, by decide, rfl, Or.inr rfl⟩

/-- The process dies right after the truncating open: both lists are lost. -/
theorem truncated_session_is_lost :
    let page : SImageItemSerialized := ⟨doubleTransforms.identity, 1, [97]⟩
    some [] ∈ saveStates (serializeItems [page]) ∧
      ¬ Recovers [page] [page] 4096 (some []) := by
  intro page
  refine ⟨(mem_saveStates _ _).mpr (Or.inl ⟨0, by decide, by simp⟩), ?_⟩
  rintro (old | new)
  · cases old
  · cases new

end SaneInTheMembrane.SessionCrash
