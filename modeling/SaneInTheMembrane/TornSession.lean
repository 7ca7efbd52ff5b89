import SaneInTheMembrane.SessionCrash

/-!
A session file that was cut. The header records the length of the data and
nothing compares it with the data, so a file that ends at the end of a record is
a shorter session; one that ends inside a length word is read past its end.
-/

namespace SaneInTheMembrane.TornSession

open ImageContainer LittleEndian LengthFraming SessionCodec SessionService SessionCrash

def savedBytes (items : List SImageItemSerialized) : List UInt8 :=
  sessionHeader (serializeItems items) ++ serializeItems items

theorem saveSession_savedBytes (items : List SImageItemSerialized) :
    saveSession (serializeItems items) = some (savedBytes items) := rfl

@[simp] theorem savedBytes_length (items : List SImageItemSerialized) :
    (savedBytes items).length = 16 + (serializeItems items).length := by
  simp [savedBytes]

def Refused (base : Nat) (data : List UInt8) : Prop :=
  ∃ error, readSession base (some data) = .done (.error error)

/-- The cut lies inside a record, behind its whole length word. -/
def InsideRecord (items : List SImageItemSerialized) (cut : Nat) : Prop :=
  ∃ count < items.length, 16 + (serializeItems (items.take count)).length + 8 ≤ cut ∧
    cut < 16 + (serializeItems (items.take (count + 1))).length

theorem insideRecord_iff (items : List SImageItemSerialized) (cut : Nat) :
    InsideRecord items (16 + cut) ↔
      InsideBody 8 (items.map SImageItemSerialized.serialize) cut := by
  simp only [InsideRecord, InsideBody, serializeItems_stream, List.length_map, List.map_take]
  constructor
  · rintro ⟨count, inside, low, high⟩
    exact ⟨count, inside, by omega, by omega⟩
  · rintro ⟨count, inside, low, high⟩
    exact ⟨count, inside, by omega, by omega⟩

section Cuts
variable (items : List SImageItemSerialized) (base : Nat)
  (fits : base + (serializeItems items).length < 2 ^ 63)
include fits

theorem refused_payload_iff (cut : Nat) (inside : cut ≤ (serializeItems items).length) :
    Refused base (sessionHeader (serializeItems items) ++ (serializeItems items).take cut) ↔
      InsideRecord items (16 + cut) := by
  have shorter : base + ((serializeItems items).take cut).length < 2 ^ 63 := by
    rw [List.length_take]
    omega
  have size := serializeItems_stream items
  rw [insideRecord_iff]
  rw [size] at inside
  rcases stream_cut _ cut inside with ⟨count, within, place, taken⟩ | torn
  · -- Whole records: the file is a session of its own.
    have front : (serializeItems items).take cut = serializeItems (items.take count) := by
      rw [size, taken, serializeItems_stream, List.map_take]
    have whole := readSession_records base (serializeItems items) (items.take count)
      (by rwa [← front])
    constructor
    · rintro ⟨error, refused⟩
      rw [front, whole] at refused
      cases refused
    · intro inBody
      exact absurd inBody (not_insideBody_of_boundary _ count cut (by omega) place)
  · obtain ⟨count, body, rest, part, parts, positive, proper, place, taken⟩ := torn
    have front : (serializeItems items).take cut =
        serializeItems (items.take count) ++ (frame 8 body).take part := by
      rw [size, taken, serializeItems_stream, List.map_take]
    have small : (frame 8 body).length < 2 ^ 63 := by
      have whole := congrArg List.length (congrArg (stream 8) parts)
      simp only [stream_append, stream_cons, List.length_append, ← size] at whole
      omega
    have partLength : ((frame 8 body).take part).length = part := by
      rw [List.length_take, Nat.min_eq_left (Nat.le_of_lt proper)]
    rw [insideBody_iff _ count part cut body rest parts positive proper place]
    rw [Refused, readSession_header base _ _ shorter]
    constructor
    · rintro ⟨error, refused⟩
      by_contra short
      rw [deserializeItems_torn_length ⟨base, _, shorter⟩ (items.take count) _ _ (by omega)
        front] at refused
      · cases refused
      · apply List.length_pos_iff.mp
        omega
    · intro long
      rw [deserializeItems_torn_record ⟨base, _, shorter⟩ (items.take count) body part long
        proper small front]
      exact ⟨_, rfl⟩

end Cuts

/-- A prefix of a saved file is refused exactly when the cut lies in the header, or
inside a record and behind its length word. -/
theorem torn_refused_iff (items : List SImageItemSerialized) (torn : List UInt8)
    (front : torn <+: savedBytes items) (base : Nat)
    (fits : base + (savedBytes items).length < 2 ^ 63) :
    Refused base torn ↔ torn.length < 16 ∨ InsideRecord items torn.length := by
  have whole := savedBytes_length items
  have long := front.length_le
  by_cases short : torn.length < 16
  · have refused := loadSession_short torn short
    simp [Refused, readSession, refused, short]
  · have cut : torn = sessionHeader (serializeItems items) ++
        (serializeItems items).take (torn.length - 16) := by
      conv => lhs; rw [List.prefix_iff_eq_take.mp front]
      rw [savedBytes, List.take_append, List.take_of_length_le (by simp; omega)]
      simp
    have place : 16 + (torn.length - 16) = torn.length := by omega
    have behindHeader := refused_payload_iff items base (by omega) (torn.length - 16) (by omega)
    rw [place] at behindHeader
    rw [← cut] at behindHeader
    simp [behindHeader, short]

theorem cut_in_second_record_refused :
    let items : List SImageItemSerialized :=
      [⟨doubleTransforms.identity, 1, [97]⟩, ⟨doubleTransforms.identity, 2, [98]⟩]
    Refused 4096 ((savedBytes items).take 200) ↔
      ((savedBytes items).take 200).length < 16 ∨
        InsideRecord items ((savedBytes items).take 200).length :=
  torn_refused_iff _ _ (List.take_prefix _ _) 4096 (by decide +kernel)

/-- A file cut behind its first record is a session with one page, and one cut
behind its header a session with none. -/
theorem cut_at_record_accepted :
    let first : SImageItemSerialized := ⟨doubleTransforms.identity, 1, [97]⟩
    let second : SImageItemSerialized := ⟨doubleTransforms.identity, 2, [98]⟩
    readSession 4096 (some ((savedBytes [first, second]).take 113)) = .done (.ok [first]) ∧
      readSession 4096 (some ((savedBytes [first, second]).take 16)) = .done (.ok []) := by
  intro first second
  constructor
  · have cut : (savedBytes [first, second]).take 113 =
        sessionHeader (serializeItems [first, second]) ++ serializeItems [first] := by
      decide +kernel
    rw [cut]
    exact readSession_records 4096 _ [first] (by decide +kernel)
  · have cut : (savedBytes [first, second]).take 16 =
        sessionHeader (serializeItems [first, second]) ++ serializeItems [] := by
      decide +kernel
    rw [cut]
    exact readSession_records 4096 _ [] (by decide +kernel)

end SaneInTheMembrane.TornSession
