import SaneInTheMembrane.SessionParsing

/-!
The session format against its parser. A payload is a stream of records behind
their lengths; a record has 88 bytes of fixed fields, the last of them the size
of the path behind them. The parser keeps to the format up to the first length
word that is cut or wraps. A path size that wraps passes its check and throws.
-/

namespace SaneInTheMembrane.SessionFormat

open ImageContainer LittleEndian LengthFraming SessionCodec PartialIteration SessionParsing

section Format

/-- What the format makes of a record. -/
def recordOf (body : List UInt8) : Option SImageItemSerialized :=
  let pathSize := decode ((body.drop 80).take 8)
  if 88 ≤ body.length ∧ pathSize ≤ body.length - 88 then
    some ⟨matrixOfBytes (body.take 72), wordOfBytes ((body.drop 72).take 8),
      (body.drop 88).take pathSize⟩
  else none

def formatStep (address : Nat) (rest : List UInt8) : Iteration :=
  let length := decode (rest.take 8)
  if rest.length < 8 ∨ rest.length - 8 < length then
    .refused "Item end is outside of allowed range"
  else .record (recordOf ((rest.drop 8).take length)) (address + 8 + length)

/-- The string of a path that is too long may throw, where the format takes no record. -/
def Keeps (iteration format : Iteration) : Prop :=
  iteration = format ∨ iteration = .lengthError ∧ ∃ next, format = .record none next

/-- Every iteration of the loop does what the format says of the bytes it is at. -/
def KeepsFormat (bytes : Bytes) : Prop :=
  ∀ start, Reached (fun place => (iteration bytes place).next) bytes.base start →
    start < bytes.finish →
    bytes.base ≤ start ∧
      Keeps (iteration bytes start) (formatStep start (bytes.data.drop (start - bytes.base)))

/-- The address behind the path of a record wraps, when its length lies at this address. -/
def Throws (address : Nat) (body : List UInt8) : Prop :=
  88 ≤ body.length ∧ 2 ^ 64 ≤ address + 8 + 88 + decode ((body.drop 80).take 8)

instance (address : Nat) (body : List UInt8) : Decidable (Throws address body) :=
  inferInstanceAs (Decidable (_ ∧ _))

def Passed (address : Nat) (bodies : List (List UInt8)) : Prop :=
  ∀ front body back, bodies = front ++ body :: back →
    ¬ Throws (address + (stream 8 front).length) body

/-- The length word is whole, and the end of the record does not wrap. -/
def FitsAt (address : Nat) (rest : List UInt8) : Prop :=
  8 ≤ rest.length ∧ address + 8 + decode (rest.take 8) < 2 ^ 64

/-- The payload fits behind whole records that do not throw. -/
def Fits (bytes : Bytes) : Prop :=
  ∀ bodies rest, bytes.data = stream 8 bodies ++ rest → rest ≠ [] →
    Passed bytes.base bodies → FitsAt (bytes.base + (stream 8 bodies).length) rest

theorem passed_concat {address : Nat} {bodies : List (List UInt8)} {body : List UInt8} :
    Passed address (bodies ++ [body]) ↔
      Passed address bodies ∧ ¬ Throws (address + (stream 8 bodies).length) body := by
  constructor
  · intro passed
    refine ⟨fun front other back split => passed front other (back ++ [body]) ?_,
      passed bodies body [] rfl⟩
    simp [split]
  · rintro ⟨passed, last⟩ front other back split
    cases back using List.reverseRecOn with
    | nil =>
        obtain ⟨rfl, same⟩ := List.append_inj' split rfl
        cases same
        exact last
    | append_singleton back end_ =>
        have whole : bodies ++ [body] = (front ++ other :: back) ++ [end_] := by simp [split]
        obtain ⟨same, _⟩ := List.append_inj' whole rfl
        exact passed front other back same

end Format

section Step
variable {bytes : Bytes} {front rest : List UInt8}

theorem bytesAt_rest (split : bytes.data = front ++ rest) (offset n : Nat) :
    bytesAt bytes (bytes.base + front.length + offset) n = (rest.drop offset).take n := by
  have distance : bytes.base + front.length + offset - bytes.base = front.length + offset := by
    omega
  rw [bytesAt, distance, split, ← List.drop_drop, List.drop_left]

theorem finish_rest (split : bytes.data = front ++ rest) :
    bytes.finish = bytes.base + front.length + rest.length := by
  simp only [Bytes.finish, split, List.length_append]
  omega

theorem drop_front (split : bytes.data = front ++ rest) :
    bytes.data.drop (bytes.base + front.length - bytes.base) = rest := by
  rw [Nat.add_sub_cancel_left, split, List.drop_left]

theorem body_length (length : Nat) (inside : 8 + length ≤ rest.length) :
    ((rest.drop 8).take length).length = length := by
  simp only [List.length_take, List.length_drop]
  omega

theorem recordOf_long (length : Nat) (inside : 8 + length ≤ rest.length) (long : 88 ≤ length) :
    recordOf ((rest.drop 8).take length) =
      if 88 + decode ((rest.drop 88).take 8) ≤ length then
        some ⟨matrixOfBytes ((rest.drop 8).take 72), wordOfBytes ((rest.drop 80).take 8),
          (rest.drop 96).take (decode ((rest.drop 88).take 8))⟩
      else none := by
  have total := body_length length inside
  have size : (((rest.drop 8).take length).drop 80).take 8 = (rest.drop 88).take 8 := by
    rw [List.drop_take, List.drop_drop, List.take_take, Nat.min_eq_left (by omega)]
  have page : (((rest.drop 8).take length).drop 72).take 8 = (rest.drop 80).take 8 := by
    rw [List.drop_take, List.drop_drop, List.take_take, Nat.min_eq_left (by omega)]
  have matrix : ((rest.drop 8).take length).take 72 = (rest.drop 8).take 72 := by
    rw [List.take_take, Nat.min_eq_left (by omega)]
  simp only [recordOf, total, size, page, matrix, long, true_and]
  by_cases path : 88 + decode ((rest.drop 88).take 8) ≤ length
  · have behind : (((rest.drop 8).take length).drop 88).take (decode ((rest.drop 88).take 8)) =
        (rest.drop 96).take (decode ((rest.drop 88).take 8)) := by
      rw [List.drop_take, List.drop_drop, List.take_take, Nat.min_eq_left (by omega)]
    rw [if_pos (by omega), if_pos path, behind]
  · rw [if_neg (by omega), if_neg path]

theorem recordOf_short (length : Nat) (short : length < 88) :
    recordOf ((rest.drop 8).take length) = none := by
  apply if_neg
  simp only [List.length_take]
  omega

theorem lengthWord_rest (split : bytes.data = front ++ rest) :
    bytesAt bytes (bytes.base + front.length) 8 = rest.take 8 := by
  simpa using bytesAt_rest split 0 8

theorem pathSize_rest (split : bytes.data = front ++ rest) :
    pathSizeAt bytes (bytes.base + front.length + 8) = decode ((rest.drop 88).take 8) := by
  rw [pathSizeAt, Nat.add_assoc, bytesAt_rest split]

theorem decodes_record (split : bytes.data = front ++ rest) (length : Nat)
    (inside : 8 + length ≤ rest.length) :
    (Throws (bytes.base + front.length) ((rest.drop 8).take length) ∧
      recordOf ((rest.drop 8).take length) = none ∧
      SImageItemSerialized.deserialize bytes (bytes.base + front.length + 8)
        (bytes.base + front.length + 8 + length) = .lengthError) ∨
    ¬ Throws (bytes.base + front.length) ((rest.drop 8).take length) ∧
      ((recordOf ((rest.drop 8).take length) = none ∧ ∃ message,
        SImageItemSerialized.deserialize bytes (bytes.base + front.length + 8)
          (bytes.base + front.length + 8 + length) = .nullopt message) ∨
      ∃ item, recordOf ((rest.drop 8).take length) = some item ∧
        SImageItemSerialized.deserialize bytes (bytes.base + front.length + 8)
          (bytes.base + front.length + 8 + length) = .item item) := by
  have finish := finish_rest split
  have bound := finish_small bytes
  have size := pathSize_rest split
  have total := body_length length inside
  by_cases short : length < 88
  · refine .inr ⟨fun throws => by have := throws.1; omega, .inl ⟨recordOf_short length short, ?_⟩⟩
    exact deserialize_refused (by omega) (by omega) (by omega) (Or.inl (by omega))
  · have word : (((rest.drop 8).take length).drop 80).take 8 = (rest.drop 88).take 8 := by
      rw [List.drop_take, List.drop_drop, List.take_take, Nat.min_eq_left (by omega)]
    rw [recordOf_long length inside (by omega), Throws, total, word]
    by_cases wraps : PathWraps bytes (bytes.base + front.length + 8)
    · have long := wraps
      rw [PathWraps, size] at long
      refine .inl ⟨⟨by omega, long⟩, if_neg (by omega), ?_⟩
      exact deserialize_wraps (by omega) (by omega) (by omega) wraps
    · have straight := wraps
      rw [PathWraps, size] at straight
      refine .inr ⟨fun throws => straight throws.2, ?_⟩
      by_cases fits : 88 + decode ((rest.drop 88).take 8) ≤ length
      · right
        refine ⟨_, if_pos fits, ?_⟩
        rw [deserialize_accepts (by omega) (by omega) (by omega), size,
          bytesAt_rest split 8, Nat.add_assoc (bytes.base + front.length) 8 72,
          Nat.add_assoc (bytes.base + front.length) 8 88, bytesAt_rest split 80,
          bytesAt_rest split 96]
      · left
        refine ⟨if_neg fits, ?_⟩
        exact deserialize_refused (by omega) (by omega) (by omega) (.inr ⟨wraps, by omega⟩)

theorem formatStep_reads (address : Nat) (rest : List UInt8) :
    formatStep address rest ≠ .outOfBounds := by
  simp only [formatStep]
  split <;> exact Iteration.noConfusion

theorem iteration_of_fitsAt (split : bytes.data = front ++ rest)
    (fits : FitsAt (bytes.base + front.length) rest) :
    iteration bytes (bytes.base + front.length) =
        formatStep (bytes.base + front.length) rest ∧
      (8 + decode (rest.take 8) ≤ rest.length →
        ¬ Throws (bytes.base + front.length) ((rest.drop 8).take (decode (rest.take 8)))) ∨
    iteration bytes (bytes.base + front.length) = .lengthError ∧
      (∃ next, formatStep (bytes.base + front.length) rest = .record none next) ∧
        Throws (bytes.base + front.length) ((rest.drop 8).take (decode (rest.take 8))) := by
  obtain ⟨whole, straight⟩ := fits
  have finish := finish_rest split
  rw [iteration_of_word (by omega) (by omega)]
  simp only [lengthWord_rest split, Nat.mod_eq_of_lt straight]
  by_cases inside : 8 + decode (rest.take 8) ≤ rest.length
  · rw [if_neg (by omega), formatStep, if_neg (by omega)]
    obtain ⟨throws, skipped, thrown⟩ | ⟨quiet, ⟨skipped, message, refused⟩ | ⟨item, taken, decoded⟩⟩ :=
      decodes_record split _ inside
    · rw [skipped, thrown]
      exact .inr ⟨rfl, ⟨_, rfl⟩, throws⟩
    · rw [skipped, refused]
      exact .inl ⟨rfl, fun _ => quiet⟩
    · rw [taken, decoded]
      exact .inl ⟨rfl, fun _ => quiet⟩
  · -- The record ends outside the vector, as the comparison finds.
    rw [if_pos (by omega), formatStep, if_pos (by omega)]
    exact .inl ⟨rfl, fun within => absurd within inside⟩

theorem fitsAt_of_keeps (split : bytes.data = front ++ rest) (more : rest ≠ [])
    (keeps : Keeps (iteration bytes (bytes.base + front.length))
      (formatStep (bytes.base + front.length) rest)) :
    FitsAt (bytes.base + front.length) rest := by
  have finish := finish_rest split
  have word := lengthWord_rest split
  have bound := finish_small bytes
  have some := List.length_pos_iff.mpr more
  have small : decode (rest.take 8) < 2 ^ 64 := word ▸ decode_bytesAt_lt bytes _
  -- What the format says is no read outside the vector.
  have reads : ReadsInside bytes (bytes.base + front.length) := by
    by_contra outside
    have stray := (iteration_outside_iff bytes _).mpr outside
    rw [stray] at keeps
    obtain same | ⟨thrown, _⟩ := keeps
    · exact formatStep_reads _ _ same.symm
    · cases thrown
  have whole := reads.2
  refine ⟨by omega, ?_⟩
  by_contra wraps
  -- The loop goes backwards where the format refuses the length.
  have refused : formatStep (bytes.base + front.length) rest =
      .refused "Item end is outside of allowed range" := if_pos (by omega)
  have next := iteration_next bytes (bytes.base + front.length)
  rw [refused] at keeps
  obtain same | ⟨_, _, other⟩ := keeps
  · rw [same, jump, word, if_pos] at next
    · cases next
    · exact ⟨by omega, whole, by omega, by omega⟩
  · cases other

end Step

section Walk
variable {bytes : Bytes}

theorem frame_of_inside (rest : List UInt8) (inside : 8 + decode (rest.take 8) ≤ rest.length) :
    rest = frame 8 ((rest.drop 8).take (decode (rest.take 8))) ++
      rest.drop (8 + decode (rest.take 8)) := by
  have total := body_length (decode (rest.take 8)) inside
  have eight : (rest.take 8).length = 8 := by
    simp only [List.length_take]
    omega
  have word : encode 8 (decode (rest.take 8)) = rest.take 8 := by
    have same := encode_decode (rest.take 8)
    rwa [eight] at same
  rw [frame, total, word, ← List.drop_drop, List.append_assoc, List.take_append_drop,
    List.take_append_drop]

theorem decode_frame (body rest : List UInt8) (small : body.length < 2 ^ 64) :
    decode ((frame 8 body ++ rest).take 8) = body.length := by
  have word : (frame 8 body ++ rest).take 8 = encode 8 body.length := by
    simp [frame]
  rw [word, decode_encode_of_lt 8 _ (by simpa using small)]

/-- The loop comes to the end of every front of whole records that do not throw. -/
theorem reached_of_passed (bodies : List (List UInt8)) (rest : List UInt8)
    (split : bytes.data = stream 8 bodies ++ rest) (passed : Passed bytes.base bodies) :
    Reached (fun place => (iteration bytes place).next) bytes.base
      (bytes.base + (stream 8 bodies).length) := by
  induction bodies using List.reverseRecOn generalizing rest with
  | nil => exact reached_start
  | append_singleton bodies body ih =>
      obtain ⟨earlier, quiet⟩ := passed_concat.mp passed
      have behind : bytes.data = stream 8 bodies ++ (frame 8 body ++ rest) := by
        rw [split, stream_append]
        simp
      have finish := finish_rest behind
      have bound := finish_small bytes
      simp only [List.length_append, frame_length] at finish
      have length := decode_frame body rest (by omega)
      have fits : FitsAt (bytes.base + (stream 8 bodies).length) (frame 8 body ++ rest) := by
        refine ⟨by simp; omega, ?_⟩
        rw [length]
        omega
      have same : ((frame 8 body ++ rest).drop 8).take body.length = body := by
        simp [frame]
      apply reached_next (ih _ behind earlier)
      obtain ⟨kept, _⟩ | ⟨_, _, throws⟩ := iteration_of_fitsAt behind fits
      · simp only [kept, formatStep, length, List.length_append, frame_length, stream_append,
          stream_cons, stream_nil, List.append_nil]
        rw [if_neg (by omega)]
        simp only [Iteration.next, Option.some.injEq]
        omega
      · rw [length, same] at throws
        exact absurd throws quiet

/-- In a payload that fits, the loop comes to no other place. -/
theorem front_of_reached (fits : Fits bytes) {place : Nat}
    (reached : Reached (fun place => (iteration bytes place).next) bytes.base place) :
    ∃ bodies rest, bytes.data = stream 8 bodies ++ rest ∧ Passed bytes.base bodies ∧
      place = bytes.base + (stream 8 bodies).length := by
  refine reached_induction (fun place => ∃ bodies rest, bytes.data = stream 8 bodies ++ rest ∧
    Passed bytes.base bodies ∧ place = bytes.base + (stream 8 bodies).length)
    ⟨[], bytes.data, rfl, fun front body back split => by simp at split, rfl⟩ ?_ reached
  rintro place further _ ⟨bodies, rest, split, passed, rfl⟩ taken
  by_cases more : rest = []
  · -- No iteration goes on from the end of the vector.
    have finish := finish_rest split
    rw [iteration_next] at taken
    have within := (jump_inside taken).2
    simp only [more, List.length_nil] at finish
    omega
  · obtain ⟨kept, quiet⟩ | ⟨thrown, _⟩ :=
      iteration_of_fitsAt split (fits bodies rest split more passed)
    · rw [kept, formatStep] at taken
      split at taken
      next => cases taken
      next inside =>
        have whole := frame_of_inside rest (by omega)
        refine ⟨bodies ++ [(rest.drop 8).take (decode (rest.take 8))],
          rest.drop (8 + decode (rest.take 8)), ?_,
          passed_concat.mpr ⟨passed, quiet (by omega)⟩, ?_⟩
        · rw [split, stream_append]
          simpa using whole
        · have total := body_length (decode (rest.take 8)) (show 8 + _ ≤ rest.length by omega)
          simp only [Iteration.next, Option.some.injEq] at taken
          simp only [stream_append, stream_cons, stream_nil, List.append_nil, List.length_append,
            frame_length, total]
          omega
    · rw [thrown] at taken
      cases taken

theorem fits_of_keepsFormat (keeps : KeepsFormat bytes) : Fits bytes := by
  intro bodies rest split more passed
  have finish := finish_rest split
  have some := List.length_pos_iff.mpr more
  obtain ⟨_, kept⟩ := keeps _ (reached_of_passed bodies rest split passed) (by omega)
  rw [drop_front split] at kept
  exact fitsAt_of_keeps split more kept

theorem keepsFormat_of_fits (fits : Fits bytes) : KeepsFormat bytes := by
  intro start reached within
  obtain ⟨bodies, rest, split, passed, rfl⟩ := front_of_reached fits reached
  have more : rest ≠ [] := by
    rintro rfl
    have finish := finish_rest split
    simp only [List.length_nil] at finish
    omega
  refine ⟨Nat.le_add_right _ _, ?_⟩
  rw [drop_front split]
  obtain ⟨kept, _⟩ | ⟨thrown, skipped, _⟩ :=
    iteration_of_fitsAt split (fits bodies rest split more passed)
  · exact .inl kept
  · exact .inr ⟨thrown, skipped⟩

theorem deserializeItems_ends_of_keeps (keeps : KeepsFormat bytes) :
    (deserializeItems bytes).Ends := by
  have same : (fun place => (iteration bytes place).next) = jump bytes :=
    funext (iteration_next bytes)
  unfold KeepsFormat at keeps
  rw [same] at keeps
  have forward : ¬ Returns (jump bytes) bytes.base := by
    apply not_returns_of_up
    intro place further reached taken
    obtain kept | ⟨thrown, _⟩ := (keeps place reached (jump_inside taken).2).2
    · rw [← iteration_next, kept, formatStep] at taken
      split at taken
      next => cases taken
      next =>
        simp only [Iteration.next, Option.some.injEq] at taken
        omega
    · rw [← iteration_next, thrown] at taken
      cases taken
  by_contra lost
  obtain ⟨place, reached, inside, outside⟩ :=
    outside_of_not_ends _ _ _ (deserializeItems_ends forward) lost
  have stray := (iteration_outside_iff bytes place).mpr outside
  obtain kept | ⟨thrown, _⟩ := (keeps place reached inside).2
  · exact formatStep_reads _ _ (kept.symm.trans stray)
  · rw [stray] at thrown
    cases thrown

end Walk
end SaneInTheMembrane.SessionFormat
