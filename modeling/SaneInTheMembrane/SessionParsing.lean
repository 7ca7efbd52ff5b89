import Mathlib.Order.Interval.Finset.Nat
import SaneInTheMembrane.PartialIteration
import SaneInTheMembrane.SessionCodec

/-!
`CImageView::deserialize_items` as a walk over the addresses of its vector: what
one iteration does, and that the loop ends exactly when the walk does not come
back to an address it has been at. An addition wraps at 2^64, so a length close
to 2^64 leads backwards.
-/

namespace SaneInTheMembrane.SessionParsing

open ImageContainer LittleEndian SessionCodec PartialIteration

section Record

def bytesAt (bytes : Bytes) (address n : Nat) : List UInt8 :=
  (bytes.data.drop (address - bytes.base)).take n

def pathSizeAt (bytes : Bytes) (record : Nat) : Nat := decode (bytesAt bytes (record + 80) 8)

variable {bytes : Bytes} {start finish : Nat}

theorem read_inside (n : Nat) (low : bytes.base ≤ start) (high : start + n ≤ bytes.finish) :
    bytes.read start n = some (bytesAt bytes start n) := by
  simp [Bytes.read, bytesAt, low, high]

theorem finish_small (bytes : Bytes) : bytes.finish < 2 ^ 63 := bytes.inMemory

theorem pointerAdd_wraps (pointer n : Nat) (wraps : 2 ^ 64 ≤ pointer + n)
    (word : n < 2 ^ 64) : pointerAdd pointer n < pointer := by
  unfold pointerAdd
  omega

theorem decode_bytesAt_lt (bytes : Bytes) (address : Nat) :
    decode (bytesAt bytes address 8) < 2 ^ 64 := by
  have short : (bytesAt bytes address 8).length ≤ 8 := by
    simp only [bytesAt, List.length_take]
    exact Nat.min_le_left _ _
  calc decode (bytesAt bytes address 8)
      < 256 ^ (bytesAt bytes address 8).length := decode_lt _
    _ ≤ 256 ^ 8 := Nat.pow_le_pow_right (by decide) short
    _ = 2 ^ 64 := by decide

/-- The address behind the path of the record wraps, and the check lets it pass. -/
def PathWraps (bytes : Bytes) (record : Nat) : Prop :=
  2 ^ 64 ≤ record + 88 + pathSizeAt bytes record

instance (record : Nat) : Decidable (PathWraps bytes record) :=
  inferInstanceAs (Decidable (_ ≤ _))

theorem deserialize_short (low : bytes.base ≤ start) (high : finish ≤ bytes.finish)
    (inside : start ≤ bytes.finish) (short : finish < start + 88) :
    ∃ message, SImageItemSerialized.deserialize bytes start finish = .nullopt message := by
  have bound := finish_small bytes
  unfold SImageItemSerialized.deserialize
  rw [pointerAdd_of_lt start 72 (by omega)]
  by_cases matrix : finish < start + 72
  · exact ⟨_, if_pos matrix⟩
  rw [if_neg matrix, read_inside 72 low (by omega), Option.elim_some]
  dsimp only
  rw [pointerAdd_of_lt (start + 72) 8 (by omega)]
  by_cases page : finish < start + 72 + 8
  · exact ⟨_, if_pos page⟩
  rw [if_neg page, read_inside 8 (by omega) (by omega), Option.elim_some,
    pointerAdd_of_lt (start + 72 + 8) 8 (by omega)]
  exact ⟨_, if_pos short⟩

theorem deserialize_long (low : bytes.base ≤ start) (high : finish ≤ bytes.finish)
    (long : start + 88 ≤ finish) :
    SImageItemSerialized.deserialize bytes start finish =
      if finish < pointerAdd (start + 88) (pathSizeAt bytes start) then
        .nullopt "Provided bytes cannot be converted into path"
      else if stringMaxSize < pathSizeAt bytes start then .lengthError
      else (bytes.read (start + 88) (pathSizeAt bytes start)).elim .outOfBounds fun path =>
        .item ⟨matrixOfBytes (bytesAt bytes start 72),
          wordOfBytes (bytesAt bytes (start + 72) 8), path⟩ := by
  have bound := finish_small bytes
  unfold SImageItemSerialized.deserialize
  rw [pointerAdd_of_lt start 72 (by omega), if_neg (by omega),
    read_inside 72 low (by omega), Option.elim_some]
  dsimp only
  rw [pointerAdd_of_lt (start + 72) 8 (by omega), if_neg (by omega),
    read_inside 8 (by omega) (by omega), Option.elim_some,
    pointerAdd_of_lt (start + 72 + 8) 8 (by omega), if_neg (by omega),
    read_inside 8 (by omega) (by omega), Option.elim_some]
  rfl

theorem deserialize_refused (low : bytes.base ≤ start) (high : finish ≤ bytes.finish)
    (inside : start ≤ bytes.finish)
    (short : finish < start + 88 ∨
      ¬ PathWraps bytes start ∧ finish < start + 88 + pathSizeAt bytes start) :
    ∃ message, SImageItemSerialized.deserialize bytes start finish = .nullopt message := by
  by_cases fixed : finish < start + 88
  · exact deserialize_short low high inside fixed
  · rcases short with without | ⟨fits, beyond⟩
    · exact absurd without fixed
    · have path : start + 88 + pathSizeAt bytes start < 2 ^ 64 := Nat.lt_of_not_le fits
      rw [deserialize_long low high (by omega), pointerAdd_of_lt _ _ path]
      exact ⟨_, if_pos beyond⟩

theorem deserialize_wraps (low : bytes.base ≤ start) (high : finish ≤ bytes.finish)
    (long : start + 88 ≤ finish) (wraps : PathWraps bytes start) :
    SImageItemSerialized.deserialize bytes start finish = .lengthError := by
  have bound := finish_small bytes
  have wrapped := pointerAdd_wraps (start + 88) (pathSizeAt bytes start) wraps
    (decode_bytesAt_lt bytes (start + 80))
  have huge : stringMaxSize < pathSizeAt bytes start := by
    unfold PathWraps at wraps
    unfold stringMaxSize
    omega
  rw [deserialize_long low high long, if_neg (by omega), if_pos huge]

theorem deserialize_accepts (low : bytes.base ≤ start) (high : finish ≤ bytes.finish)
    (path : start + 88 + pathSizeAt bytes start ≤ finish) :
    SImageItemSerialized.deserialize bytes start finish =
      .item ⟨matrixOfBytes (bytesAt bytes start 72),
        wordOfBytes (bytesAt bytes (start + 72) 8),
        bytesAt bytes (start + 88) (pathSizeAt bytes start)⟩ := by
  have bound := finish_small bytes
  have short : ¬ stringMaxSize < pathSizeAt bytes start := by
    unfold stringMaxSize
    omega
  rw [deserialize_long low high (by omega), pointerAdd_of_lt _ _ (by omega),
    if_neg (by omega), if_neg short, read_inside _ (by omega) (by omega)]
  rfl

/-- On a range inside the vector nothing is read outside it. -/
theorem deserialize_cases (low : bytes.base ≤ start) (high : finish ≤ bytes.finish)
    (inside : start ≤ bytes.finish) :
    (start + 88 ≤ finish ∧ PathWraps bytes start ∧
      SImageItemSerialized.deserialize bytes start finish = .lengthError) ∨
    ¬ (start + 88 ≤ finish ∧ PathWraps bytes start) ∧
      ((∃ message, SImageItemSerialized.deserialize bytes start finish = .nullopt message) ∨
        ∃ item, SImageItemSerialized.deserialize bytes start finish = .item item) := by
  by_cases throws : start + 88 ≤ finish ∧ PathWraps bytes start
  · exact .inl ⟨throws.1, throws.2, deserialize_wraps low high throws.1 throws.2⟩
  · refine .inr ⟨throws, ?_⟩
    by_cases path : start + 88 + pathSizeAt bytes start ≤ finish
    · exact .inr ⟨_, deserialize_accepts low high path⟩
    · left
      apply deserialize_refused low high inside
      by_cases fixed : finish < start + 88
      · exact .inl fixed
      · exact .inr ⟨fun wraps => throws ⟨by omega, wraps⟩, by omega⟩

end Record

section Loop

/-- How an iteration of the `while` loop ends: the payload is refused, or a record
is taken or skipped and the loop goes on behind it, or throws. -/
inductive Iteration where
  | refused (message : String)
  | record (item : Option SImageItemSerialized) (next : Nat)
  | outOfBounds
  | lengthError
  deriving DecidableEq, Repr

def iteration (bytes : Bytes) (start : Nat) : Iteration :=
  match bytes.read start 8 with
  | none => .outOfBounds
  | some lengthWord =>
      let itemStart := pointerAdd start 8
      let itemEnd := pointerAdd itemStart (decode lengthWord)
      if bytes.finish < itemEnd then .refused "Item end is outside of allowed range"
      else
        match SImageItemSerialized.deserialize bytes itemStart itemEnd with
        | .outOfBounds => .outOfBounds
        | .lengthError => .lengthError
        | .item item => .record (some item) itemEnd
        | .nullopt _ => .record none itemEnd

variable {bytes : Bytes} {start : Nat}

theorem loop_iteration (fuel : Nat) (items : List SImageItemSerialized)
    (within : start < bytes.finish) :
    deserializeLoop bytes (fuel + 1) start items =
      match iteration bytes start with
      | .refused message => .done (.error message)
      | .record item next => deserializeLoop bytes fuel next (items ++ item.toList)
      | .outOfBounds => .outOfBounds
      | .lengthError => .lengthError := by
  simp only [deserializeLoop, within, ↓reduceIte, iteration]
  cases bytes.read start 8 with
  | none => rfl
  | some lengthWord =>
      by_cases past : bytes.finish < pointerAdd (pointerAdd start 8) (decode lengthWord)
      · simp [past]
      · simp only [past, ↓reduceIte]
        cases SImageItemSerialized.deserialize bytes (pointerAdd start 8)
            (pointerAdd (pointerAdd start 8) (decode lengthWord)) with
        | item item => rfl
        | nullopt message => simp
        | outOfBounds | lengthError => rfl

def Iteration.next : Iteration → Option Nat
  | .record _ next => some next
  | .refused _ | .outOfBounds | .lengthError => none

/-- Where an iteration that goes on leads: the length word is in the vector, the record ends
inside it as far as the comparison can tell, and its path does not throw. -/
def jump (bytes : Bytes) (start : Nat) : Option Nat :=
  let lengthWord := decode (bytesAt bytes start 8)
  let next := (start + 8 + lengthWord) % 2 ^ 64
  if bytes.base ≤ start ∧ start + 8 ≤ bytes.finish ∧ next ≤ bytes.finish ∧
      ¬ (start + 8 + 88 ≤ next ∧ PathWraps bytes (start + 8)) then some next
  else none

/-- The length word at this address lies in the vector. -/
def ReadsInside (bytes : Bytes) (start : Nat) : Prop :=
  bytes.base ≤ start ∧ start + 8 ≤ bytes.finish

theorem iteration_of_word (low : bytes.base ≤ start) (high : start + 8 ≤ bytes.finish) :
    iteration bytes start =
      let next := (start + 8 + decode (bytesAt bytes start 8)) % 2 ^ 64
      if bytes.finish < next then .refused "Item end is outside of allowed range"
      else
        match SImageItemSerialized.deserialize bytes (start + 8) next with
        | .outOfBounds => .outOfBounds
        | .lengthError => .lengthError
        | .item item => .record (some item) next
        | .nullopt _ => .record none next := by
  have bound := finish_small bytes
  simp only [iteration, read_inside 8 low high]
  rw [pointerAdd_of_lt start 8 (by omega)]
  rfl

theorem iteration_of_cut (cut : ¬ (bytes.base ≤ start ∧ start + 8 ≤ bytes.finish)) :
    iteration bytes start = .outOfBounds := by
  have unread : bytes.read start 8 = none := if_neg cut
  simp only [iteration, unread]

theorem iteration_outside_iff (bytes : Bytes) (start : Nat) :
    iteration bytes start = .outOfBounds ↔ ¬ ReadsInside bytes start := by
  by_cases inside : bytes.base ≤ start ∧ start + 8 ≤ bytes.finish
  · rw [iteration_of_word inside.1 inside.2]
    generalize (start + 8 + decode (bytesAt bytes start 8)) % 2 ^ 64 = next
    have reads : ReadsInside bytes start := inside
    by_cases past : bytes.finish < next
    · simp [past, reads]
    · have low : bytes.base ≤ start + 8 := Nat.le_add_right_of_le inside.1
      obtain ⟨_, _, throws⟩ | ⟨_, ⟨_, refused⟩ | ⟨_, taken⟩⟩ :=
        deserialize_cases low (Nat.le_of_not_lt past) inside.2
      · simp [past, throws, reads]
      · simp [past, refused, reads]
      · simp [past, taken, reads]
  · exact iff_of_true (iteration_of_cut inside) inside

theorem iteration_next (bytes : Bytes) (start : Nat) :
    (iteration bytes start).next = jump bytes start := by
  by_cases inside : bytes.base ≤ start ∧ start + 8 ≤ bytes.finish
  · rw [iteration_of_word inside.1 inside.2]
    simp only [jump, inside, true_and]
    generalize (start + 8 + decode (bytesAt bytes start 8)) % 2 ^ 64 = next
    by_cases past : bytes.finish < next
    · simp [past, Nat.not_le.mpr past, Iteration.next]
    · have low : bytes.base ≤ start + 8 := Nat.le_add_right_of_le inside.1
      have within : next ≤ bytes.finish := Nat.le_of_not_lt past
      obtain ⟨long, wraps, throws⟩ | ⟨straight, ⟨_, refused⟩ | ⟨_, taken⟩⟩ :=
        deserialize_cases low within inside.2
      · simp [past, throws, long, wraps, Iteration.next]
      · simp [past, refused, within, straight, Iteration.next]
      · simp [past, taken, within, straight, Iteration.next]
  · have stuck : jump bytes start = none := if_neg fun found => inside ⟨found.1, found.2.1⟩
    rw [iteration_of_cut inside, stuck]
    rfl

end Loop

section Termination
variable {bytes : Bytes}

theorem jump_inside {start next : Nat} (taken : jump bytes start = some next) :
    bytes.base ≤ start ∧ start < bytes.finish := by
  simp only [jump] at taken
  split at taken
  next found => omega
  next => cases taken

theorem loop_running_iff (fuel start : Nat) (items : List SImageItemSerialized) :
    deserializeLoop bytes fuel start items = .running ↔
      ∃ place, after (jump bytes) fuel start = some place ∧ place < bytes.finish := by
  induction fuel generalizing start items with
  | zero =>
      simp only [deserializeLoop, after_zero, Option.some.injEq, exists_eq_left']
      split <;> simp [*]
  | succ fuel ih =>
      by_cases within : start < bytes.finish
      · rw [loop_iteration fuel items within]
        have next := iteration_next bytes start
        cases taken : iteration bytes start with
        | record item further =>
            rw [taken] at next
            rw [after_first fuel next.symm]
            exact ih further _
        | refused message | outOfBounds | lengthError =>
            rw [taken] at next
            simp [after_ended fuel next.symm]
      · rw [loop_finished bytes (fuel + 1) start items (Nat.le_of_not_lt within)]
        have stuck : jump bytes start = none := by
          cases taken : jump bytes start with
          | none => rfl
          | some next => exact absurd (jump_inside taken).2 within
        simp [after_ended fuel stuck]

theorem running_of_returns (returns : Returns (jump bytes) bytes.base) (fuel : Nat) :
    deserializeLoop bytes fuel bytes.base [] = .running := by
  rw [loop_running_iff]
  obtain ⟨further, later⟩ := endless_of_returns returns (fuel + 1)
  rw [after_succ] at later
  obtain ⟨place, there, taken⟩ := Option.bind_eq_some_iff.mp later
  exact ⟨place, there, (jump_inside taken).2⟩

/-- One iteration for every byte is enough for a walk that does not come back. -/
theorem deserializeItems_ends (forward : ¬ Returns (jump bytes) bytes.base) :
    deserializeItems bytes ≠ .running := by
  intro running
  obtain ⟨place, there, _⟩ := (loop_running_iff _ _ _).mp running
  have places : (Finset.Ico bytes.base bytes.finish).card = bytes.data.length := by
    simp [Bytes.finish]
  apply forward
  apply returns_of_long (Finset.Ico bytes.base bytes.finish)
  · intro address next taken
    exact Finset.mem_Ico.mpr (jump_inside taken)
  · rw [places]
    exact there

theorem outside_of_not_ends (fuel start : Nat) (items : List SImageItemSerialized)
    (stopped : deserializeLoop bytes fuel start items ≠ .running)
    (lost : ¬ (deserializeLoop bytes fuel start items).Ends) :
    ∃ place, Reached (jump bytes) start place ∧ place < bytes.finish ∧
      ¬ ReadsInside bytes place := by
  induction fuel generalizing start items with
  | zero =>
      simp only [deserializeLoop] at stopped lost
      split at stopped
      next within => exact absurd rfl stopped
      next passed => exact absurd (by simp [passed, Outcome.Ends]) lost
  | succ fuel ih =>
      by_cases within : start < bytes.finish
      · rw [loop_iteration fuel items within] at stopped lost
        have next := iteration_next bytes start
        cases taken : iteration bytes start with
        | outOfBounds =>
            exact ⟨start, reached_start, within, (iteration_outside_iff bytes start).mp taken⟩
        | refused message | lengthError =>
            rw [taken] at lost
            exact absurd trivial lost
        | record item further =>
            rw [taken] at next stopped lost
            obtain ⟨place, ⟨steps, there⟩, inside, outside⟩ := ih further _ stopped lost
            exact ⟨place, ⟨steps + 1, (after_succ_iff steps).mpr ⟨further, next.symm, there⟩⟩,
              inside, outside⟩
      · rw [loop_finished bytes (fuel + 1) start items (Nat.le_of_not_lt within)] at lost
        exact absurd trivial lost

theorem not_ends_of_outside (steps start place : Nat)
    (there : after (jump bytes) steps start = some place) (inside : place < bytes.finish)
    (outside : ¬ ReadsInside bytes place) (fuel : Nat) (items : List SImageItemSerialized) :
    ¬ (deserializeLoop bytes fuel start items).Ends := by
  induction steps generalizing start fuel items with
  | zero =>
      cases there
      cases fuel with
      | zero => simp [deserializeLoop, inside, Outcome.Ends]
      | succ fuel =>
          rw [loop_iteration fuel items inside, (iteration_outside_iff bytes place).mpr outside]
          exact id
  | succ steps ih =>
      obtain ⟨second, taken, later⟩ := (after_succ_iff steps).mp there
      have within := (jump_inside taken).2
      cases fuel with
      | zero => simp [deserializeLoop, within, Outcome.Ends]
      | succ fuel =>
          have next := iteration_next bytes start
          rw [loop_iteration fuel items within]
          cases shape : iteration bytes start with
          | record item further =>
              rw [shape, taken] at next
              cases next
              exact ih second later fuel _
          | refused message | outOfBounds | lengthError =>
              rw [shape, taken] at next
              cases next

/-- The loop ends exactly when the walk over the length words does not come back to an
address it has been at, and reads inside the vector. -/
theorem loop_ends_iff (bytes : Bytes) :
    (∃ fuel, (deserializeLoop bytes fuel bytes.base []).Ends) ↔
      ¬ Returns (jump bytes) bytes.base ∧
        ∀ place, Reached (jump bytes) bytes.base place → place < bytes.finish →
          ReadsInside bytes place := by
  constructor
  · rintro ⟨fuel, ended⟩
    constructor
    · intro returns
      rw [running_of_returns returns fuel] at ended
      exact ended
    · rintro place ⟨steps, there⟩ inside
      by_contra outside
      exact not_ends_of_outside steps bytes.base place there inside outside fuel [] ended
  · rintro ⟨forward, reads⟩
    refine ⟨bytes.data.length + 1, ?_⟩
    by_contra lost
    obtain ⟨place, reached, inside, outside⟩ :=
      outside_of_not_ends _ _ _ (deserializeItems_ends forward) lost
    exact outside (reads place reached inside)

/-- A length of 2^64 - 8 leads back to its own address. -/
theorem length_back_to_itself_loops :
    let bytes : Bytes := ⟨4096, encode 8 (2 ^ 64 - 8), by simp⟩
    ∀ fuel, deserializeLoop bytes fuel bytes.base [] = .running := by
  intro bytes
  apply running_of_returns
  refine ⟨4096, reached_start, 1, Nat.one_pos, ?_⟩
  decide +kernel

end Termination
end SaneInTheMembrane.SessionParsing
