import SaneInTheMembrane.ImageContainer
import SaneInTheMembrane.LengthFraming

/-!
Ui/ImageView.cpp, the bytes of a session: `SImageItemSerialized` and
`CImageView::serialize_items` / `deserialize_items`. The decoder runs on the
addresses of a `std::vector` in memory; an addition to a pointer wraps at 2^64.
A read of a byte outside the vector has no defined result.
-/

namespace SaneInTheMembrane.SessionCodec

open ImageContainer LittleEndian LengthFraming

/-- A `qreal` as its object representation. -/
abbrev Word := UInt64

structure SImageItemSerialized where
  transformMatrix : SQtMatrix Word
  pageNumber : Word
  path : Path
  deriving DecidableEq, Repr

def wordBytes (word : Word) : List UInt8 := encode 8 word.toNat

def wordOfBytes (bytes : List UInt8) : Word := UInt64.ofNat (decode bytes)

def matrixBytes (matrix : SQtMatrix Word) : List UInt8 :=
  wordBytes matrix.m11 ++ wordBytes matrix.m12 ++ wordBytes matrix.m13 ++
  wordBytes matrix.m21 ++ wordBytes matrix.m22 ++ wordBytes matrix.m23 ++
  wordBytes matrix.m31 ++ wordBytes matrix.m32 ++ wordBytes matrix.m33

def matrixOfBytes (bytes : List UInt8) : SQtMatrix Word :=
  let word (index : Nat) := wordOfBytes ((bytes.drop (8 * index)).take 8)
  ⟨word 0, word 1, word 2, word 3, word 4, word 5, word 6, word 7, word 8⟩

namespace SImageItemSerialized

def ofItem (item : CImageItem Word) : SImageItemSerialized where
  transformMatrix := item.transform
  pageNumber := UInt64.ofNat item.pageNumber
  path := item.path

def serialize (item : SImageItemSerialized) : List UInt8 :=
  matrixBytes item.transformMatrix ++ wordBytes item.pageNumber ++
    encode 8 item.path.length ++ item.path

end SImageItemSerialized

/-- A `std::vector<std::uint8_t>` of a 64-bit process: its storage lies in the
lower half of the address space, as does all memory of user programs. -/
structure Bytes where
  base : Nat
  data : List UInt8
  inMemory : base + data.length < 2 ^ 63

def pointerAdd (pointer n : Nat) : Nat := (pointer + n) % 2 ^ 64

namespace Bytes

def finish (bytes : Bytes) : Nat := bytes.base + bytes.data.length

def read (bytes : Bytes) (pointer n : Nat) : Option (List UInt8) :=
  if bytes.base ≤ pointer ∧ pointer + n ≤ bytes.finish then
    some ((bytes.data.drop (pointer - bytes.base)).take n)
  else none

end Bytes

/-- How `deserialize` ends: with an item, with a `std::nullopt` whose text is logged, with
a read outside the vector, or with the `std::length_error` of a string. -/
inductive Decoded where
  | item (item : SImageItemSerialized)
  | nullopt (message : String)
  | outOfBounds
  | lengthError
  deriving DecidableEq, Repr

-- No string of a 64-bit process can be longer.
def stringMaxSize : Nat := 2 ^ 63 - 1

def SImageItemSerialized.deserialize (bytes : Bytes) (start finish : Nat) : Decoded :=
  if finish < pointerAdd start 72 then
    .nullopt "Provided bytes cannot be converted into transform_matrix"
  else (bytes.read start 72).elim .outOfBounds fun matrix =>
    let start := pointerAdd start 72
    if finish < pointerAdd start 8 then
      .nullopt "Provided bytes cannot be converted into page_number"
    else (bytes.read start 8).elim .outOfBounds fun page =>
      let start := pointerAdd start 8
      if finish < pointerAdd start 8 then
        .nullopt "Provided bytes cannot be converted into path_size"
      else (bytes.read start 8).elim .outOfBounds fun size =>
        let pathSize := decode size
        let start := pointerAdd start 8
        if finish < pointerAdd start pathSize then
          .nullopt "Provided bytes cannot be converted into path"
        -- `assign` looks at the size before it reads.
        else if stringMaxSize < pathSize then .lengthError
        else (bytes.read start pathSize).elim .outOfBounds fun path =>
          .item ⟨matrixOfBytes matrix, wordOfBytes page, path⟩

def serializeItems (items : List SImageItemSerialized) : List UInt8 :=
  items.foldl (fun data item => data ++ encode 8 item.serialize.length ++ item.serialize) []

/-- How a decoding ends: with a value, with a read outside the vector, with an exception of
the decoder or for want of memory, or not within the iterations granted. -/
inductive Outcome (Value : Type) where
  | done (value : Value)
  | outOfBounds
  | lengthError
  | outOfMemory
  | running
  deriving DecidableEq, Repr

def Outcome.Ends {Value : Type} : Outcome Value → Prop
  | .done _ | .lengthError => True
  | .outOfBounds | .outOfMemory | .running => False

/-- The `while` loop of `deserialize_items`; `fuel` bounds its iterations. -/
def deserializeLoop (bytes : Bytes) :
    Nat → Nat → List SImageItemSerialized →
      Outcome (Except String (List SImageItemSerialized))
  | 0, start, items => if start < bytes.finish then .running else .done (.ok items)
  | fuel + 1, start, items =>
      if start < bytes.finish then
        match bytes.read start 8 with
        | none => .outOfBounds
        | some lengthWord =>
            let itemStart := pointerAdd start 8
            let itemEnd := pointerAdd itemStart (decode lengthWord)
            if bytes.finish < itemEnd then
              .done (.error "Item end is outside of allowed range")
            else
              match SImageItemSerialized.deserialize bytes itemStart itemEnd with
              | .outOfBounds => .outOfBounds
              | .lengthError => .lengthError
              | .item item => deserializeLoop bytes fuel itemEnd (items ++ [item])
              -- An item that does not decode is skipped.
              | .nullopt _ => deserializeLoop bytes fuel itemEnd items
      else .done (.ok items)

/-- An iteration for every byte: a loop that has made more has come back to an
address it has been at. -/
def deserializeItems (bytes : Bytes) : Outcome (Except String (List SImageItemSerialized)) :=
  deserializeLoop bytes (bytes.data.length + 1) bytes.base []

section Words

theorem word_survives (word : Word) : wordOfBytes (wordBytes word) = word := by
  unfold wordOfBytes wordBytes
  rw [decode_encode_of_lt 8 _ word.toNat_lt]
  exact UInt64.ofNat_toNat

@[simp] theorem wordBytes_length (word : Word) : (wordBytes word).length = 8 := by
  simp [wordBytes]

@[simp] theorem matrixBytes_length (matrix : SQtMatrix Word) :
    (matrixBytes matrix).length = 72 := by
  simp [matrixBytes]

theorem matrix_survives (matrix : SQtMatrix Word) :
    matrixOfBytes (matrixBytes matrix) = matrix := by
  simp [matrixOfBytes, matrixBytes, List.drop_append, List.drop_of_length_le,
    List.take_of_length_le, word_survives]

theorem serialize_length (item : SImageItemSerialized) :
    item.serialize.length = 88 + item.path.length := by
  simp only [SImageItemSerialized.serialize, List.length_append, matrixBytes_length,
    wordBytes_length, encode_length]

theorem serializeItems_stream (items : List SImageItemSerialized) :
    serializeItems items = stream 8 (items.map SImageItemSerialized.serialize) := by
  have loop (data : List UInt8) :
      items.foldl (fun data item => data ++ encode 8 item.serialize.length ++ item.serialize)
        data = data ++ stream 8 (items.map SImageItemSerialized.serialize) := by
    induction items generalizing data with
    | nil => simp
    | cons item rest ih =>
        rw [List.foldl_cons, ih]
        simp [frame]
  rw [serializeItems, loop, List.nil_append]

end Words

section Reading

theorem pointerAdd_of_lt (pointer n : Nat) (fits : pointer + n < 2 ^ 64) :
    pointerAdd pointer n = pointer + n := Nat.mod_eq_of_lt fits

theorem read_at (bytes : Bytes) (front body back : List UInt8)
    (split : bytes.data = front ++ body ++ back) :
    bytes.read (bytes.base + front.length) body.length = some body := by
  have inside : bytes.base + front.length + body.length ≤ bytes.finish := by
    simp only [Bytes.finish, split, List.length_append]
    omega
  simp [Bytes.read, inside, split]

theorem deserialize_item (bytes : Bytes) (front back : List UInt8)
    (item : SImageItemSerialized) (split : bytes.data = front ++ item.serialize ++ back) :
    SImageItemSerialized.deserialize bytes (bytes.base + front.length)
      (bytes.base + front.length + item.serialize.length) = .item item := by
  have bound := bytes.inMemory
  have total : bytes.data.length = front.length + (88 + item.path.length) + back.length := by
    simp only [split, List.length_append, serialize_length]
  have matrixRead := read_at bytes front (matrixBytes item.transformMatrix)
    (wordBytes item.pageNumber ++ encode 8 item.path.length ++ item.path ++ back)
    (by simp [split, SImageItemSerialized.serialize])
  have pageRead := read_at bytes (front ++ matrixBytes item.transformMatrix)
    (wordBytes item.pageNumber) (encode 8 item.path.length ++ item.path ++ back)
    (by simp [split, SImageItemSerialized.serialize])
  have sizeRead := read_at bytes
    (front ++ matrixBytes item.transformMatrix ++ wordBytes item.pageNumber)
    (encode 8 item.path.length) (item.path ++ back)
    (by simp [split, SImageItemSerialized.serialize])
  have pathRead := read_at bytes (front ++ matrixBytes item.transformMatrix ++
    wordBytes item.pageNumber ++ encode 8 item.path.length) item.path back
    (by simp [split, SImageItemSerialized.serialize])
  simp only [List.length_append, matrixBytes_length, wordBytes_length, encode_length,
    ← Nat.add_assoc] at matrixRead pageRead sizeRead pathRead
  have size : decode (encode 8 item.path.length) = item.path.length :=
    decode_encode_of_lt 8 _ (by omega)
  unfold SImageItemSerialized.deserialize
  rw [serialize_length]
  -- The four fields in turn: the bound holds, the bytes are there, the pointer moves on.
  rw [if_neg (by rw [pointerAdd_of_lt _ _ (by omega)]; omega), matrixRead, Option.elim_some,
    pointerAdd_of_lt (bytes.base + front.length) 72 (by omega)]
  dsimp only
  rw [if_neg (by rw [pointerAdd_of_lt _ _ (by omega)]; omega), pageRead, Option.elim_some,
    pointerAdd_of_lt (bytes.base + front.length + 72) 8 (by omega)]
  rw [if_neg (by rw [pointerAdd_of_lt _ _ (by omega)]; omega), sizeRead, Option.elim_some,
    pointerAdd_of_lt (bytes.base + front.length + 72 + 8) 8 (by omega), size]
  rw [if_neg (by rw [pointerAdd_of_lt _ _ (by omega)]; omega),
    if_neg (by unfold stringMaxSize; omega), pathRead, Option.elim_some, matrix_survives,
    word_survives]

end Reading

section Loop

theorem loop_finished (bytes : Bytes) (fuel start : Nat) (items : List SImageItemSerialized)
    (passed : bytes.finish ≤ start) :
    deserializeLoop bytes fuel start items = .done (.ok items) := by
  have stop : ¬ start < bytes.finish := Nat.not_lt.mpr passed
  cases fuel <;> simp [deserializeLoop, stop]

theorem loop_item (bytes : Bytes) (front back : List UInt8) (item : SImageItemSerialized)
    (fuel : Nat) (items : List SImageItemSerialized)
    (split : bytes.data = front ++ frame 8 item.serialize ++ back) :
    deserializeLoop bytes (fuel + 1) (bytes.base + front.length) items =
      deserializeLoop bytes fuel
        (bytes.base + (front ++ frame 8 item.serialize).length) (items ++ [item]) := by
  have bound := bytes.inMemory
  have total : bytes.data.length =
      front.length + (8 + item.serialize.length) + back.length := by
    simp only [split, List.length_append, frame_length]
  have lengthRead := read_at bytes front (encode 8 item.serialize.length)
    (item.serialize ++ back) (by simp [split, frame])
  have item_ok := deserialize_item bytes (front ++ encode 8 item.serialize.length) back item
    (by simp [split, frame])
  simp only [List.length_append, encode_length, ← Nat.add_assoc] at lengthRead item_ok
  have size : decode (encode 8 item.serialize.length) = item.serialize.length :=
    decode_encode_of_lt 8 _ (by omega)
  have within : bytes.base + front.length < bytes.finish := by
    simp only [Bytes.finish]
    omega
  have itemEnd : ¬ bytes.finish < bytes.base + front.length + 8 + item.serialize.length := by
    simp only [Bytes.finish]
    omega
  simp only [deserializeLoop, within, ↓reduceIte, lengthRead, size,
    pointerAdd_of_lt (bytes.base + front.length) 8 (by omega),
    pointerAdd_of_lt (bytes.base + front.length + 8) item.serialize.length (by omega),
    itemEnd, item_ok, List.length_append, frame_length, ← Nat.add_assoc]

theorem loop_stream (bytes : Bytes) (front back : List UInt8)
    (items decoded : List SImageItemSerialized) (fuel : Nat)
    (split : bytes.data = front ++ serializeItems items ++ back) :
    deserializeLoop bytes (items.length + fuel) (bytes.base + front.length) decoded =
      deserializeLoop bytes fuel
        (bytes.base + (front ++ serializeItems items).length) (decoded ++ items) := by
  rw [serializeItems_stream] at split ⊢
  induction items generalizing front decoded with
  | nil => simp
  | cons item rest ih =>
      have step := loop_item bytes front
        (stream 8 (rest.map SImageItemSerialized.serialize) ++ back) item
        (rest.length + fuel) decoded (by simp [split])
      have tail := ih (front ++ frame 8 item.serialize) (decoded ++ [item]) (by simp [split])
      have count : (item :: rest).length + fuel = rest.length + fuel + 1 := by
        simp only [List.length_cons]
        omega
      rw [count, step, tail]
      simp

theorem serializeItems_take_le (items : List SImageItemSerialized) (count : Nat) :
    (serializeItems (items.take count)).length ≤ (serializeItems items).length := by
  simpa [serializeItems_stream] using
    stream_take_le 8 (items.map SImageItemSerialized.serialize) count

theorem serializeItems_cut (items : List SImageItemSerialized) (cut : Nat)
    (inside : cut ≤ (serializeItems items).length) :
    (∃ count ≤ items.length,
      (serializeItems items).take cut = serializeItems (items.take count)) ∨
    ∃ count body part, 0 < part ∧ part < (frame 8 body).length ∧
      (frame 8 body).length ≤ (serializeItems items).length ∧
      (serializeItems items).take cut =
        serializeItems (items.take count) ++ (frame 8 body).take part := by
  simp only [serializeItems_stream, List.map_take] at inside ⊢
  rcases stream_cut _ cut inside with ⟨count, within, _, taken⟩ | torn
  · exact Or.inl ⟨count, by simpa using within, taken⟩
  · obtain ⟨count, body, rest, part, parts, positive, proper, _, taken⟩ := torn
    refine Or.inr ⟨count, body, part, positive, proper, ?_, taken⟩
    conv => rhs; rw [parts, stream_append, stream_cons]
    simp only [List.length_append]
    omega

theorem items_le_bytes (items : List SImageItemSerialized) :
    8 * items.length ≤ (serializeItems items).length := by
  rw [serializeItems_stream]
  simpa using stream_length_ge 8 (items.map SImageItemSerialized.serialize)

theorem deserializeItems_prefix (bytes : Bytes) (items : List SImageItemSerialized)
    (back : List UInt8) (split : bytes.data = serializeItems items ++ back) :
    ∃ fuel, deserializeItems bytes = deserializeLoop bytes (fuel + 1)
      (bytes.base + (serializeItems items).length) items := by
  have count := items_le_bytes items
  have total : bytes.data.length = (serializeItems items).length + back.length := by
    simp [split]
  have enough : bytes.data.length + 1 =
      items.length + (bytes.data.length - items.length + 1) := by
    omega
  refine ⟨bytes.data.length - items.length, ?_⟩
  unfold deserializeItems
  rw [enough]
  simpa using loop_stream bytes [] back items [] _ (by simpa using split)

/-- Decoding what was encoded gives the items back, in order. -/
theorem deserializeItems_serializeItems (bytes : Bytes) (items : List SImageItemSerialized)
    (encoded : bytes.data = serializeItems items) :
    deserializeItems bytes = .done (.ok items) := by
  obtain ⟨fuel, whole⟩ := deserializeItems_prefix bytes items [] (by simpa using encoded)
  rw [whole]
  apply loop_finished
  simp [Bytes.finish, encoded]

/-- A length word that is cut is read past the end. -/
theorem deserializeItems_torn_length (bytes : Bytes) (items : List SImageItemSerialized)
    (torn : List UInt8) (some : torn ≠ []) (short : torn.length < 8)
    (split : bytes.data = serializeItems items ++ torn) :
    deserializeItems bytes = .outOfBounds := by
  have positive := List.length_pos_iff.mpr some
  have total : bytes.data.length = (serializeItems items).length + torn.length := by
    simp only [split, List.length_append]
  obtain ⟨fuel, whole⟩ := deserializeItems_prefix bytes items torn split
  have within : bytes.base + (serializeItems items).length < bytes.finish := by
    simp only [Bytes.finish]
    omega
  have beyond : ¬ bytes.base + (serializeItems items).length + 8 ≤ bytes.finish := by
    simp only [Bytes.finish]
    omega
  rw [whole]
  simp [deserializeLoop, within, Bytes.read, beyond]

/-- The length word of a record that is cut points past the end. -/
theorem deserializeItems_torn_record (bytes : Bytes) (items : List SImageItemSerialized)
    (body : List UInt8) (part : Nat) (long : 8 ≤ part)
    (proper : part < (frame 8 body).length) (small : (frame 8 body).length < 2 ^ 63)
    (split : bytes.data = serializeItems items ++ (frame 8 body).take part) :
    deserializeItems bytes = .done (.error "Item end is outside of allowed range") := by
  have bound := bytes.inMemory
  have total : bytes.data.length = (serializeItems items).length + part := by
    simp only [split, List.length_append, List.length_take, Nat.min_eq_left (Nat.le_of_lt proper)]
  obtain ⟨fuel, whole⟩ := deserializeItems_prefix bytes items _ split
  have within : bytes.base + (serializeItems items).length < bytes.finish := by
    simp only [Bytes.finish]
    omega
  simp only [frame_length] at proper small
  have lengthRead := read_at bytes (serializeItems items) (encode 8 body.length)
    (body.take (part - 8)) (by
      rw [split, frame, List.take_append, List.take_of_length_le (by simp; omega)]
      simp)
  rw [encode_length] at lengthRead
  have size : decode (encode 8 body.length) = body.length :=
    decode_encode_of_lt 8 _ (by omega)
  have past : bytes.finish < bytes.base + (serializeItems items).length + 8 + body.length := by
    simp only [Bytes.finish]
    omega
  rw [whole]
  simp only [deserializeLoop, within, ↓reduceIte, lengthRead, size,
    pointerAdd_of_lt (bytes.base + (serializeItems items).length) 8 (by omega),
    pointerAdd_of_lt (bytes.base + (serializeItems items).length + 8) body.length (by omega),
    past]

theorem deserializeItems_torn (bytes : Bytes) (items : List SImageItemSerialized)
    (body : List UInt8) (part : Nat) (positive : 0 < part)
    (proper : part < (frame 8 body).length) (small : (frame 8 body).length < 2 ^ 63)
    (split : bytes.data = serializeItems items ++ (frame 8 body).take part) :
    deserializeItems bytes = .outOfBounds ∨
      deserializeItems bytes = .done (.error "Item end is outside of allowed range") := by
  by_cases short : part < 8
  · left
    have length : ((frame 8 body).take part).length = part := by
      rw [List.length_take, Nat.min_eq_left (Nat.le_of_lt proper)]
    apply deserializeItems_torn_length bytes items _ _ (by omega) split
    apply List.length_pos_iff.mp
    omega
  · right
    exact deserializeItems_torn_record bytes items body part (by omega) proper small split

end Loop
end SaneInTheMembrane.SessionCodec
