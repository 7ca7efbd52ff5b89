import SaneInTheMembrane.SessionCodec

/-!
Service/SessionService.cpp and `CFileRW` of Utils/File.cpp: the session file. A
file is its bytes, or `none` when there is no regular file at the path. Saving
is two file operations; `saveStates` lists what the file holds after every byte
that reaches it.
-/

namespace SaneInTheMembrane.SessionService

open ImageContainer LittleEndian SessionCodec

abbrev SessionFile := Option (List UInt8)

/-- `CFileRW::write`: the open truncates. -/
def write (data : List UInt8) : SessionFile := some data

def append (file : SessionFile) (data : List UInt8) : SessionFile := some (file.getD [] ++ data)

inductive ESessionLoadError where
  | sessionFileNoFound
  | decodingFailed
  | invalidHeader
  | headerVersionMismatch
  deriving DecidableEq, Repr

inductive ESessionHeaderConversionError where
  | headerVersionMismatch
  deriving DecidableEq, Repr

structure CSessionHeader where
  version : Word
  dataLength : Word
  deriving DecidableEq, Repr

namespace CSessionHeader

/-- `VERSION_MINOR` of gui-app/VERSION, 0.1.0. -/
def expectedVersion : Word := 1

def ofLength (dataLength : Word) : CSessionHeader := ⟨expectedVersion, dataLength⟩

def rawBytes (header : CSessionHeader) : List UInt8 :=
  wordBytes header.version ++ wordBytes header.dataLength

def fromRawBytes (data : List UInt8) : Except ESessionHeaderConversionError CSessionHeader :=
  if wordOfBytes (data.take 8) ≠ expectedVersion then .error .headerVersionMismatch
  else .ok (ofLength (wordOfBytes ((data.drop 8).take 8)))

end CSessionHeader

structure SSessionData where
  header : CSessionHeader
  data : List UInt8
  deriving DecidableEq, Repr

def sessionHeader (data : List UInt8) : List UInt8 :=
  (CSessionHeader.ofLength (UInt64.ofNat data.length)).rawBytes

def saveSession (data : List UInt8) : SessionFile :=
  append (write (sessionHeader data)) data

def loadSession : SessionFile → Except ESessionLoadError SSessionData
  | none => .error .sessionFileNoFound
  | some data =>
      if data.length < 16 then .error .invalidHeader
      else match CSessionHeader.fromRawBytes data with
        | .error _ => .error .headerVersionMismatch
        | .ok header => .ok ⟨header, data.drop 16⟩

def removeSession : SessionFile := none

def writeStates (data : List UInt8) : List SessionFile :=
  (List.range (data.length + 1)).map fun count => some (data.take count)

def appendStates (content data : List UInt8) : List SessionFile :=
  (List.range (data.length + 1)).map fun count => some (content ++ data.take count)

def saveStates (data : List UInt8) : List SessionFile :=
  writeStates (sessionHeader data) ++ appendStates (sessionHeader data) data

inductive RestoreError where
  | load (error : ESessionLoadError)
  | items (message : String)
  deriving DecidableEq, Repr

/-- The start of the restore handler: `load_session`, whose data vector lies at
`base`, and `deserialize_items`. -/
def readSession (base : Nat) (file : SessionFile) :
    Outcome (Except RestoreError (List SImageItemSerialized)) :=
  match loadSession file with
  | .error error => .done (.error (.load error))
  | .ok session =>
      if fits : base + session.data.length < 2 ^ 63 then
        match deserializeItems ⟨base, session.data, fits⟩ with
        | .done (.ok items) => .done (.ok items)
        | .done (.error message) => .done (.error (.items message))
        | .outOfBounds => .outOfBounds
        | .lengthError => .lengthError
        | .outOfMemory => .outOfMemory
        | .running => .running
      else .outOfMemory

@[simp] theorem sessionHeader_length (data : List UInt8) : (sessionHeader data).length = 16 := by
  simp [sessionHeader, CSessionHeader.rawBytes]

theorem fromRawBytes_rawBytes (header : CSessionHeader) (rest : List UInt8)
    (version : header.version = CSessionHeader.expectedVersion) :
    CSessionHeader.fromRawBytes (header.rawBytes ++ rest) = .ok header := by
  have first : (header.rawBytes ++ rest).take 8 = wordBytes header.version := by
    simp [CSessionHeader.rawBytes]
  have second : ((header.rawBytes ++ rest).drop 8).take 8 = wordBytes header.dataLength := by
    simp [CSessionHeader.rawBytes]
  simp only [CSessionHeader.fromRawBytes, first, second, word_survives]
  cases header
  simp_all [CSessionHeader.ofLength]

theorem loadSession_header (data rest : List UInt8) :
    loadSession (some (sessionHeader data ++ rest)) =
      .ok ⟨CSessionHeader.ofLength (UInt64.ofNat data.length), rest⟩ := by
  have long : ¬ (sessionHeader data ++ rest).length < 16 := by simp
  have dropped : (sessionHeader data ++ rest).drop 16 = rest :=
    List.drop_left' (sessionHeader_length data)
  have header : CSessionHeader.fromRawBytes (sessionHeader data ++ rest) =
      .ok (CSessionHeader.ofLength (UInt64.ofNat data.length)) :=
    fromRawBytes_rawBytes _ rest rfl
  simp only [loadSession, long, ↓reduceIte, dropped, header]

theorem loadSession_saveSession (data : List UInt8) :
    loadSession (saveSession data) =
      .ok ⟨CSessionHeader.ofLength (UInt64.ofNat data.length), data⟩ :=
  loadSession_header data data

theorem loadSession_short (data : List UInt8) (short : data.length < 16) :
    loadSession (some data) = .error .invalidHeader := by
  simp [loadSession, short]

theorem mem_saveStates (data : List UInt8) (file : SessionFile) :
    file ∈ saveStates data ↔
      (∃ cut < 16, file = some ((sessionHeader data).take cut)) ∨
      ∃ cut ≤ data.length, file = some (sessionHeader data ++ data.take cut) := by
  simp only [saveStates, writeStates, appendStates, List.mem_append, List.mem_map,
    List.mem_range, sessionHeader_length]
  constructor
  · rintro (⟨cut, bound, same⟩ | ⟨cut, bound, same⟩)
    · by_cases whole : cut = 16
      · -- The whole header is also what the append starts from.
        right
        refine ⟨0, Nat.zero_le _, ?_⟩
        rw [← same, whole, List.take_of_length_le (by simp)]
        simp
      · exact Or.inl ⟨cut, by omega, same.symm⟩
    · exact Or.inr ⟨cut, by omega, same.symm⟩
  · rintro (⟨cut, bound, same⟩ | ⟨cut, bound, same⟩)
    · exact Or.inl ⟨cut, by omega, same.symm⟩
    · exact Or.inr ⟨cut, by omega, same.symm⟩

/-- The last of the states is the file of a save that was not interrupted. -/
theorem saveSession_mem (data : List UInt8) : saveSession data ∈ saveStates data :=
  (mem_saveStates data _).mpr (Or.inr ⟨data.length, Nat.le_refl _, by
    simp [saveSession, write, append]⟩)

theorem readSession_header (base : Nat) (data rest : List UInt8)
    (fits : base + rest.length < 2 ^ 63) :
    readSession base (some (sessionHeader data ++ rest)) =
      match deserializeItems ⟨base, rest, fits⟩ with
      | .done (.ok items) => .done (.ok items)
      | .done (.error message) => .done (.error (.items message))
      | .outOfBounds => .outOfBounds
      | .lengthError => .lengthError
      | .outOfMemory => .outOfMemory
      | .running => .running := by
  rw [readSession, loadSession_header]
  simp only [fits, ↓reduceDIte]

section RoundTrip

def truncate (_previous : SessionFile) : SessionFile := some []

def overwrite (previous : SessionFile) (data : List UInt8) : SessionFile :=
  append (truncate previous) data

def saveOver (previous : SessionFile) (data : List UInt8) : SessionFile :=
  append (overwrite previous (sessionHeader data)) data

theorem saveOver_eq (previous : SessionFile) (data : List UInt8) :
    saveOver previous data = saveSession data := rfl

theorem recorded_length (data : List UInt8) (small : data.length < 2 ^ 63) :
    (CSessionHeader.ofLength (UInt64.ofNat data.length)).dataLength.toNat = data.length := by
  have word : data.length < 2 ^ 64 := by omega
  simp only [CSessionHeader.ofLength, UInt64.toNat_ofNat', Nat.mod_eq_of_lt word]

/-- A saved session loads and decodes to the items that were saved, whatever the
file held before and wherever the loaded vector lies. -/
theorem session_round_trip (items : List SImageItemSerialized) (previous : SessionFile)
    (small : (serializeItems items).length < 2 ^ 63) :
    ∃ session, loadSession (saveOver previous (serializeItems items)) = .ok session ∧
      session.data = serializeItems items ∧
      session.header.dataLength.toNat = (serializeItems items).length ∧
      ∀ base (fits : base + session.data.length < 2 ^ 63),
        deserializeItems ⟨base, session.data, fits⟩ = .done (.ok items) := by
  rw [saveOver_eq, loadSession_saveSession]
  refine ⟨_, rfl, rfl, recorded_length _ small, fun base fits => ?_⟩
  exact deserializeItems_serializeItems _ items rfl

theorem two_pages_round_trip :
    let items : List SImageItemSerialized :=
      [⟨doubleTransforms.identity, 2, [97, 0, 98]⟩, ⟨doubleTransforms.identity, 1, []⟩]
    ∃ session, loadSession (saveOver (some [1, 2, 3]) (serializeItems items)) = .ok session ∧
      session.data = serializeItems items ∧
      session.header.dataLength.toNat = (serializeItems items).length ∧
      ∀ base (fits : base + session.data.length < 2 ^ 63),
        deserializeItems ⟨base, session.data, fits⟩ = .done (.ok items) :=
  session_round_trip _ _ (by decide +kernel)

end RoundTrip
end SaneInTheMembrane.SessionService
