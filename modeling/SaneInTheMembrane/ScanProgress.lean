import Mathlib.Tactic.Linarith
import Mathlib.Tactic.NormNum
import Mathlib.Tactic.Positivity
import SaneInTheMembrane.ScanReader
import SaneInTheMembrane.ScanStream

/-!
Whether server and client agree on how much a complete scan is. The server reads
one frame; the client expects what the first frame announces, three times over
for a single colour. They agree on acquisitions of one grey or RGB frame.
-/

namespace SaneInTheMembrane.ScanProgress
open SaneDevice ScanReactor ScanReader ScanStream
open CScanResponseReader

section Acquisitions

def announced (parameters : SaneParameters) : Int :=
  parameters.bytesPerLine.toInt * parameters.lines.toInt

/-- A frame delivers the bytes that its parameters announce. -/
structure Frame where
  parameters : SaneParameters
  reads : ReadSequence
  complete : reads.ending = .eof
  delivers : (reads.bytes.length : Int) = announced parameters

/-- The frames of one acquisition; only the last one is marked as the last. -/
structure Acquisition where
  first : Frame
  others : List Frame
  marked : (first :: others).map (fun frame => frame.parameters.lastFrame) =
    List.replicate others.length false ++ [true]

def Acquisition.bytes (acquisition : Acquisition) : List UInt8 :=
  (acquisition.first :: acquisition.others).flatMap fun frame => frame.reads.bytes

end Acquisitions

section Agreement

def messages (calls : List Call) : List ScanResponse :=
  calls.filterMap fun
    | .startWrite response => some response
    | .finish _ => none

/-- The client holds the whole acquisition, expects exactly its size, and ends at
100 percent without passing it or dividing by zero. -/
def CompleteAt (bytes : List UInt8) (client : CScanResponseReader) : Prop :=
  client.currentFile = bytes ∧ client.hundredPercent.toNat = bytes.length ∧
  client.progress.getLast? = some (some 100) ∧
  ∀ value ∈ client.progress, ∃ percent ≤ 100, value = some percent

def Agrees (device : CSaneDevice) (handle : Nat) (acquisition : Acquisition) : Prop :=
  ∀ last, scan device handle acquisition.first.parameters acquisition.first.reads = some last →
    .finish .ok ∈ last.base.calls →
    CompleteAt acquisition.bytes (receive (messages last.base.calls))

end Agreement

section Expected

theorem toUInt64_toNat (n : Int64) : (n.toUInt64.toNat : Int) = n.toInt % 2 ^ 64 := by
  have signed : n.toInt = (n.toUInt64.toNat : Int).bmod (2 ^ 64) :=
    BitVec.toInt_eq_toNat_bmod n.toBitVec
  have small := n.toUInt64.toNat_lt
  rw [signed, show (2 ^ 64 : Int) = ((2 ^ 64 : Nat) : Int) from rfl, Int.bmod_emod]
  omega

theorem product_toNat (a b : Int64) (k : UInt64) (size : Nat)
    (product : (size : Int) = a.toInt * b.toInt) (fits : size * k.toNat < 2 ^ 64)
    (small : size < 2 ^ 64) : (a.toUInt64 * b.toUInt64 * k).toNat = size * k.toNat := by
  -- Words agree with the integers modulo 2^64, and the product lies in range.
  have congruent : ((a.toUInt64.toNat * b.toUInt64.toNat : Nat) : Int) % 2 ^ 64 =
      (size : Int) % 2 ^ 64 := by
    rw [Nat.cast_mul, toUInt64_toNat, toUInt64_toNat, ← Int.mul_emod, product]
  have exactly : a.toUInt64.toNat * b.toUInt64.toNat % 2 ^ 64 = size := by
    have equal : a.toUInt64.toNat * b.toUInt64.toNat % 2 ^ 64 = size % 2 ^ 64 := by
      exact_mod_cast congruent
    rw [equal, Nat.mod_eq_of_lt small]
  rw [UInt64.toNat_mul, UInt64.toNat_mul, exactly, Nat.mod_eq_of_lt fits]

theorem announced_le (parameters : SaneParameters) : announced parameters ≤ 2 ^ 62 := by
  have low := parameters.bytesPerLine.le_toInt
  have high := parameters.bytesPerLine.toInt_lt
  have lowLines := parameters.lines.le_toInt
  have highLines := parameters.lines.toInt_lt
  have bound := mul_le_mul (abs_le.mpr ⟨low, high.le⟩) (abs_le.mpr ⟨lowLines, highLines.le⟩)
    (abs_nonneg _) (by norm_num)
  calc
    announced parameters ≤ |announced parameters| := le_abs_self _
    _ = |parameters.bytesPerLine.toInt| * |parameters.lines.toInt| := abs_mul _ _
    _ ≤ 2 ^ 31 * 2 ^ 31 := bound
    _ = 2 ^ 62 := by norm_num

/-- How often the client counts the bytes of a frame. -/
def factor (format : SaneFrame) : Nat := if format = .gray ∨ format = .rgb then 1 else 3

def clientParameters (parameters : SaneParameters) : ScannerParameters where
  format := frameCode parameters.format
  lastFrame := parameters.lastFrame
  bytesPerLine := parameters.bytesPerLine.toInt64
  pixelsPerLine := parameters.pixelsPerLine.toInt64
  lines := parameters.lines.toInt64
  depth := parameters.depth.toInt64

theorem expectedBytes_toNat (frame : Frame) :
    (clientParameters frame.parameters).expectedBytes.toNat =
      frame.reads.bytes.length * factor frame.parameters.format := by
  have delivers := frame.delivers
  have bound := announced_le frame.parameters
  have small : frame.reads.bytes.length ≤ 2 ^ 62 := by
    have := delivers ▸ bound
    exact_mod_cast this
  have product : (frame.reads.bytes.length : Int) =
      frame.parameters.bytesPerLine.toInt64.toInt * frame.parameters.lines.toInt64.toInt := by
    rw [Int32.toInt_toInt64, Int32.toInt_toInt64]
    exact delivers
  have counted : (if frameCode frame.parameters.format = frameCode .rgb ∨
      frameCode frame.parameters.format = frameCode .gray then (1 : UInt64) else 3).toNat =
        factor frame.parameters.format := by
    cases frame.parameters.format <;> rfl
  have atMost : factor frame.parameters.format ≤ 3 := by
    unfold factor
    split <;> omega
  rw [← counted] at atMost ⊢
  refine product_toNat _ _ _ _ product ?_ (by omega)
  calc
    _ ≤ 2 ^ 62 * 3 := Nat.mul_le_mul small atMost
    _ < 2 ^ 64 := by norm_num

end Expected

section Client

/-- The reported values are those of running totals, the last of the current one. -/
def Tracking (client : CScanResponseReader) : Prop :=
  client.progress.getLast? = some (progressValue client.totalBytes client.hundredPercent) ∧
  ∀ value ∈ client.progress, ∃ total : UInt64, total.toNat ≤ client.totalBytes.toNat ∧
    value = progressValue total client.hundredPercent

theorem onReadDone_data (client : CScanResponseReader) (name : String) (bytes : List UInt8) :
    client.onReadDone (dataMessage name bytes) =
      ((client.takeData (some bytes)).emitProgress) := rfl

theorem data_tracking (client : CScanResponseReader) (name : String) (bytes : List UInt8)
    (fits : client.totalBytes.toNat + bytes.length < 2 ^ 64) (tracking : Tracking client) :
    (client.onReadDone (dataMessage name bytes)).totalBytes.toNat =
        client.totalBytes.toNat + bytes.length ∧
      Tracking (client.onReadDone (dataMessage name bytes)) := by
  have grown : (client.totalBytes + UInt64.ofNat bytes.length).toNat =
      client.totalBytes.toNat + bytes.length := by
    have small : bytes.length < 2 ^ 64 := by omega
    rw [UInt64.toNat_add, UInt64.toNat_ofNat', Nat.mod_eq_of_lt small, Nat.mod_eq_of_lt fits]
  refine ⟨grown, by simp [onReadDone_data, takeData, emitProgress], ?_⟩
  intro value member
  rcases List.mem_append.mp member with earlier | now
  · obtain ⟨total, below, same⟩ := tracking.2 value earlier
    refine ⟨total, ?_, same⟩
    rw [onReadDone_data]
    simp only [takeData, emitProgress]
    omega
  · exact ⟨_, Nat.le_refl _, List.mem_singleton.mp now⟩

theorem receive_data (name : String) (data : List (List UInt8)) (client : CScanResponseReader)
    (fits : client.totalBytes.toNat + data.flatten.length < 2 ^ 64) (tracking : Tracking client) :
    let last := (data.map (dataMessage name)).foldl onReadDone client
    last.currentFile = client.currentFile ++ data.flatten ∧
      last.hundredPercent = client.hundredPercent ∧
      last.totalBytes.toNat = client.totalBytes.toNat + data.flatten.length ∧ Tracking last := by
  induction data generalizing client with
  | nil => simpa using tracking
  | cons bytes rest ih =>
      simp only [List.flatten_cons, List.length_append] at fits
      obtain ⟨grown, tracked⟩ := data_tracking client name bytes (by omega) tracking
      obtain ⟨file, hundred, total, last⟩ := ih _ (by omega) tracked
      refine ⟨?_, hundred, ?_, last⟩
      · simp only [List.map_cons, List.foldl_cons, file]
        simp [onReadDone_data, takeData, emitProgress]
      · simp only [List.map_cons, List.foldl_cons, total, grown, List.flatten_cons,
          List.length_append]
        omega

structure Received (frame : Frame) (client : CScanResponseReader) : Prop where
  file : client.currentFile = frame.reads.bytes
  hundred : client.hundredPercent = (clientParameters frame.parameters).expectedBytes
  total : client.totalBytes.toNat = frame.reads.bytes.length
  tracking : Tracking client

theorem receive_stream (name : String) (frame : Frame) (data : List (List UInt8))
    (status : GrpcStatus) (carried : data.flatten = frame.reads.bytes) :
    Received frame (receive (messages (streamCalls name frame.parameters data status))) := by
  have sent : messages (streamCalls name frame.parameters data status) =
      parametersMessage name frame.parameters :: data.map (dataMessage name) := by
    simp [messages, streamCalls, dataCalls, List.filterMap_map]
  have small : frame.reads.bytes.length ≤ 2 ^ 62 := by
    have := frame.delivers ▸ announced_le frame.parameters
    exact_mod_cast this
  obtain ⟨file, hundred, total, tracking⟩ := receive_data name data
    (onReadDone {} (parametersMessage name frame.parameters))
    (by
      simp [onReadDone, takeParameters, takeData, emitProgress, parametersMessage, carried]
      omega)
    ⟨rfl, fun value member => ⟨0, Nat.zero_le _, List.mem_singleton.mp member⟩⟩
  rw [receive, sent, List.foldl_cons]
  refine ⟨?_, hundred, ?_, tracking⟩
  · rw [file, carried]
    rfl
  · rw [total, carried]
    simp [onReadDone, takeParameters, takeData, emitProgress, parametersMessage]

end Client

section Result
variable (device : CSaneDevice) (handle : Nat) (acquisition : Acquisition)

theorem scan_received : ∃ last,
    scan device handle acquisition.first.parameters acquisition.first.reads = some last ∧
    .finish .ok ∈ last.base.calls ∧
    Received acquisition.first (receive (messages last.base.calls)) := by
  obtain ⟨last, data, completed, base, carried, -⟩ := scan_of_eof device handle
    acquisition.first.parameters acquisition.first.reads acquisition.first.complete
  refine ⟨last, completed, ?_, ?_⟩
  · rw [base]
    simp [streamCalls]
  · rw [base]
    exact receive_stream device.deviceName acquisition.first data .ok carried

def OneFrame (acquisition : Acquisition) : Prop :=
  (acquisition.first.parameters.format = .gray ∨ acquisition.first.parameters.format = .rgb) ∧
  announced acquisition.first.parameters ≠ 0 ∧
  ∀ frame ∈ acquisition.others, announced frame.parameters = 0

theorem announced_zero_iff (frame : Frame) :
    announced frame.parameters = 0 ↔ frame.reads.bytes = [] := by
  rw [← frame.delivers, ← List.length_eq_zero_iff]
  exact Nat.cast_eq_zero

theorem oneFrame_bytes (one : ∀ frame ∈ acquisition.others, announced frame.parameters = 0) :
    acquisition.bytes = acquisition.first.reads.bytes := by
  have nothing : (acquisition.others.flatMap fun frame => frame.reads.bytes) = [] :=
    List.flatMap_eq_nil_iff.mpr fun frame member => (announced_zero_iff frame).mp (one frame member)
  rw [Acquisition.bytes, List.flatMap_cons, nothing, List.append_nil]

theorem agrees_oneFrame (agrees : Agrees device handle acquisition) : OneFrame acquisition := by
  obtain ⟨last, completed, finished, received⟩ := scan_received device handle acquisition
  obtain ⟨file, size, ends, -⟩ := agrees last completed finished
  have whole : acquisition.first.reads.bytes = acquisition.bytes := received.file.symm.trans file
  have counted := expectedBytes_toNat acquisition.first
  rw [← received.hundred, size, ← whole] at counted
  -- An empty frame makes the first progress value a division by zero.
  have positive : acquisition.first.reads.bytes ≠ [] := by
    intro empty
    have zero : (receive (messages last.base.calls)).hundredPercent = 0 :=
      UInt64.toNat_inj.mp (by rw [size, ← whole, empty]; rfl)
    have final := received.tracking.1.symm.trans ends
    simp [progressValue, zero] at final
  refine ⟨?_, fun zero => positive ((announced_zero_iff _).mp zero), ?_⟩
  · by_contra other
    have length := List.length_pos_iff.mpr positive
    simp only [factor, if_neg other] at counted
    omega
  · -- The stream carried the first frame alone.
    have nothing : (acquisition.others.flatMap fun frame => frame.reads.bytes) = [] := by
      rw [Acquisition.bytes, List.flatMap_cons] at whole
      exact List.self_eq_append_right.mp whole
    exact fun frame member =>
      (announced_zero_iff frame).mpr (List.flatMap_eq_nil_iff.mp nothing frame member)

/-- Server and client agree on a complete scan exactly for one frame of grey or
RGB data. The server ends the scan at the first EOF and starts no further frame,
and the client triples a single colour. -/
theorem agrees_iff : Agrees device handle acquisition ↔ OneFrame acquisition := by
  refine ⟨agrees_oneFrame device handle acquisition, ?_⟩
  rintro ⟨format, announces, others⟩ last completed -
  obtain ⟨reached, again, -, received⟩ := scan_received device handle acquisition
  obtain rfl : reached = last := Option.some.inj (again.symm.trans completed)
  have whole := oneFrame_bytes acquisition others
  have nonempty : 0 < acquisition.first.reads.bytes.length :=
    List.length_pos_iff.mpr fun empty => announces ((announced_zero_iff _).mpr empty)
  have hundred : (receive (messages reached.base.calls)).hundredPercent.toNat =
      acquisition.first.reads.bytes.length := by
    rw [received.hundred, expectedBytes_toNat, factor, if_pos format, Nat.mul_one]
  have nonzero : (receive (messages reached.base.calls)).hundredPercent ≠ 0 := by
    intro zero
    rw [zero] at hundred
    exact nonempty.ne hundred
  refine ⟨received.file.trans whole.symm, hundred.trans (by rw [whole]), ?_, ?_⟩
  · rw [received.tracking.1, progressValue, if_neg nonzero, received.total, hundred]
    exact congrArg (fun percent => some (some percent))
      (mul_div_cancel_left₀ 100 (Nat.cast_ne_zero.mpr nonempty.ne'))
  · intro value member
    obtain ⟨total, below, rfl⟩ := received.tracking.2 value member
    refine ⟨_, ?_, if_neg nonzero⟩
    rw [received.total, ← hundred] at below
    rw [div_le_iff₀ (by rw [hundred]; exact_mod_cast nonempty)]
    rw [mul_comm]
    exact_mod_cast Nat.mul_le_mul_left 100 below

end Result

section ThreePass

def byteReads (byte : UInt8) : ReadSequence where
  read
    | 0 => ⟨.good, [byte], by simp [bufferSize]⟩
    | _ + 1 => .empty .eof
  closed
    | _, 0, early, _ => absurd early (Nat.not_lt_zero _)
    | _, _ + 1, _, _ => rfl
  ends := ⟨1, by simp [SaneRead.empty]⟩

theorem byteReads_stop (byte : UInt8) : (byteReads byte).stop = 1 := by
  rw [ReadSequence.stop, Nat.find_eq_iff]
  refine ⟨by simp [byteReads, SaneRead.empty], fun index early => ?_⟩
  obtain rfl : index = 0 := by omega
  simp [byteReads]

def pixel (format : SaneFrame) (lastFrame : Bool) (byte : UInt8) : Frame where
  parameters := ⟨format, lastFrame, 1, 1, 1, 8⟩
  reads := byteReads byte
  complete := by
    rw [ReadSequence.ending, byteReads_stop]
    rfl
  delivers := by
    rw [ReadSequence.bytes, byteReads_stop]
    rfl

def threePass : Acquisition where
  first := pixel .red false 10
  others := [pixel .green false 20, pixel .blue true 30]
  marked := rfl

/-- The green and the blue pass are never read. -/
theorem three_pass_scan_disagrees : ¬ Agrees ⟨"flatbed", none, {}, .closed⟩ 1 threePass := by
  intro agrees
  have unread := (agrees_oneFrame _ _ _ agrees).2.2 (pixel .green false 20) List.mem_cons_self
  revert unread
  decide

end ThreePass
end SaneInTheMembrane.ScanProgress
