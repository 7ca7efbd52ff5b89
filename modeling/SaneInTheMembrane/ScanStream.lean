import Mathlib.Order.Basic
import Mathlib.Data.Nat.Find
import SaneInTheMembrane.Packing
import SaneInTheMembrane.ScanReactor

/-!
The messages of one scan when every write is acknowledged. The reading loop is
spread over the callbacks, yet the messages are those of the greedy packing of
the bytes read.
-/

namespace SaneInTheMembrane.ScanStream
open SaneDevice ScanReactor CScanResponseReactor
open Packing

section Reads

/-- The results of the reads of one scan. EOF is final, and the scan ends. -/
structure ReadSequence where
  read : Nat → SaneRead
  closed : ∀ n m, n < m → (read n).status = .eof → read m = .empty .eof
  ends : ∃ n, (read n).status ≠ .good

namespace ReadSequence

def stop (reads : ReadSequence) : Nat := Nat.find reads.ends

def ending (reads : ReadSequence) : SaneStatus := (reads.read reads.stop).status

def upTo (reads : ReadSequence) (count : Nat) : List SaneRead :=
  (List.range count).map reads.read

def bytes (reads : ReadSequence) : List UInt8 :=
  (reads.upTo (reads.stop + 1)).flatMap SaneRead.data

end ReadSequence
end Reads

section Run

/-- Acknowledge each write once the handler that made it has returned. -/
def acknowledgeAll (device : CSaneDevice) :
    Nat → CScanResponseReactor → List SaneRead → Option CScanResponseReactor
  | 0, _, _ => none
  | fuel + 1, reactor, answers =>
      if reactor.base.outstanding = 0 then some reactor
      else
        match reactor.onWriteDone device true answers with
        | none => none
        | some (next, rest) => acknowledgeAll device fuel next rest

def scan (device : CSaneDevice) (handle : Nat) (parameters : SaneParameters)
    (reads : ReadSequence) : Option CScanResponseReactor :=
  let made := make device ⟨.opened handle, .good, .good, parameters⟩
  -- Up to three more handlers: a packet that the EOF filled, the last message and its
  -- completion.
  acknowledgeAll made.2 (reads.stop + 4) made.1 (reads.upTo (reads.stop + 4))

end Run

section Messages

def parametersMessage (name : String) (parameters : SaneParameters) : ScanResponse where
  scannerName := name
  parameters := some {
    format := frameCode parameters.format
    lastFrame := parameters.lastFrame
    bytesPerLine := parameters.bytesPerLine.toInt64
    pixelsPerLine := parameters.pixelsPerLine.toInt64
    lines := parameters.lines.toInt64
    depth := parameters.depth.toInt64 }

def dataMessage (name : String) (bytes : List UInt8) : ScanResponse where
  scannerName := name
  data := some bytes

def aborted (status : SaneStatus) : GrpcStatus :=
  ⟨.aborted, "Failed to read from device: ", some status⟩

def closing (name : String) (ending : SaneStatus) (remainder : List UInt8) : List Call :=
  if ending = .eof then [.startWrite (dataMessage name remainder), .finish .ok]
  else [.finish (aborted ending)]

def dataCalls (name : String) (packets : List (List UInt8)) : List Call :=
  packets.map fun packet => .startWrite (dataMessage name packet)

/-- The calls that follow while `held` waits and the reads still give `chunks`. -/
def remainingCalls (name : String) (ending : SaneStatus) (held : List UInt8)
    (chunks : List (List UInt8)) : List Call :=
  dataCalls name (pack packetSize held chunks).1 ++
    closing name ending (pack packetSize held chunks).2

/-- The bytes of a result that the loop keeps. -/
def kept (read : SaneRead) : List UInt8 :=
  if read.status = .good ∨ read.status = .eof then read.data else []

end Messages

section Loop

theorem collect_eq (reactor : CScanResponseReactor) (read : SaneRead) :
    reactor.collect read = { reactor with byteData := reactor.byteData ++ kept read } := by
  unfold collect kept
  split <;> simp

def reading (name : String) (calls : List Call) (held : List UInt8) : CScanResponseReactor :=
  ⟨⟨calls, 0⟩, { scannerName := name }, held, false⟩

variable {device : CSaneDevice} (calls : List Call) (held : List UInt8)

def packetSent (name : String) (calls : List Call) (packet : List UInt8) :
    CScanResponseReactor :=
  ⟨⟨calls ++ [.startWrite (dataMessage name packet)], 1⟩, dataMessage name packet, packet, false⟩

theorem readLoop_full (readable : device.Readable) (answer : SaneRead) (rest : List SaneRead)
    (full : packetSize ≤ (held ++ kept answer).length) :
    readLoop device (reading device.deviceName calls held) (answer :: rest) =
      some (packetSent device.deviceName calls (held ++ kept answer), rest) := by
  rw [readLoop]
  simp only [CSaneDevice.read, if_pos readable, collect_eq, reading]
  rw [if_pos full]
  rfl

theorem readLoop_good (readable : device.Readable) (answer : SaneRead) (rest : List SaneRead)
    (below : ¬ packetSize ≤ (held ++ kept answer).length) (good : answer.status = .good) :
    readLoop device (reading device.deviceName calls held) (answer :: rest) =
      readLoop device (reading device.deviceName calls (held ++ kept answer)) rest := by
  rw [readLoop]
  simp only [CSaneDevice.read, if_pos readable, collect_eq, reading]
  rw [if_neg below, if_pos good]

theorem readLoop_eof (readable : device.Readable) (answer : SaneRead) (rest : List SaneRead)
    (below : ¬ packetSize ≤ (held ++ kept answer).length) (atEnd : answer.status = .eof) :
    readLoop device (reading device.deviceName calls held) (answer :: rest) =
      some ((packetSent device.deviceName calls (held ++ kept answer)).finish .ok, rest) := by
  rw [readLoop]
  simp only [CSaneDevice.read, if_pos readable, collect_eq, reading]
  rw [if_neg below, if_neg (by simp [atEnd]), if_pos atEnd]
  rfl

theorem readLoop_error (readable : device.Readable) (answer : SaneRead) (rest : List SaneRead)
    (below : held.length < packetSize) (notGood : answer.status ≠ .good)
    (notEof : answer.status ≠ .eof) :
    readLoop device (reading device.deviceName calls held) (answer :: rest) =
      some ((reading device.deviceName calls held).finish (aborted answer.status), rest) := by
  have nothing : kept answer = [] := by simp [kept, notGood, notEof]
  rw [readLoop]
  simp only [CSaneDevice.read, if_pos readable, collect_eq, reading, nothing, List.append_nil]
  rw [if_neg (by omega), if_neg notGood, if_neg notEof]
  rfl

theorem acknowledge_idle (reactor : CScanResponseReactor) (fuel : Nat) (answers : List SaneRead)
    (idle : reactor.base.outstanding = 0) :
    acknowledgeAll device (fuel + 1) reactor answers = some reactor := by
  rw [acknowledgeAll, if_pos idle]

theorem acknowledge_write (response : ScanResponse) (bytes : List UInt8) (fuel : Nat)
    (answers : List SaneRead) :
    acknowledgeAll device (fuel + 1) ⟨⟨calls, 1⟩, response, bytes, false⟩ answers =
      (readLoop device (reading device.deviceName calls []) answers).bind
        fun next => acknowledgeAll device fuel next.1 next.2 := by
  have acknowledged :
      CScanResponseReactor.onWriteDone ⟨⟨calls, 1⟩, response, bytes, false⟩ device true answers =
        readLoop device (reading device.deviceName calls []) answers := rfl
  rw [acknowledgeAll, if_neg (by simp), acknowledged]
  cases readLoop device _ answers <;> rfl

variable (device) in
theorem acknowledge_last (packet : List UInt8) (fuel : Nat) (answers : List SaneRead) :
    ∃ last, acknowledgeAll device (fuel + 2)
        ((packetSent device.deviceName calls packet).finish .ok) answers = some last ∧
      last.base =
        ⟨calls ++ [.startWrite (dataMessage device.deviceName packet), .finish .ok], 0⟩ := by
  refine ⟨_, rfl, ?_⟩
  simp [packetSent, finish, ServerWriteReactor.finish, ServerWriteReactor.writeDone]

end Loop

section Delivery
variable {device : CSaneDevice}

theorem delivered_final (readable : device.Readable) (final : SaneRead) (later : List SaneRead)
    (notGood : final.status ≠ .good)
    (afterEof : final.status = .eof → ∃ others, later = .empty .eof :: others)
    (calls : List Call) (held : List UInt8) (fuel : Nat) (below : held.length < packetSize) :
    ∃ last, (readLoop device (reading device.deviceName calls held) (final :: later)).bind
          (fun next => acknowledgeAll device (fuel + 3) next.1 next.2) = some last ∧
      last.base = ⟨calls ++ remainingCalls device.deviceName final.status held [kept final], 0⟩ := by
  by_cases atEnd : final.status = .eof
  · obtain ⟨others, rfl⟩ := afterEof atEnd
    by_cases full : packetSize ≤ (held ++ kept final).length
    · -- EOF came with the bytes that fill a packet: one more read, an empty last message
      have empty : kept (SaneRead.empty .eof) = [] := by simp [kept, SaneRead.empty]
      rw [readLoop_full calls held readable final _ full]
      simp only [Option.bind_some]
      rw [packetSent, acknowledge_write,
        readLoop_eof _ _ readable _ _ (by simp [empty, packetSize]) rfl]
      simp only [Option.bind_some, empty, List.append_nil]
      obtain ⟨last, acknowledged, base⟩ := acknowledge_last device
        (calls ++ [.startWrite (dataMessage device.deviceName (held ++ kept final))])
        [] fuel others
      refine ⟨last, acknowledged, ?_⟩
      rw [base]
      simp [remainingCalls, pack_full _ _ _ full, dataCalls, closing, atEnd]
    · rw [readLoop_eof calls held readable final _ full atEnd]
      simp only [Option.bind_some]
      obtain ⟨last, acknowledged, base⟩ :=
        acknowledge_last device calls (held ++ kept final) (fuel + 1) (.empty .eof :: others)
      refine ⟨last, acknowledged, ?_⟩
      rw [base]
      simp [remainingCalls, pack_below _ _ _ full, dataCalls, closing, atEnd]
  · -- The bytes of a failed read are dropped, with those collected before it.
    have nothing : kept final = [] := by simp [kept, notGood, atEnd]
    rw [readLoop_error calls held readable final _ below notGood atEnd]
    simp only [Option.bind_some]
    refine ⟨_, acknowledge_idle _ _ _ rfl, ?_⟩
    have short : ¬ packetSize ≤ (held ++ kept final).length := by simp [nothing, below]
    simp [remainingCalls, pack_below _ _ _ short, dataCalls, closing, atEnd, finish, reading,
      ServerWriteReactor.finish]

/-- From inside the loop, with `held` collected, the reactor makes the calls of
the greedy packing and stops. -/
theorem delivered (readable : device.Readable) (good : List SaneRead) (final : SaneRead)
    (later : List SaneRead) (allGood : ∀ read ∈ good, read.status = .good)
    (notGood : final.status ≠ .good)
    (afterEof : final.status = .eof → ∃ others, later = .empty .eof :: others)
    (calls : List Call) (held : List UInt8) (fuel : Nat) (below : held.length < packetSize)
    (enough : good.length + 3 ≤ fuel) :
    ∃ last, (readLoop device (reading device.deviceName calls held)
        (good ++ final :: later)).bind
          (fun next => acknowledgeAll device fuel next.1 next.2) = some last ∧
      last.base = ⟨calls ++ remainingCalls device.deviceName final.status held
        ((good ++ [final]).map kept), 0⟩ := by
  induction good generalizing calls held fuel with
  | nil =>
      obtain ⟨fuel, rfl⟩ := Nat.exists_eq_add_of_le' (show 3 ≤ fuel from enough)
      exact delivered_final readable final later notGood afterEof calls held fuel below
  | cons first rest ih =>
      have isGood := allGood first List.mem_cons_self
      have others : ∀ read ∈ rest, read.status = .good :=
        fun read member => allGood read (List.mem_cons_of_mem _ member)
      simp only [List.length_cons] at enough
      by_cases full : packetSize ≤ (held ++ kept first).length
      · obtain ⟨fuel, rfl⟩ := Nat.exists_eq_add_of_le' (show 1 ≤ fuel by omega)
        obtain ⟨last, acknowledged, base⟩ := ih others
          (calls ++ [.startWrite (dataMessage device.deviceName (held ++ kept first))]) [] fuel
          (by simp [packetSize]) (by omega)
        rw [List.cons_append, readLoop_full calls held readable first _ full]
        simp only [Option.bind_some]
        rw [packetSent, acknowledge_write]
        refine ⟨last, acknowledged, ?_⟩
        rw [base]
        simp [remainingCalls, pack_full _ _ _ full, dataCalls]
      · obtain ⟨last, acknowledged, base⟩ :=
          ih others calls (held ++ kept first) fuel (by omega) (by omega)
        rw [List.cons_append, readLoop_good calls held readable first _ full isGood]
        refine ⟨last, acknowledged, ?_⟩
        rw [base]
        simp [remainingCalls, pack_below _ _ _ full]

end Delivery

section Sequences
variable (reads : ReadSequence)

theorem before_stop (read : SaneRead) (member : read ∈ reads.upTo reads.stop) :
    read.status = .good := by
  obtain ⟨index, inside, rfl⟩ := List.mem_map.mp member
  exact not_not.mp (Nat.find_min reads.ends (List.mem_range.mp inside))

theorem ending_not_good : reads.ending ≠ .good := Nat.find_spec reads.ends

theorem upTo_add (count more : Nat) :
    reads.upTo (count + more) =
      reads.upTo count ++ (List.range more).map fun index => reads.read (count + index) := by
  simp [ReadSequence.upTo, List.range_add, Function.comp_def]

theorem upTo_stop :
    reads.upTo (reads.stop + 1) = reads.upTo reads.stop ++ [reads.read reads.stop] := by
  simp [upTo_add]

theorem upTo_split : ∃ later,
    reads.upTo (reads.stop + 4) =
      reads.upTo reads.stop ++ reads.read reads.stop :: later ∧
    (reads.ending = .eof → ∃ others, later = .empty .eof :: others) := by
  refine ⟨(List.range 3).map fun index => reads.read (reads.stop + 1 + index), ?_, ?_⟩
  · rw [upTo_add]
    simp [List.range_succ, Nat.add_assoc]
  · intro atEnd
    have next := reads.closed reads.stop (reads.stop + 1) (Nat.lt_succ_self _) atEnd
    exact ⟨_, by rw [List.range_succ_eq_map, List.map_cons, Nat.add_zero, next]⟩

theorem kept_length (read : SaneRead) : (kept read).length ≤ bufferSize := by
  have fits := read.fits
  unfold kept
  split
  · exact fits
  · exact Nat.zero_le _

theorem good_kept :
    ((reads.upTo reads.stop).map kept).flatten = (reads.upTo reads.stop).flatMap SaneRead.data := by
  rw [List.flatMap_def]
  congr 1
  refine List.map_congr_left fun read member => ?_
  simp [kept, before_stop reads read member]

theorem kept_eq_bytes (atEnd : reads.ending = .eof) :
    ((reads.upTo (reads.stop + 1)).map kept).flatten = reads.bytes := by
  have last : kept (reads.read reads.stop) = (reads.read reads.stop).data := by
    simp [kept, show (reads.read reads.stop).status = .eof from atEnd]
  rw [ReadSequence.bytes, upTo_stop]
  simp [good_kept, last]

theorem kept_prefix_bytes :
    ((reads.upTo (reads.stop + 1)).map kept).flatten <+: reads.bytes := by
  rw [ReadSequence.bytes, upTo_stop]
  simp only [List.map_append, List.flatten_append, good_kept, List.flatMap_append]
  refine (List.prefix_append_right_inj _).mpr ?_
  by_cases loud : (reads.read reads.stop).status = .good ∨ (reads.read reads.stop).status = .eof
  · simp [kept, loud]
  · simp [kept, loud]

end Sequences

section Law
variable (device : CSaneDevice) (handle : Nat) (parameters : SaneParameters)
  (reads : ReadSequence)

def chunks (reads : ReadSequence) : List (List UInt8) := (reads.upTo (reads.stop + 1)).map kept

def startedDevice : CSaneDevice :=
  { device with handle := some handle, currentState := .started, parameters := parameters }

theorem startedDevice_readable : (startedDevice device handle parameters).Readable :=
  ⟨by simp [startedDevice], rfl⟩

theorem make_started :
    make device ⟨.opened handle, .good, .good, parameters⟩ =
      (⟨⟨[.startWrite (parametersMessage device.deviceName parameters)], 1⟩,
        parametersMessage device.deviceName parameters, [], false⟩,
        startedDevice device handle parameters) := by
  simp [make, startScan, CSaneDevice.«open», CSaneDevice.start, CSaneDevice.Startable,
    CSaneDevice.refreshParameters, resetResponse, writeSaneParameters, startWrite,
    ServerWriteReactor.startWrite, parametersMessage, startedDevice]

theorem scan_calls : ∃ last, scan device handle parameters reads = some last ∧
    last.base = ⟨.startWrite (parametersMessage device.deviceName parameters) ::
      remainingCalls device.deviceName reads.ending [] (chunks reads), 0⟩ := by
  obtain ⟨later, split, afterEof⟩ := upTo_split reads
  obtain ⟨last, acknowledged, base⟩ := delivered
    (startedDevice_readable device handle parameters) (reads.upTo reads.stop)
    (reads.read reads.stop) later (before_stop reads) (ending_not_good reads) afterEof
    [.startWrite (parametersMessage device.deviceName parameters)] [] (reads.stop + 3)
    (by simp [packetSize]) (by simp [ReadSequence.upTo])
  refine ⟨last, ?_, ?_⟩
  · simp only [scan, make_started, split]
    rw [acknowledge_write]
    exact acknowledged
  · rw [base, chunks, upTo_stop]
    rfl

def streamCalls (name : String) (parameters : SaneParameters) (data : List (List UInt8))
    (status : GrpcStatus) : List Call :=
  .startWrite (parametersMessage name parameters) :: (dataCalls name data ++ [.finish status])

theorem streamCalls_data {name : String} {parameters : SaneParameters}
    {data other : List (List UInt8)} {status otherStatus : GrpcStatus}
    (same : streamCalls name parameters data status =
      streamCalls name parameters other otherStatus) : data = other := by
  have messages : dataCalls name data = dataCalls name other :=
    (List.append_inj' (List.cons.inj same).2 rfl).1
  refine List.map_injective_iff.mpr (fun packet next equal => ?_) messages
  simpa [dataMessage] using equal

def PacketSized (packet : List UInt8) : Prop :=
  10240 ≤ packet.length ∧ packet.length ≤ 12287

/-- Full packets, then one message below the packet size. -/
def ShortLast (data : List (List UInt8)) : Prop :=
  ∃ front last, data = front ++ [last] ∧ (∀ packet ∈ front, PacketSized packet) ∧
    last.length < 10240

def Lawful (reads : ReadSequence) (data : List (List UInt8)) (status : GrpcStatus) : Prop :=
  (status = .ok ↔ reads.ending = .eof) ∧
  (reads.ending = .eof → data.flatten = reads.bytes ∧ ShortLast data) ∧
  (reads.ending ≠ .eof → data.flatten <+: reads.bytes ∧
    (∀ packet ∈ data, PacketSized packet) ∧ status.code = .aborted)

theorem packets_sized : ∀ packet ∈ (pack packetSize [] (chunks reads)).1, PacketSized packet := by
  intro packet member
  have bounded : ∀ chunk ∈ chunks reads, chunk.length ≤ bufferSize := by
    intro chunk inside
    obtain ⟨read, _, rfl⟩ := List.mem_map.mp inside
    exact kept_length read
  have bounds := packet_length [] (chunks reads) (by simp [packetSize]) bounded packet member
  simp only [packetSize, bufferSize] at bounds
  exact ⟨bounds.1, by omega⟩

theorem scan_of_eof (atEnd : reads.ending = .eof) : ∃ last data,
    scan device handle parameters reads = some last ∧
    last.base = ⟨streamCalls device.deviceName parameters data .ok, 0⟩ ∧
    data.flatten = reads.bytes ∧ ShortLast data := by
  obtain ⟨last, completed, base⟩ := scan_calls device handle parameters reads
  refine ⟨last, (pack packetSize [] (chunks reads)).1 ++ [(pack packetSize [] (chunks reads)).2],
    completed, ?_, ?_, ?_⟩
  · rw [base]
    simp [streamCalls, remainingCalls, closing, dataCalls, atEnd]
  · rw [List.flatten_append, List.flatten_singleton, pack_flatten]
    exact kept_eq_bytes reads atEnd
  · exact ⟨_, _, rfl, packets_sized reads, remainder_below [] (chunks reads) (by simp [packetSize])⟩

theorem scan_of_error (failed : reads.ending ≠ .eof) : ∃ last data,
    scan device handle parameters reads = some last ∧
    last.base = ⟨streamCalls device.deviceName parameters data (aborted reads.ending), 0⟩ ∧
    data.flatten <+: reads.bytes ∧ ∀ packet ∈ data, PacketSized packet := by
  obtain ⟨last, completed, base⟩ := scan_calls device handle parameters reads
  refine ⟨last, (pack packetSize [] (chunks reads)).1, completed, ?_, ?_, packets_sized reads⟩
  · rw [base]
    simp [streamCalls, remainingCalls, closing, dataCalls, failed]
  · exact (packets_initial [] (chunks reads)).trans (kept_prefix_bytes reads)

/-- A scan sends its parameters, then the bytes read in full packets. On EOF one
shorter message carries the rest and the call ends with OK; on an error the rest
is dropped and the call is aborted. -/
theorem scan_stream_law : ∃ last data status,
    scan device handle parameters reads = some last ∧
    last.base = ⟨streamCalls device.deviceName parameters data status, 0⟩ ∧
    Lawful reads data status := by
  by_cases atEnd : reads.ending = .eof
  · obtain ⟨last, data, completed, base, flat, sizes⟩ :=
      scan_of_eof device handle parameters reads atEnd
    exact ⟨last, data, .ok, completed, base, by simp [atEnd], fun _ => ⟨flat, sizes⟩,
      fun failed => absurd atEnd failed⟩
  · obtain ⟨last, data, completed, base, flat, sizes⟩ :=
      scan_of_error device handle parameters reads atEnd
    exact ⟨last, data, aborted reads.ending, completed, base,
      by simp [atEnd, aborted, GrpcStatus.ok], fun other => absurd other atEnd,
      fun _ => ⟨flat, sizes, rfl⟩⟩

def fullRead : SaneRead := ⟨.good, List.replicate 2048 0, Nat.le_of_eq List.length_replicate⟩

@[simp] theorem fullRead_status : fullRead.status = .good := rfl

def jammedReads : ReadSequence where
  read index := if index < 5 then fullRead else .empty .jammed
  closed index _ _ atEnd := by
    by_cases early : index < 5 <;> simp [early, SaneRead.empty] at atEnd
  ends := ⟨5, by simp [SaneRead.empty]⟩

theorem jammedReads_stop : jammedReads.stop = 5 := by
  rw [ReadSequence.stop, Nat.find_eq_iff]
  refine ⟨by simp [jammedReads, SaneRead.empty], fun index early => ?_⟩
  simp [jammedReads, early]

theorem jammedReads_packed : ∃ packet : List UInt8, packet.length = 10240 ∧
    pack packetSize [] (chunks jammedReads) = ([packet], []) := by
  have gathered : chunks jammedReads =
      [fullRead.data, fullRead.data, fullRead.data, fullRead.data, fullRead.data, []] := by
    rw [chunks, jammedReads_stop]
    rfl
  have size : fullRead.data.length = 2048 := List.length_replicate
  refine ⟨[] ++ fullRead.data ++ fullRead.data ++ fullRead.data ++ fullRead.data ++ fullRead.data,
    by simp [size], ?_⟩
  rw [gathered, pack_below, pack_below, pack_below, pack_below, pack_full, pack_below]
  · rfl
  all_goals simp [size, packetSize]

/-- The packet sent before a paper jam is the last message, and a full one. -/
theorem jam_leaves_full_packet_last :
    ¬ ∃ last data status, scan ⟨"flatbed", none, {}, .closed⟩ 1 {} jammedReads = some last ∧
      last.base = ⟨streamCalls "flatbed" {} data status, 0⟩ ∧ ShortLast data := by
  rintro ⟨last, data, status, completed, base, front, final, split, -, short⟩
  obtain ⟨reached, again, calls⟩ :=
    scan_calls ⟨"flatbed", none, {}, .closed⟩ 1 {} jammedReads
  have same : reached = last := Option.some.inj (again.symm.trans completed)
  have jammed : jammedReads.ending = .jammed := by
    rw [ReadSequence.ending, jammedReads_stop]
    rfl
  obtain ⟨packet, full, packed⟩ := jammedReads_packed
  rw [same, base, jammed, remainingCalls, packed] at calls
  have streamed : data = [packet] :=
    streamCalls_data (congrArg ServerWriteReactor.calls calls)
  rw [streamed] at split
  cases front with
  | nil =>
      obtain rfl : packet = final := by simpa using split
      omega
  | cons first rest => simp at split

end Law
end SaneInTheMembrane.ScanStream
