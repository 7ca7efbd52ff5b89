import SaneInTheMembrane.SaneDevice

/-!
The server side of the Scan call. A reactor writes one message at a time; each
completed write lets it read the device until the next packet is full, the frame
ends or the device fails. The handlers here run to their end; what happens when
they overlap is a matter of `ScanDiscipline`.
-/

namespace SaneInTheMembrane.ScanReactor
open SaneDevice

section Messages

structure ScanParameters where
  format : Int64
  lastFrame : Bool
  bytesPerLine : Int64
  pixelsPerLine : Int64
  lines : Int64
  depth : Int64
  deriving DecidableEq

/-- `data` holds the `raw_bytes` of the message's data, when it has data. -/
structure ScanResponse where
  scannerName : String := ""
  data : Option (List UInt8) := none
  parameters : Option ScanParameters := none
  deriving DecidableEq

inductive StatusCode where
  | ok | cancelled | unknown | aborted
  deriving DecidableEq, Repr

/-- The error text is `message`, followed by the text of `cause` when there is one. -/
structure GrpcStatus where
  code : StatusCode
  message : String := ""
  cause : Option SaneStatus := none
  deriving DecidableEq

def GrpcStatus.ok : GrpcStatus := ⟨.ok, "", none⟩

def frameCode : SaneFrame → Int64
  | .gray => 0
  | .rgb => 1
  | .red => 2
  | .green => 3
  | .blue => 4

end Messages

section Base

inductive Call where
  | startWrite (response : ScanResponse)
  | finish (status : GrpcStatus)
  deriving DecidableEq

/-- The base class: the calls it received, and how many of the writes among them
await their OnWriteDone. -/
structure ServerWriteReactor where
  calls : List Call := []
  outstanding : Nat := 0
  deriving DecidableEq

namespace ServerWriteReactor

def startWrite (base : ServerWriteReactor) (response : ScanResponse) : ServerWriteReactor :=
  ⟨base.calls ++ [.startWrite response], base.outstanding + 1⟩

def finish (base : ServerWriteReactor) (status : GrpcStatus) : ServerWriteReactor :=
  { base with calls := base.calls ++ [.finish status] }

def writeDone (base : ServerWriteReactor) : ServerWriteReactor :=
  { base with outstanding := base.outstanding - 1 }

end ServerWriteReactor
end Base

/-- A packet leaves as soon as this many bytes are collected. -/
def packetSize : Nat := 10240

structure CScanResponseReactor where
  base : ServerWriteReactor := {}
  response : ScanResponse := {}
  byteData : List UInt8 := []
  finished : Bool := false
  deriving DecidableEq

structure StartAnswers where
  opening : OpenAnswer
  starting : SaneStatus
  parameters : SaneStatus × SaneParameters

namespace CScanResponseReactor

def startWrite (reactor : CScanResponseReactor) : CScanResponseReactor :=
  { reactor with base := reactor.base.startWrite reactor.response }

def finish (reactor : CScanResponseReactor) (status : GrpcStatus) : CScanResponseReactor :=
  if reactor.finished then reactor
  else { reactor with finished := true, base := reactor.base.finish status }

def resetResponse (reactor : CScanResponseReactor) (device : CSaneDevice) :
    CScanResponseReactor :=
  { reactor with response := { scannerName := device.deviceName }, byteData := [] }

def fillResponse (reactor : CScanResponseReactor) : CScanResponseReactor :=
  { reactor with response := { reactor.response with data := some reactor.byteData } }

def writeResponse (reactor : CScanResponseReactor) : CScanResponseReactor :=
  reactor.fillResponse.startWrite

def writeSaneParameters (reactor : CScanResponseReactor) (parameters : SaneParameters) :
    CScanResponseReactor :=
  { reactor with response := { reactor.response with parameters := some {
      format := frameCode parameters.format
      lastFrame := parameters.lastFrame
      bytesPerLine := parameters.bytesPerLine.toInt64
      pixelsPerLine := parameters.pixelsPerLine.toInt64
      lines := parameters.lines.toInt64
      depth := parameters.depth.toInt64 } } }

def collect (reactor : CScanResponseReactor) (read : SaneRead) : CScanResponseReactor :=
  if read.status = .good ∨ read.status = .eof then
    { reactor with byteData := reactor.byteData ++ read.data }
  else reactor

def startScan (reactor : CScanResponseReactor) (device : CSaneDevice) (answers : StartAnswers) :
    CScanResponseReactor × CSaneDevice :=
  let reactor := reactor.resetResponse device
  let opened := device.open answers.opening
  if opened.1 ≠ .good then
    (reactor.finish ⟨.cancelled, "Failed to open device: ", some opened.1⟩, opened.2)
  else
    let started := opened.2.start answers.starting
    if started.1 ≠ .good then
      (reactor.finish ⟨.cancelled, "Failed to start device: ", some started.1⟩, started.2)
    else
      let refreshed := started.2.refreshParameters answers.parameters
      if refreshed.1 ≠ .good then
        (reactor.finish ⟨.cancelled, "Failed to start device: ", some refreshed.1⟩, refreshed.2)
      else
        ((reactor.writeSaneParameters refreshed.2.parameters).startWrite, refreshed.2)

/-- The loop of `next_packet`, fed with the answers the backend gives to its
reads. It returns the answers it left, and nothing when it still waits for one. -/
def readLoop (device : CSaneDevice) :
    CScanResponseReactor → List SaneRead → Option (CScanResponseReactor × List SaneRead)
  | _, [] => none
  | reactor, answer :: rest =>
      let read := device.read answer
      let reactor := reactor.collect read
      -- The size comes before the status: an EOF that fills a packet is read again.
      if packetSize ≤ reactor.byteData.length then
        some (reactor.writeResponse, rest)
      else if read.status = .good then
        readLoop device reactor rest
      else if read.status = .eof then
        some (reactor.writeResponse.finish .ok, rest)
      else
        some (reactor.finish ⟨.aborted, "Failed to read from device: ", some read.status⟩, rest)

def nextPacket (reactor : CScanResponseReactor) (device : CSaneDevice)
    (answers : List SaneRead) : Option (CScanResponseReactor × List SaneRead) :=
  readLoop device (reactor.resetResponse device) answers

def onWriteDone (reactor : CScanResponseReactor) (device : CSaneDevice) (ok : Bool)
    (answers : List SaneRead) : Option (CScanResponseReactor × List SaneRead) :=
  let reactor := { reactor with base := reactor.base.writeDone }
  if ok && !reactor.finished then
    reactor.nextPacket device answers
  else if !ok && !reactor.finished then
    some (reactor.finish ⟨.unknown, "Write failed", none⟩, answers)
  else
    -- The call is finished; its last completion changes nothing.
    some (reactor, answers)

def onCancel (device : CSaneDevice) : CSaneDevice := device.cancel

def onDone (device : CSaneDevice) : CSaneDevice := device.close

def make (device : CSaneDevice) (answers : StartAnswers) : CScanResponseReactor × CSaneDevice :=
  startScan {} device answers

section Finishing
variable (reactor : CScanResponseReactor) (status : GrpcStatus)

theorem finish_finished : (reactor.finish status).finished = true := by
  unfold finish
  split
  · assumption
  · rfl

theorem finish_outstanding :
    (reactor.finish status).base.outstanding = reactor.base.outstanding := by
  unfold finish
  split <;> rfl

theorem finish_calls (unfinished : reactor.finished = false) :
    (reactor.finish status).base.calls = reactor.base.calls ++ [.finish status] := by
  simp [finish, unfinished, ServerWriteReactor.finish]

end Finishing
end CScanResponseReactor
end SaneInTheMembrane.ScanReactor
