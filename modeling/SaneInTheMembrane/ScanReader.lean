import Mathlib.Algebra.Order.Field.Rat
import SaneInTheMembrane.ScanReactor

/-!
The client side of the Scan call: what the reader makes of the messages it
receives, up to the progress it reports. Progress is a rational number, and
nothing when the total it is measured against is zero.
-/

namespace SaneInTheMembrane.ScanReader
open ScanReactor

structure ScannerParameters where
  format : Int64 := 0
  lastFrame : Bool := false
  bytesPerLine : Int64 := 0
  pixelsPerLine : Int64 := 0
  lines : Int64 := 0
  depth : Int64 := 0
  deriving DecidableEq

def ScannerParameters.ofMessage (scan : ScanParameters) : ScannerParameters where
  format := scan.format
  lastFrame := scan.lastFrame
  bytesPerLine := scan.bytesPerLine
  pixelsPerLine := scan.pixelsPerLine
  lines := scan.lines
  depth := scan.depth

/-- The bytes that a frame with these parameters is expected to have, in the
client's arithmetic. A single colour counts three times. -/
def ScannerParameters.expectedBytes (params : ScannerParameters) : UInt64 :=
  params.bytesPerLine.toUInt64 * params.lines.toUInt64 *
    (if params.format = frameCode .rgb ∨ params.format = frameCode .gray then 1 else 3)

def progressValue (total hundred : UInt64) : Option ℚ :=
  if hundred = 0 then none else some (total.toNat * 100 / hundred.toNat)

structure CScanResponseReader where
  params : ScannerParameters := {}
  hundredPercent : UInt64 := 0
  totalBytes : UInt64 := 0
  currentFile : List UInt8 := []
  progress : List (Option ℚ) := []

namespace CScanResponseReader

def takeParameters (reader : CScanResponseReader) :
    Option ScanParameters → CScanResponseReader
  | none => reader
  | some scan =>
      let params := ScannerParameters.ofMessage scan
      { reader with params := params, hundredPercent := params.expectedBytes }

def takeData (reader : CScanResponseReader) : Option (List UInt8) → CScanResponseReader
  | none => reader
  | some data =>
      { reader with
        currentFile := reader.currentFile ++ data
        totalBytes := reader.totalBytes + UInt64.ofNat data.length }

def emitProgress (reader : CScanResponseReader) : CScanResponseReader :=
  { reader with
    progress := reader.progress ++ [progressValue reader.totalBytes reader.hundredPercent] }

def onReadDone (reader : CScanResponseReader) (response : ScanResponse) : CScanResponseReader :=
  ((reader.takeParameters response.parameters).takeData response.data).emitProgress

/-- Start a scan into a new file and read the messages of the call. -/
def receive (messages : List ScanResponse) : CScanResponseReader :=
  messages.foldl onReadDone {}

variable (reader : CScanResponseReader) (response : ScanResponse)

theorem onReadDone_currentFile :
    (reader.onReadDone response).currentFile = reader.currentFile ++ response.data.getD [] := by
  cases params : response.parameters <;> cases data : response.data <;>
    simp [onReadDone, takeParameters, takeData, emitProgress, params, data]

theorem onReadDone_totalBytes :
    (reader.onReadDone response).totalBytes =
      reader.totalBytes + UInt64.ofNat (response.data.getD []).length := by
  cases params : response.parameters <;> cases data : response.data <;>
    simp [onReadDone, takeParameters, takeData, emitProgress, params, data]

theorem onReadDone_params :
    (reader.onReadDone response).params =
      (response.parameters.map ScannerParameters.ofMessage).getD reader.params := by
  cases params : response.parameters <;> cases data : response.data <;>
    simp [onReadDone, takeParameters, takeData, emitProgress, params, data]

end CScanResponseReader
end SaneInTheMembrane.ScanReader
