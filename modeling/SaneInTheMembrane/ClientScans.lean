import SaneInTheMembrane.ManagedFiles
import SaneInTheMembrane.ReaderCompletion
import SaneInTheMembrane.ScanButton
import SaneInTheMembrane.ScanEndToEnd
import SaneInTheMembrane.ScanImage

/-!
The reader and its file are looked at from several sides: by the bytes of a scan, by
the steps that completions take between those of the UI thread, by what the button
asks for, by the image that is made. Scans that have the reader to themselves are the
same from each.
-/

namespace SaneInTheMembrane.ClientScans
open FileStore ScanReader ScanReactor
open ScanProgress (messages)

section Files
variable {Path : Type}

/-- A CFile on its disk, as the image is made from it. -/
def scanned (stored : Disk Path × FileStore.CFile Path) : ScanImage.CFile where
  disk := stored.2.read stored.1
  size := UInt64.ofNat stored.2.size

/-- The data of a message is written, and the disk takes so many of the bytes. -/
def store (stored : Disk Path × FileStore.CFile Path) (received : ScanResponse × Nat) :
    Disk Path × FileStore.CFile Path :=
  match received.1.data with
  | none => stored
  | some data => stored.2.write stored.1 data received.2

def Whole (received : ScanResponse × Nat) : Prop :=
  ∀ data, received.1.data = some data → data.length ≤ received.2

/-- The reader's bytes are those in the file, and both have counted them. -/
structure Stored (reader : CScanResponseReader) (stored : Disk Path × FileStore.CFile Path) :
    Prop where
  shows : stored.1.Shows stored.2.path stored.2.ofstream
  file : scanned stored = ⟨reader.currentFile, reader.totalBytes⟩

theorem write_shows {stored : Disk Path × FileStore.CFile Path} {data : List UInt8} {taken : Nat}
    (shows : stored.1.Shows stored.2.path stored.2.ofstream) (whole : data.length ≤ taken) :
    let written := stored.2.write stored.1 data taken
    written.1.Shows written.2.path written.2.ofstream := by
  obtain ⟨some, named⟩ := shows
  obtain ⟨inode, stream⟩ := Option.isSome_iff_exists.mp some
  rw [stream] at named
  simp only [FileStore.CFile.write, Disk.write, stream, Disk.append, if_pos whole, Disk.Shows]
  exact ⟨rfl, named⟩

/-- A write of which the disk takes every byte is one in either model. -/
theorem scanned_write {stored : Disk Path × FileStore.CFile Path} {data : List UInt8}
    {taken : Nat} (shows : stored.1.Shows stored.2.path stored.2.ofstream)
    (whole : data.length ≤ taken) :
    scanned (stored.2.write stored.1 data taken) = (scanned stored).write data := by
  have reads := read_write stored.1 stored.2.ofstream data taken stored.2.path
  rw [if_pos shows, List.take_of_length_le whole] at reads
  simp only [scanned, ScanImage.CFile.write, ScanImage.CFile.mk.injEq]
  exact ⟨reads, UInt64.ofNat_add _ _⟩

theorem store_keeps {reader : CScanResponseReader} {stored : Disk Path × FileStore.CFile Path}
    (received : ScanResponse × Nat) (whole : Whole received) (kept : Stored reader stored) :
    Stored (reader.onReadDone received.1) (store stored received) := by
  have file := reader.onReadDone_currentFile received.1
  have total := reader.onReadDone_totalBytes received.1
  cases data : received.1.data with
  | none =>
      simp only [data, Option.getD_none, List.append_nil, List.length_nil] at file total
      simp only [store, data]
      refine ⟨kept.shows, ?_⟩
      rw [kept.file, file, total]
      simp
  | some bytes =>
      simp only [data, Option.getD_some] at file total
      simp only [store, data]
      refine ⟨write_shows kept.shows (whole bytes data), ?_⟩
      rw [scanned_write kept.shows (whole bytes data), kept.file, file, total]
      rfl

theorem stores_keep {reader : CScanResponseReader} {stored : Disk Path × FileStore.CFile Path}
    (received : List (ScanResponse × Nat)) (whole : ∀ one ∈ received, Whole one)
    (kept : Stored reader stored) :
    Stored ((received.map Prod.fst).foldl CScanResponseReader.onReadDone reader)
      (received.foldl store stored) := by
  induction received generalizing reader stored with
  | nil => exact kept
  | cons one rest ih =>
      exact ih (fun later member => whole later (List.mem_cons_of_mem _ member))
        (store_keeps one (whole one List.mem_cons_self) kept)

variable [DecidableEq Path]

theorem make_stored {disk : Disk Path} {path : Path} (reader : CScanResponseReader)
    (free : disk.names path = none) :
    Stored (ScanEndToEnd.Client.startNewFile (ScanEndToEnd.Client.reset reader))
      (FileStore.CFile.make disk path true) := by
  constructor
  · exact (shows_openOutput disk path true path).mpr ⟨rfl, rfl, by simp [free]⟩
  · have empty : disk.read path = [] := by simp [Disk.read, free]
    have opened := read_openOutput disk path true path
    rw [empty] at opened
    simp only [scanned, FileStore.CFile.make, FileStore.CFile.read, opened]
    rfl

/-- Where the path is free and the disk takes every byte, the image of a scan is made of
the bytes that the device produced. -/
theorem scanned_of_carries {disk : Disk Path} {path : Path} {calls : List SaneCalls.SaneCall}
    {transcript : List Call} (carries : ScanEndToEnd.Carries calls transcript)
    (free : disk.names path = none) (received : List (ScanResponse × Nat))
    (all : received.map Prod.fst = messages transcript) (whole : ∀ one ∈ received, Whole one) :
    (scanned (received.foldl store (FileStore.CFile.make disk path true))).read =
      ScanEndToEnd.produced calls := by
  have kept := stores_keep received whole (make_stored {} free)
  rw [all] at kept
  rw [kept.file]
  exact (ScanEndToEnd.carries_received carries _ rfl).1

end Files

section Calls
open ReaderCompletion (Label)

def aloneSteps (scan : Nat) (received : List ScanResponse) : List Label :=
  List.replicate 7 .scan ++
    received.map (fun message => .onReadDone scan message.parameters.isSome) ++
    List.replicate 4 (.onDone scan)

structure Scan where
  received : List ScanResponse
  status : GrpcStatus
  calls : List SaneCalls.SaneCall

def scanWhole (client : ScanEndToEnd.Client) (scan : Scan) : ScanEndToEnd.Client :=
  let begun := client.scan
  { begun with
    reader := scan.received.foldl CScanResponseReader.onReadDone begun.reader }.onDone
      scan.status scan.calls

structure Contents where
  file : List UInt8
  params : ScannerParameters

/-- Parameters that no call has read are those the reader was made with. -/
def paramsOf (contents : Nat → Contents) : Option Nat → ScannerParameters
  | none => {}
  | some scan => (contents scan).params

/-- A completion that names files and parameters by their scans, and one that has them. -/
structure Names (contents : Nat → Contents) (signal : ReaderCompletion.SigDone)
    (done : ScanEndToEnd.Done) : Prop where
  file : ∃ scan, signal.file = some scan ∧ done.file = (contents scan).file
  params : done.params = paramsOf contents signal.params

structure Below (scans : Nat) (signal : ReaderCompletion.SigDone) : Prop where
  file : ∀ scan, signal.file = some scan → scan < scans
  params : ∀ scan, signal.params = some scan → scan < scans

structure Matches (contents : Nat → Contents) (reader : ReaderCompletion.CScanResponseReader)
    (client : ScanEndToEnd.Client) : Prop where
  idle : reader.ui = .idle
  free : reader.inProgress = false
  context : reader.context = .null
  clientFree : client.inProgress = false
  params : client.reader.params = paramsOf contents reader.params
  paramsBelow : ∀ scan, reader.params = some scan → scan < reader.scans
  signals : List.Forall₂ (Names contents) reader.signals client.done
  below : ∀ signal ∈ reader.signals, Below reader.scans signal

theorem paramsOf_update {contents : Nat → Contents} {scans : Nat} (new : Contents)
    {params : Option Nat} (below : ∀ scan, params = some scan → scan < scans) :
    paramsOf (Function.update contents scans new) params = paramsOf contents params := by
  cases params with
  | none => rfl
  | some scan =>
      simp only [paramsOf]
      rw [Function.update_of_ne (Nat.ne_of_lt (below scan rfl))]

theorem Names.update {contents : Nat → Contents} {scans : Nat} (new : Contents)
    {signal : ReaderCompletion.SigDone} {done : ScanEndToEnd.Done}
    (names : Names contents signal done) (below : Below scans signal) :
    Names (Function.update contents scans new) signal done := by
  obtain ⟨scan, signalled, file⟩ := names.file
  have earlier : scan ≠ scans := Nat.ne_of_lt (below.file scan signalled)
  exact ⟨⟨scan, signalled, by rw [Function.update_of_ne earlier, file]⟩,
    by rw [paramsOf_update new below.params, names.params]⟩

theorem Below.mono {scans more : Nat} {signal : ReaderCompletion.SigDone}
    (below : Below scans signal) (grown : scans ≤ more) : Below more signal :=
  ⟨fun scan named => Nat.lt_of_lt_of_le (below.file scan named) grown,
    fun scan named => Nat.lt_of_lt_of_le (below.params scan named) grown⟩

theorem reads_reach (scan : Nat) (received : List ScanResponse)
    (reader : ReaderCompletion.CScanResponseReader) (running : reader.calls scan = .running) :
    ∃ marked, Runs.run ReaderCompletion.step reader
      (received.map fun message => .onReadDone scan message.parameters.isSome) =
        .ok { reader with
          params := if received.any (·.parameters.isSome) then some scan else reader.params
          received := marked } := by
  induction received generalizing reader with
  | nil => exact ⟨reader.received, rfl⟩
  | cons message rest ih =>
      have taken : ReaderCompletion.step reader (.onReadDone scan message.parameters.isSome) =
          .ok (reader.onReadDone scan message.parameters.isSome) := if_pos running
      rw [List.map_cons, Runs.run_cons_ok _ taken]
      cases some : message.parameters.isSome with
      | false => simpa [ReaderCompletion.CScanResponseReader.onReadDone, some] using ih reader running
      | true =>
          obtain ⟨marked, reached⟩ := ih (reader.onReadDone scan true) running
          refine ⟨marked, ?_⟩
          simp only [List.any_cons, some, Bool.true_or, if_true]
          simpa [ReaderCompletion.CScanResponseReader.onReadDone] using reached

theorem fold_params_none (received : List ScanResponse) (reader : CScanResponseReader)
    (none : received.any (·.parameters.isSome) = false) :
    (received.foldl CScanResponseReader.onReadDone reader).params = reader.params := by
  apply ScanEndToEnd.fold_params
  intro message member
  have absent := List.any_eq_false.mp none message member
  simpa using absent

theorem alone_reaches {reader : ReaderCompletion.CScanResponseReader}
    (idle : reader.ui = .idle) (free : reader.inProgress = false) (context : reader.context = .null)
    (received : List ScanResponse) :
    let params :=
      if received.any (·.parameters.isSome) then some reader.scans else reader.params
    ∃ next, Runs.run ReaderCompletion.step reader (aloneSteps reader.scans received) = .ok next ∧
      next.ui = .idle ∧ next.inProgress = false ∧ next.context = .null ∧
      next.scans = reader.scans + 1 ∧ next.params = params ∧
      next.signals = reader.signals ++ [⟨reader.scans, some reader.scans, params⟩] := by
  intro params
  have begun := ReaderCompletion.scan_reaches reader idle free context
  obtain ⟨marked, read⟩ := reads_reach reader.scans received
    { reader.setCall reader.scans .running with
      inProgress := true
      context := .live reader.scans
      currentFile := some reader.scans
      scans := reader.scans + 1 }
    (by simp [ReaderCompletion.CScanResponseReader.setCall])
  have ended := ReaderCompletion.onDone_reaches
    { reader.setCall reader.scans .running with
      inProgress := true
      context := .live reader.scans
      currentFile := some reader.scans
      scans := reader.scans + 1
      params := params
      received := marked } reader.scans
    (by simp [ReaderCompletion.CScanResponseReader.setCall]) rfl
  have middle := (Runs.run_append_ok _ begun).trans read
  have whole := (Runs.run_append_ok _ middle).trans ended
  exact ⟨_, whole, idle, rfl, rfl, rfl, rfl, rfl⟩

theorem scanWhole_params (client : ScanEndToEnd.Client) (scan : Scan)
    (none : scan.received.any (·.parameters.isSome) = false) :
    (scanWhole client scan).reader.params = client.reader.params := by
  have same := fold_params_none scan.received client.scan.reader none
  have kept : client.scan.reader.params = client.reader.params := by
    unfold ScanEndToEnd.Client.scan
    split <;> rfl
  exact same.trans kept

/-- A scan that has the reader to itself ends with its own file and parameters, from
either side. -/
theorem alone_matches {contents : Nat → Contents}
    {reader : ReaderCompletion.CScanResponseReader} {client : ScanEndToEnd.Client}
    (before : Matches contents reader client) (scan : Scan) :
    ∃ next after, Runs.run ReaderCompletion.step reader (aloneSteps reader.scans scan.received) =
        .ok next ∧ next.scans = reader.scans + 1 ∧ Matches after next (scanWhole client scan) := by
  obtain ⟨next, reached, idle, free, context, scans, params, signals⟩ :=
    alone_reaches before.idle before.free before.context scan.received
  let last := (scanWhole client scan).reader
  let new : Contents := ⟨last.currentFile, last.params⟩
  -- Only a call that has read parameters names itself in them.
  have named : last.params =
      paramsOf (Function.update contents reader.scans new) next.params := by
    rw [params]
    cases any : scan.received.any (·.parameters.isSome) with
    | true => simp [paramsOf, new]
    | false =>
        rw [if_neg (by simp), paramsOf_update new before.paramsBelow, ← before.params]
        exact scanWhole_params client scan any
  have below : ∀ other, next.params = some other → other < next.scans := by
    intro other same
    rw [params] at same
    rw [scans]
    split at same
    next =>
        cases same
        exact Nat.lt_succ_self _
    next => exact Nat.lt_succ_of_lt (before.paramsBelow other same)
  refine ⟨next, Function.update contents reader.scans new, reached, scans, ?_⟩
  constructor
  · exact idle
  · exact free
  · exact context
  · rfl
  · exact named
  · exact below
  · have done : (scanWhole client scan).done =
        client.done ++ [⟨scan.status, last.currentFile, last.params, scan.calls⟩] := by
      simp [scanWhole, ScanEndToEnd.Client.onDone, ScanEndToEnd.Client.scan, before.clientFree,
        last]
    rw [signals, done]
    apply List.rel_append
    · have both := (List.forall₂_and_left _ _).mpr ⟨before.below, before.signals⟩
      exact both.imp fun _ _ names => names.2.update new names.1
    · refine .cons ⟨⟨reader.scans, rfl, ?_⟩, ?_⟩ .nil
      · simp [new]
      · rw [← params]
        exact named
  · rw [signals, scans]
    intro signal member
    rcases List.mem_append.mp member with earlier | now
    · exact (before.below signal earlier).mono (Nat.le_succ _)
    · rw [List.mem_singleton.mp now, ← params]
      exact ⟨fun other same => by cases same; exact Nat.lt_succ_self _,
        fun other same => scans ▸ below other same⟩

theorem initial_matches :
    Matches (fun _ => ⟨[], {}⟩) ReaderCompletion.initial { reader := {} } where
  idle := rfl
  free := rfl
  context := rfl
  clientFree := rfl
  params := rfl
  paramsBelow _ named := by cases named
  signals := .nil
  below _ member := absurd member List.not_mem_nil

def historySteps (scans : Nat) : List Scan → List Label
  | [] => []
  | scan :: rest => aloneSteps scans scan.received ++ historySteps (scans + 1) rest

theorem history_keeps (history : List Scan) {contents : Nat → Contents}
    {reader : ReaderCompletion.CScanResponseReader} {client : ScanEndToEnd.Client}
    (before : Matches contents reader client) :
    ∃ last after, Runs.run ReaderCompletion.step reader (historySteps reader.scans history) =
        .ok last ∧ Matches after last (history.foldl scanWhole client) := by
  induction history generalizing contents reader client with
  | nil => exact ⟨reader, contents, rfl, before⟩
  | cons scan rest ih =>
      obtain ⟨next, after, reached, scans, behind⟩ := alone_matches before scan
      obtain ⟨last, final, ran, matched⟩ := ih behind
      refine ⟨last, final, ?_, matched⟩
      rw [historySteps, Runs.run_append_ok _ reached, ← scans]
      exact ran

/-- Scans one after the other: what the completions name is what the client was sent. -/
theorem histories_match (history : List Scan) : ∃ last contents,
    Runs.run ReaderCompletion.step ReaderCompletion.initial (historySteps 0 history) = .ok last ∧
      List.Forall₂ (Names contents) last.signals
        (history.foldl scanWhole { reader := {} }).done := by
  obtain ⟨last, contents, reached, matched⟩ := history_keeps history initial_matches
  exact ⟨last, contents, reached, matched.signals⟩

end Calls

section Button

structure Counts (button : ScanButton.CScanResponseReader)
    (reader : ReaderCompletion.CScanResponseReader) : Prop where
  busy : button.inProgress = reader.inProgress
  started : button.started.length = reader.scans

/-- What the button takes for one step are all the steps of `scan`, or the first if a scan
runs. -/
theorem scan_counts {button : ScanButton.CScanResponseReader}
    {reader : ReaderCompletion.CScanResponseReader} (counts : Counts button reader)
    (idle : reader.ui = .idle) (context : reader.inProgress = false → reader.context = .null)
    (request : String) :
    ∃ next, Runs.run ReaderCompletion.step reader
        (List.replicate (if button.inProgress then 1 else 7) .scan) = .ok next ∧
      Counts (button.scan request) next := by
  cases busy : button.inProgress with
  | true =>
      have same : reader.inProgress = true := counts.busy ▸ busy
      refine ⟨reader, ?_, ?_, ?_⟩
      · simp [Runs.run, ReaderCompletion.step, ReaderCompletion.CScanResponseReader.scanStep,
          idle, same]
      · simp [ScanButton.CScanResponseReader.scan, busy, same]
      · simp [ScanButton.CScanResponseReader.scan, busy, counts.started]
  | false =>
      have same : reader.inProgress = false := counts.busy ▸ busy
      refine ⟨_, ReaderCompletion.scan_reaches reader idle same (context same), ?_, ?_⟩
      · simp [ScanButton.CScanResponseReader.scan, busy]
      · simp [ScanButton.CScanResponseReader.scan, busy, counts.started]

theorem done_counts {button : ScanButton.CScanResponseReader}
    {reader : ReaderCompletion.CScanResponseReader} (counts : Counts button reader) (scan : Nat)
    (running : reader.calls scan = .running) (live : reader.context = .live scan) :
    ∃ next, Runs.run ReaderCompletion.step reader (List.replicate 4 (.onDone scan)) = .ok next ∧
      Counts { button with inProgress := false } next :=
  ⟨_, ReaderCompletion.onDone_reaches reader scan running live, rfl, counts.started⟩

end Button
end SaneInTheMembrane.ClientScans
