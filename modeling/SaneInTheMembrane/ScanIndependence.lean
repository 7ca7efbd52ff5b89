import SaneInTheMembrane.SharedScanner

/-!
Scan calls on one device that keep apart do not disturb each other: a call that
fails could as well not have been made, and a call that ends with OK carries an
acquisition of its own. They stop keeping apart when a call closes or cancels
the device that another one opened.
-/

namespace SaneInTheMembrane.ScanIndependence
open SaneDevice ScanReactor SharedScanner
open CScanResponseReactor

section Independence
variable {Rpc : Type} [DecidableEq Rpc]

/-- The call, if it is made, fails in `sane_open` or in `sane_start`. -/
def Fails (rpc : Rpc) (labels : List (Label Rpc)) : Prop :=
  ∀ answers, .construct rpc answers ∈ labels →
    (∃ status failed, answers.opening = .refused status failed) ∨ answers.starting ≠ .good

def without (rpc : Rpc) (labels : List (Label Rpc)) : List (Label Rpc) :=
  labels.filter fun label => label.rpc ≠ rpc

/-- Without the call the others are where they are now, and the device too,
unless the call has it open until its OnDone. -/
def AsIfNeverMade (backend : Backend) (name : String) (labels : List (Label Rpc))
    (world : World Rpc) (rpc : Rpc) : Prop :=
  ∃ other, Runs.run (step backend) (initial name) (without rpc labels) = .ok other ∧
    (∀ kept, kept ≠ rpc → other.slots kept = world.slots kept) ∧
    (world.opener ≠ some rpc → other.device.handle = world.device.handle ∧
      other.device.currentState = world.device.currentState)

def dataBytes (calls : List Call) : List UInt8 :=
  calls.flatMap fun
    | .startWrite response => response.data.getD []
    | .finish _ => []

def readBytes (log : List (Rpc × HandleCall)) : List UInt8 :=
  log.flatMap fun entry =>
    match entry.2 with
    | .read read => read.data
    | _ => []

def Own (rpc : Rpc) (entry : Rpc × HandleCall) : Prop :=
  entry.1 = rpc ∧ ((∃ read, entry.2 = .read read) ∨ entry.2 = .cancel)

/-- The call started the device, made the following calls on its handle up to an
EOF, and sent the bytes they returned. -/
def CarriesOwn (log : List (Rpc × HandleCall)) (rpc : Rpc) (calls : List Call) : Prop :=
  ∃ before acquisition last after,
    log = before ++ (rpc, .start .good) :: (acquisition ++ (rpc, .read last) :: after) ∧
    (∀ entry ∈ acquisition, Own rpc entry) ∧ last.status = .eof ∧
    dataBytes calls = readBytes acquisition ++ last.data

structure Undisturbed (backend : Backend) (name : String) (labels : List (Label Rpc))
    (world : World Rpc) : Prop where
  failed : ∀ rpc, Fails rpc labels → AsIfNeverMade backend name labels world rpc
  ended : ∀ rpc reactor, world.slots rpc = .live reactor ∨ world.slots rpc = .gone reactor →
    .finish .ok ∈ reactor.base.calls → CarriesOwn world.log rpc reactor.base.calls

end Independence

section Making
variable (device : CSaneDevice) (answers : StartAnswers)

def NotStarted (reactor : CScanResponseReactor) : Prop :=
  reactor.finished = true ∧ reactor.base.outstanding = 0 ∧ .finish .ok ∉ reactor.base.calls

def Started (reactor : CScanResponseReactor) : Prop :=
  reactor.finished = false ∧ (∀ status, .finish status ∉ reactor.base.calls) ∧
    dataBytes reactor.base.calls = []

theorem finish_notStarted (message : String) (status : SaneStatus) :
    NotStarted (((({} : CScanResponseReactor).resetResponse device).finish
      ⟨.cancelled, message, some status⟩)) := by
  refine ⟨rfl, rfl, ?_⟩
  simp [finish, resetResponse, ServerWriteReactor.finish, GrpcStatus.ok]

theorem make_refused (status : SaneStatus) (failed : status ≠ .good)
    (refused : answers.opening = .refused status failed) :
    NotStarted (make device answers).1 ∧ (make device answers).2 = device := by
  simp only [make, startScan, refused, CSaneDevice.«open»]
  rw [if_pos failed]
  exact ⟨finish_notStarted device _ _, rfl⟩

theorem make_opened (handle : Nat) (opened : answers.opening = .opened handle) :
    (make device answers).2.handle = some handle ∧
    ((answers.starting = .good ∧ (make device answers).2.currentState = .started ∧
      (NotStarted (make device answers).1 ∨ Started (make device answers).1)) ∨
    (answers.starting ≠ .good ∧ NotStarted (make device answers).1 ∧
      (make device answers).2 =
        { device with handle := some handle, currentState := .opened })) := by
  have startable : CSaneDevice.Startable
      { device with handle := some handle, currentState := .opened } := ⟨by simp, rfl⟩
  simp only [make, startScan, opened, CSaneDevice.«open», CSaneDevice.start, if_pos startable]
  rw [if_neg (not_not.mpr rfl)]
  by_cases good : answers.starting = .good
  · rw [if_neg (not_not.mpr good), if_pos good]
    simp only [CSaneDevice.refreshParameters, reduceCtorEq, if_false]
    by_cases refreshed : answers.parameters.1 = .good
    · rw [if_neg (not_not.mpr refreshed)]
      refine ⟨rfl, .inl ⟨good, rfl, .inr ⟨rfl, ?_, rfl⟩⟩⟩
      simp [startWrite, ServerWriteReactor.startWrite, writeSaneParameters, resetResponse]
    · rw [if_pos refreshed]
      exact ⟨rfl, .inl ⟨good, rfl, .inl (finish_notStarted device _ _)⟩⟩
  · rw [if_pos good, if_neg good]
    exact ⟨rfl, .inr ⟨good, finish_notStarted device _ _, rfl⟩⟩

end Making

section Reading
variable {device : CSaneDevice}

/-- How the reading loop ends that started after `calls`, with `held` collected,
and consumed these reads. -/
inductive LoopEnds (calls : List Call) (held : List UInt8) (consumed : List SaneRead)
    (changed : CScanResponseReactor) : Prop where
  | packet (message : ScanResponse) (unfinished : changed.finished = false)
      (made : changed.base.calls = calls ++ [.startWrite message])
      (data : message.data = some (held ++ consumed.flatMap SaneRead.data))
  | ended (message : ScanResponse) (earlier : List SaneRead) (last : SaneRead)
      (finished : changed.finished = true)
      (made : changed.base.calls = calls ++ [.startWrite message] ++ [.finish .ok])
      (data : message.data = some (held ++ consumed.flatMap SaneRead.data))
      (reads : consumed = earlier ++ [last]) (atEnd : last.status = .eof)
  | failed (status : GrpcStatus) (finished : changed.finished = true) (notOk : status ≠ .ok)
      (made : changed.base.calls = calls ++ [.finish status])

theorem collect_kept (reactor : CScanResponseReactor) (read : SaneRead)
    (kept : read.status = .good ∨ read.status = .eof) :
    reactor.collect read = { reactor with byteData := reactor.byteData ++ read.data } := by
  rw [collect, if_pos kept]

theorem collect_dropped (reactor : CScanResponseReactor) (read : SaneRead)
    (dropped : ¬ (read.status = .good ∨ read.status = .eof)) :
    reactor.collect read = reactor := by
  rw [collect, if_neg dropped]

theorem loopEnds_cons {calls : List Call} {held : List UInt8} {consumed : List SaneRead}
    {changed : CScanResponseReactor} (read : SaneRead)
    (ends : LoopEnds calls (held ++ read.data) consumed changed) :
    LoopEnds calls held (read :: consumed) changed := by
  cases ends with
  | packet message unfinished made data =>
      exact .packet message unfinished made (by simpa using data)
  | ended message earlier last finished made data reads atEnd =>
      exact .ended message (read :: earlier) last finished made (by simpa using data)
        (by simp [reads]) atEnd
  | failed status finished notOk made => exact .failed status finished notOk made

theorem readLoop_ends (readable : device.Readable) (answers rest : List SaneRead)
    (reactor changed : CScanResponseReactor) (unfinished : reactor.finished = false)
    (below : reactor.byteData.length < packetSize)
    (handled : readLoop device reactor answers = some (changed, rest)) :
    ∃ consumed, answers = consumed ++ rest ∧
      LoopEnds reactor.base.calls reactor.byteData consumed changed := by
  induction answers generalizing reactor with
  | nil => simp [readLoop] at handled
  | cons answer others ih =>
      simp only [readLoop, CSaneDevice.read, if_pos readable] at handled
      by_cases kept : answer.status = .good ∨ answer.status = .eof
      · rw [collect_kept reactor answer kept] at handled
        split at handled
        next full =>
            cases handled
            refine ⟨[answer], rfl, .packet _ unfinished rfl ?_⟩
            simp [fillResponse]
        next short =>
        split at handled
        next good =>
            -- The read is collected and the loop goes on with what it holds.
            obtain ⟨consumed, split, ends⟩ :=
              ih { reactor with byteData := reactor.byteData ++ answer.data } unfinished
                (Nat.not_le.mp short) handled
            exact ⟨answer :: consumed, by simp [split], loopEnds_cons answer ends⟩
        next notGood =>
            have atEnd := kept.resolve_left notGood
            rw [if_pos atEnd] at handled
            cases handled
            refine ⟨[answer], rfl, .ended (fillResponse _).response [] answer
              (finish_finished _ _) (finish_calls _ _ unfinished) ?_ rfl atEnd⟩
            simp [fillResponse]
      · rw [collect_dropped reactor answer kept] at handled
        obtain ⟨notGood, notEof⟩ := not_or.mp kept
        rw [if_neg (Nat.not_le.mpr below), if_neg notGood, if_neg notEof] at handled
        cases handled
        exact ⟨[answer], rfl, .failed _ (finish_finished _ _) (by simp [GrpcStatus.ok])
          (finish_calls _ _ unfinished)⟩

theorem onWriteDone_ends (readable : device.Readable) (ok : Bool) (answers : List SaneRead)
    (reactor changed : CScanResponseReactor) (unfinished : reactor.finished = false)
    (handled : reactor.onWriteDone device ok answers = some (changed, [])) :
    LoopEnds reactor.base.calls [] answers changed := by
  unfold onWriteDone at handled
  cases ok with
  | true =>
      simp only [unfinished, Bool.not_false, Bool.and_true, if_true] at handled
      obtain ⟨consumed, split, ends⟩ := readLoop_ends readable answers []
        (resetResponse _ device) changed rfl (by simp [resetResponse, packetSize]) handled
      rw [split, List.append_nil]
      exact ends
  | false =>
      simp only [unfinished, Bool.not_false, Bool.and_true, Bool.false_eq_true, if_false,
        if_true] at handled
      cases handled
      exact .failed _ (finish_finished _ _) (by simp [GrpcStatus.ok]) (finish_calls _ _ rfl)

theorem onWriteDone_finished (ok : Bool) (answers : List SaneRead)
    (reactor changed : CScanResponseReactor) (finished : reactor.finished = true)
    (handled : reactor.onWriteDone device ok answers = some (changed, [])) :
    changed.finished = true ∧ changed.base.calls = reactor.base.calls ∧ answers = [] := by
  unfold onWriteDone at handled
  simp only [finished, Bool.not_true, Bool.and_false, Bool.false_eq_true, if_false,
    Option.some.injEq, Prod.mk.injEq] at handled
  obtain ⟨rfl, rfl⟩ := handled
  exact ⟨rfl, rfl, rfl⟩

end Reading

section Holding
variable {Rpc : Type} [DecidableEq Rpc] {backend : Backend} {world next : World Rpc}
  {label : Label Rpc}

/-- Who has the device: the call that opened it, and nobody else is running. -/
structure Held (world : World Rpc) : Prop where
  free : world.device.handle = none →
    world.device.currentState = .closed ∧ world.opener = none
  holder : ∀ rpc, world.opener = some rpc → ∃ reactor, world.slots rpc = .live reactor
  resting : ∀ rpc reactor, world.slots rpc = .live reactor → world.opener ≠ some rpc →
    reactor.finished = true ∧ reactor.base.outstanding = 0

omit [DecidableEq Rpc] in
theorem initial_held (name : String) : Held (initial name : World Rpc) where
  free _ := ⟨rfl, rfl⟩
  holder _ opened := by simp [initial] at opened
  resting _ _ live := by simp [initial] at live

omit [DecidableEq Rpc] in
theorem opens_free {rpc : Rpc} {answers : StartAnswers} {handle : Nat}
    (separate : Separate backend world (.construct rpc answers))
    (given : backend.gives world.device answers = true)
    (opened : answers.opening = .opened handle) : world.device.handle = none := by
  rcases separate with free | ⟨rfl, -⟩
  · exact free
  · simpa [Backend.gives, opened] using given

theorem construct_opened (world : World Rpc) (rpc : Rpc) {answers : StartAnswers} {handle : Nat}
    (opened : answers.opening = .opened handle) :
    (world.construct rpc answers).opener = some rpc ∧
      (world.construct rpc answers).log = world.log ++ [(rpc, .start answers.starting)] := by
  simp [World.construct, opened]

theorem construct_refused (world : World Rpc) (rpc : Rpc) {answers : StartAnswers}
    {status : SaneStatus} {failed : status ≠ .good} (refused : answers.opening = .refused status failed) :
    (world.construct rpc answers).device = world.device ∧
      (world.construct rpc answers).opener = world.opener ∧
      (world.construct rpc answers).log = world.log := by
  have same := (make_refused world.device answers status failed refused).2
  simp [World.construct, refused, same]

theorem close_free (device : CSaneDevice) (free : device.handle = none) :
    device.close = device := by
  rw [CSaneDevice.close, if_pos free]

theorem close_opened (device : CSaneDevice) (handle : Nat) (free : device.handle = none)
    (closed : device.currentState = .closed) :
    ({ device with handle := some handle, currentState := .opened } : CSaneDevice).close =
      device := by
  rw [CSaneDevice.close, if_neg (by simp)]
  cases device
  cases free
  cases closed
  rfl

theorem close_state (device : CSaneDevice)
    (closed : device.handle = none → device.currentState = .closed) :
    device.close.currentState = .closed := by
  unfold CSaneDevice.close
  split
  · exact closed ‹_›
  · rfl

theorem construct_held {rpc : Rpc} {answers : StartAnswers} (held : Held world)
    (free : world.slots rpc = .absent)
    (separate : Separate backend world (.construct rpc answers))
    (given : backend.gives world.device answers = true) : Held (world.construct rpc answers) := by
  cases opening : answers.opening with
  | opened handle =>
      have nobody := (held.free (opens_free separate given opening)).2
      have opener := (construct_opened world rpc opening).1
      refine ⟨fun none => ?_, fun other opened => ?_, fun other reactor live away => ?_⟩
      · simp [(make_opened world.device answers handle opening).1] at none
      · obtain rfl : rpc = other := Option.some.inj (opener.symm.trans opened)
        exact ⟨_, by rw [World.construct_slots, Function.update_self]⟩
      · have apart : other ≠ rpc := fun same => away (same ▸ opener)
        rw [World.construct_slots, Function.update_of_ne apart] at live
        exact held.resting other reactor live (by simp [nobody])
  | refused status failed =>
      obtain ⟨device, opener, -⟩ := construct_refused world rpc opening
      refine ⟨?_, fun other opened => ?_, fun other reactor live away => ?_⟩
      · rw [device, opener]
        exact held.free
      · rw [opener] at opened
        obtain ⟨reactor, live⟩ := held.holder other opened
        have apart : other ≠ rpc := fun same => by simp [same ▸ live] at free
        exact ⟨reactor, by rw [World.construct_slots, Function.update_of_ne apart, live]⟩
      · rw [World.construct_slots] at live
        rcases update_cases (· = .live reactor) live with ⟨-, new⟩ | ⟨-, earlier⟩
        · cases new
          have notStarted := (make_refused world.device answers status failed opening).1
          exact ⟨notStarted.1, notStarted.2.1⟩
        · exact held.resting other reactor earlier (opener ▸ away)

theorem writing_opener {rpc : Rpc} {reactor : CScanResponseReactor} (held : Held world)
    (live : world.slots rpc = .live reactor) (waiting : reactor.base.outstanding ≠ 0) :
    world.opener = some rpc := by
  by_contra away
  exact waiting (held.resting rpc reactor live away).2

theorem writeDone_held {rpc : Rpc} {changed : CScanResponseReactor} {answers : List SaneRead}
    (held : Held world) (opener : world.opener = some rpc) :
    Held (world.writeDone rpc changed answers) := by
  refine ⟨held.free, fun other opened => ?_, fun other reactor live away => ?_⟩
  · obtain rfl : rpc = other := Option.some.inj (opener.symm.trans opened)
    exact ⟨changed, by rw [World.writeDone_slots, Function.update_self]⟩
  · have apart : other ≠ rpc := fun same => away (same ▸ opener)
    rw [World.writeDone_slots, Function.update_of_ne apart] at live
    exact held.resting other reactor live away

theorem done_held {rpc : Rpc} {reactor : CScanResponseReactor} (held : Held world)
    (separate : Separate backend world (.done rpc)) : Held (world.done rpc reactor) := by
  refine ⟨fun _ => ⟨?_, rfl⟩, ?_, fun other waiting live _ => ?_⟩
  · exact close_state _ fun free => (held.free free).1
  · intro other opener
    cases opener
  · rw [World.done_slots] at live
    rcases update_cases (· = .live waiting) live with ⟨-, new⟩ | ⟨apart, earlier⟩
    · cases new
    · refine held.resting other waiting earlier fun opener => ?_
      rcases separate with free | own
      · simp [(held.free free).2] at opener
      · exact apart (Option.some.inj (opener.symm.trans own))

theorem taken_held (held : Held world) (separate : Separate backend world label)
    (taken : Taken backend world label next) : Held next := by
  cases taken with
  | construct rpc answers free given => exact construct_held held free separate given
  | writeDone rpc ok answers reactor changed live waiting handled =>
      exact writeDone_held held (writing_opener held live waiting)
  | cancel rpc reactor live => exact ⟨held.free, held.holder, held.resting⟩
  | done rpc reactor live finished idle => exact done_held held separate

end Holding

section Erasing
variable {Rpc : Type} [DecidableEq Rpc] {backend : Backend} {rpc : Rpc}
  {world next shadow : World Rpc} {label : Label Rpc}

/-- The world without a call that fails. While that call has the device open, the
device is what its OnDone will leave. -/
structure Shadow (rpc : Rpc) (world shadow : World Rpc) : Prop where
  others : ∀ kept, kept ≠ rpc → shadow.slots kept = world.slots kept
  absent : shadow.slots rpc = .absent
  idle : ∀ reactor, world.slots rpc = .live reactor → reactor.base.outstanding = 0
  device : (world.opener ≠ some rpc ∧ shadow.device = world.device) ∨
    (world.opener = some rpc ∧ world.device.currentState = .opened ∧
      shadow.device = world.device.close)

omit [DecidableEq Rpc] in
theorem initial_shadow (name : String) :
    Shadow rpc (initial name : World Rpc) (initial name) where
  others _ _ := rfl
  absent := rfl
  idle _ live := by simp [initial] at live
  device := .inl ⟨by simp [initial], rfl⟩

theorem acting_device (held : Held world) (separate : Separate backend world label)
    (taken : Taken backend world label next) (other : label.rpc ≠ rpc)
    (relates : Shadow rpc world shadow) :
    world.opener ≠ some rpc ∧ shadow.device = world.device := by
  rcases relates.device with apart | ⟨opener, state, -⟩
  · exact apart
  -- The failed call has the device open and unstarted: nobody else may act on it.
  exfalso
  have open_ : world.device.handle ≠ none := by
    intro none
    simp [(held.free none).2] at opener
  cases taken with
  | construct made answers free given =>
      rcases separate with none | ⟨-, started⟩
      · exact open_ none
      · simp [state] at started
  | writeDone made ok answers reactor changed live waiting handled =>
      have own := writing_opener held live waiting
      exact other (Option.some.inj (own.symm.trans opener))
  | cancel made reactor live =>
      rcases separate with none | own
      · exact open_ none
      · exact other (Option.some.inj (own.symm.trans opener))
  | done made reactor live finished idle =>
      rcases separate with none | own
      · exact open_ none
      · exact other (Option.some.inj (own.symm.trans opener))

theorem update_others {made : Rpc} (slot : Slot) (relates : Shadow rpc world shadow)
    (kept : Rpc) (apart : kept ≠ rpc) :
    Function.update shadow.slots made slot kept = Function.update world.slots made slot kept := by
  by_cases same : kept = made
  · rw [same, Function.update_self, Function.update_self]
  · rw [Function.update_of_ne same, Function.update_of_ne same, relates.others kept apart]

theorem shadow_repeats (held : Held world) (separate : Separate backend world label)
    (taken : Taken backend world label next) (other : label.rpc ≠ rpc)
    (relates : Shadow rpc world shadow) :
    ∃ shadowNext, step backend shadow label = .ok shadowNext ∧ Shadow rpc next shadowNext := by
  obtain ⟨opener, device⟩ := acting_device held separate taken other relates
  cases taken with
  | construct made answers free given =>
      have apart : made ≠ rpc := other
      refine ⟨shadow.construct made answers, ?_, ?_, ?_, ?_, .inl ⟨?_, ?_⟩⟩
      · simp [step, relates.others made apart, free, device, given]
      · simpa [device] using update_others _ relates
      · simpa [Function.update_of_ne apart.symm] using relates.absent
      · simpa [Function.update_of_ne apart.symm] using relates.idle
      · cases opening : answers.opening with
        | opened handle => simpa [(construct_opened world _ opening).1] using apart
        | refused status failed => rwa [(construct_refused world _ opening).2.1]
      · simp [device]
  | writeDone made ok answers reactor changed live waiting handled =>
      have apart : made ≠ rpc := other
      refine ⟨shadow.writeDone made changed answers, ?_, ?_, ?_, ?_, .inl ⟨opener, device⟩⟩
      · simp [step, relates.others made apart, live, device, handled, waiting]
      · simpa using update_others _ relates
      · simpa [Function.update_of_ne apart.symm] using relates.absent
      · simpa [Function.update_of_ne apart.symm] using relates.idle
  | cancel made reactor live =>
      have apart : made ≠ rpc := other
      refine ⟨shadow.cancel made, ?_, relates.others, relates.absent, relates.idle,
        .inl ⟨opener, congrArg onCancel device⟩⟩
      simp [step, relates.others made apart, live]
  | done made reactor live finished idle =>
      have apart : made ≠ rpc := other
      refine ⟨shadow.done made reactor, ?_, ?_, ?_, ?_, .inl ⟨?_, congrArg onDone device⟩⟩
      · simp [step, relates.others made apart, live, finished, idle]
      · simpa using update_others _ relates
      · simpa [Function.update_of_ne apart.symm] using relates.absent
      · simpa [Function.update_of_ne apart.symm] using relates.idle
      · simp [World.done]

theorem failing_shadow {answers : StartAnswers} (held : Held world)
    (separate : Separate backend world (.construct rpc answers))
    (fails : Fails rpc [.construct rpc answers]) (free : world.slots rpc = .absent)
    (given : backend.gives world.device answers = true) (relates : Shadow rpc world shadow) :
    Shadow rpc (world.construct rpc answers) shadow := by
  have away : world.opener ≠ some rpc := by
    intro opener
    obtain ⟨reactor, live⟩ := held.holder rpc opener
    simp [free] at live
  have device := (relates.device.resolve_right fun holds => away holds.1).2
  have others (kept : Rpc) (apart : kept ≠ rpc) :
      shadow.slots kept = (world.construct rpc answers).slots kept := by
    rw [World.construct_slots, Function.update_of_ne apart, relates.others kept apart]
  cases opening : answers.opening with
  | opened handle =>
      -- `sane_start` failed: OnDone will leave the device as it was before.
      have closed := opens_free separate given opening
      have notGood : answers.starting ≠ .good := by
        rcases fails answers List.mem_cons_self with ⟨status, failed, refused⟩ | notGood
        · simp [opening] at refused
        · exact notGood
      obtain ⟨-, ⟨good, -⟩ | ⟨-, notStarted, made⟩⟩ :=
        make_opened world.device answers handle opening
      · exact absurd good notGood
      refine ⟨others, relates.absent, fun reactor live => ?_, .inr ⟨?_, ?_, ?_⟩⟩
      · rw [World.construct_slots, Function.update_self] at live
        cases live
        exact notStarted.2.1
      · exact (construct_opened world _ opening).1
      · rw [World.construct_device, made]
      · rw [World.construct_device, made, device]
        exact (close_opened _ handle closed (held.free closed).1).symm
  | refused status failed =>
      obtain ⟨sameDevice, opener, -⟩ := construct_refused world rpc opening
      refine ⟨others, relates.absent, fun reactor live => ?_, .inl ⟨?_, ?_⟩⟩
      · rw [World.construct_slots, Function.update_self] at live
        cases live
        exact (make_refused world.device answers status failed opening).1.2.1
      · rwa [opener]
      · rw [sameDevice, device]

theorem done_shadow {reactor : CScanResponseReactor}
    (separate : Separate backend world (.done rpc)) (relates : Shadow rpc world shadow) :
    Shadow rpc (world.done rpc reactor) shadow := by
  refine ⟨fun kept apart => ?_, relates.absent, fun waiting live => ?_, .inl ⟨?_, ?_⟩⟩
  · rw [World.done_slots, Function.update_of_ne apart, relates.others kept apart]
  · simp at live
  · simp [World.done]
  · rcases relates.device with ⟨away, same⟩ | ⟨-, -, same⟩
    · rw [same]
      exact (close_free _ (separate.resolve_right away)).symm
    · exact same

theorem shadow_stays (held : Held world) (separate : Separate backend world label)
    (fails : Fails rpc [label]) (taken : Taken backend world label next) (own : label.rpc = rpc)
    (relates : Shadow rpc world shadow) : Shadow rpc next shadow := by
  cases taken with
  | construct made answers free given =>
      obtain rfl : made = rpc := own
      exact failing_shadow held separate fails free given relates
  | writeDone made ok answers reactor changed live waiting handled =>
      obtain rfl : made = rpc := own
      exact absurd (relates.idle reactor live) waiting
  | cancel made reactor live => exact ⟨relates.others, relates.absent, relates.idle, relates.device⟩
  | done made reactor live finished idle =>
      obtain rfl : made = rpc := own
      exact done_shadow separate relates

/-- A failed call could as well not have been made. -/
theorem failed_call_leaves_no_trace (name : String) (labels : List (Label Rpc))
    (separate : Runs.Along (step backend) (Separate backend) (initial name) labels)
    (reached : Runs.run (step backend) (initial name) labels = .ok world)
    (fails : Fails rpc labels) : AsIfNeverMade backend name labels world rpc := by
  have each : ∀ label ∈ labels, Fails rpc [label] := fun label member answers made =>
    fails answers (List.mem_singleton.mp made ▸ member)
  obtain ⟨other, repeated, held, relates⟩ := Runs.run_filter
    (fun label => decide (label.rpc ≠ rpc))
    (fun world shadow => Held world ∧ Shadow rpc world shadow)
    (fun state label next shadow related admitted taken kept => by
      obtain ⟨shadowNext, stepped, relates⟩ := shadow_repeats related.1 admitted.1
        (step_taken label taken) (of_decide_eq_true kept) related.2
      exact ⟨shadowNext, stepped,
        taken_held related.1 admitted.1 (step_taken label taken), relates⟩)
    (fun state label next shadow related admitted taken dropped =>
      ⟨taken_held related.1 admitted.1 (step_taken label taken),
        shadow_stays related.1 admitted.1 admitted.2 (step_taken label taken)
          (not_not.mp (of_decide_eq_false dropped)) related.2⟩)
    (initial name) world (initial name) labels ⟨initial_held name, initial_shadow name⟩
    ((Runs.along_and _ _).mpr ⟨separate, Runs.along_of_labels _ _ each⟩) reached
  refine ⟨other, repeated, relates.others, fun away => ?_⟩
  rw [(relates.device.resolve_right fun holds => away holds.1).2]
  exact ⟨rfl, rfl⟩

end Erasing

section Acquisitions
variable {Rpc : Type} {rpc : Rpc} {log : List (Rpc × HandleCall)} {calls : List Call}

/-- The call started the device and since then made every call on its handle. -/
def Acquiring (log : List (Rpc × HandleCall)) (rpc : Rpc) (bytes : List UInt8) : Prop :=
  ∃ before acquisition, log = before ++ (rpc, .start .good) :: acquisition ∧
    (∀ entry ∈ acquisition, Own rpc entry) ∧ readBytes acquisition = bytes

def readCalls (rpc : Rpc) (reads : List SaneRead) : List (Rpc × HandleCall) :=
  reads.map fun read => (rpc, .read read)

@[simp] theorem readBytes_append (front back : List (Rpc × HandleCall)) :
    readBytes (front ++ back) = readBytes front ++ readBytes back := by
  simp [readBytes]

@[simp] theorem readBytes_readCalls (reads : List SaneRead) :
    readBytes (readCalls rpc reads) = reads.flatMap SaneRead.data := by
  simp [readBytes, readCalls, List.flatMap_map]

theorem readCalls_own (reads : List SaneRead) : ∀ entry ∈ readCalls rpc reads, Own rpc entry := by
  intro entry member
  obtain ⟨read, _, rfl⟩ := List.mem_map.mp member
  exact ⟨rfl, .inl ⟨read, rfl⟩⟩

theorem acquiring_extend {bytes : List UInt8} (more : List (Rpc × HandleCall))
    (own : ∀ entry ∈ more, Own rpc entry) (acquiring : Acquiring log rpc bytes) :
    Acquiring (log ++ more) rpc (bytes ++ readBytes more) := by
  obtain ⟨before, acquisition, rfl, mine, returned⟩ := acquiring
  refine ⟨before, acquisition ++ more, by simp, ?_, by simp [returned]⟩
  intro entry member
  exact (List.mem_append.mp member).elim (mine entry) (own entry)

theorem acquiring_ended {bytes : List UInt8} (earlier : List SaneRead) (last : SaneRead)
    (atEnd : last.status = .eof) (acquiring : Acquiring log rpc bytes)
    (sent : dataBytes calls = bytes ++ (earlier ++ [last]).flatMap SaneRead.data) :
    CarriesOwn (log ++ readCalls rpc (earlier ++ [last])) rpc calls := by
  obtain ⟨before, acquisition, split, mine, returned⟩ :=
    acquiring_extend (readCalls rpc earlier) (readCalls_own earlier) acquiring
  refine ⟨before, acquisition, last, [], ?_, mine, atEnd, ?_⟩
  · have grouped : log ++ readCalls rpc (earlier ++ [last]) =
        log ++ readCalls rpc earlier ++ [(rpc, .read last)] := by
      simp [readCalls]
    rw [grouped, split]
    simp
  · rw [sent, returned]
    simp

theorem carriesOwn_extend (more : List (Rpc × HandleCall)) (carries : CarriesOwn log rpc calls) :
    CarriesOwn (log ++ more) rpc calls := by
  obtain ⟨before, acquisition, last, after, rfl, mine, atEnd, sent⟩ := carries
  exact ⟨before, acquisition, last, after ++ more, by simp, mine, atEnd, sent⟩

end Acquisitions

section Sound
variable {Rpc : Type} [DecidableEq Rpc] {backend : Backend} {rpc : Rpc}
  {world next : World Rpc} {label : Label Rpc}

structure Running (world : World Rpc) (rpc : Rpc) (reactor : CScanResponseReactor) : Prop where
  readable : world.device.Readable
  acquiring : Acquiring world.log rpc (dataBytes reactor.base.calls)
  open_ : ∀ status, .finish status ∉ reactor.base.calls

structure Sound (world : World Rpc) : Prop where
  held : Held world
  running : ∀ rpc reactor, world.slots rpc = .live reactor → reactor.finished = false →
    Running world rpc reactor
  ended : ∀ rpc reactor, world.slots rpc = .live reactor ∨ world.slots rpc = .gone reactor →
    .finish .ok ∈ reactor.base.calls → CarriesOwn world.log rpc reactor.base.calls

omit [DecidableEq Rpc] in
theorem initial_sound (name : String) : Sound (initial name : World Rpc) where
  held := initial_held name
  running _ _ live := by simp [initial] at live
  ended _ _ present := by simp [initial] at present

omit [DecidableEq Rpc] in
theorem running_opener {reactor : CScanResponseReactor} (held : Held world)
    (live : world.slots rpc = .live reactor) (unfinished : reactor.finished = false) :
    world.opener = some rpc ∧ world.device.handle ≠ none := by
  have opener : world.opener = some rpc := by
    by_contra away
    simp [(held.resting rpc reactor live away).1] at unfinished
  refine ⟨opener, fun none => ?_⟩
  simp [(held.free none).2] at opener

theorem present_cases {slots : Rpc → Slot} {slot : Slot} {other : Rpc}
    {changed shown : CScanResponseReactor} (kept : slot = .live changed ∨ slot = .gone changed)
    (present : Function.update slots rpc slot other = .live shown ∨
      Function.update slots rpc slot other = .gone shown) :
    other = rpc ∧ changed = shown ∨ (slots other = .live shown ∨ slots other = .gone shown) := by
  rcases update_cases (fun slot => slot = .live shown ∨ slot = .gone shown) present with
    ⟨same, new⟩ | ⟨-, earlier⟩
  · left
    rcases kept with rfl | rfl
    · exact ⟨same, by simpa using new⟩
    · exact ⟨same, by simpa using new⟩
  · exact Or.inr earlier

theorem construct_sound {answers : StartAnswers} (sound : Sound world)
    (separate : Separate backend world (.construct rpc answers))
    (free : world.slots rpc = .absent) (given : backend.gives world.device answers = true) :
    Sound (world.construct rpc answers) := by
  refine ⟨construct_held sound.held free separate given, ?_, ?_⟩
  · intro other reactor live unfinished
    rw [World.construct_slots] at live
    cases opening : answers.opening with
    | opened handle =>
        obtain ⟨-, log⟩ := construct_opened world rpc opening
        rcases update_cases (· = .live reactor) live with ⟨rfl, new⟩ | ⟨-, earlier⟩
        · cases new
          obtain ⟨made, ⟨good, state, notStarted | started⟩ | ⟨-, notStarted, -⟩⟩ :=
            make_opened world.device answers handle opening
          · simp [notStarted.1] at unfinished
          · refine ⟨⟨by simp [made], by simp [state]⟩, ?_, started.2.1⟩
            exact ⟨world.log, [], by rw [log, good], by simp, started.2.2.symm⟩
          · simp [notStarted.1] at unfinished
        · exact absurd (opens_free separate given opening)
            (running_opener sound.held earlier unfinished).2
    | refused status failed =>
        obtain ⟨device, -, log⟩ := construct_refused world rpc opening
        rcases update_cases (· = .live reactor) live with ⟨-, new⟩ | ⟨-, earlier⟩
        · cases new
          simp [(make_refused world.device answers status failed opening).1.1] at unfinished
        · obtain ⟨readable, acquiring, open_⟩ := sound.running other reactor earlier unfinished
          exact ⟨by rwa [device], by rwa [log], open_⟩
  · intro other reactor present ends
    rw [World.construct_slots] at present
    rcases present_cases (.inl rfl) present with ⟨-, rfl⟩ | earlier
    · cases opening : answers.opening with
      | opened handle =>
          obtain ⟨-, ⟨-, -, notStarted | started⟩ | ⟨-, notStarted, -⟩⟩ :=
            make_opened world.device answers handle opening
          · exact absurd ends notStarted.2.2
          · exact absurd ends (started.2.1 _)
          · exact absurd ends notStarted.2.2
      | refused status failed =>
          exact absurd ends (make_refused world.device answers status failed opening).1.2.2
    · have carries := sound.ended other reactor earlier ends
      cases opening : answers.opening with
      | opened handle =>
          rw [(construct_opened world _ opening).2]
          exact carriesOwn_extend _ carries
      | refused status failed => rwa [(construct_refused world _ opening).2.2]

theorem writeDone_log (rpc : Rpc) (changed : CScanResponseReactor) (answers : List SaneRead)
    (readable : world.device.Readable) :
    (world.writeDone rpc changed answers).log = world.log ++ readCalls rpc answers := by
  rw [World.writeDone, if_pos readable]
  rfl

theorem settled_sound {ok : Bool} {answers : List SaneRead}
    {reactor changed : CScanResponseReactor} (sound : Sound world)
    (live : world.slots rpc = .live reactor) (waiting : reactor.base.outstanding ≠ 0)
    (handled : reactor.onWriteDone world.device ok answers = some (changed, []))
    (finished : reactor.finished = true) : Sound (world.writeDone rpc changed answers) := by
  obtain ⟨still, calls, rfl⟩ := onWriteDone_finished ok answers reactor changed finished handled
  have log : (world.writeDone rpc changed []).log = world.log := by simp [World.writeDone]
  refine ⟨writeDone_held sound.held (writing_opener sound.held live waiting), ?_, ?_⟩
  · intro other shown present unfinished
    rw [World.writeDone_slots] at present
    rcases update_cases (· = .live shown) present with ⟨-, new⟩ | ⟨-, earlier⟩
    · cases new
      simp [still] at unfinished
    · obtain ⟨readable, acquiring, open_⟩ := sound.running other shown earlier unfinished
      exact ⟨readable, by rwa [log], open_⟩
  · intro other shown present ends
    rw [World.writeDone_slots] at present
    rw [log]
    rcases present_cases (.inl rfl) present with ⟨rfl, rfl⟩ | earlier
    · rw [calls] at ends ⊢
      exact sound.ended other reactor (.inl live) ends
    · exact sound.ended other shown earlier ends

theorem resumed_sound {ok : Bool} {answers : List SaneRead}
    {reactor changed : CScanResponseReactor} (sound : Sound world)
    (live : world.slots rpc = .live reactor) (waiting : reactor.base.outstanding ≠ 0)
    (handled : reactor.onWriteDone world.device ok answers = some (changed, []))
    (unfinished : reactor.finished = false) : Sound (world.writeDone rpc changed answers) := by
  obtain ⟨readable, acquiring, open_⟩ := sound.running rpc reactor live unfinished
  have opener := writing_opener sound.held live waiting
  have ends := onWriteDone_ends readable ok answers reactor changed unfinished handled
  have log := writeDone_log rpc changed answers readable
  refine ⟨writeDone_held sound.held opener, ?_, ?_⟩
  · intro other shown present running
    rw [World.writeDone_slots] at present
    rcases update_cases (· = .live shown) present with ⟨rfl, new⟩ | ⟨apart, earlier⟩
    · cases new
      cases ends with
      | packet message _ made data =>
          refine ⟨readable, ?_, ?_⟩
          · rw [log, made]
            simpa [dataBytes, data] using
              acquiring_extend (readCalls other answers) (readCalls_own answers) acquiring
          · simpa [made] using open_
      | ended message earlier last finished => simp [finished] at running
      | failed status finished => simp [finished] at running
    · -- Two running calls would both have opened the device.
      have own := (running_opener sound.held earlier running).1
      exact absurd (Option.some.inj (own.symm.trans opener)) apart
  · intro other shown present finishes
    rw [World.writeDone_slots] at present
    rw [log]
    rcases present_cases (.inl rfl) present with ⟨rfl, rfl⟩ | earlier
    · cases ends with
      | packet message _ made data => simp [made, open_] at finishes
      | ended message earlier last _ made data reads atEnd =>
          rw [reads]
          apply acquiring_ended earlier last atEnd acquiring
          rw [made, ← reads]
          simp [dataBytes, data]
      | failed status _ notOk made =>
          rw [made] at finishes
          simp [open_, notOk.symm] at finishes
    · exact carriesOwn_extend _ (sound.ended other shown earlier finishes)

omit [DecidableEq Rpc] in
theorem cancel_sound (sound : Sound world) (separate : Separate backend world (.cancel rpc)) :
    Sound (world.cancel rpc) := by
  refine ⟨⟨sound.held.free, sound.held.holder, sound.held.resting⟩, ?_, ?_⟩
  · intro other reactor live unfinished
    obtain ⟨opener, handle⟩ := running_opener sound.held live unfinished
    obtain ⟨readable, acquiring, open_⟩ := sound.running other reactor live unfinished
    have own : rpc = other :=
      Option.some.inj ((separate.resolve_left handle).symm.trans opener)
    refine ⟨readable, ?_, open_⟩
    rw [World.cancel, if_neg handle, own]
    simpa [readBytes] using
      acquiring_extend [(other, .cancel)] (by simp [Own]) acquiring
  · intro other reactor present ends
    exact carriesOwn_extend _ (sound.ended other reactor present ends)

theorem done_sound {reactor : CScanResponseReactor} (sound : Sound world)
    (separate : Separate backend world (.done rpc)) (live : world.slots rpc = .live reactor) :
    Sound (world.done rpc reactor) := by
  refine ⟨done_held sound.held separate, ?_, ?_⟩
  · intro other shown present unfinished
    rw [World.done_slots] at present
    rcases update_cases (· = .live shown) present with ⟨-, new⟩ | ⟨apart, earlier⟩
    · cases new
    · obtain ⟨opener, handle⟩ := running_opener sound.held earlier unfinished
      have own := (separate.resolve_left handle).symm.trans opener
      exact absurd (Option.some.inj own).symm apart
  · intro other shown present ends
    rw [World.done_slots] at present
    apply carriesOwn_extend
    rcases present_cases (.inr rfl) present with ⟨rfl, rfl⟩ | earlier
    · exact sound.ended other reactor (.inl live) ends
    · exact sound.ended other shown earlier ends

theorem taken_sound (sound : Sound world) (separate : Separate backend world label)
    (taken : Taken backend world label next) : Sound next := by
  cases taken with
  | construct rpc answers free given => exact construct_sound sound separate free given
  | writeDone rpc ok answers reactor changed live waiting handled =>
      cases finished : reactor.finished with
      | true => exact settled_sound sound live waiting handled finished
      | false => exact resumed_sound sound live waiting handled finished
  | cancel rpc reactor live => exact cancel_sound sound separate
  | done rpc reactor live finished idle => exact done_sound sound separate live

end Sound

section Result

/-- Calls that keep apart do not disturb each other, in any order of their
handlers. -/
theorem scans_undisturbed {Rpc : Type} [DecidableEq Rpc] (backend : Backend) (name : String)
    (labels : List (Label Rpc)) (world : World Rpc)
    (separate : Runs.Along (step backend) (Separate backend) (initial name) labels)
    (reached : Runs.run (step backend) (initial name) labels = .ok world) :
    Undisturbed backend name labels world where
  failed _ fails := failed_call_leaves_no_trace name labels separate reached fails
  ended := by
    have sound : Sound world := Runs.run_keeps_along Sound
      (fun _ label _ sound separate taken => taken_sound sound separate (step_taken label taken))
      (initial name) world labels (initial_sound name) separate reached
    exact sound.ended

def accepted : StartAnswers := ⟨.opened 1, .good, .good, {}⟩

def busy : StartAnswers := ⟨.refused .deviceBusy (by decide), .good, .good, {}⟩

theorem waiting_call_is_undisturbed : ∃ world, Runs.run (step .exclusive) (initial "flatbed")
      [.construct false accepted, .construct true busy, .writeDone false true [.empty .eof],
        .writeDone false true [], .done false, .done true] = .ok world ∧
    Undisturbed .exclusive "flatbed"
      [.construct false accepted, .construct true busy, .writeDone false true [.empty .eof],
        .writeDone false true [], .done false, .done true] world :=
  ⟨_, rfl, scans_undisturbed .exclusive "flatbed" _ _ (by decide) rfl⟩

/-- OnDone of a call that was refused closes the device under the running scan,
whose next read fails. -/
theorem refused_call_closes_the_device : ∃ world, Runs.run (step .exclusive) (initial "flatbed")
      [.construct false accepted, .construct true busy, .done true,
        .writeDone false true [.empty .eof]] = .ok world ∧
    ¬ Undisturbed .exclusive "flatbed"
      [.construct false accepted, .construct true busy, .done true,
        .writeDone false true [.empty .eof]] world := by
  refine ⟨_, rfl, fun undisturbed => ?_⟩
  have fails : Fails true [.construct false accepted, .construct true busy, .done true,
      .writeDone false true [.empty .eof]] := by
    intro answers made
    obtain rfl : answers = busy := by simpa using made
    exact .inl ⟨_, _, rfl⟩
  obtain ⟨other, reached, kept, -⟩ := undisturbed.failed true fails
  obtain rfl := Except.ok.inj reached
  have aborted := kept false (by decide)
  revert aborted
  decide

end Result
end SaneInTheMembrane.ScanIndependence
