import SaneInTheMembrane.ImageView
import SaneInTheMembrane.SessionCrash

/-!
When the session file follows the document. Saving is disabled until the restore
handler reaches its last line, and the handler returns before it when there is no
session to restore. So a start without a decodable session saves nothing.
-/

namespace SaneInTheMembrane.SessionTracking

open ImageContainer ImageView CImageView
open SessionCodec hiding serializeItems
open SessionService hiding saveSession

/-- The session file exists and holds the current pages. -/
def Tracks (view : CImageView) : Prop :=
  ∃ header, loadSession view.session = .ok ⟨header, serializeItems view.grid⟩

section Startup

/-- The first restore handler ends in `ended`. Pages may come before it and, from
running scans, while its prompt is open. -/
inductive StartupEnds (qt : QTransformOps Word) (session : SessionFile) (base : Nat) :
    CImageView → Prop where
  | stopped {shown : CImageView} (before : List Edit)
      (reached : Runs.run (edit qt) (initial qt session) before = .ok shown)
      (nothing : shown.showEventPrompt base = .done none) :
      StartupEnds qt session base shown
  | answered {shown waiting : CImageView} (before during : List Edit)
      (items sorted : List SImageItemSerialized) (answer : Answer)
      (reached : Runs.run (edit qt) (initial qt session) before = .ok shown)
      (prompt : shown.showEventPrompt base = .done (some items))
      (meanwhile : Runs.run (edit qt) shown during = .ok waiting)
      (order : SortedByPage items sorted) :
      StartupEnds qt session base (waiting.showEventAnswer answer sorted)

end Startup

section Later
variable {Real : Type} [Zero Real] [Add Real] [Sub Real] [Neg Real] [Mul Real] [Min Real]
  [Max Real]

/-- What happens once the handler has finished: edits, PDF saves with whatever
libharu answers, and the answered prompts of later show events. -/
inductive LaterEvent (Real : Type) where
  | edit (e : Edit)
  | savePdf (haru : Pdf.Haru Real) (dialog : Option Path)
  | restore (answer : Answer) (sorted : List SImageItemSerialized)

def later (qt : QTransformOps Word) (toReal : Word → Real) (view : CImageView) :
    LaterEvent Real → Except Fault CImageView
  | .edit e => view.edit qt e
  | .savePdf haru dialog => .ok (view.slSavePdf toReal haru dialog)
  | .restore answer sorted => .ok (view.showEventAnswer answer sorted)

/-- An edit changes the pages, and a restore that adds some. -/
def LaterEvent.Changes : LaterEvent Real → Prop
  | .edit _ => True
  | .restore answer sorted => answer ≠ .cancel ∧ sorted ≠ []
  | .savePdf _ _ => False

/-- After every change of the pages, the session file holds the current pages. -/
def ChangesAreSaved (qt : QTransformOps Word) (toReal : Word → Real) (view : CImageView) : Prop :=
  ∀ (events : List (LaterEvent Real)) (change : LaterEvent Real) (last : CImageView),
    change.Changes → Runs.run (later qt toReal) view (events ++ [change]) = .ok last → Tracks last

end Later

section Saving

@[simp] theorem emit_disabled (view : CImageView) (signal : Signal) :
    (view.emit signal).sessionSavingDisabled = view.sessionSavingDisabled := rfl

@[simp] theorem saveSession_disabled (view : CImageView) :
    view.saveSession.sessionSavingDisabled = view.sessionSavingDisabled := by
  unfold saveSession
  split <;> rfl

@[simp] theorem saveSession_grid (view : CImageView) : view.saveSession.grid = view.grid := by
  unfold saveSession
  split <;> rfl

@[simp] theorem saveSession_windowModified (view : CImageView) :
    view.saveSession.windowModified = view.windowModified := by
  unfold saveSession
  split <;> rfl

theorem saveSession_off (view : CImageView) (off : view.sessionSavingDisabled = true) :
    view.saveSession = view := by
  simp [saveSession, off]

theorem saveSession_tracks (view : CImageView) (on : view.sessionSavingDisabled = false) :
    Tracks view.saveSession := by
  have saved : view.saveSession =
      { view with session := SessionService.saveSession (serializeItems view.grid) } := by
    simp [saveSession, on]
  rw [saved]
  exact ⟨_, loadSession_saveSession _⟩

theorem edit_saves (qt : QTransformOps Word) (view next : CImageView) (e : Edit)
    (taken : view.edit qt e = .ok next) :
    ∃ changed : CImageView, next = changed.saveSession ∧ changed.session = view.session ∧
      changed.sessionSavingDisabled = view.sessionSavingDisabled ∧
      view.grid.edit qt e = .ok changed.grid := by
  cases e with
  | addImage file =>
      cases taken
      exact ⟨_, rfl, rfl, rfl, rfl⟩
  | moveImage item direction =>
      simp only [CImageView.edit, slMoveImage] at taken
      cases moved : view.grid.moveImage item direction with
      | ok grid =>
          rw [moved] at taken
          cases taken
          exact ⟨_, rfl, rfl, rfl, moved⟩
      | error fault => simp [moved] at taken
  | removeImage item =>
      simp only [CImageView.edit, slRemoveImage] at taken
      cases removed : view.grid.removeImage item with
      | ok grid =>
          rw [removed] at taken
          cases taken
          exact ⟨_, rfl, rfl, rfl, removed⟩
      | error fault => simp [removed] at taken
  | rotateLeft item | rotateRight item | mirror item =>
      cases taken
      exact ⟨_, rfl, rfl, rfl, rfl⟩

theorem edit_off (qt : QTransformOps Word) (view next : CImageView) (e : Edit)
    (off : view.sessionSavingDisabled = true) (taken : view.edit qt e = .ok next) :
    next.sessionSavingDisabled = true ∧ next.session = view.session := by
  obtain ⟨changed, rfl, session, flag, -⟩ := edit_saves qt view next e taken
  rw [saveSession_off changed (flag.trans off)]
  exact ⟨flag.trans off, session⟩

theorem edit_on (qt : QTransformOps Word) (view next : CImageView) (e : Edit)
    (on : view.sessionSavingDisabled = false) (taken : view.edit qt e = .ok next) :
    next.sessionSavingDisabled = false ∧ Tracks next := by
  obtain ⟨changed, rfl, -, flag, -⟩ := edit_saves qt view next e taken
  exact ⟨by simpa using flag.trans on, saveSession_tracks changed (flag.trans on)⟩

theorem foldl_addSerialized_on (records : List SImageItemSerialized) (view : CImageView)
    (on : view.sessionSavingDisabled = false) (saved : Tracks view ∨ records ≠ []) :
    Tracks (records.foldl addSerialized view) := by
  induction records generalizing view with
  | nil => exact saved.resolve_right fun some => some rfl
  | cons record rest ih =>
      have tracks : Tracks (view.addSerialized record) := saveSession_tracks _ on
      have still : (view.addSerialized record).sessionSavingDisabled = false := by
        simpa [addSerialized, initImageConnections] using on
      exact ih _ still (.inl tracks)

/-- While saving is disabled the file stays as it was found. -/
theorem run_off (qt : QTransformOps Word) (view last : CImageView) (edits : List Edit)
    (off : view.sessionSavingDisabled = true)
    (reached : Runs.run (edit qt) view edits = .ok last) :
    last.sessionSavingDisabled = true ∧ last.session = view.session := by
  have keeps := Runs.run_keeps
    (fun state : CImageView => state.sessionSavingDisabled = true ∧ state.session = view.session)
    (fun state label next held taken =>
      let after := edit_off qt state next label held.1 taken
      ⟨after.1, after.2.trans held.2⟩)
    view last edits ⟨off, rfl⟩ reached
  exact keeps

end Saving

section Handler
variable {Real : Type} [Zero Real] [Add Real] [Sub Real] [Neg Real] [Mul Real] [Min Real]
  [Max Real]

theorem later_on (qt : QTransformOps Word) (toReal : Word → Real) (view next : CImageView)
    (event : LaterEvent Real) (on : view.sessionSavingDisabled = false)
    (taken : later qt toReal view event = .ok next) : next.sessionSavingDisabled = false := by
  cases event with
  | edit e => exact (edit_on qt view next e on taken).1
  | savePdf haru dialog =>
      cases taken
      cases dialog with
      | none => exact on
      | some file =>
          by_cases unnamed : file = []
          · simpa [slSavePdf, unnamed] using on
          · simpa [slSavePdf, unnamed] using on
  | restore answer sorted =>
      cases taken
      rfl

theorem change_tracks (qt : QTransformOps Word) (toReal : Word → Real) (view next : CImageView)
    (change : LaterEvent Real) (on : view.sessionSavingDisabled = false) (changes : change.Changes)
    (taken : later qt toReal view change = .ok next) : Tracks next := by
  cases change with
  | edit e => exact (edit_on qt view next e on taken).2
  | savePdf haru dialog => cases changes
  | restore answer sorted =>
      cases taken
      cases answer with
      | ok | close => exact foldl_addSerialized_on sorted view on (.inr changes.2)
      | cancel => exact absurd rfl changes.1

theorem enabled_saves_changes (qt : QTransformOps Word) (toReal : Word → Real)
    (view : CImageView) (on : view.sessionSavingDisabled = false) :
    ChangesAreSaved qt toReal view := by
  intro events change last changes reached
  cases front : Runs.run (later qt toReal) view events with
  | error fault =>
      rw [Runs.run_append, front] at reached
      cases reached
  | ok middle =>
      -- No later event disables saving again, so the last change is saved.
      have enabled := Runs.run_keeps (fun state : CImageView => state.sessionSavingDisabled = false)
        (fun state event next held taken => later_on qt toReal state next event held taken)
        view middle events on front
      rw [Runs.run_append_ok _ front] at reached
      cases taken : later qt toReal middle change with
      | error fault => simp [Runs.run, taken] at reached
      | ok next =>
          rw [Runs.run_cons_ok [] taken] at reached
          cases reached
          exact change_tracks qt toReal middle _ change enabled changes taken

theorem prompt_iff (view : CImageView) (base : Nat) (items : List SImageItemSerialized) :
    view.showEventPrompt base = .done (some items) ↔
      readSession base view.session = .done (.ok items) := by
  unfold showEventPrompt
  cases readSession base view.session with
  | done result => cases result <;> simp
  | outOfBounds | lengthError | outOfMemory | running => simp

theorem no_prompt_iff (view : CImageView) (base : Nat) :
    view.showEventPrompt base = .done none ↔
      ∃ error, readSession base view.session = .done (.error error) := by
  unfold showEventPrompt
  cases readSession base view.session with
  | done result => cases result <;> simp
  | outOfBounds | lengthError | outOfMemory | running => simp

/-- A file that does not decode holds the payload of no container. -/
theorem undecodable_tracks_nothing (base : Nat) (file : SessionFile) (error : RestoreError)
    (refused : readSession base file = .done (.error error)) (header : CSessionHeader)
    (grid : CImageItemContainer Word) :
    loadSession file ≠ .ok ⟨header, serializeItems grid⟩ := by
  intro loaded
  rw [readSession, loaded] at refused
  by_cases fits : base + (serializeItems grid).length < 2 ^ 63
  · have decoded := deserializeItems_serializeItems ⟨base, _, fits⟩ (serializedItems grid) rfl
    simp only [fits, ↓reduceDIte, decoded] at refused
    cases refused
  · simp only [fits, ↓reduceDIte] at refused
    cases refused

/-- The pages are kept in the session file exactly after a start that found a
session it could decode. -/
theorem changes_saved_iff (qt : QTransformOps Word) (toReal : Word → Real)
    (session : SessionFile) (base : Nat) (ended : CImageView)
    (startup : StartupEnds qt session base ended) :
    ChangesAreSaved qt toReal ended ↔
      ∃ items, readSession base session = .done (.ok items) := by
  cases startup with
  | stopped before reached nothing =>
      obtain ⟨off, same⟩ := run_off qt (initial qt session) ended before rfl reached
      rw [no_prompt_iff, same] at nothing
      obtain ⟨error, refused⟩ := nothing
      constructor
      · intro saved
        -- One more page shows it: nothing is written, and the file is what the handler refused.
        have added : Runs.run (later qt toReal) ended ([] ++ [.edit (.addImage [])]) =
            .ok (ended.addImage qt []) := rfl
        obtain ⟨header, loaded⟩ := saved [] (.edit (.addImage [])) _ trivial added
        have unchanged := (edit_off qt ended _ (.addImage []) off rfl).2
        rw [unchanged, same] at loaded
        exact absurd loaded (undecodable_tracks_nothing base _ error refused header _)
      · rintro ⟨items, read⟩
        change readSession base session = _ at refused
        rw [read] at refused
        cases refused
  | answered before during items sorted answer reached prompt meanwhile order =>
      rename_i shown waiting
      obtain ⟨_, same⟩ := run_off qt (initial qt session) shown before rfl reached
      rw [prompt_iff, same] at prompt
      constructor
      · intro _
        exact ⟨items, prompt⟩
      · intro _
        exact enabled_saves_changes qt toReal _ rfl

end Handler

theorem restored_start_saves_changes :
    let record : SImageItemSerialized := ⟨doubleTransforms.identity, 1, [97]⟩
    ChangesAreSaved doubleTransforms (fun _ => (0 : Int))
      ((initial doubleTransforms
        (SessionService.saveSession (SessionCodec.serializeItems [record]))).showEventAnswer
          .ok [record]) := by
  intro record
  have read : readSession 4096
      (SessionService.saveSession (SessionCodec.serializeItems [record])) =
        .done (.ok [record]) :=
    SessionCrash.readSession_records 4096 _ [record] (by decide)
  exact (changes_saved_iff doubleTransforms (fun _ => (0 : Int)) _ 4096 _
    (.answered [] [] [record] [record] .ok rfl ((prompt_iff _ _ _).mpr read) rfl
      ⟨List.Perm.refl _, by simp⟩)).mpr ⟨[record], read⟩

/-- The first start finds no session file, and the first page is not saved. -/
theorem first_start_saves_nothing :
    StartupEnds doubleTransforms none 4096 (initial doubleTransforms none) ∧
      ¬ ChangesAreSaved doubleTransforms (fun _ => (0 : Int)) (initial doubleTransforms none) := by
  refine ⟨.stopped [] rfl rfl, fun saved => ?_⟩
  obtain ⟨header, loaded⟩ := saved [] (.edit (.addImage [97])) _ trivial rfl
  cases loaded

end SaneInTheMembrane.SessionTracking
