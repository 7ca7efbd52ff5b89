import SaneInTheMembrane.Restarts

/-!
The order of the pages behind a restart. A restore fills `m_items` in the order of the
layout, whatever was moved and removed before; as long as no move takes effect from then
on, the export is what is displayed, and removals keep the numbers that are right.
-/

namespace SaneInTheMembrane.Restarts

open ImageContainer ImageView FileStore PageNumbering.Container
open SessionCodec hiding serializeItems
open SessionService hiding saveSession write append
open SessionRestore RestoreNumbering

section Model
variable {Real : Type}

/-- A session file that was saved of such pages, or none. -/
inductive SavedOf (saved : CImageItemContainer Word → Prop) : SessionFile → Prop where
  | nothing : SavedOf saved none
  | file (grid : CImageItemContainer Word) (holds : saved grid) :
      SavedOf saved (SessionService.saveSession (serializeItems grid))

/-- No move takes effect. -/
def Unmoved (desk : Desk) : Label Real → Prop
  | .press place .movePrev => AtPlace desk place (Idle desk.view.grid · .left)
  | .press place .moveNext => AtPlace desk place (Idle desk.view.grid · .right)
  | .press _ .rotateLeft | .press _ .rotateRight | .press _ .mirror | .press _ .delete => True
  | .sigDone _ _ _ _ _ | .savePdf _ _ | .restart _ _ _ _ => True

instance (desk : Desk) : (label : Label Real) → Decidable (Unmoved desk label)
  | .press place .movePrev =>
      inferInstanceAs (Decidable (AtPlace desk place (Idle desk.view.grid · .left)))
  | .press place .moveNext =>
      inferInstanceAs (Decidable (AtPlace desk place (Idle desk.view.grid · .right)))
  | .press _ .rotateLeft | .press _ .rotateRight | .press _ .mirror | .press _ .delete
  | .sigDone _ _ _ _ _ | .savePdf _ _ | .restart _ _ _ _ => isTrue trivial

/-- A removal that walks in front of `m_items`. -/
def WalksOutside (fault : ImageContainer.Fault) : Prop := fault = .outOfBounds

/-- What is shown stays so under edits that move nothing, and what was saved is shown so
when it is restored. -/
structure Stable (qt : QTransformOps Word) (shown saved : CImageItemContainer Word → Prop)
    (fails : ImageContainer.Fault → Prop) : Prop where
  empty : shown (.empty qt)
  kept : ∀ grid, shown grid → saved grid
  edited : ∀ grid e, shown grid → grid.Current e → ExportOrder.KeepsOrder grid e →
    Runs.Ends shown fails (grid.edit qt e)
  restored : ∀ grid sorted, saved grid → (Consistent grid → grid.layout.length < 2 ^ 64) →
    SortedByPage (serializedItems grid) sorted → shown (restored qt sorted)

structure Holds (shown saved : CImageItemContainer Word → Prop) (desk : Desk) : Prop where
  grid : shown desk.view.grid
  session : SavedOf saved desk.view.session

def Stops (fails : ImageContainer.Fault → Prop) (fault : Fault) : Prop :=
  CannotCome fault ∨ ∃ inner, fault = .container inner ∧ fails inner

end Model

section Steps
variable {Real : Type} {qt : QTransformOps Word}
  {shown saved : CImageItemContainer Word → Prop} {fails : ImageContainer.Fault → Prop}
  {desk : Desk}

theorem saveSession_holds (stable : Stable qt shown saved fails) (changed : CImageView)
    (disk : Disk Path) (grid : shown changed.grid) (session : SavedOf saved changed.session) :
    Holds shown saved ⟨changed.saveSession, disk⟩ := by
  constructor
  · rwa [SessionTracking.saveSession_grid]
  · by_cases off : changed.sessionSavingDisabled = true
    · rwa [SessionTracking.saveSession_off changed off]
    · simp only [CImageView.saveSession, off]
      exact .file changed.grid (stable.kept _ grid)

theorem edit_fails (view : CImageView) (e : Edit) (fault : ImageContainer.Fault)
    (failed : view.edit qt e = .error fault) : view.grid.edit qt e = .error fault := by
  cases e with
  | addImage | rotateLeft | rotateRight | mirror => cases failed
  | moveImage item direction =>
      rw [CImageView.edit, CImageView.slMoveImage] at failed
      split at failed
      next => cases failed
      next inner stops => exact stops.trans (congrArg _ (Except.error.inj failed))
  | removeImage item =>
      rw [CImageView.edit, CImageView.slRemoveImage] at failed
      split at failed
      next => cases failed
      next inner stops => exact stops.trans (congrArg _ (Except.error.inj failed))

theorem press_holds (stable : Stable qt shown saved fails) (place : Nat) (button : Button)
    (holds : Holds shown saved desk) (unmoved : Unmoved desk (.press place button : Label Real)) :
    Runs.Ends (Holds shown saved) (Stops fails) (press qt desk place button) := by
  unfold press
  cases found : desk.view.grid.layout[place]? with
  | none => exact .inl (.inl rfl)
  | some item =>
      have current : desk.view.grid.Current (button.edit item) := by
        have there : item ∈ desk.view.grid.layout := List.mem_of_getElem? found
        cases button <;> exact there
      have order : ExportOrder.KeepsOrder desk.view.grid (button.edit item) := by
        cases button with
        | movePrev | moveNext => exact unmoved item found
        | rotateLeft | rotateRight | mirror | delete => trivial
      have ends := stable.edited _ _ holds.grid current order
      dsimp only
      cases viewed : desk.view.edit qt (button.edit item) with
      | error fault =>
          rw [edit_fails desk.view _ fault viewed] at ends
          exact .inr ⟨fault, rfl, ends⟩
      | ok view =>
          obtain ⟨changed, rfl, session, -, grid⟩ :=
            SessionTracking.edit_saves qt desk.view view _ viewed
          rw [grid] at ends
          exact saveSession_holds stable changed desk.disk ends (session ▸ holds.session)

theorem restart_holds (stable : Stable qt shown saved fails) (base : Nat)
    (answer : CImageView.Answer) (sorted : List SImageItemSerialized) (granted : Path → Bool)
    (holds : Holds shown saved desk) :
    Runs.Ends (Holds shown saved) (Stops fails) (restart qt desk base answer sorted granted) := by
  have before := holds.session
  unfold restart
  dsimp only
  generalize desk.view.session = session at before
  cases before with
  | nothing =>
      have prompt : (CImageView.initial qt none).showEventPrompt base = .done none := rfl
      simp only [prompt]
      exact ⟨stable.empty, .nothing⟩
  | file grid fine =>
      have offers := saved_prompt qt base grid
      generalize (CImageView.initial qt (SessionService.saveSession
        (serializeItems grid))).showEventPrompt base = prompt at offers ⊢
      rcases offers with ⟨few, rfl⟩ | rfl
      · dsimp only
        by_cases order : SortedByPage (serializedItems grid) sorted
        · rw [if_pos order]
          constructor
          · rw [answer_grid]
            cases answer with
            | ok | close => exact stable.restored grid sorted fine few order
            | cancel => exact stable.empty
          · rw [answer_session]
            exact .file grid fine
        · rw [if_neg order]
          exact .inl (.inr (.inl rfl))
      · exact .inl (.inr (.inr rfl))

variable [Zero Real] [Add Real] [Sub Real] [Neg Real] [Mul Real] [Min Real] [Max Real]
  {toReal : Word → Real} {jpeg : ScanImage.QImage → Option (List UInt8)}

theorem step_holds (stable : Stable qt shown saved fails) (desk : Desk) (label : Label Real)
    (holds : Holds shown saved desk) (unmoved : Unmoved desk label) :
    Runs.Ends (Holds shown saved) (Stops fails) (step qt toReal jpeg desk label) := by
  cases label with
  | sigDone statusOk params file path served =>
      simp only [step]
      cases ScanImage.slSigDone statusOk params file with
      | none => exact holds
      | some image =>
          have added := stable.edited _ (.addImage path) holds.grid trivial trivial
          exact saveSession_holds stable _ _ added holds.session
  | press place button => exact press_holds stable place button holds unmoved
  | savePdf haru dialog =>
      cases dialog with
      | none => exact holds
      | some file =>
          by_cases unnamed : file = []
          · simp only [step, CImageView.slSavePdf, unnamed, ↓reduceIte]
            exact holds
          · simp only [step, CImageView.slSavePdf, unnamed, ↓reduceIte]
            exact ⟨holds.grid, .nothing⟩
  | restart base answer sorted granted => exact restart_holds stable base answer sorted granted holds

theorem run_holds (stable : Stable qt shown saved fails) {session : SessionFile} {disk : Disk Path}
    (written : SavedOf saved session) (labels : List (Label Real))
    (unmoved : Runs.Along (step qt toReal jpeg) Unmoved (powered qt session disk) labels) :
    Runs.Ends (Holds shown saved) (Stops fails)
      (Runs.run (step qt toReal jpeg) (powered qt session disk) labels) :=
  Runs.run_ends _ _ (step_holds stable) _ labels ⟨stable.empty, written⟩ unmoved

end Steps

section Order
variable {qt : QTransformOps Word}

structure SameOrder (grid : CImageItemContainer Word) : Prop where
  stocked : RestorePrompts.Stocked grid
  same : grid.manager.items = grid.layout

theorem removeImage_sameOrder (grid : CImageItemContainer Word) (item : ItemPtr)
    (order : SameOrder grid) (shown : item ∈ grid.layout) :
    Runs.Ends SameOrder WalksOutside (grid.removeImage item) := by
  cases removed : grid.removeImage item with
  | error fault =>
      have once : grid.manager.items.count item = 1 := by
        rw [order.same]
        exact List.count_eq_one_of_mem order.stocked.nodup shown
      simp only [CImageItemContainer.removeImage, CImageItemManager.removeItem, once,
        if_true] at removed
      split at removed
      next => exact (Except.error.inj removed).symm
      next => cases removed
  | ok next =>
      obtain ⟨layout, items, -⟩ := ExportOrder.removeImage_effect grid next item removed
      refine ⟨RestorePrompts.removeImage_stocked item order.stocked removed, ?_⟩
      rw [items, layout, order.same, order.stocked.nodup.erase_eq_filter]

theorem sameOrder_stable (qt : QTransformOps Word) :
    Stable qt SameOrder (fun _ => True) WalksOutside where
  empty := ⟨RestorePrompts.empty_stocked qt, rfl⟩
  kept _ _ := trivial
  edited grid e order current keeps := by
    cases e with
    | addImage file =>
        exact ⟨RestorePrompts.addItem_stocked _ order.stocked,
          congrArg (· ++ [grid.unused]) order.same⟩
    | moveImage item direction =>
        rw [CImageItemContainer.edit, moveImage_idle grid item direction keeps]
        exact order
    | removeImage item => exact removeImage_sameOrder grid item order current
    | rotateLeft item | rotateRight item | mirror item =>
        obtain ⟨same, nodup, allocated⟩ := order.stocked
        exact ⟨⟨same, nodup, allocated⟩, order.same⟩
  restored _ sorted _ _ _ :=
    ⟨(restored_sameOrder qt sorted).1, (restored_sameOrder qt sorted).2⟩

theorem aligned_stable (qt : QTransformOps Word) :
    Stable qt ExportOrder.Aligned Consistent (fun _ => False) where
  empty := ExportOrder.empty_aligned qt
  kept _ aligned := aligned.consistent
  edited grid e aligned current keeps := by
    obtain ⟨next, edited, kept⟩ := ExportOrder.edit_aligned qt grid e aligned ⟨current, keeps⟩
    rw [edited]
    exact kept
  restored grid sorted consistent few order := by
    have short := few consistent
    have count : (displayedRecords grid).length = grid.layout.length := by simp [displayedRecords]
    rw [sorted_records consistent short order]
    exact restored_aligned qt _ (by rw [displayedRecords_numbers consistent short, count])

end Order

section Export
variable {Real : Type} [Zero Real] [Add Real] [Sub Real] [Neg Real] [Mul Real] [Min Real]
  [Max Real] {qt : QTransformOps Word} {toReal : Word → Real}
  {jpeg : ScanImage.QImage → Option (List UInt8)}

/-- Whatever was moved and removed before the program ended: from a start on, as long as no
move takes effect, every export is what is displayed. On a file whose pages are numbered
along the layout, no removal gives a wrong number. -/
theorem restart_realigns_export {session : SessionFile} {disk : Disk Path}
    (written : SavedOf (fun _ => True) session) (labels : List (Label Real))
    (unmoved : Runs.Along (step qt toReal jpeg) Unmoved (powered qt session disk) labels) :
    ∀ front, front <+: labels →
      Runs.Ends (fun last => CImageView.imagePaths toReal last.view.grid =
          ExportOrder.displayedPaths toReal last.view.grid) (Stops WalksOutside)
        (Runs.run (step qt toReal jpeg) (powered qt session disk) front) ∧
      (SavedOf Consistent session →
        Runs.Ends (fun last => Consistent last.view.grid) CannotCome
          (Runs.run (step qt toReal jpeg) (powered qt session disk) front)) := by
  intro front within
  have along := Runs.along_prefix within unmoved
  constructor
  · apply (run_holds (sameOrder_stable qt) written front along).imp
    intro last holds
    simp [CImageView.imagePaths, ExportOrder.displayedPaths, holds.grid.same]
  · intro numbered
    have ends := run_holds (aligned_stable qt) numbered front along
    revert ends
    cases Runs.run (step qt toReal jpeg) (powered qt session disk) front with
    | ok last => exact fun holds => holds.grid.consistent
    | error fault =>
        rintro (regular | ⟨inner, same, never⟩)
        · exact regular
        · exact never.elim

/-- What is left of two pages that changed places when the first was removed: one page with
the number 2. -/
def pageTwo : CImageItemContainer Word :=
  let qt := doubleTransforms
  let grid := ((CImageItemContainer.empty qt).addImage qt [97]).addImage qt [98]
  match grid.moveImage 0 .right >>= fun grid => grid.removeImage 1 with
  | .ok grid => grid
  | .error _ => .empty qt

example : layoutNumbers pageTwo = [2] := by decide

/-- The page is found, another is scanned, gets the same number, and the first is removed. -/
theorem restart_realigns_export_of_two :
    let qt := doubleTransforms
    let jpeg : ScanImage.QImage → Option (List UInt8) := fun image => some image.data
    (∀ front, front <+: [.restart 4096 .ok [⟨qt.identity, 2, [97]⟩] fun _ => true, scan [98],
        .press 0 .delete] →
      Runs.Ends (fun last => CImageView.imagePaths (fun _ => (0 : Int)) last.view.grid =
          ExportOrder.displayedPaths (fun _ => (0 : Int)) last.view.grid) (Stops WalksOutside)
        (Runs.run (step qt (fun _ => (0 : Int)) jpeg) (powered qt
          (SessionService.saveSession (serializeItems pageTwo)) oneFile) front)) ∧
    ∀ front, front <+: [start [[97]], scan [98], .press 0 .delete, start [[98]], scan [99]] →
      Runs.Ends (fun last => Consistent last.view.grid) CannotCome
        (Runs.run (step qt (fun _ => (0 : Int)) jpeg) (powered qt
          (SessionService.saveSession (serializeItems onePage)) oneFile) front) := by
  intro qt jpeg
  constructor
  · intro front within
    exact (restart_realigns_export (.file pageTwo trivial) _ (by decide +kernel) front within).1
  · intro front within
    have consistent : Consistent onePage :=
      addImage_consistent doubleTransforms _ _ (empty_consistent doubleTransforms)
    exact (restart_realigns_export (.file onePage trivial) _ (by decide +kernel) front within).2
      (.file onePage consistent)

end Export

end SaneInTheMembrane.Restarts
