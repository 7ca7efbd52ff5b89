import SaneInTheMembrane.ImageView

/-!
What an export that fails costs. `sl_save_pdf` announces the document as saved
and removes the session file whatever `add_jpegs` and `save` returned.
-/

namespace SaneInTheMembrane.PdfExport

open ImageContainer Pdf ImageView CImageView

section Export
variable {Real : Type} [Zero Real] [Add Real] [Sub Real] [Neg Real] [Mul Real] [Min Real]
  [Max Real]

def Incomplete (toReal : SessionCodec.Word → Real) (haru : Haru Real) (view : CImageView)
    (file : Path) : Prop :=
  (exportPdf toReal haru view file).1 = false ∨ (exportPdf toReal haru view file).2 ≠ hpdfOk

/-- A save whose export is incomplete leaves the session file and emits nothing,
so the window stays as modified as it was. -/
def FailureKeepsWork (toReal : SessionCodec.Word → Real) (haru : Haru Real)
    (view : CImageView) (dialog : Option Path) : Prop :=
  ∀ file, dialog = some file → file ≠ [] → Incomplete toReal haru view file →
    (slSavePdf toReal haru view dialog).session = view.session ∧
      (slSavePdf toReal haru view dialog).emitted = view.emitted ∧
      (slSavePdf toReal haru view dialog).windowModified = view.windowModified

def HaruSucceeds (toReal : SessionCodec.Word → Real) (haru : Haru Real) (view : CImageView)
    (file : Path) : Prop :=
  Readable haru 0 (imagePaths toReal view.grid) ∧
    haru.saveToFile (placedPages haru 0 (imagePaths toReal view.grid)) file = hpdfOk

theorem incomplete_iff (toReal : SessionCodec.Word → Real) (haru : Haru Real)
    (view : CImageView) (file : Path) :
    Incomplete toReal haru view file ↔ ¬ HaruSucceeds toReal haru view file := by
  have added := addJpegs_iff haru CPdf.empty (imagePaths toReal view.grid)
  rw [HaruSucceeds, show Readable haru 0 _ ↔ _ from added.symm]
  simp only [Incomplete, exportPdf, CPdf.save]
  by_cases success : (CPdf.addJpegs haru CPdf.empty (imagePaths toReal view.grid)).1 = true
  · have pages := addJpegs_pages haru CPdf.empty _ (added.mp success)
    simp only [CPdf.empty, List.nil_append] at pages success ⊢
    simp [success, pages]
  · simp [success]

theorem slSavePdf_saved (toReal : SessionCodec.Word → Real) (haru : Haru Real)
    (view : CImageView) (file : Path) (named : file ≠ []) :
    slSavePdf toReal haru view (some file) =
      { view.emit .documentSaved with session := SessionService.removeSession } := by
  simp [slSavePdf, named]

/-- A failed export keeps the work only if it cannot fail: no file is chosen, or
libharu answers every call. -/
theorem failure_keeps_work_iff (toReal : SessionCodec.Word → Real) (haru : Haru Real)
    (view : CImageView) (dialog : Option Path) :
    FailureKeepsWork toReal haru view dialog ↔
      ∀ file, dialog = some file → file ≠ [] → HaruSucceeds toReal haru view file := by
  constructor
  · intro keeps file chosen named
    by_contra failed
    have kept := (keeps file chosen named ((incomplete_iff _ _ _ _).mpr failed)).2.1
    rw [chosen, slSavePdf_saved toReal haru view file named] at kept
    -- The emitted signals have grown by `sig_document_saved`.
    have longer := congrArg List.length kept
    simp [emit] at longer
  · intro succeeds file chosen named incomplete
    exact absurd (succeeds file chosen named) ((incomplete_iff _ _ _ _).mp incomplete)

end Export

/-- One page, whose file libharu cannot read. -/
theorem unreadable_page_loses_session :
    let haru : Haru Int := ⟨fun _ => true, fun _ _ => none, fun _ _ => hpdfOk⟩
    let view := (initial doubleTransforms (some [])).addImage doubleTransforms [97]
    ¬ FailureKeepsWork (fun _ => 0) haru view (some [98]) := by
  intro haru view keeps
  have lost := (keeps [98] rfl (by simp) (Or.inl rfl)).1
  revert lost
  decide

end SaneInTheMembrane.PdfExport
