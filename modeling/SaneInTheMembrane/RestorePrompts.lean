import SaneInTheMembrane.ExportOrder
import SaneInTheMembrane.SessionCrash
import SaneInTheMembrane.SessionTracking

/-!
Restore prompts over a whole run. Every show event queues the restore handler, the
handler offers what the session file holds at that moment, and the program itself
keeps that file full of the pages it shows. A restore that is accepted while a
page it offers is shown shows that page twice.
-/

namespace SaneInTheMembrane.RestorePrompts

open ImageContainer SessionCodec ImageView CImageView PageNumbering.Container
open ExportOrder SessionTracking
open SessionService hiding saveSession

section Machine

/-- The view, the queued handlers that have not run, and what the open prompts
offer. A prompt runs an event loop of its own, so the innermost, which comes
first, is answered first. -/
structure Startup where
  view : CImageView
  queued : Nat := 0
  prompts : List (List SImageItemSerialized) := []

inductive Label where
  | showEvent
  | handle (base : Nat)
  | answer (answer : Answer) (sorted : List SImageItemSerialized)
  | edit (e : Edit)

inductive Stop where
  | fault (fault : Fault)
  | undefined
  | notQueued
  | noPrompt
  | notSorted
  deriving DecidableEq, Repr

def initial (qt : QTransformOps Word) (session : SessionFile) : Startup where
  view := CImageView.initial qt session

instance (items sorted : List SImageItemSerialized) : Decidable (SortedByPage items sorted) :=
  inferInstanceAs (Decidable (_ ∧ _))

def step (qt : QTransformOps Word) (startup : Startup) : Label → Except Stop Startup
  | .showEvent => .ok { startup with queued := startup.queued + 1 }
  | .handle base =>
      if startup.queued = 0 then .error .notQueued
      else
        let ran := { startup with queued := startup.queued - 1 }
        match startup.view.showEventPrompt base with
        | .done (some items) => .ok { ran with prompts := items :: startup.prompts }
        | .done none => .ok ran
        | .outOfBounds | .lengthError | .outOfMemory | .running => .error .undefined
  | .answer answer sorted =>
      match startup.prompts with
      | [] => .error .noPrompt
      | items :: others =>
          if SortedByPage items sorted then
            .ok { startup with
              view := startup.view.showEventAnswer answer sorted
              prompts := others }
          else .error .notSorted
  | .edit e =>
      match startup.view.edit qt e with
      | .ok view => .ok { startup with view }
      | .error fault => .error (.fault fault)

def scanned (labels : List Label) : List Path :=
  labels.flatMap fun label => match label with
    | .edit e => addedFiles [e]
    | _ => []

def files (items : List SImageItemSerialized) : List Path := items.map fun item => item.path

/-- Whatever the file decodes to are pages among these. -/
def Among (pages : List Path) (file : SessionFile) : Prop :=
  ∀ base items, readSession base file = .done (.ok items) →
    ∀ page, (files items).count page ≤ pages.count page

/-- No page is shown more often than it is among these. -/
def ShownOnce (pages : List Path) (grid : CImageItemContainer Word) : Prop :=
  ∀ page, (filePaths grid).count page ≤ pages.count page

/-- A restore is accepted only when none of the pages it offers is shown. -/
def OffersHidden (startup : Startup) : Label → Prop
  | .answer .cancel _ => True
  | .answer _ sorted => ∀ record ∈ sorted, record.path ∉ filePaths startup.view.grid
  | .showEvent | .handle _ | .edit _ => True

instance (startup : Startup) : (label : Label) → Decidable (OffersHidden startup label)
  | .answer .cancel _ | .showEvent | .handle _ | .edit _ => isTrue trivial
  | .answer .ok sorted | .answer .close sorted =>
      inferInstanceAs (Decidable (∀ record ∈ sorted, _))

end Machine

section Stock

/-- The layout and `m_items` hold the same items, each once. Unlike the page
numbers, no edit can break this. -/
structure Stocked (grid : CImageItemContainer Word) : Prop where
  sameItems : grid.layout.Perm grid.manager.items
  nodup : grid.layout.Nodup
  allocated : ∀ item ∈ grid.layout, item < grid.unused

theorem empty_stocked (qt : QTransformOps Word) : Stocked (CImageItemContainer.empty qt) where
  sameItems := by simp [CImageItemContainer.empty]
  nodup := by simp [CImageItemContainer.empty]
  allocated := by simp [CImageItemContainer.empty]

variable {grid next : CImageItemContainer Word}

theorem addItem_stocked (item : CImageItem Word) (stocked : Stocked grid) :
    Stocked (grid.addItem item) where
  sameItems := stocked.sameItems.append_right [grid.unused]
  nodup := by
    have fresh : grid.unused ∉ grid.layout := fun member =>
      Nat.lt_irrefl _ (stocked.allocated _ member)
    rw [addItem_layout, List.nodup_append]
    refine ⟨stocked.nodup, List.nodup_singleton _, fun entry member new isNew same => ?_⟩
    rw [same, List.mem_singleton.mp isNew] at member
    exact fresh member
  allocated := addItem_allocated grid item stocked.allocated

theorem insertWidget_perm (layout : List ItemPtr) (index : Nat) (item : ItemPtr)
    (member : item ∈ layout) (inside : index < layout.length) :
    (insertWidget layout index item).Perm layout := by
  have room : index ≤ (layout.erase item).length := by
    rw [List.length_erase_of_mem member]
    omega
  exact (List.perm_insertIdx item _ room).trans (List.perm_cons_erase member).symm

theorem moveImage_effect (item : ItemPtr) (direction : EMoveDirection)
    (moved : grid.moveImage item direction = .ok next) :
    next.layout.Perm grid.layout ∧ next.manager = grid.manager ∧ next.unused = grid.unused ∧
      ∀ entry, (next.heap entry).path = (grid.heap entry).path := by
  unfold CImageItemContainer.moveImage at moved
  dsimp only at moved
  split at moved
  next =>
      cases moved
      exact ⟨.refl _, rfl, rfl, fun _ => rfl⟩
  next =>
    split at moved
    next =>
        cases moved
        exact ⟨.refl _, rfl, rfl, fun _ => rfl⟩
    next =>
      split at moved
      next last first lastAt firstAt =>
          cases moved
          obtain ⟨lastInside, lastSame⟩ := List.getElem?_eq_some_iff.mp lastAt
          obtain ⟨firstInside, firstSame⟩ := List.getElem?_eq_some_iff.mp firstAt
          have lastMember : last ∈ grid.layout := lastSame ▸ List.getElem_mem lastInside
          have firstMember : first ∈ grid.layout := firstSame ▸ List.getElem_mem firstInside
          -- Both items are taken out and put back at indices that exist.
          have once := insertWidget_perm grid.layout _ last lastMember firstInside
          have twice := insertWidget_perm _ _ first (once.symm.subset firstMember)
            (once.length_eq.symm ▸ lastInside)
          exact ⟨twice.trans once, rfl, rfl, fun entry => by simp⟩
      next => cases moved

theorem removeImage_stocked (item : ItemPtr) (stocked : Stocked grid)
    (removed : grid.removeImage item = .ok next) : Stocked next := by
  obtain ⟨layout, items, unused, -⟩ := removeImage_effect grid next item removed
  constructor
  · rw [layout, items, stocked.nodup.erase_eq_filter]
    exact stocked.sameItems.filter _
  · rw [layout]
    exact stocked.nodup.erase item
  · intro entry member
    rw [layout] at member
    rw [unused]
    exact stocked.allocated entry (List.mem_of_mem_erase member)

theorem moveImage_stocked (item : ItemPtr) (direction : EMoveDirection) (stocked : Stocked grid)
    (moved : grid.moveImage item direction = .ok next) : Stocked next := by
  obtain ⟨layout, manager, unused, -⟩ := moveImage_effect item direction moved
  constructor
  · rw [manager]
    exact layout.trans stocked.sameItems
  · exact layout.nodup_iff.mpr stocked.nodup
  · intro entry member
    rw [unused]
    exact stocked.allocated entry (layout.subset member)

theorem edit_stocked (qt : QTransformOps Word) (e : Edit) (stocked : Stocked grid)
    (taken : grid.edit qt e = .ok next) : Stocked next := by
  cases e with
  | addImage file =>
      cases taken
      exact addItem_stocked _ stocked
  | moveImage item direction => exact moveImage_stocked item direction stocked taken
  | removeImage item => exact removeImage_stocked item stocked taken
  | rotateLeft item | rotateRight item | mirror item =>
      cases taken
      exact ⟨stocked.sameItems, stocked.nodup, stocked.allocated⟩

theorem edit_files (qt : QTransformOps Word) (e : Edit) (stocked : Stocked grid)
    (taken : grid.edit qt e = .ok next) (page : Path) :
    (filePaths next).count page ≤ (filePaths grid).count page + (addedFiles [e]).count page := by
  cases e with
  | addImage file =>
      cases taken
      rw [show filePaths (grid.addImage qt file) = _ from
        addItem_filePaths grid _ stocked.allocated, List.count_append]
      exact Nat.le_refl _
  | moveImage item direction =>
      obtain ⟨layout, -, -, paths⟩ := moveImage_effect item direction taken
      have same : (filePaths next).Perm (filePaths grid) := by
        simp only [filePaths, paths]
        exact layout.map _
      rw [same.count_eq]
      exact Nat.le_add_right _ _
  | removeImage item =>
      exact Nat.le_add_right_of_le ((removeImage_filePaths grid next item taken).count_le page)
  | rotateLeft item | rotateRight item | mirror item =>
      cases taken
      simp [filePaths, CImageItemContainer.press]

end Stock

section Files
variable {pages : List Path} {view next : CImageView}

theorem among_records (items : List SImageItemSerialized) :
    Among (files items) (SessionService.saveSession (SessionCodec.serializeItems items)) := by
  intro base decoded read page
  have file : SessionService.saveSession (SessionCodec.serializeItems items) = some
      (sessionHeader (SessionCodec.serializeItems items) ++ SessionCodec.serializeItems items) :=
    rfl
  by_cases fits : base + (SessionCodec.serializeItems items).length < 2 ^ 63
  · rw [file, SessionCrash.readSession_records base _ items fits] at read
    cases read
    exact Nat.le_refl _
  · rw [file, readSession, loadSession_header] at read
    simp only [fits, ↓reduceDIte] at read
    cases read

theorem saved_among (grid : CImageItemContainer Word) (stocked : Stocked grid)
    (shown : ShownOnce pages grid) :
    Among pages (SessionService.saveSession (serializeItems grid)) := by
  intro base items read page
  have same : (files (serializedItems grid)).Perm (filePaths grid) := by
    simp only [files, serializedItems, filePaths, List.map_map]
    exact (stocked.sameItems.map _).symm
  have saved := among_records (serializedItems grid) base items read page
  rw [same.count_eq] at saved
  exact saved.trans (shown page)

theorem among_grow {file : SessionFile} (more : List Path) (among : Among pages file) :
    Among (pages ++ more) file := by
  intro base items read page
  rw [List.count_append]
  exact Nat.le_add_right_of_le (among base items read page)

/-- What a view shows and what its session file offers are among these pages. -/
structure Known (pages : List Path) (view : CImageView) : Prop where
  stocked : Stocked view.grid
  shown : ShownOnce pages view.grid
  offered : Among pages view.session

theorem saveSession_known (stocked : Stocked view.grid) (shown : ShownOnce pages view.grid)
    (offered : Among pages view.session) : Known pages view.saveSession := by
  unfold CImageView.saveSession
  split
  · exact ⟨stocked, shown, offered⟩
  · exact ⟨stocked, shown, saved_among view.grid stocked shown⟩

theorem edit_known (qt : QTransformOps Word) (e : Edit) (known : Known pages view)
    (taken : view.edit qt e = .ok next) : Known (pages ++ addedFiles [e]) next := by
  obtain ⟨changed, rfl, session, -, edited⟩ := edit_saves qt view next e taken
  apply saveSession_known
  · exact edit_stocked qt e known.stocked edited
  · intro page
    have shown := known.shown page
    have added := edit_files qt e known.stocked edited page
    rw [List.count_append]
    omega
  · rw [session]
    exact among_grow _ known.offered

theorem addSerialized_files (record : SImageItemSerialized) (stocked : Stocked view.grid) :
    Stocked (view.addSerialized record).grid ∧
      filePaths (view.addSerialized record).grid = filePaths view.grid ++ [record.path] := by
  rw [show (view.addSerialized record).grid = addRecord view.grid record by
    simp [addSerialized, initImageConnections, emit]]
  exact ⟨addItem_stocked _ stocked, addItem_filePaths view.grid _ stocked.allocated⟩

theorem addRecords_files (records : List SImageItemSerialized) (stocked : Stocked view.grid) :
    Stocked (records.foldl addSerialized view).grid ∧
      filePaths (records.foldl addSerialized view).grid =
        filePaths view.grid ++ files records := by
  induction records generalizing view with
  | nil => exact ⟨stocked, by simp [files]⟩
  | cons record rest ih =>
      obtain ⟨added, paths⟩ := addSerialized_files record stocked
      obtain ⟨last, all⟩ := ih added
      refine ⟨last, all.trans ?_⟩
      rw [paths]
      simp [files]

theorem addRecords_known (records : List SImageItemSerialized) (known : Known pages view)
    (room : ∀ page, (filePaths view.grid ++ files records).count page ≤ pages.count page) :
    Known pages (records.foldl addSerialized view) := by
  induction records generalizing view with
  | nil => exact known
  | cons record rest ih =>
      have split : filePaths view.grid ++ files (record :: rest) =
          filePaths (view.addSerialized record).grid ++ files rest := by
        rw [(addSerialized_files record known.stocked).2]
        simp [files]
      rw [split] at room
      refine ih ?_ room
      apply saveSession_known
      · exact addItem_stocked _ known.stocked
      · intro page
        have within := room page
        rw [List.count_append, addSerialized, initImageConnections, saveSession_grid] at within
        exact Nat.le_of_add_right_le within
      · exact known.offered

end Files

section Steps
variable {pages : List Path} {qt : QTransformOps Word} {startup next : Startup}

structure Sound (pages : List Path) (startup : Startup) : Prop where
  known : Known pages startup.view
  prompts : ∀ items ∈ startup.prompts, ∀ page, (files items).count page ≤ pages.count page

theorem sound_grow (more : List Path) (sound : Sound pages startup) :
    Sound (pages ++ more) startup := by
  have grown (page : Path) : pages.count page ≤ (pages ++ more).count page := by
    rw [List.count_append]
    exact Nat.le_add_right _ _
  refine ⟨⟨sound.known.stocked, ?_, among_grow more sound.known.offered⟩, ?_⟩
  · exact fun page => (sound.known.shown page).trans (grown page)
  · exact fun items member page => (sound.prompts items member page).trans (grown page)

theorem handle_cases (base : Nat) (taken : step qt startup (.handle base) = .ok next) :
    next.view = startup.view ∧ (next.prompts = startup.prompts ∨
      ∃ items, readSession base startup.view.session = .done (.ok items) ∧
        next.prompts = items :: startup.prompts) := by
  simp only [step] at taken
  split at taken
  next => cases taken
  next =>
    cases prompt : startup.view.showEventPrompt base with
    | done result =>
        cases result with
        | none =>
            rw [prompt] at taken
            cases taken
            exact ⟨rfl, .inl rfl⟩
        | some items =>
            rw [prompt] at taken
            cases taken
            exact ⟨rfl, .inr ⟨items, (prompt_iff _ _ _).mp prompt, rfl⟩⟩
    | outOfBounds | lengthError | outOfMemory | running => simp [prompt] at taken

theorem answer_cases (answer : Answer) (sorted : List SImageItemSerialized)
    (taken : step qt startup (.answer answer sorted) = .ok next) :
    ∃ items others, startup.prompts = items :: others ∧ (files sorted).Perm (files items) ∧
      next.view = startup.view.showEventAnswer answer sorted ∧ next.prompts = others := by
  simp only [step] at taken
  cases open_ : startup.prompts with
  | nil => simp [open_] at taken
  | cons items others =>
      rw [open_] at taken
      by_cases order : SortedByPage items sorted
      · simp only [order, ↓reduceIte] at taken
        cases taken
        exact ⟨items, others, rfl, order.1.map _, rfl, rfl⟩
      · simp [order] at taken

theorem showEventAnswer_known (view : CImageView) (answer : Answer)
    (sorted : List SImageItemSerialized) (known : Known pages view)
    (room : answer ≠ .cancel →
      ∀ page, (filePaths view.grid ++ files sorted).count page ≤ pages.count page) :
    Known pages (view.showEventAnswer answer sorted) := by
  cases answer with
  | ok | close =>
      obtain ⟨stocked, shown, offered⟩ := addRecords_known sorted known (room (by decide))
      exact ⟨stocked, shown, offered⟩
  | cancel => exact ⟨known.stocked, known.shown, known.offered⟩

theorem answer_sound (answer : Answer) (sorted : List SImageItemSerialized)
    (sound : Sound pages startup) (hidden : OffersHidden startup (.answer answer sorted))
    (taken : step qt startup (.answer answer sorted) = .ok next) : Sound pages next := by
  obtain ⟨items, others, open_, same, view, prompts⟩ := answer_cases answer sorted taken
  constructor
  · rw [view]
    apply showEventAnswer_known _ _ _ sound.known
    intro accepted page
    have absent : ∀ record ∈ sorted, record.path ∉ filePaths startup.view.grid := by
      cases answer with
      | ok | close => exact hidden
      | cancel => exact absurd rfl accepted
    have offered := sound.prompts items (by simp [open_]) page
    have shown := sound.known.shown page
    rw [List.count_append, same.count_eq]
    -- A page is shown or offered, not both.
    by_cases present : page ∈ files items
    · obtain ⟨record, member, path⟩ := List.mem_map.mp (same.mem_iff.mpr present)
      have zero := List.count_eq_zero.mpr (path ▸ absent record member)
      omega
    · rw [List.count_eq_zero.mpr present]
      exact shown
  · rw [prompts]
    exact fun shown member => sound.prompts shown (by simp [open_, member])

theorem step_sound (label : Label) (sound : Sound pages startup)
    (hidden : OffersHidden startup label) (taken : step qt startup label = .ok next) :
    Sound (pages ++ scanned [label]) next := by
  cases label with
  | showEvent =>
      cases taken
      exact sound_grow _ ⟨sound.known, sound.prompts⟩
  | handle base =>
      obtain ⟨view, prompts⟩ := handle_cases base taken
      apply sound_grow
      refine ⟨view ▸ sound.known, fun items member => ?_⟩
      rcases prompts with same | ⟨offered, read, opened⟩
      · exact sound.prompts items (same ▸ member)
      · rw [opened] at member
        rcases List.mem_cons.mp member with rfl | earlier
        · exact sound.known.offered base items read
        · exact sound.prompts items earlier
  | answer answer sorted => exact sound_grow _ (answer_sound answer sorted sound hidden taken)
  | edit e =>
      simp only [step] at taken
      cases edited : startup.view.edit qt e with
      | error fault => simp [edited] at taken
      | ok view =>
          rw [edited] at taken
          cases taken
          have scan : scanned [.edit e] = addedFiles [e] := by simp [scanned]
          rw [scan]
          exact ⟨edit_known qt e sound.known edited, (sound_grow _ sound).prompts⟩

theorem step_stocked (label : Label) (stocked : Stocked startup.view.grid)
    (taken : step qt startup label = .ok next) : Stocked next.view.grid := by
  cases label with
  | showEvent =>
      cases taken
      exact stocked
  | handle base =>
      rw [(handle_cases base taken).1]
      exact stocked
  | answer answer sorted =>
      obtain ⟨_, _, _, _, view, _⟩ := answer_cases answer sorted taken
      rw [view]
      cases answer with
      | ok | close => exact (addRecords_files sorted stocked).1
      | cancel => exact stocked
  | edit e =>
      simp only [step] at taken
      cases edited : startup.view.edit qt e with
      | error fault => simp [edited] at taken
      | ok view =>
          rw [edited] at taken
          cases taken
          obtain ⟨changed, rfl, -, -, moved⟩ := edit_saves qt startup.view view e edited
          rw [saveSession_grid]
          exact edit_stocked qt e stocked moved

theorem hidden_of_shownOnce (label : Label) (distinct : pages.Nodup)
    (stocked : Stocked startup.view.grid)
    (kept : ∀ next, step qt startup label = .ok next → ShownOnce pages next.view.grid)
    (taken : step qt startup label = .ok next) : OffersHidden startup label := by
  cases label with
  | showEvent | handle base | edit e => trivial
  | answer answer sorted =>
      obtain ⟨_, _, _, _, view, _⟩ := answer_cases answer sorted taken
      have once := kept next taken
      rw [view] at once
      have twice (shown : (startup.view.showEventAnswer answer sorted).grid =
          (sorted.foldl addSerialized startup.view).grid) :
          ∀ record ∈ sorted, record.path ∉ filePaths startup.view.grid := by
        intro record member present
        have all := once record.path
        rw [shown, (addRecords_files sorted stocked).2, List.count_append] at all
        have first := List.count_pos_iff.mpr present
        have second : 0 < (files sorted).count record.path :=
          List.count_pos_iff.mpr (List.mem_map_of_mem member)
        have single := List.nodup_iff_count_le_one.mp distinct record.path
        omega
      cases answer with
      | ok | close => exact twice rfl
      | cancel => trivial

end Steps

section Runs
variable {qt : QTransformOps Word}

theorem scanned_cons (label : Label) (labels : List Label) :
    scanned (label :: labels) = scanned [label] ++ scanned labels := by
  simp [scanned]

theorem run_sound (labels : List Label) (pages : List Path) (startup last : Startup)
    (sound : Sound pages startup) (hidden : Runs.Along (step qt) OffersHidden startup labels)
    (reached : Runs.run (step qt) startup labels = .ok last) :
    Sound (pages ++ scanned labels) last := by
  induction labels generalizing pages startup with
  | nil =>
      cases reached
      exact sound_grow _ sound
  | cons label rest ih =>
      cases taken : step qt startup label with
      | error stop => simp [Runs.run, taken] at reached
      | ok next =>
          rw [Runs.along_cons_ok rest taken] at hidden
          rw [Runs.run_cons_ok rest taken] at reached
          rw [scanned_cons, ← List.append_assoc]
          exact ih _ next (step_sound label sound hidden.1 taken) hidden.2 reached

theorem initial_sound (session : SessionFile) (stored : List Path) (among : Among stored session) :
    Sound stored (initial qt session) where
  known := ⟨empty_stocked qt, fun _ => Nat.zero_le _, among⟩
  prompts _ member := by simp [initial] at member

/-- As long as no accepted restore offers a page that is shown, every page stored
at the start or scanned since is shown at most once. With a file of its own for
each page, the first such restore shows a page twice. -/
theorem restores_show_pages_once (qt : QTransformOps Word) (session : SessionFile)
    (stored : List Path) (among : Among stored session) (labels : List Label) :
    (Runs.Along (step qt) OffersHidden (initial qt session) labels →
      ∀ front, front <+: labels → ∀ last,
        Runs.run (step qt) (initial qt session) front = .ok last →
          ShownOnce (stored ++ scanned front) last.view.grid) ∧
    (∀ last, Runs.run (step qt) (initial qt session) labels = .ok last →
      (stored ++ scanned labels).Nodup →
      (∀ front, front <+: labels → ∀ last,
        Runs.run (step qt) (initial qt session) front = .ok last →
          ShownOnce (stored ++ scanned front) last.view.grid) →
      Runs.Along (step qt) OffersHidden (initial qt session) labels) := by
  constructor
  · intro hidden front within last reached
    exact (run_sound front stored _ last (initial_sound session stored among)
      (Runs.along_prefix within hidden) reached).known.shown
  · intro last reached distinct once
    have taken := Runs.along_taken reached
    refine Runs.along_of_prefixes (fun startup : Startup => Stocked startup.view.grid)
      (fun startup => ShownOnce (stored ++ scanned labels) startup.view.grid) ?_
      (fun _ label _ stocked _ taken => step_stocked label stocked taken)
      (initial qt session) labels (empty_stocked qt) taken ?_
    · rintro startup label stocked ⟨next, taken⟩ kept
      exact hidden_of_shownOnce label distinct stocked kept taken
    · intro front within middle walked page
      have shown := once front within middle walked page
      obtain ⟨back, rfl⟩ := within
      simp only [scanned, List.flatMap_append, List.count_append] at shown ⊢
      omega

def storedPage : SImageItemSerialized := ⟨doubleTransforms.identity, 1, [97]⟩

def storedSession : SessionFile :=
  SessionService.saveSession (SessionCodec.serializeItems [storedPage])

def acceptedOnce : List Label :=
  [.showEvent, .handle 4096, .answer .ok [storedPage], .showEvent, .handle 4096,
    .answer .cancel [storedPage], .edit (.addImage [98])]

theorem accepted_once_shows_pages_once : ∃ last,
    Runs.run (step doubleTransforms) (initial doubleTransforms storedSession) acceptedOnce =
      .ok last ∧ ShownOnce [[97], [98]] last.view.grid := by
  obtain ⟨last, reached⟩ : ∃ last, Runs.run (step doubleTransforms)
      (initial doubleTransforms storedSession) acceptedOnce = .ok last := ⟨_, rfl⟩
  exact ⟨last, reached, (restores_show_pages_once doubleTransforms storedSession [[97]]
    (among_records [storedPage]) acceptedOnce).1 (by decide +kernel) acceptedOnce
    List.prefix_rfl last reached⟩

/-- The window is shown twice and the session is restored each time. -/
theorem accepted_twice_shows_page_twice : ∃ last,
    Runs.run (step doubleTransforms) (initial doubleTransforms storedSession)
      [.showEvent, .handle 4096, .answer .ok [storedPage], .showEvent, .handle 4096,
        .answer .ok [storedPage]] = .ok last ∧
    Among [[97]] storedSession ∧ ¬ ShownOnce [[97]] last.view.grid := by
  refine ⟨_, rfl, among_records [storedPage], fun once => ?_⟩
  have twice := once [97]
  revert twice
  decide

end Runs
end SaneInTheMembrane.RestorePrompts
