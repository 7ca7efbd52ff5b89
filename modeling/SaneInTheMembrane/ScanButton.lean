import SaneInTheMembrane.Runs

/-!
The Scan button and the three slots that enable and disable it. A click disables
the button and the completion enables it again, but a scanner list that arrives
while a scan runs enables it too, and a completion enables it whatever the list
holds by then.
-/

namespace SaneInTheMembrane.ScanButton

section Model

structure CScannerItem where
  scannerName : String
  scannerDisplayName : String
  deriving DecidableEq, Repr

structure CScannerSelect where
  entries : List (String × CScannerItem) := []
  currentIndex : Option Nat := none
  deriving DecidableEq, Repr

namespace CScannerSelect

/-- The first entry of an empty box becomes the current one. -/
def addItem (select : CScannerSelect) (text : String) (data : CScannerItem) :
    CScannerSelect where
  entries := select.entries ++ [(text, data)]
  currentIndex := if select.entries = [] then some 0 else select.currentIndex

/-- The box is cleared first, so what it held before does not matter. -/
def displayItems (items : List CScannerItem) : CScannerSelect :=
  items.foldl (fun select item => select.addItem item.scannerDisplayName item) {}

def currentData (select : CScannerSelect) : Option CScannerItem :=
  select.currentIndex.bind fun index => select.entries[index]?.map Prod.snd

end CScannerSelect

/-- The scan requests the reader has taken, and those it has returned from at once. -/
structure CScanResponseReader where
  inProgress : Bool := false
  started : List String := []
  dropped : List String := []
  deriving DecidableEq, Repr

def CScanResponseReader.scan (reader : CScanResponseReader) (request : String) :
    CScanResponseReader :=
  if reader.inProgress then { reader with dropped := reader.dropped ++ [request] }
  else { reader with inProgress := true, started := reader.started ++ [request] }

/-- The button with the box and the reader it uses, and the completions that are
posted to the UI thread and not delivered yet. -/
structure Panel where
  select : CScannerSelect := {}
  enabled : Bool := false
  reader : CScanResponseReader := {}
  posted : List Bool := []
  messages : List String := []
  deriving DecidableEq, Repr

def initial : Panel := {}

inductive Label where
  | scannersChanged (items : List CScannerItem)
  | select (index : Nat)
  | click
  | done (ok : Bool)
  | deliver
  deriving DecidableEq, Repr

inductive Fault where
  | nullItem
  | noEntry
  | noCall
  | nothingPosted
  deriving DecidableEq, Repr

def step (panel : Panel) : Label → Except Fault Panel
  -- The box has connected to the signal before the button, so its slot runs first.
  | .scannersChanged items =>
      .ok { panel with
        select := CScannerSelect.displayItems items
        enabled := !items.isEmpty }
  | .select index =>
      if index < panel.select.entries.length then
        .ok { panel with select.currentIndex := some index }
      else .error .noEntry
  -- A disabled button does not emit `clicked`.
  | .click =>
      if panel.enabled then
        match panel.select.currentData with
        | none => .error .nullItem
        | some item =>
            .ok { panel with
              enabled := false
              reader := panel.reader.scan item.scannerName }
      else .ok panel
  -- `OnDone` clears the flag on its own thread and posts the signal.
  | .done ok =>
      if panel.reader.inProgress then
        .ok { panel with
          reader.inProgress := false
          posted := panel.posted ++ [ok] }
      else .error .noCall
  | .deliver =>
      match panel.posted with
      | [] => .error .nothingPosted
      | ok :: rest =>
          .ok { panel with
            enabled := true
            posted := rest
            messages := if ok then panel.messages else panel.messages ++ ["Scan failed"] }

/-- The button is enabled only for a scan that can start, and none has been
dropped. -/
structure Holds (panel : Panel) : Prop where
  idle : panel.enabled = true → panel.reader.inProgress = false
  selected : panel.enabled = true → panel.select.currentData ≠ none
  kept : panel.reader.dropped = []

def CannotCome (fault : Fault) : Prop := fault ≠ .nullItem

def Lawful : Except Fault Panel → Prop := Runs.Ends Holds CannotCome

/-- No list with scanners arrives while a scan is in progress, and no completion is
delivered while one is, or when no scanner is selected. -/
def Careful (panel : Panel) : Label → Prop
  | .scannersChanged items => items ≠ [] → panel.reader.inProgress = false
  | .deliver => panel.posted ≠ [] →
      panel.reader.inProgress = false ∧ panel.select.currentData ≠ none
  | .select _ | .click | .done _ => True

end Model

section Steps
variable {panel : Panel}

theorem foldl_addItem_entries (items : List CScannerItem) (select : CScannerSelect) :
    (items.foldl (fun select item => select.addItem item.scannerDisplayName item)
      select).entries =
        select.entries ++ items.map fun item => (item.scannerDisplayName, item) := by
  induction items generalizing select with
  | nil => simp
  | cons item rest ih =>
      rw [List.foldl_cons, ih]
      simp [CScannerSelect.addItem]

theorem foldl_addItem_index (items : List CScannerItem) (select : CScannerSelect)
    (filled : select.entries ≠ []) :
    (items.foldl (fun select item => select.addItem item.scannerDisplayName item)
      select).currentIndex = select.currentIndex := by
  induction items generalizing select with
  | nil => rfl
  | cons item rest ih =>
      rw [List.foldl_cons, ih _ (by simp [CScannerSelect.addItem])]
      simp [CScannerSelect.addItem, filled]

theorem currentData_displayItems (items : List CScannerItem) :
    (CScannerSelect.displayItems items).currentData = items.head? := by
  cases items with
  | nil => rfl
  | cons item rest =>
      have index : (CScannerSelect.displayItems (item :: rest)).currentIndex = some 0 := by
        rw [CScannerSelect.displayItems, List.foldl_cons, foldl_addItem_index]
        · simp [CScannerSelect.addItem]
        · simp [CScannerSelect.addItem]
      have entries := foldl_addItem_entries (item :: rest) {}
      rw [CScannerSelect.currentData, index, CScannerSelect.displayItems, entries]
      rfl

theorem initial_holds : Holds initial where
  idle enabled := by cases enabled
  selected enabled := by cases enabled
  kept := rfl

theorem scannersChanged_holds (items : List CScannerItem) (holds : Holds panel)
    (careful : Careful panel (.scannersChanged items)) :
    Holds { panel with
      select := CScannerSelect.displayItems items
      enabled := !items.isEmpty } := by
  constructor
  · intro enabled
    exact careful (by simpa using enabled)
  · intro enabled
    rw [currentData_displayItems]
    simpa [List.head?_eq_none_iff] using enabled
  · exact holds.kept

theorem select_holds (index : Nat) (holds : Holds panel)
    (inside : index < panel.select.entries.length) :
    Holds { panel with select.currentIndex := some index } where
  idle := holds.idle
  selected _ := by simp [CScannerSelect.currentData, inside]
  kept := holds.kept

theorem click_holds (holds : Holds panel) (enabled : panel.enabled = true) :
    ∃ item, panel.select.currentData = some item ∧
      Holds { panel with
        enabled := false
        reader := panel.reader.scan item.scannerName } := by
  obtain ⟨item, found⟩ := Option.ne_none_iff_exists'.mp (holds.selected enabled)
  refine ⟨item, found, ?_⟩
  constructor
  · intro still
    cases still
  · intro still
    cases still
  · simp [CScanResponseReader.scan, holds.idle enabled, holds.kept]

theorem step_holds (label : Label) (holds : Holds panel) (careful : Careful panel label) :
    Lawful (step panel label) := by
  cases label with
  | scannersChanged items => exact scannersChanged_holds items holds careful
  | select index =>
      simp only [step]
      split
      next inside => exact select_holds index holds inside
      next => exact Fault.noConfusion
  | click =>
      simp only [step]
      split
      next enabled =>
        obtain ⟨item, found, after⟩ := click_holds holds enabled
        rw [found]
        exact after
      next => exact holds
  | done ok =>
      simp only [step]
      split
      next => exact ⟨fun _ => rfl, holds.selected, holds.kept⟩
      next => exact Fault.noConfusion
  | deliver =>
      simp only [step]
      split
      next => exact Fault.noConfusion
      next ok rest posted =>
        obtain ⟨idle, selected⟩ := careful (by simp [posted])
        exact ⟨fun _ => idle, fun _ => selected, holds.kept⟩

theorem careful_of_lawful (label : Label) (lawful : Lawful (step panel label)) :
    Careful panel label := by
  cases label with
  | scannersChanged items =>
      intro scanners
      exact lawful.idle (by simpa using scanners)
  | select index | click | done ok => trivial
  | deliver =>
      intro some
      simp only [step] at lawful
      split at lawful
      next none => exact absurd none some
      next => exact ⟨lawful.idle rfl, lawful.selected rfl⟩

/-- The button is enabled only for a scan that can start, all along the runs whose
lists and completions are careful, and along no others. -/
theorem button_lawful_iff (labels : List Label) :
    (∀ front, front <+: labels → Lawful (Runs.run step initial front)) ↔
      Runs.Along step Careful initial labels := by
  apply Runs.prefixes_end_iff Holds Holds CannotCome (fun _ holds => holds)
  · exact fun _ label holds careful => step_holds label holds careful
  · exact fun _ label _ lawful => careful_of_lawful label lawful
  · exact initial_holds

/-- A list refreshed during a scan enables the button, and the next click is
dropped; a list emptied during a scan leaves the click after it no scanner. -/
theorem refreshed_during_scan_enables :
    let flatbed : CScannerItem := ⟨"flatbed", "Vendor Flatbed"⟩
    let refreshed := [.scannersChanged [flatbed], .click, .scannersChanged [flatbed]]
    let emptied := [.scannersChanged [flatbed], .click, .scannersChanged [], .done true, .deliver]
    ¬ Lawful (Runs.run step initial refreshed) ∧
    (Runs.run step initial (refreshed ++ [.click])).map (fun panel => panel.reader.dropped) =
      .ok ["flatbed"] ∧
    Runs.run step initial (emptied ++ [.click]) = .error .nullItem := by
  refine ⟨fun lawful => ?_, rfl, rfl⟩
  cases lawful.idle rfl

end Steps
end SaneInTheMembrane.ScanButton
