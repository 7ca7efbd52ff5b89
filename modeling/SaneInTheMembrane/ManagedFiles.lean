import Mathlib.Data.List.TakeDrop
import SaneInTheMembrane.FileStore

/-!
When the managed files of a run read as what was put there. A step that is not careful
is one the code does not rule out: an id drawn twice, a short write, two CFiles of one
path.
-/

namespace SaneInTheMembrane.FileStore

section Counting
variable {Path : Type} {manager next : CFileManager Path}

theorem private_push (disk : Disk Path) (file : CFile Path) (path : Path) :
    (manager.push disk file).Private path ↔ manager.Private path := by
  simp [CFileManager.Private, CFileManager.push, or_imp, forall_and]

theorem manages_writeToFile {pointer : Nat} {file : CFile Path}
    (found : manager.files[pointer]? = some file) (data : List UInt8) (taken other : Nat)
    (path : Path) :
    (manager.writeToFile pointer file data taken).Manages other path ↔
      manager.Manages other path := by
  apply and_congr_right
  intro
  by_cases same : pointer = other
  · subst same
    simp [CFileManager.writeToFile, CFile.write, found, List.getElem?_set_self']
  · simp [CFileManager.writeToFile, List.getElem?_set_ne same]

variable [DecidableEq Path]

/-- What the manager counts, whatever becomes of the disk. -/
structure Counted (manager : CFileManager Path) : Prop where
  sized : ∀ (pointer : Nat) (file : CFile Path), manager.files[pointer]? = some file →
    manager.Private file.path → file.size = (manager.content pointer file.path).length
  managed : ∀ pointer ∈ manager.managedTempFiles, pointer < manager.files.length

theorem start_counted (disk : Disk Path) : Counted ({ disk } : CFileManager Path) := by
  constructor
  · intro pointer file found
    simp at found
  · intro pointer member
    exact absurd member List.not_mem_nil

theorem content_put {put : Put Path} (logged : next.log = manager.log ++ [put])
    (pointer : Nat) (path : Path) :
    next.content pointer path = put.onto pointer path (manager.content pointer path) := by
  rw [CFileManager.content, logged, List.foldl_append]
  rfl

theorem content_push (disk : Disk Path) (file : CFile Path) (pointer : Nat) (path : Path) :
    (manager.push disk file).content pointer path =
      if manager.files.length = pointer then [] else manager.content pointer path := by
  have logged : (manager.push disk file).log = manager.log ++ [.made manager.files.length] := rfl
  rw [content_put logged]
  rfl

theorem push_counted (counted : Counted manager) (disk : Disk Path) (file : CFile Path)
    (unsized : file.size = 0) : Counted (manager.push disk file) := by
  constructor
  · intro pointer other found alone
    rw [content_push]
    rw [private_push] at alone
    simp only [CFileManager.push, List.getElem?_append] at found
    split at found
    next inside =>
      rw [if_neg (by omega)]
      exact counted.sized pointer other found alone
    next behind =>
      have last : pointer - manager.files.length = 0 ∧ file = other := by
        simpa [List.getElem?_singleton] using found
      rw [if_pos (by omega), ← last.2]
      exact unsized
  · intro pointer member
    have := counted.managed pointer member
    simp only [CFileManager.push, List.length_append, List.length_singleton]
    omega

theorem push_manages (counted : Counted manager) (disk : Disk Path) (file : CFile Path)
    (pointer : Nat) (path : Path) :
    (manager.push disk file).Manages pointer path ↔ manager.Manages pointer path := by
  apply and_congr_right
  intro member
  simp only [CFileManager.push]
  rw [List.getElem?_append_left (counted.managed pointer member)]

theorem under_path_counted (counted : Counted manager) {path : Path} {data : List UInt8}
    {put : Put Path} (under : put = .saved path data ∨ put = .appended path data)
    (disk : Disk Path) : Counted { manager with disk, log := manager.log ++ [put] } := by
  refine ⟨?_, counted.managed⟩
  intro pointer file found alone
  have before : manager.Private file.path :=
    fun other member => alone other (List.mem_append_left _ member)
  have logged : ({ manager with disk, log := manager.log ++ [put] } : CFileManager Path).log =
      manager.log ++ [put] := rfl
  have last := alone put (List.mem_append_right _ List.mem_cons_self) data
  have different : path ≠ file.path := by
    rintro rfl
    rcases under with rfl | rfl
    · exact last.1 rfl
    · exact last.2 rfl
  rw [counted.sized pointer file found before, content_put logged]
  rcases under with rfl | rfl <;> simp [Put.onto, different]

theorem content_writeToFile (pointer : Nat) (file : CFile Path) (data : List UInt8)
    (taken other : Nat) (path : Path) :
    (manager.writeToFile pointer file data taken).content other path =
      manager.content other path ++ if pointer = other then data else [] := by
  have logged : (manager.writeToFile pointer file data taken).log =
      manager.log ++ [.through pointer data] := rfl
  rw [content_put logged]
  simp only [Put.onto]
  split
  · rfl
  · rw [List.append_nil]

theorem writeToFile_counted {pointer : Nat} {file : CFile Path}
    (found : manager.files[pointer]? = some file) (data : List UInt8) (taken : Nat)
    (counted : Counted manager) : Counted (manager.writeToFile pointer file data taken) := by
  have inside : pointer < manager.files.length := (List.getElem?_eq_some_iff.mp found).1
  constructor
  · intro other otherFile otherFound alone
    have before : manager.Private otherFile.path :=
      fun put member => alone put (List.mem_append_left _ member)
    rw [content_writeToFile, List.length_append]
    by_cases same : pointer = other
    · subst same
      have written : (file.write manager.disk data taken).2 = otherFile := by
        simpa [CFileManager.writeToFile, inside] using otherFound
      subst written
      rw [if_pos rfl]
      exact congrArg (· + data.length) (counted.sized pointer file found before)
    · rw [if_neg same]
      apply counted.sized other otherFile _ before
      simpa [CFileManager.writeToFile, List.getElem?_set_ne same] using otherFound
  · intro other member
    simpa [CFileManager.writeToFile] using counted.managed other member

theorem newTempFile_counted (counted : Counted manager) (path : Path) (granted : Bool) :
    Counted (manager.newTempFile path granted) := by
  have pushed := push_counted counted (CFile.make manager.disk path granted).1
    (CFile.make manager.disk path granted).2 rfl
  refine ⟨pushed.sized, ?_⟩
  intro pointer member
  rcases List.mem_append.mp member with before | new
  · exact pushed.managed pointer before
  · rw [List.mem_singleton.mp new]
    simp [CFileManager.newTempFile, CFileManager.openFile, CFileManager.push]

theorem step_counted (label : Label Path) (counted : Counted manager)
    (taken : step manager label = .ok next) : Counted next := by
  cases label with
  | newTempFile path granted =>
      cases taken
      exact newTempFile_counted counted path granted
  | openFile path granted =>
      cases taken
      exact push_counted counted _ _ rfl
  | writeFile path data behaviour granted amount =>
      simp only [step, CFileManager.writeFile] at taken
      split at taken
      · cases taken
        exact counted
      next written =>
        split at written
        · cases written
        · cases written
          cases taken
          exact push_counted (under_path_counted counted (.inr rfl) manager.disk) _ _ rfl
  | writeToFile pointer data amount =>
      simp only [step] at taken
      split at taken
      · cases taken
      next found =>
        cases taken
        exact writeToFile_counted found data amount counted
  | deleteFile pointer removed =>
      simp only [step, CFileManager.deleteFile] at taken
      split at taken
      · cases taken
      · cases taken
        split
        · exact counted
        · split
          · exact counted
          · exact ⟨counted.sized,
              fun other member => counted.managed other (List.mem_filter.mp member).1⟩
  | saveImage pointer data granted amount =>
      simp only [step] at taken
      split at taken
      · cases taken
      · cases taken
        exact under_path_counted counted (.inl rfl) _
  | save path data granted amount =>
      cases taken
      exact under_path_counted counted (.inl rfl) _
  | append path data granted amount =>
      cases taken
      exact under_path_counted counted (.inr rfl) _

end Counting

section Reading
variable {Path : Type} [DecidableEq Path] {manager next : CFileManager Path}

def Reads (manager : CFileManager Path) : Prop :=
  ∀ pointer path, manager.Manages pointer path →
    manager.disk.read path = manager.content pointer path

theorem start_reads (disk : Disk Path) : Reads ({ disk } : CFileManager Path) :=
  fun _ _ managed => absurd managed.1 List.not_mem_nil

theorem holds_iff (counted : Counted manager) : Holds manager ↔ Reads manager := by
  constructor
  · intro holds pointer path ⟨member, named⟩
    obtain ⟨file, found, rfl⟩ := Option.map_eq_some_iff.mp named
    exact (holds pointer member file found).1
  · intro reads pointer member file found
    have same := reads pointer file.path ⟨member, by rw [found]; rfl⟩
    refine ⟨same, ?_⟩
    intro alone
    rw [CFile.read, same]
    exact counted.sized pointer file found alone

/-- What a step adds to be read is to be what it was asked to add. -/
theorem reads_iff_of_added {added : Path → List UInt8} {asked : Nat → Path → List UInt8}
    (reads : Reads manager)
    (manages : ∀ pointer path, next.Manages pointer path ↔ manager.Manages pointer path)
    (content : ∀ pointer path, manager.Manages pointer path →
      next.content pointer path = manager.content pointer path ++ asked pointer path)
    (grows : ∀ path, next.disk.read path = manager.disk.read path ++ added path) :
    Reads next ↔
      ∀ pointer path, manager.Manages pointer path → added path = asked pointer path := by
  have one : ∀ pointer path, manager.Manages pointer path →
      (next.disk.read path = next.content pointer path ↔ added path = asked pointer path) := by
    intro pointer path managed
    rw [grows, content pointer path managed, reads pointer path managed,
      List.append_cancel_left_eq]
  constructor
  · intro after pointer path managed
    exact (one pointer path managed).mp (after pointer path ((manages pointer path).mpr managed))
  · intro asked pointer path managed
    have before := (manages pointer path).mp managed
    exact (one pointer path before).mpr (asked pointer path before)

theorem content_push_managed (counted : Counted manager) (disk : Disk Path) (file : CFile Path)
    {pointer : Nat} {path : Path} (managed : manager.Manages pointer path) (other : Path) :
    (manager.push disk file).content pointer other = manager.content pointer other := by
  have inside := counted.managed pointer managed.1
  rw [content_push, if_neg (by omega)]

theorem newTempFile_manages (counted : Counted manager) (path : Path) (granted : Bool)
    (pointer : Nat) (other : Path) :
    (manager.newTempFile path granted).Manages pointer other ↔
      manager.Manages pointer other ∨ pointer = manager.files.length ∧ other = path := by
  have new : (manager.newTempFile path granted).files[manager.files.length]?.map CFile.path =
      some path := by
    simp [CFileManager.newTempFile, CFileManager.openFile, CFileManager.push, CFile.make]
  have pushed := push_manages counted (CFile.make manager.disk path granted).1
    (CFile.make manager.disk path granted).2 pointer other
  constructor
  · intro ⟨member, named⟩
    rcases List.mem_append.mp member with before | added
    · exact .inl (pushed.mp ⟨before, named⟩)
    · rw [List.mem_singleton.mp added, new] at named
      exact .inr ⟨List.mem_singleton.mp added, (Option.some.inj named).symm⟩
  · rintro (managed | ⟨rfl, rfl⟩)
    · have kept := pushed.mpr managed
      exact ⟨List.mem_append_left _ kept.1, kept.2⟩
    · exact ⟨List.mem_append_right _ List.mem_cons_self, new⟩

theorem newTempFile_reads_iff (path : Path) (granted : Bool) (reads : Reads manager)
    (counted : Counted manager) :
    Reads (manager.newTempFile path granted) ↔ manager.disk.read path = [] := by
  have unchanged : ∀ other, (manager.newTempFile path granted).disk.read other =
      manager.disk.read other := read_openOutput manager.disk path granted
  have content : ∀ pointer other, (manager.newTempFile path granted).content pointer other =
      if manager.files.length = pointer then [] else manager.content pointer other :=
    content_push (CFile.make manager.disk path granted).1 (CFile.make manager.disk path granted).2
  constructor
  · intro after
    have now := after manager.files.length path
      ((newTempFile_manages counted path granted _ path).mpr (.inr ⟨rfl, rfl⟩))
    rwa [unchanged, content, if_pos rfl] at now
  · intro empty pointer other managed
    rw [unchanged, content]
    rcases (newTempFile_manages counted path granted pointer other).mp managed with
      before | ⟨rfl, rfl⟩
    · have inside := counted.managed pointer before.1
      rw [if_neg (by omega)]
      exact reads pointer other before
    · rw [if_pos rfl, empty]

/-- Bytes go where they are asked to, and only there. -/
theorem writeToFile_reads_iff {pointer : Nat} {file : CFile Path}
    (found : manager.files[pointer]? = some file) (data : List UInt8) (taken : Nat)
    (reads : Reads manager) :
    Reads (manager.writeToFile pointer file data taken) ↔
      Careful manager (.writeToFile pointer data taken) := by
  have added := reads_iff_of_added reads (manages_writeToFile found data taken)
    (fun other path _ => content_writeToFile pointer file data taken other path)
    (read_write manager.disk file.ofstream data taken)
  rw [added]
  simp only [Careful, found, Option.some.injEq, forall_eq']
  apply forall₃_congr
  intro other path managed
  by_cases own : other = pointer <;> by_cases shows : manager.disk.Shows path file.ofstream
  · by_cases empty : data = []
    · simp [empty]
    · simp [own, shows, empty]
  · simp only [own, shows, if_true, if_false, false_and]
    exact ⟨fun empty some => some empty.symm, fun none => (not_not.mp none).symm⟩
  · simp only [own, Ne.symm own, shows, if_true, if_false, not_true_eq_false]
    exact not_not.symm
  · simp [own, Ne.symm own, shows]

theorem extends_iff (path : Path) (data : List UInt8) (granted : Bool) (taken : Nat) :
    (∀ pointer other, manager.Manages pointer other →
      (if other = path ∧ manager.disk.Opens path granted then data.take taken else []) =
        if path = other then data else []) ↔ Extends manager path data granted taken := by
  constructor
  · intro reached pointer managed bytes
    have now := reached pointer path managed
    rw [if_pos rfl] at now
    split at now
    next opened => exact ⟨opened.2, (List.take_eq_self_iff data).mp now⟩
    next => exact absurd now.symm bytes
  · intro extends' pointer other managed
    by_cases same : path = other
    · subst same
      by_cases empty : data = []
      · simp [empty]
      · obtain ⟨opens, whole⟩ := extends' pointer managed empty
        rw [if_pos ⟨rfl, opens⟩, if_pos rfl, (List.take_eq_self_iff data).mpr whole]
    · simp [same, Ne.symm same]

theorem append_reads_iff (path : Path) (data : List UInt8) (granted : Bool) (taken : Nat)
    (reads : Reads manager) :
    Reads (manager.append path data granted taken) ↔
      Extends manager path data granted taken := by
  have content : ∀ pointer other, (manager.append path data granted taken).content pointer other =
      manager.content pointer other ++ if path = other then data else [] := by
    intro pointer other
    have logged : (manager.append path data granted taken).log =
        manager.log ++ [.appended path data] := rfl
    rw [content_put logged]
    simp only [Put.onto]
    split
    · rfl
    · rw [List.append_nil]
  rw [← extends_iff]
  exact reads_iff_of_added reads (fun _ _ => Iff.rfl) (fun pointer other _ => content pointer other)
    (read_appended manager.disk path data granted taken)

theorem push_reads_iff (counted : Counted manager) (file : CFile Path) :
    Reads (manager.push manager.disk file) ↔ Reads manager := by
  constructor
  · intro after pointer path managed
    have now := after pointer path ((push_manages counted _ file pointer path).mpr managed)
    rwa [content_push_managed counted _ file managed] at now
  · intro reads pointer path managed
    have before := (push_manages counted _ file pointer path).mp managed
    rw [content_push_managed counted _ file before]
    exact reads pointer path before

theorem save_reads_iff (path : Path) (data : List UInt8) (granted : Bool) (taken : Nat)
    (reads : Reads manager) :
    Reads (manager.save path data granted taken) ↔
      Replaces manager path data granted taken := by
  have content : ∀ pointer other, (manager.save path data granted taken).content pointer other =
      if path = other then data else manager.content pointer other := by
    intro pointer other
    have logged : (manager.save path data granted taken).log =
        manager.log ++ [.saved path data] := rfl
    exact content_put logged pointer other
  have read := read_saved manager.disk path data granted taken
  have one : (if manager.disk.Opens path granted then data.take taken
      else manager.disk.read path) = data ↔
        if manager.disk.Opens path granted then data.length ≤ taken
        else manager.disk.read path = data := by
    split
    · exact List.take_eq_self_iff data
    · rfl
  constructor
  · intro after pointer managed
    have now := after pointer path managed
    rw [content, if_pos rfl] at now
    apply one.mp
    simpa only [true_and] using (read path).symm.trans now
  · intro replaces pointer other managed
    change (CFileRW.write manager.disk path data granted taken).read other = _
    rw [content, read]
    by_cases same : path = other
    · subst same
      simpa only [true_and, if_true] using one.mpr (replaces pointer managed)
    · rw [if_neg same, if_neg fun reached => same reached.1.symm]
      exact reads pointer other managed

theorem deleteFile_reads_iff {pointer : Nat} {file : CFile Path}
    (found : manager.files[pointer]? = some file) (removed : Bool) (reads : Reads manager) :
    Reads (manager.deleteFile pointer file removed).1 ↔
      Careful manager (.deleteFile pointer removed) := by
  have unread : manager.disk.isRegularFile file.path = false →
      manager.disk.read file.path = [] := by
    unfold Disk.isRegularFile Disk.read
    split <;> simp
  simp only [Careful, found, Option.some.injEq, forall_eq']
  unfold CFileManager.deleteFile
  split
  next missing =>
    have empty := unread (by simpa using missing)
    exact ⟨fun _ _ _ _ _ => empty, fun _ => reads⟩
  next =>
    split
    next kept => exact ⟨fun _ gone => absurd gone kept, fun _ => reads⟩
    next gone =>
      constructor
      · intro after _ other managed different
        have left : other ∈ manager.managedTempFiles.filter (· ≠ pointer) :=
          List.mem_filter.mpr ⟨managed.1, by simpa using different⟩
        have now := after other file.path ⟨left, managed.2⟩
        rw [read_remove, if_pos rfl] at now
        exact (reads other file.path managed).trans now.symm
      · intro careful other path managed
        obtain ⟨member, different⟩ := List.mem_filter.mp managed.1
        have before : manager.Manages other path := ⟨member, managed.2⟩
        change (manager.disk.remove file.path).read path = manager.content other path
        rw [read_remove, ← reads other path before]
        split
        next same =>
          subst same
          exact (careful (not_not.mp gone) other before (by simpa using different)).symm
        next => rfl

/-- A step leaves the managed files as they should be exactly if it is careful. -/
theorem step_reads_iff (label : Label Path) (reads : Reads manager)
    (counted : Counted manager) (taken : step manager label = .ok next) :
    Reads next ↔ Careful manager label := by
  cases label with
  | newTempFile path granted =>
      cases taken
      exact newTempFile_reads_iff path granted reads counted
  | openFile path granted =>
      cases taken
      have opened := read_openOutput manager.disk path granted
      have same : Reads { manager with disk := (manager.disk.openOutput path granted).1 } :=
        fun pointer other managed => (opened other).trans (reads pointer other managed)
      have kept : Counted { manager with disk := (manager.disk.openOutput path granted).1 } :=
        ⟨counted.sized, counted.managed⟩
      exact ⟨fun _ => trivial, fun _ => (push_reads_iff kept _).mpr same⟩
  | writeFile path data behaviour granted amount =>
      simp only [step, CFileManager.writeFile] at taken
      split at taken
      next refused =>
        cases taken
        split at refused
        next duplicate => exact ⟨fun _ may => absurd duplicate may, fun _ => reads⟩
        next => cases refused
      next written =>
        split at written
        · cases written
        next free =>
          cases written
          cases taken
          have kept : Counted (manager.append path data granted amount) :=
            under_path_counted counted (.inr rfl) _
          have pushed := push_reads_iff kept ((CFile.make manager.disk path granted).2.write
            (CFile.make manager.disk path granted).1 data amount).2.moved
          exact (pushed.trans (append_reads_iff path data granted amount reads)).trans
            ⟨fun extends' _ => extends', fun extends' => extends' free⟩
  | writeToFile pointer data amount =>
      simp only [step] at taken
      split at taken
      · cases taken
      next found =>
        cases taken
        exact writeToFile_reads_iff found data amount reads
  | deleteFile pointer removed =>
      simp only [step] at taken
      split at taken
      · cases taken
      next found =>
        cases taken
        exact deleteFile_reads_iff found removed reads
  | saveImage pointer data granted amount =>
      simp only [step] at taken
      split at taken
      · cases taken
      next found =>
        cases taken
        simp only [Careful, found, Option.some.injEq, forall_eq']
        exact save_reads_iff _ data granted amount reads
  | save path data granted amount =>
      cases taken
      exact save_reads_iff path data granted amount reads
  | append path data granted amount =>
      cases taken
      exact append_reads_iff path data granted amount reads

end Reading

section Properties
variable {Path : Type} [DecidableEq Path]

theorem step_keeps (manager : CFileManager Path) (label : Label Path)
    (inv : Reads manager ∧ Counted manager) (careful : Careful manager label) :
    Runs.Ends (fun next => Reads next ∧ Counted next) CannotCome (step manager label) := by
  cases taken : step manager label with
  | error fault => trivial
  | ok next =>
      exact ⟨(step_reads_iff label inv.1 inv.2 taken).mpr careful,
        step_counted label inv.2 taken⟩

theorem careful_of_lawful (manager : CFileManager Path) (label : Label Path)
    (inv : Reads manager ∧ Counted manager) (lawful : Lawful (step manager label)) :
    Careful manager label := by
  cases taken : step manager label with
  | ok next =>
      rw [taken] at lawful
      have counted := step_counted label inv.2 taken
      exact (step_reads_iff label inv.1 inv.2 taken).mp ((holds_iff counted).mp lawful)
  | error fault =>
      -- Only a pointer to no file faults, and nothing is asked of it.
      cases label with
      | writeToFile pointer data amount | saveImage pointer data granted amount =>
          intro file found
          simp [step, found] at taken
      | deleteFile pointer removed =>
          intro _ file found
          simp [step, found] at taken
      | writeFile path data behaviour granted amount =>
          simp only [step] at taken
          split at taken <;> cases taken
      | newTempFile | openFile | save | append => cases taken

/-- From any disk: along a run every managed file reads as what was put there, and knows
its length if that came through it, exactly if each step is careful. -/
theorem managed_files_kept_iff (disk : Disk Path) (labels : List (Label Path)) :
    (∀ front, front <+: labels → Lawful (Runs.run step { disk } front)) ↔
      Runs.Along step Careful { disk } labels :=
  Runs.prefixes_end_iff _ Holds CannotCome
    (fun _ inv => (holds_iff inv.2).mpr inv.1) step_keeps careful_of_lawful _ labels
    ⟨start_reads disk, start_counted disk⟩

end Properties

end SaneInTheMembrane.FileStore
