import Mathlib
import SaneInTheMembrane.ManagedFiles
import SaneInTheMembrane.UniqueIds

/-!
The temporary files of one thread, named by the ids it draws. While no id comes twice
every file has a path of its own, and the steps of the manager are careful.
-/

namespace SaneInTheMembrane.FileStore

section Model

def created {Path : Type} : List (Label Path) → List Path
  | [] => []
  | .newTempFile path _ :: rest => path :: created rest
  | _ :: rest => created rest

/-- Files that others open have other paths, and the system serves the temporary ones. -/
def Ordinary {Path : Type} (temps : List Path) : Label Path → Prop
  | .newTempFile _ granted => granted = true
  | .writeToFile _ data taken => data.length ≤ taken
  | .saveImage _ data granted taken => granted = true ∧ data.length ≤ taken
  | .deleteFile _ _ => True
  | .openFile path _ | .writeFile path _ _ _ _ | .save path _ _ _ | .append path _ _ _ =>
      path ∉ temps

def sessionPath (tempDir : List Char) : List (List Char) :=
  FilePaths.elements (FilePaths.append tempDir ['s', 'e', 's', 's', 'i', 'o', 'n'])

def OfSession (tempDir : List Char) : Label (List (List Char)) → Prop
  | .save path _ _ _ | .append path _ _ _ => path = sessionPath tempDir
  | .newTempFile _ _ | .openFile _ _ | .writeFile _ _ _ _ _ | .writeToFile _ _ _
  | .deleteFile _ _ | .saveImage _ _ _ _ => False

def Drawn (tempDir : List Char) (generator : UniqueIds.CUniqueIdGenerator) (idHash : UInt64)
    (clock : Nat → Int64) (paths : List (List (List Char))) : Prop :=
  ∀ draw path, paths[draw]? = some path → ∃ extension, path = FilePaths.elements
    (UniqueIds.generateTempFilepath tempDir (generator.drawn idHash clock draw) extension)

end Model

section Disks
variable {Path : Type} {path : Path} {disk after : Disk Path}

/-- At most the one name is changed, and no stream that was there gets another. -/
structure Touches (path : Path) (disk after : Disk Path) : Prop where
  names : ∀ other, other ≠ path → after.names other = disk.names other
  shows : ∀ other ofstream, (∀ inode, ofstream = some inode → inode < disk.next) →
    after.Shows other ofstream → disk.Shows other ofstream
  next : disk.next ≤ after.next

theorem write_names (ofstream : Option Nat) (data : List UInt8) (taken : Nat) :
    (disk.write ofstream data taken).1.names = disk.names := by
  cases ofstream <;> rfl

theorem write_next (ofstream : Option Nat) (data : List UInt8) (taken : Nat) :
    (disk.write ofstream data taken).1.next = disk.next := by
  cases ofstream <;> rfl

theorem Touches.write (touches : Touches path disk after) (ofstream : Option Nat)
    (data : List UInt8) (taken : Nat) :
    Touches path disk (after.write ofstream data taken).1 := by
  have names := @write_names Path after ofstream data taken
  constructor
  · rw [names]
    exact touches.names
  · unfold Disk.Shows
    rw [names]
    exact touches.shows
  · rw [write_next]
    exact touches.next

theorem touches_refl : Touches path disk disk :=
  ⟨fun _ _ => rfl, fun _ _ _ shows => shows, Nat.le_refl _⟩

/-- The stream writes to no path but the file's. -/
structure Bound (disk : Disk Path) (file : CFile Path) : Prop where
  own : ∀ path, disk.Shows path file.ofstream → path = file.path
  below : ∀ inode, file.ofstream = some inode → inode < disk.next

theorem Bound.touched {file : CFile Path} (bound : Bound disk file)
    (touches : Touches path disk after) : Bound after file where
  own other shows := bound.own other (touches.shows other _ bound.below shows)
  below inode opened := Nat.lt_of_lt_of_le (bound.below inode opened) touches.next

theorem write_bound {file : CFile Path} (bound : Bound disk file) (data : List UInt8)
    (taken : Nat) :
    Bound (file.write disk data taken).1 (file.write disk data taken).2.moved := by
  have kept : Bound (file.write disk data taken).1 file :=
    bound.touched ((@touches_refl Path file.path disk).write file.ofstream data taken)
  have stream : (file.write disk data taken).2.moved.ofstream = file.ofstream ∨
      (file.write disk data taken).2.moved.ofstream = none := by
    cases opened : file.ofstream with
    | none => simp [CFile.write, CFile.moved, Disk.write, opened]
    | some inode =>
        by_cases whole : data.length ≤ taken <;>
          simp [CFile.write, CFile.moved, Disk.write, opened, whole]
  rcases stream with same | failed
  · constructor
    · rw [same]
      exact kept.own
    · rw [same]
      exact kept.below
  · constructor
    · intro path shows
      simp [Disk.Shows, failed] at shows
    · intro inode opened
      simp [failed] at opened

variable [DecidableEq Path]

theorem touches_remove : Touches path disk (disk.remove path) := by
  constructor
  · intro other different
    simp [Disk.remove, different]
  · intro other ofstream _ shows
    by_cases same : other = path
    · cases ofstream <;> simp [Disk.Shows, Disk.remove, same] at shows
    · simpa [Disk.Shows, Disk.remove, same] using shows
  · exact Nat.le_refl _

theorem touches_create : Touches path disk (disk.create path) := by
  constructor
  · intro other different
    simp [Disk.create, different]
  · intro other ofstream below shows
    by_cases same : other = path
    · cases ofstream with
      | none => simp [Disk.Shows] at shows
      | some inode =>
          -- A new inode is no old stream's.
          have new : disk.next = inode := by simpa [Disk.Shows, Disk.create, same] using shows
          exact absurd (below inode rfl) (new ▸ Nat.lt_irrefl _)
    · simpa [Disk.Shows, Disk.create, same] using shows
  · exact Nat.le_succ _

theorem touches_openOutput (granted : Bool) :
    Touches path disk (disk.openOutput path granted).1 := by
  unfold Disk.openOutput
  split
  · split
    · exact touches_refl
    · exact touches_refl
    · exact touches_create
  · exact touches_refl

theorem touches_appended (data : List UInt8) (granted : Bool) (taken : Nat) :
    Touches path disk (CFileRW.append disk path data granted taken) :=
  (touches_openOutput granted).write _ data taken

theorem touches_saved (data : List UInt8) (granted : Bool) (taken : Nat) :
    Touches path disk (CFileRW.write disk path data granted taken) := by
  have opened := @touches_openOutput Path path disk _ granted
  unfold CFileRW.write
  split
  next same =>
    rw [same] at opened
    exact opened
  next emptied inode same =>
    rw [same] at opened
    have cut : Touches path disk (emptied.truncate inode) :=
      ⟨opened.names, opened.shows, opened.next⟩
    exact cut.write _ data taken

theorem names_saved {inode : Nat} (named : disk.names path = some (.regular inode))
    (data : List UInt8) (granted : Bool) (taken : Nat) :
    (CFileRW.write disk path data granted taken).names = disk.names := by
  cases granted <;> simp [CFileRW.write, Disk.openOutput, named, Disk.truncate, Disk.write,
    Disk.append]

theorem make_bound (path : Path) (granted : Bool) :
    Bound (CFile.make disk path granted).1 (CFile.make disk path granted).2 := by
  constructor
  · exact fun other shows => ((shows_openOutput disk path granted other).mp shows).1
  · intro inode opened
    simp only [CFile.make, Disk.openOutput] at opened ⊢
    split at opened
    next allowed =>
      rw [if_pos allowed]
      split at opened
      next named =>
        cases opened
        simpa only [named] using disk.known path inode named
      next => cases opened
      next missing =>
        cases opened
        exact Nat.lt_succ_self _
    next => cases opened

end Disks

section Steps
variable {Path : Type} {temps later : List Path} {manager next : CFileManager Path}

/-- `later` are the temporary paths still to be made, and each of the others has one
file. -/
structure Apart (temps later : List Path) (manager : CFileManager Path) : Prop where
  unmade : ∀ path ∈ later, manager.disk.names path = none
  unheld : ∀ file ∈ manager.files, file.path ∉ later
  alone : ∀ (first second : Nat) (path : Path), path ∈ temps →
    manager.files[first]?.map CFile.path = some path →
    manager.files[second]?.map CFile.path = some path → first = second
  managed : ∀ pointer path, manager.Manages pointer path → path ∈ temps
  shown : ∀ pointer ∈ manager.managedTempFiles, ∀ file, manager.files[pointer]? = some file →
    manager.disk.Shows file.path file.ofstream
  bound : ∀ file ∈ manager.files, Bound manager.disk file

theorem Apart.touched {path : Path} {after : Disk Path} {log : List (Put Path)}
    (apart : Apart temps later manager) (touches : Touches path manager.disk after)
    (spared : path ∉ later)
    (kept : ∀ pointer, manager.Manages pointer path →
      after.names path = manager.disk.names path) :
    Apart temps later { manager with disk := after, log } where
  unmade other member := by
    rw [touches.names other fun same => spared (same ▸ member)]
    exact apart.unmade other member
  unheld := apart.unheld
  alone := apart.alone
  managed := apart.managed
  shown pointer member file found := by
    have shows := apart.shown pointer member file found
    refine ⟨shows.1, ?_⟩
    by_cases same : file.path = path
    · have manages : manager.Manages pointer path := ⟨member, by rw [found, ← same]; rfl⟩
      rw [same] at shows ⊢
      exact (kept pointer manages).trans shows.2
    · exact (touches.names file.path same).trans shows.2
  bound file member := (apart.bound file member).touched touches

theorem getElem?_push {files : List (CFile Path)} {file : CFile Path} {pointer : Nat}
    {path : Path} (found : (files ++ [file])[pointer]?.map CFile.path = some path) :
    files[pointer]?.map CFile.path = some path ∨ pointer = files.length ∧ file.path = path := by
  rw [List.getElem?_append] at found
  split at found
  · exact .inl found
  next behind =>
    right
    have last : pointer - files.length = 0 ∧ file.path = path := by
      simpa [List.getElem?_singleton] using found
    exact ⟨by omega, last.2⟩

theorem Apart.only (apart : Apart temps later manager) {pointer other : Nat} {file : CFile Path}
    (found : manager.files[pointer]? = some file) (manages : manager.Manages other file.path) :
    other = pointer :=
  apart.alone other pointer file.path (apart.managed other file.path manages) manages.2
    (by rw [found]; rfl)

theorem getElem?_written {pointer : Nat} {file : CFile Path}
    (found : manager.files[pointer]? = some file) {data : List UInt8} {taken : Nat}
    (whole : data.length ≤ taken) {other : Nat} {after : CFile Path}
    (now : (manager.writeToFile pointer file data taken).files[other]? = some after) :
    ∃ before, manager.files[other]? = some before ∧ after.path = before.path ∧
      after.ofstream = before.ofstream := by
  have stream : (file.write manager.disk data taken).2.ofstream = file.ofstream := by
    cases opened : file.ofstream <;> simp [CFile.write, Disk.write, opened, whole]
  have inside : pointer < manager.files.length := (List.getElem?_eq_some_iff.mp found).1
  by_cases same : pointer = other
  · subst same
    have written : (file.write manager.disk data taken).2 = after := by
      simpa [CFileManager.writeToFile, inside] using now
    subst written
    exact ⟨file, found, rfl, stream⟩
  · refine ⟨after, ?_, rfl, rfl⟩
    simpa [CFileManager.writeToFile, List.getElem?_set_ne same] using now

theorem Apart.written (apart : Apart temps later manager) {pointer : Nat} {file : CFile Path}
    (found : manager.files[pointer]? = some file) {data : List UInt8} {taken : Nat}
    (whole : data.length ≤ taken) :
    Apart temps later (manager.writeToFile pointer file data taken) := by
  have names : (manager.writeToFile pointer file data taken).disk.names = manager.disk.names :=
    write_names file.ofstream data taken
  have path : ∀ (other : Nat) (path : Path),
      (manager.writeToFile pointer file data taken).files[other]?.map CFile.path = some path →
        manager.files[other]?.map CFile.path = some path := by
    intro other path now
    obtain ⟨after, at', rfl⟩ := Option.map_eq_some_iff.mp now
    obtain ⟨before, was, same, _⟩ := getElem?_written found whole at'
    rw [was, same]
    rfl
  constructor
  · rw [names]
    exact apart.unmade
  · intro after member
    obtain ⟨other, at'⟩ := List.mem_iff_getElem?.mp member
    obtain ⟨before, was, same, _⟩ := getElem?_written found whole at'
    rw [same]
    exact apart.unheld before (List.mem_of_getElem? was)
  · intro first second one temp firstAt secondAt
    exact apart.alone first second one temp (path first one firstAt) (path second one secondAt)
  · exact fun other one manages => apart.managed other one ⟨manages.1, path other one manages.2⟩
  · intro other member after at'
    obtain ⟨before, was, same, stream⟩ := getElem?_written found whole at'
    have shows := apart.shown other member before was
    rw [same, stream, Disk.Shows, names]
    exact shows
  · intro after member
    obtain ⟨other, at'⟩ := List.mem_iff_getElem?.mp member
    obtain ⟨before, was, same, stream⟩ := getElem?_written found whole at'
    have bound := (apart.bound before (List.mem_of_getElem? was)).touched
      ((@touches_refl Path before.path manager.disk).write file.ofstream data taken)
    constructor
    · rw [same, stream]
      exact bound.own
    · rw [stream]
      exact bound.below

theorem Apart.free (apart : Apart temps later manager) {path : Path} (other : path ∉ temps)
    (pointer : Nat) : ¬ manager.Manages pointer path :=
  fun manages => other (apart.managed pointer path manages)

theorem Apart.careful {label : Label Path} {rest : List (Label Path)}
    (apart : Apart temps (created (label :: rest)) manager) (ordinary : Ordinary temps label) :
    Careful manager label := by
  cases label with
  | newTempFile path granted =>
      have missing := apart.unmade path List.mem_cons_self
      simp [Careful, Disk.read, missing]
  | openFile path granted => trivial
  | writeFile path data behaviour granted taken =>
      exact fun _ pointer manages => absurd manages (apart.free ordinary pointer)
  | writeToFile pointer data taken =>
      intro file found other path manages
      split
      next same =>
        subst same
        obtain ⟨also, at', rfl⟩ := Option.map_eq_some_iff.mp manages.2
        have one : file = also := Option.some.inj (found.symm.trans at')
        subst one
        exact fun _ => ⟨apart.shown other manages.1 file found, ordinary⟩
      next different =>
        intro _ shows
        have same := (apart.bound file (List.mem_of_getElem? found)).own path shows
        exact different (apart.only found (same ▸ manages))
  | deleteFile pointer removed =>
      intro _ file found other manages different
      exact absurd (apart.only found manages) different
  | saveImage pointer data granted taken =>
      intro file found other manages
      obtain ⟨also, at', same⟩ := Option.map_eq_some_iff.mp manages.2
      have shows := apart.shown other manages.1 also at'
      rw [same] at shows
      have opens : manager.disk.Opens file.path granted := by
        refine ⟨ordinary.1, ?_⟩
        rw [shows.2]
        cases also.ofstream <;> simp
      rw [if_pos opens]
      exact ordinary.2
  | save path data granted taken | append path data granted taken =>
      intro pointer manages
      exact absurd manages (apart.free ordinary pointer)

theorem Apart.unmanaged (apart : Apart temps later manager) (pointer : Nat) :
    Apart temps later { manager with
      managedTempFiles := manager.managedTempFiles.filter (· ≠ pointer) } where
  unmade := apart.unmade
  unheld := apart.unheld
  alone := apart.alone
  managed other path manages :=
    apart.managed other path ⟨(List.mem_filter.mp manages.1).1, manages.2⟩
  shown other member := apart.shown other (List.mem_filter.mp member).1
  bound := apart.bound

variable [DecidableEq Path]

theorem Apart.push (apart : Apart temps later manager) (counted : Counted manager)
    {file : CFile Path} (spared : file.path ∉ later)
    (new : file.path ∈ temps → ∀ other ∈ manager.files, other.path ≠ file.path)
    (bound : Bound manager.disk file) :
    Apart temps later (manager.push manager.disk file) where
  unmade := apart.unmade
  unheld := List.forall_mem_append.mpr
    ⟨apart.unheld, List.forall_mem_singleton.mpr spared⟩
  alone first second path temp one two := by
    have held : ∀ {pointer : Nat}, manager.files[pointer]?.map CFile.path = some path →
        file.path ≠ path := by
      intro pointer found same
      obtain ⟨other, at', rfl⟩ := Option.map_eq_some_iff.mp found
      exact new (same ▸ temp) other (List.mem_of_getElem? at') same.symm
    rcases getElem?_push one with one | ⟨rfl, same⟩ <;>
      rcases getElem?_push two with two | ⟨rfl, also⟩
    · exact apart.alone first second path temp one two
    · exact absurd also (held one)
    · exact absurd same (held two)
    · rfl
  managed pointer path manages :=
    apart.managed pointer path ((push_manages counted manager.disk file pointer path).mp manages)
  shown pointer member other found := by
    have before : manager.files[pointer]? = some other := by
      simpa [CFileManager.push, List.getElem?_append_left (counted.managed pointer member)]
        using found
    exact apart.shown pointer member other before
  bound := List.forall_mem_append.mpr
    ⟨apart.bound, List.forall_mem_singleton.mpr bound⟩

theorem Apart.opened {path : Path} (apart : Apart temps later manager)
    (counted : Counted manager) (granted : Bool) (other : path ∉ temps) (spared : path ∉ later) :
    Apart temps later (manager.openFile path granted) := by
  have touched := @Apart.touched _ _ _ _ path _ manager.log apart (touches_openOutput granted)
    spared fun pointer manages => absurd manages (apart.free other pointer)
  have same : Counted { manager with disk := (manager.disk.openOutput path granted).1 } :=
    ⟨counted.sized, counted.managed⟩
  exact touched.push same spared (fun temp => absurd temp other) (make_bound path granted)

theorem Apart.made {path : Path} (apart : Apart temps (path :: later) manager)
    (counted : Counted manager) (temp : path ∈ temps) (once : path ∉ later) :
    Apart temps later (manager.newTempFile path true) := by
  have behind : Apart temps later manager :=
    { apart with
      unmade := fun other member => apart.unmade other (List.mem_cons_of_mem _ member)
      unheld := fun file member held =>
        apart.unheld file member (List.mem_cons_of_mem _ held) }
  have new : ∀ other ∈ manager.files, other.path ≠ path :=
    fun other member same => apart.unheld other member (same ▸ List.mem_cons_self)
  have free : ∀ pointer, ¬ manager.Manages pointer path := by
    intro pointer manages
    obtain ⟨file, found, same⟩ := Option.map_eq_some_iff.mp manages.2
    exact new file (List.mem_of_getElem? found) same
  have touched := @Apart.touched _ _ _ _ path _ manager.log behind (touches_openOutput true)
    once fun pointer manages => absurd manages (free pointer)
  have kept : Counted { manager with disk := (manager.disk.openOutput path true).1 } :=
    ⟨counted.sized, counted.managed⟩
  have pushed := touched.push kept once (fun _ => new) (make_bound path true)
  constructor
  · exact pushed.unmade
  · exact pushed.unheld
  · exact pushed.alone
  · intro pointer other manages
    rcases (newTempFile_manages counted path true pointer other).mp manages with
      before | ⟨_, rfl⟩
    · exact apart.managed pointer other before
    · exact temp
  · intro pointer member file found
    rcases List.mem_append.mp member with before | added
    · exact pushed.shown pointer before file found
    · have last : (CFile.make manager.disk path true).2 = file := by
        rw [List.mem_singleton.mp added] at found
        simpa [CFileManager.newTempFile, CFileManager.openFile, CFileManager.push] using found
      subst last
      have missing := apart.unmade path List.mem_cons_self
      exact (shows_openOutput manager.disk path true path).mpr ⟨rfl, rfl, by simp [missing]⟩
  · exact pushed.bound

theorem Apart.deleted (apart : Apart temps later manager) {pointer : Nat} {file : CFile Path}
    (found : manager.files[pointer]? = some file) (removed : Bool) :
    Apart temps later (manager.deleteFile pointer file removed).1 := by
  unfold CFileManager.deleteFile
  split
  · exact apart
  · split
    · exact apart
    · have spared := apart.unheld file (List.mem_of_getElem? found)
      apply (apart.unmanaged pointer).touched touches_remove spared
      intro other manages
      obtain ⟨member, different⟩ := List.mem_filter.mp manages.1
      have same := apart.only found ⟨member, manages.2⟩
      simp [same] at different

/-- A page's image is saved over its file, or where that was deleted. -/
theorem Apart.imageSaved (apart : Apart temps later manager) {pointer : Nat} {file : CFile Path}
    (found : manager.files[pointer]? = some file) (data : List UInt8) (granted : Bool)
    (taken : Nat) : Apart temps later (manager.save file.path data granted taken) := by
  apply apart.touched (touches_saved data granted taken)
    (apart.unheld file (List.mem_of_getElem? found))
  intro other manages
  have same : other = pointer := apart.only found manages
  have shows := apart.shown other manages.1 file (same ▸ found)
  obtain ⟨inode, opened⟩ := Option.isSome_iff_exists.mp shows.1
  have named : manager.disk.names file.path = some (.regular inode) := by
    rw [shows.2, opened]
    rfl
  rw [names_saved named]

theorem Apart.step {label : Label Path} {rest : List (Label Path)}
    (apart : Apart temps (created (label :: rest)) manager) (counted : Counted manager)
    (ordinary : Ordinary temps label) (within : ∀ path ∈ created (label :: rest), path ∈ temps)
    (nodup : (created (label :: rest)).Nodup) (taken : step manager label = .ok next) :
    Apart temps (created rest) next := by
  have elsewhere : ∀ {path : Path} {after : Disk Path} {log : List (Put Path)},
      Apart temps (created rest) manager → path ∉ temps →
      (∀ path ∈ created rest, path ∈ temps) → Touches path manager.disk after →
      Apart temps (created rest) { manager with disk := after, log } := by
    intro path after log apart other within touches
    exact apart.touched touches (fun later => other (within path later))
      fun pointer manages => absurd manages (apart.free other pointer)
  cases label with
  | newTempFile path granted =>
      cases taken
      obtain rfl : granted = true := ordinary
      have once := List.nodup_cons.mp nodup
      exact apart.made counted (within path List.mem_cons_self) once.1
  | openFile path granted =>
      cases taken
      exact apart.opened counted granted ordinary fun later => ordinary (within path later)
  | writeFile path data behaviour granted amount =>
      simp only [FileStore.step, CFileManager.writeFile] at taken
      split at taken
      · cases taken
        exact apart
      next written =>
        split at written
        · cases written
        · cases written
          cases taken
          have spared : path ∉ created rest := fun later => ordinary (within path later)
          have same : Counted (manager.append path data granted amount) :=
            under_path_counted counted (.inr rfl) _
          have touched : Apart temps (created rest) (manager.append path data granted amount) :=
            elsewhere apart ordinary within (touches_appended data granted amount)
          exact touched.push same spared (fun temp => absurd temp ordinary)
            (write_bound (make_bound path granted) data amount)
  | writeToFile pointer data amount =>
      simp only [FileStore.step] at taken
      split at taken
      · cases taken
      next found =>
        cases taken
        exact apart.written found ordinary
  | deleteFile pointer removed =>
      simp only [FileStore.step] at taken
      split at taken
      · cases taken
      next found =>
        cases taken
        exact apart.deleted found removed
  | saveImage pointer data granted amount =>
      simp only [FileStore.step] at taken
      split at taken
      · cases taken
      next found =>
        cases taken
        exact apart.imageSaved found data granted amount
  | save path data granted amount =>
      cases taken
      exact elsewhere apart ordinary within (touches_saved data granted amount)
  | append path data granted amount =>
      cases taken
      exact elsewhere apart ordinary within (touches_appended data granted amount)

end Steps

section Properties

theorem along_ordinary {Path : Type} [DecidableEq Path] (temps : List Path)
    (labels : List (Label Path)) (manager : CFileManager Path)
    (apart : Apart temps (created labels) manager) (counted : Counted manager)
    (nodup : (created labels).Nodup) (within : ∀ path ∈ created labels, path ∈ temps)
    (ordinary : ∀ label ∈ labels, Ordinary temps label) :
    Runs.Along step Careful manager labels := by
  induction labels generalizing manager with
  | nil => trivial
  | cons label rest ih =>
      have first := ordinary label List.mem_cons_self
      have tail : ∃ front, created (label :: rest) = front ++ created rest := by
        cases label with
        | newTempFile path granted => exact ⟨[path], rfl⟩
        | openFile | writeFile | writeToFile | deleteFile | saveImage | save | append =>
            exact ⟨[], rfl⟩
      obtain ⟨front, parts⟩ := tail
      refine ⟨apart.careful first, ?_⟩
      split
      next next taken =>
        apply ih next (apart.step counted first within nodup taken)
          (step_counted label counted taken)
        · rw [parts] at nodup
          exact (List.nodup_append.mp nodup).2.1
        · intro path later
          apply within
          rw [parts]
          exact List.mem_append_right _ later
        · exact fun other member => ordinary other (List.mem_cons_of_mem _ member)
      next => trivial

theorem sessionPath_ne (tempDir : List Char) (id : UInt64) (extension : Option (List Char)) :
    sessionPath tempDir ≠
      FilePaths.elements (UniqueIds.generateTempFilepath tempDir id extension) := by
  obtain ⟨rest, _, path⟩ := UniqueIds.generateTempFilepath_eq tempDir id extension
  intro same
  rw [sessionPath, FilePaths.append_relative tempDir (by simp), path, FilePaths.elements_joint,
    FilePaths.elements_joint] at same
  have heads := congrArg List.head? (List.append_cancel_left same)
  rw [UniqueIds.digits_head, FilePaths.elements_head _ (by simp)] at heads
  cases digits : Nat.toDigits 10 id.toNat with
  | nil => exact Nat.toDigits_ne_nil digits
  | cons digit more =>
      have first : 's' = digit := by simpa [digits] using congrArg (·.bind List.head?) heads
      have digital : digit.isDigit := Decimal.isDigit_of_mem (digits ▸ List.mem_cons_self)
      rw [← first] at digital
      exact absurd digital (by decide)

theorem drawn_nodup {tempDir : List Char} {generator : UniqueIds.CUniqueIdGenerator}
    {idHash : UInt64} {clock : Nat → Int64} {paths : List (List (List Char))}
    (drawn : Drawn tempDir generator idHash clock paths) (few : paths.length ≤ 4096) :
    paths.Nodup := by
  rw [List.nodup_iff_pairwise_ne, List.pairwise_iff_getElem]
  intro first second firstInside secondInside before same
  obtain ⟨_, firstPath⟩ := drawn first _ (List.getElem?_eq_getElem firstInside)
  obtain ⟨_, secondPath⟩ := drawn second _ (List.getElem?_eq_getElem secondInside)
  have differ := UniqueIds.drawn_ne generator idHash clock before (by omega)
  apply UniqueIds.paths_differ tempDir differ
  exact firstPath.symm.trans (same.trans secondPath)

/-- Whatever the clock does: up to 4096 temporary files that a thread makes where there
were none read as what was written through them, after every step. -/
theorem temp_files_kept (tempDir : List Char) (generator : UniqueIds.CUniqueIdGenerator)
    (idHash : UInt64) (clock : Nat → Int64) (disk : Disk (List (List Char)))
    (labels : List (Label (List (List Char))))
    (drawn : Drawn tempDir generator idHash clock (created labels))
    (few : (created labels).length ≤ 4096)
    (fresh : ∀ path ∈ created labels, disk.names path = none)
    (ordinary : ∀ label ∈ labels,
      Ordinary (created labels) label ∨ OfSession tempDir label) :
    ∀ front, front <+: labels → Lawful (Runs.run step { disk } front) := by
  have start : Reads ({ disk } : CFileManager _) ∧ Counted ({ disk } : CFileManager _) :=
    ⟨start_reads disk, start_counted disk⟩
  have apart : Apart (created labels) (created labels) { disk } := by
    refine ⟨fresh, ?_, ?_, ?_, ?_, ?_⟩ <;> simp [CFileManager.Manages]
  have all : ∀ label ∈ labels, Ordinary (created labels) label := by
    intro label member
    rcases ordinary label member with already | session
    · exact already
    · have outside : sessionPath tempDir ∉ created labels := by
        intro within
        obtain ⟨draw, found⟩ := List.mem_iff_getElem?.mp within
        obtain ⟨extension, path⟩ := drawn draw _ found
        exact sessionPath_ne tempDir _ extension path
      cases label with
      | save path | append path =>
          obtain rfl : path = sessionPath tempDir := session
          exact outside
      | newTempFile | openFile | writeFile | writeToFile | deleteFile | saveImage =>
          cases session
  have along := along_ordinary (created labels) labels { disk } apart start.2
    (drawn_nodup drawn few) (fun _ member => member) all
  intro front within
  have before := Runs.along_prefix within along
  have ends := Runs.run_ends _ CannotCome step_keeps _ front start before
  exact ends.imp fun _ inv => (holds_iff inv.2).mpr inv.1

theorem temp_files_kept_of_page :
    let generator : UniqueIds.CUniqueIdGenerator := {}
    let path := fun draw extension => FilePaths.elements (UniqueIds.generateTempFilepath ['t']
      (generator.drawn 7 (fun _ => 0) draw) extension)
    let disk : Disk (List (List Char)) :=
      { names := fun _ => none, contents := fun _ => [], next := 0
        known := by simp, apart := by simp }
    ∀ front, front <+: [.newTempFile (path 0 none) true, .writeToFile 0 [1, 2] 2,
        .newTempFile (path 1 (some ['j', 'p', 'g'])) true, .save (sessionPath ['t']) [3] true 1,
        .saveImage 1 [4] true 1, .deleteFile 0 true] →
      Lawful (Runs.run step { disk } front) := by
  intro generator path disk
  apply temp_files_kept ['t'] generator 7 (fun _ => 0) disk
  · intro draw other found
    match draw with
    | 0 => exact ⟨none, (Option.some.inj found).symm⟩
    | 1 => exact ⟨some ['j', 'p', 'g'], (Option.some.inj found).symm⟩
    | draw + 2 => simp [created] at found
  · simp [created]
  · exact fun _ _ => rfl
  · simp [Ordinary, OfSession]

end Properties

end SaneInTheMembrane.FileStore
