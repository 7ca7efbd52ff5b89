import Mathlib.Data.List.Basic
import Mathlib.Logic.Function.Basic
import SaneInTheMembrane.Runs

/-!
Utils/File.cpp and Service/FileManger.cpp over a disk. A CFile writes to the file it
opened, at its end, and reads whatever has its path by then; nothing tells it when the
two are different files. CFileRW opens its path for each write.
-/

namespace SaneInTheMembrane.FileStore

section Model

/-- What has a name on the disk. A regular file is known by its inode, which a stream
keeps when the name is removed. -/
inductive Entry where
  | regular (inode : Nat)
  | other
  deriving DecidableEq, Repr

/-- Inodes are handed out in order, and no two names share one. -/
structure Disk (Path : Type) where
  names : Path → Option Entry
  contents : Nat → List UInt8
  next : Nat
  known : ∀ path inode, names path = some (.regular inode) → inode < next
  apart : ∀ first second inode, names first = some (.regular inode) →
    names second = some (.regular inode) → first = second

/-- A stream that is not open, or on which a write has failed, has no inode. -/
structure CFile (Path : Type) where
  path : Path
  ofstream : Option Nat
  size : Nat := 0
  deriving DecidableEq, Repr

variable {Path : Type}

namespace Disk

/-- All that can be read under a path: nothing, if it has no regular file. -/
def read (disk : Disk Path) (path : Path) : List UInt8 :=
  match disk.names path with
  | some (.regular inode) => disk.contents inode
  | some .other | none => []

def isRegularFile (disk : Disk Path) (path : Path) : Bool :=
  match disk.names path with
  | some (.regular _) => true
  | some .other | none => false

def append (disk : Disk Path) (inode : Nat) (data : List UInt8) : Disk Path :=
  { disk with contents := Function.update disk.contents inode (disk.contents inode ++ data) }

def truncate (disk : Disk Path) (inode : Nat) : Disk Path :=
  { disk with contents := Function.update disk.contents inode [] }

/-- The system takes so many of the bytes, and the stream fails if that is not all. -/
def write (disk : Disk Path) (ofstream : Option Nat) (data : List UInt8) (taken : Nat) :
    Disk Path × Option Nat :=
  match ofstream with
  | none => (disk, none)
  | some inode =>
      (disk.append inode (data.take taken), if data.length ≤ taken then some inode else none)

variable [DecidableEq Path]

def create (disk : Disk Path) (path : Path) : Disk Path where
  names := Function.update disk.names path (some (.regular disk.next))
  contents := Function.update disk.contents disk.next []
  next := disk.next + 1
  known other inode named := by
    by_cases same : other = path
    · subst same
      have new : disk.next = inode := by simpa using named
      omega
    · rw [Function.update_of_ne same] at named
      have := disk.known other inode named
      omega
  apart first second inode firstNamed secondNamed := by
    have fresh : ∀ other, disk.names other ≠ some (.regular disk.next) :=
      fun other named => Nat.lt_irrefl _ (disk.known other disk.next named)
    by_cases one : first = path <;> by_cases two : second = path
    · rw [one, two]
    · have new : disk.next = inode := by simpa [one] using firstNamed
      rw [Function.update_of_ne two] at secondNamed
      exact absurd (new ▸ secondNamed) (fresh second)
    · have new : disk.next = inode := by simpa [two] using secondNamed
      rw [Function.update_of_ne one] at firstNamed
      exact absurd (new ▸ firstNamed) (fresh first)
    · rw [Function.update_of_ne one] at firstNamed
      rw [Function.update_of_ne two] at secondNamed
      exact disk.apart first second inode firstNamed secondNamed

def openOutput (disk : Disk Path) (path : Path) (granted : Bool) : Disk Path × Option Nat :=
  if granted then
    match disk.names path with
    | some (.regular inode) => (disk, some inode)
    | some .other => (disk, none)
    | none => (disk.create path, some disk.next)
  else (disk, none)

def remove (disk : Disk Path) (path : Path) : Disk Path where
  names := Function.update disk.names path none
  contents := disk.contents
  next := disk.next
  known other inode named := by
    by_cases same : other = path
    · simp [same] at named
    · exact disk.known other inode (by rwa [Function.update_of_ne same] at named)
  apart first second inode firstNamed secondNamed := by
    have kept : ∀ other, Function.update disk.names path none other = some (.regular inode) →
        disk.names other = some (.regular inode) := by
      intro other named
      by_cases same : other = path
      · simp [same] at named
      · rwa [Function.update_of_ne same] at named
    exact disk.apart first second inode (kept first firstNamed) (kept second secondNamed)

end Disk

namespace CFile
variable [DecidableEq Path]

def make (disk : Disk Path) (path : Path) (granted : Bool) : Disk Path × CFile Path :=
  let opened := disk.openOutput path granted
  (opened.1, { path, ofstream := opened.2 })

/-- The size is counted whatever becomes of the bytes. -/
def write (file : CFile Path) (disk : Disk Path) (data : List UInt8) (taken : Nat) :
    Disk Path × CFile Path :=
  let written := disk.write file.ofstream data taken
  (written.1, { file with ofstream := written.2, size := file.size + data.length })

def read (file : CFile Path) (disk : Disk Path) : List UInt8 := disk.read file.path

/-- The move constructor leaves the size behind. -/
def moved (file : CFile Path) : CFile Path where
  path := file.path
  ofstream := file.ofstream

end CFile

namespace CFileRW
variable [DecidableEq Path]

def write (disk : Disk Path) (path : Path) (data : List UInt8) (granted : Bool) (taken : Nat) :
    Disk Path :=
  match disk.openOutput path granted with
  | (disk, none) => disk
  | (disk, some inode) => ((disk.truncate inode).write (some inode) data taken).1

def append (disk : Disk Path) (path : Path) (data : List UInt8) (granted : Bool)
    (taken : Nat) : Disk Path :=
  let opened := disk.openOutput path granted
  (opened.1.write opened.2 data taken).1

end CFileRW

inductive EWriteBehaviour where
  | failOnDuplicate
  | override
  deriving DecidableEq, Repr

inductive Put (Path : Type) where
  | made (pointer : Nat)
  | through (pointer : Nat) (data : List UInt8)
  | saved (path : Path) (data : List UInt8)
  | appended (path : Path) (data : List UInt8)
  deriving DecidableEq, Repr

def Put.onto {Path : Type} [DecidableEq Path] (pointer : Nat) (path : Path)
    (held : List UInt8) : Put Path → List UInt8
  | .made other => if other = pointer then [] else held
  | .through other data => if other = pointer then held ++ data else held
  | .saved other data => if other = path then data else held
  | .appended other data => if other = path then held ++ data else held

/-- The manager with the disk and every CFile there is; a pointer to one is its place in
`files`. -/
structure CFileManager (Path : Type) where
  disk : Disk Path
  files : List (CFile Path) := []
  managedTempFiles : List Nat := []
  log : List (Put Path) := []

namespace CFileManager

def Manages (manager : CFileManager Path) (pointer : Nat) (path : Path) : Prop :=
  pointer ∈ manager.managedTempFiles ∧ manager.files[pointer]?.map CFile.path = some path

variable [DecidableEq Path]

/-- Overriding opens the file at its end too. -/
def writeFile (disk : Disk Path) (path : Path) (data : List UInt8) (behaviour : EWriteBehaviour)
    (granted : Bool) (taken : Nat) : Except String (Disk Path × CFile Path) :=
  if disk.isRegularFile path ∧ behaviour ≠ .override then .error "File exists"
  else
    let made := CFile.make disk path granted
    let written := made.2.write made.1 data taken
    .ok (written.1, written.2.moved)

/-- A new CFile starts with nothing in it, as far as those who write through it know. -/
def push (manager : CFileManager Path) (disk : Disk Path) (file : CFile Path) :
    CFileManager Path :=
  { manager with
    disk
    files := manager.files ++ [file]
    log := manager.log ++ [.made manager.files.length] }

def openFile (manager : CFileManager Path) (path : Path) (granted : Bool) :
    CFileManager Path :=
  let made := CFile.make manager.disk path granted
  manager.push made.1 made.2

def newTempFile (manager : CFileManager Path) (path : Path) (granted : Bool) :
    CFileManager Path :=
  { manager.openFile path granted with
    managedTempFiles := manager.managedTempFiles ++ [manager.files.length] }

def writeToFile (manager : CFileManager Path) (pointer : Nat) (file : CFile Path)
    (data : List UInt8) (taken : Nat) : CFileManager Path :=
  let written := file.write manager.disk data taken
  { manager with
    disk := written.1
    files := manager.files.set pointer written.2
    log := manager.log ++ [.through pointer data] }

def save (manager : CFileManager Path) (path : Path) (data : List UInt8) (granted : Bool)
    (taken : Nat) : CFileManager Path :=
  { manager with
    disk := CFileRW.write manager.disk path data granted taken
    log := manager.log ++ [.saved path data] }

def append (manager : CFileManager Path) (path : Path) (data : List UInt8) (granted : Bool)
    (taken : Nat) : CFileManager Path :=
  { manager with
    disk := CFileRW.append manager.disk path data granted taken
    log := manager.log ++ [.appended path data] }

def deleteFile (manager : CFileManager Path) (pointer : Nat) (file : CFile Path)
    (removed : Bool) : CFileManager Path × Bool :=
  if ¬ manager.disk.isRegularFile file.path then (manager, false)
  else if ¬ removed then (manager, false)
  else
    ({ manager with
      disk := manager.disk.remove file.path
      managedTempFiles := manager.managedTempFiles.filter (· ≠ pointer) }, true)

/-- What a file of this path is to hold, by what was put there since it was made. -/
def content (manager : CFileManager Path) (pointer : Nat) (path : Path) : List UInt8 :=
  manager.log.foldl (fun held put => put.onto pointer path held) []

def Private (manager : CFileManager Path) (path : Path) : Prop :=
  ∀ put ∈ manager.log, ∀ data, put ≠ .saved path data ∧ put ≠ .appended path data

end CFileManager

/-- `openFile` makes the CFile of a restored page, `saveImage` is `QImage::save` under the
path of a page's file, and `save` and `append` write the file of a CFileRW. -/
inductive Label (Path : Type) where
  | newTempFile (path : Path) (granted : Bool)
  | openFile (path : Path) (granted : Bool)
  | writeFile (path : Path) (data : List UInt8) (behaviour : EWriteBehaviour) (granted : Bool)
      (taken : Nat)
  | writeToFile (pointer : Nat) (data : List UInt8) (taken : Nat)
  | deleteFile (pointer : Nat) (removed : Bool)
  | saveImage (pointer : Nat) (data : List UInt8) (granted : Bool) (taken : Nat)
  | save (path : Path) (data : List UInt8) (granted : Bool) (taken : Nat)
  | append (path : Path) (data : List UInt8) (granted : Bool) (taken : Nat)
  deriving DecidableEq, Repr

inductive Fault where
  | noFile
  deriving DecidableEq, Repr

variable [DecidableEq Path]

def step (manager : CFileManager Path) : Label Path → Except Fault (CFileManager Path)
  | .newTempFile path granted => .ok (manager.newTempFile path granted)
  | .openFile path granted => .ok (manager.openFile path granted)
  | .writeFile path data behaviour granted taken =>
      match CFileManager.writeFile manager.disk path data behaviour granted taken with
      | .error _ => .ok manager
      | .ok (disk, file) =>
          let asked : CFileManager Path := { manager with log := manager.log ++ [.appended path data] }
          .ok (asked.push disk file)
  | .writeToFile pointer data taken =>
      match manager.files[pointer]? with
      | none => .error .noFile
      | some file => .ok (manager.writeToFile pointer file data taken)
  | .deleteFile pointer removed =>
      match manager.files[pointer]? with
      | none => .error .noFile
      | some file => .ok (manager.deleteFile pointer file removed).1
  | .saveImage pointer data granted taken =>
      match manager.files[pointer]? with
      | none => .error .noFile
      | some file => .ok (manager.save file.path data granted taken)
  | .save path data granted taken => .ok (manager.save path data granted taken)
  | .append path data granted taken => .ok (manager.append path data granted taken)

/-- Every managed file reads as what was put there, and knows how long that is if all of
it was written through it. -/
def Holds (manager : CFileManager Path) : Prop :=
  ∀ pointer ∈ manager.managedTempFiles, ∀ file, manager.files[pointer]? = some file →
    file.read manager.disk = manager.content pointer file.path ∧
      (manager.Private file.path → file.size = (file.read manager.disk).length)

def CannotCome (_ : Fault) : Prop := True

def Lawful : Except Fault (CFileManager Path) → Prop := Runs.Ends Holds CannotCome

def Disk.Shows (disk : Disk Path) (path : Path) (ofstream : Option Nat) : Prop :=
  ofstream.isSome ∧ disk.names path = ofstream.map Entry.regular

instance (disk : Disk Path) (path : Path) (ofstream : Option Nat) :
    Decidable (disk.Shows path ofstream) :=
  inferInstanceAs (Decidable (_ ∧ _))

def Disk.Opens (disk : Disk Path) (path : Path) (granted : Bool) : Prop :=
  granted = true ∧ disk.names path ≠ some .other

instance (disk : Disk Path) (path : Path) (granted : Bool) :
    Decidable (disk.Opens path granted) :=
  inferInstanceAs (Decidable (_ ∧ _))

def Extends (manager : CFileManager Path) (path : Path) (data : List UInt8) (granted : Bool)
    (taken : Nat) : Prop :=
  ∀ pointer, manager.Manages pointer path → data ≠ [] →
    manager.disk.Opens path granted ∧ data.length ≤ taken

def Replaces (manager : CFileManager Path) (path : Path) (data : List UInt8) (granted : Bool)
    (taken : Nat) : Prop :=
  ∀ pointer, manager.Manages pointer path →
    if manager.disk.Opens path granted then data.length ≤ taken
    else manager.disk.read path = data

/-- A temporary file is opened where nothing is to be read. What is put into a managed file
reaches it whole, and what is written through another or removed does not touch it. -/
def Careful (manager : CFileManager Path) : Label Path → Prop
  | .newTempFile path _ => manager.disk.read path = []
  | .openFile _ _ => True
  | .writeFile path data behaviour granted taken =>
      ¬ (manager.disk.isRegularFile path ∧ behaviour ≠ .override) →
        Extends manager path data granted taken
  | .writeToFile pointer data taken =>
      ∀ file, manager.files[pointer]? = some file → ∀ other path, manager.Manages other path →
        if other = pointer then
          data ≠ [] → manager.disk.Shows path file.ofstream ∧ data.length ≤ taken
        else data.take taken ≠ [] → ¬ manager.disk.Shows path file.ofstream
  | .deleteFile pointer removed =>
      removed = true → ∀ file, manager.files[pointer]? = some file →
        ∀ other, manager.Manages other file.path → other ≠ pointer →
          manager.disk.read file.path = []
  | .saveImage pointer data granted taken =>
      ∀ file, manager.files[pointer]? = some file →
        Replaces manager file.path data granted taken
  | .save path data granted taken => Replaces manager path data granted taken
  | .append path data granted taken => Extends manager path data granted taken

end Model

section Disks
variable {Path : Type} (disk : Disk Path)

theorem read_append (inode : Nat) (data : List UInt8) (path : Path) :
    (disk.append inode data).read path =
      disk.read path ++ if disk.names path = some (.regular inode) then data else [] := by
  cases named : disk.names path with
  | none => simp [Disk.read, Disk.append, named]
  | some entry =>
      cases entry with
      | other => simp [Disk.read, Disk.append, named]
      | regular shown =>
          by_cases same : shown = inode
          · subst same
            simp [Disk.read, Disk.append, named]
          · simp [Disk.read, Disk.append, named, same]

theorem read_truncate (inode : Nat) (path : Path) :
    (disk.truncate inode).read path =
      if disk.names path = some (.regular inode) then [] else disk.read path := by
  cases named : disk.names path with
  | none => simp [Disk.read, Disk.truncate, named]
  | some entry =>
      cases entry with
      | other => simp [Disk.read, Disk.truncate, named]
      | regular shown =>
          by_cases same : shown = inode
          · subst same
            simp [Disk.read, Disk.truncate, named]
          · simp [Disk.read, Disk.truncate, named, same]

theorem read_write (ofstream : Option Nat) (data : List UInt8) (taken : Nat) (path : Path) :
    (disk.write ofstream data taken).1.read path =
      disk.read path ++ if disk.Shows path ofstream then data.take taken else [] := by
  cases ofstream with
  | none => simp [Disk.write, Disk.Shows]
  | some inode =>
      simp only [Disk.write, read_append, Disk.Shows, Option.isSome_some, Option.map_some,
        true_and]

variable [DecidableEq Path]

theorem read_create {path : Path} (missing : disk.names path = none) (other : Path) :
    (disk.create path).read other = disk.read other := by
  by_cases same : other = path
  · subst same
    simp [Disk.read, Disk.create, missing]
  · cases named : disk.names other with
    | none => simp [Disk.read, Disk.create, same, named]
    | some entry =>
        cases entry with
        | other => simp [Disk.read, Disk.create, same, named]
        | regular inode =>
            have old : inode ≠ disk.next := Nat.ne_of_lt (disk.known other inode named)
            simp [Disk.read, Disk.create, same, named, old]

theorem read_openOutput (path : Path) (granted : Bool) (other : Path) :
    (disk.openOutput path granted).1.read other = disk.read other := by
  unfold Disk.openOutput
  split
  · cases named : disk.names path with
    | none => exact read_create disk named other
    | some entry => cases entry <;> rfl
  · rfl

theorem shows_openOutput (path : Path) (granted : Bool) (other : Path) :
    (disk.openOutput path granted).1.Shows other (disk.openOutput path granted).2 ↔
      other = path ∧ disk.Opens path granted := by
  unfold Disk.openOutput Disk.Opens
  by_cases allowed : granted = true
  · rw [if_pos allowed]
    cases named : disk.names path with
    | none =>
        have fresh : disk.names other ≠ some (.regular disk.next) :=
          fun named => Nat.lt_irrefl _ (disk.known other disk.next named)
        by_cases same : other = path <;>
          simp [Disk.Shows, Disk.create, same, allowed, fresh]
    | some entry =>
        cases entry with
        | other => simp [Disk.Shows]
        | regular inode =>
            have only : disk.names other = some (.regular inode) ↔ other = path :=
              ⟨fun also => disk.apart other path inode also named, fun same => same ▸ named⟩
            simp [Disk.Shows, only, allowed]
  · simp [Disk.Shows, allowed]

theorem read_remove (path other : Path) :
    (disk.remove path).read other = if other = path then [] else disk.read other := by
  by_cases same : other = path <;> simp [Disk.read, Disk.remove, same]

theorem read_appended (path : Path) (data : List UInt8) (granted : Bool) (taken : Nat)
    (other : Path) :
    (CFileRW.append disk path data granted taken).read other = disk.read other ++
      if other = path ∧ disk.Opens path granted then data.take taken else [] := by
  unfold CFileRW.append
  rw [read_write, read_openOutput]
  simp only [shows_openOutput]

theorem read_saved (path : Path) (data : List UInt8) (granted : Bool) (taken : Nat)
    (other : Path) :
    (CFileRW.write disk path data granted taken).read other =
      if other = path ∧ disk.Opens path granted then data.take taken else disk.read other := by
  have shows := shows_openOutput disk path granted other
  have reads := read_openOutput disk path granted other
  unfold CFileRW.write
  cases opened : disk.openOutput path granted with
  | mk after ofstream =>
      rw [opened] at shows reads
      cases ofstream with
      | none =>
          have refused : ¬ (other = path ∧ disk.Opens path granted) := by
            simpa [Disk.Shows] using shows
          rw [if_neg refused, ← reads]
      | some inode =>
          have named : after.names other = some (.regular inode) ↔
              other = path ∧ disk.Opens path granted := by simpa [Disk.Shows] using shows
          have kept : (after.truncate inode).Shows other (some inode) ↔
              after.names other = some (.regular inode) := by simp [Disk.Shows, Disk.truncate]
          dsimp only
          rw [read_write, read_truncate, reads]
          simp only [kept, named]
          split <;> simp

end Disks

end SaneInTheMembrane.FileStore
