import Mathlib.Data.List.Basic

/-!
File paths as text, and what the standard library's lexical operations make of them.
-/

namespace SaneInTheMembrane.FilePaths

/-- What the path names, root aside: the text between its slashes. -/
def elements (path : List Char) : List (List Char) :=
  (path.splitOn '/').filter (· ≠ [])

/-- Paths that the library takes for equal have the same elements. -/
def SameElements (first second : List Char) : Prop := elements first = elements second

/-- `path::append`: an absolute path replaces the other. -/
def append (path more : List Char) : List Char :=
  if more.head? = some '/' ∨ path = [] then more
  else if path.getLast? = some '/' then path ++ more
  else path ++ '/' :: more

def filename (path : List Char) : List Char :=
  (path.reverse.takeWhile (· ≠ '/')).reverse

/-- `path::extension`: the last dot of the file name and what follows, unless it starts
the name. -/
def extension (path : List Char) : List Char :=
  let name := filename path
  let behind := name.reverse.takeWhile (· ≠ '.')
  if name = ['.', '.'] ∨ name.length ≤ behind.length + 1 then []
  else '.' :: behind.reverse

def replaceExtension (path replacement : List Char) : List Char :=
  path.take (path.length - (extension path).length) ++
    if replacement = [] ∨ replacement.head? = some '.' then replacement else '.' :: replacement

theorem elements_append_slash (front back : List Char) :
    elements (front ++ '/' :: back) = elements front ++ elements back := by
  unfold elements
  rw [List.splitOn_append_cons_self, List.filter_append]

theorem splitOn_head (path : List Char) :
    (path.splitOn '/').head? = some (path.takeWhile (· ≠ '/')) := by
  induction path with
  | nil => rfl
  | cons c rest ih =>
      rw [List.splitOn_cons_eq_if_modifyHead]
      by_cases slash : c = '/'
      · simp [slash]
      · simp [slash, ih]

theorem elements_head (path : List Char) (named : path.takeWhile (· ≠ '/') ≠ []) :
    (elements path).head? = some (path.takeWhile (· ≠ '/')) := by
  have first := splitOn_head path
  unfold elements
  cases parts : path.splitOn '/' with
  | nil => simp [parts] at first
  | cons part more =>
      rw [parts] at first
      have same : part = path.takeWhile (· ≠ '/') := Option.some.inj first
      rw [List.filter_cons_of_pos (by simpa [same] using named), same]
      rfl

def joint (path : List Char) : List Char :=
  if path = [] ∨ path.getLast? = some '/' then path else path ++ ['/']

theorem append_relative (path : List Char) {more : List Char} (relative : more.head? ≠ some '/') :
    append path more = joint path ++ more := by
  unfold append joint
  by_cases empty : path = []
  · simp [empty]
  · by_cases ends : path.getLast? = some '/'
    · simp [empty, ends, relative]
    · simp [empty, ends, relative]

theorem joint_ends (path : List Char) : joint path = [] ∨ ∃ front, joint path = front ++ ['/'] := by
  unfold joint
  split
  next kept => exact kept.imp id fun ends => List.getLast?_eq_some_iff.mp ends
  next => exact Or.inr ⟨path, rfl⟩

theorem elements_joint (path text : List Char) :
    elements (joint path ++ text) = elements path ++ elements text := by
  unfold joint
  split
  next kept =>
    rcases kept with rfl | ends
    · rfl
    · obtain ⟨front, rfl⟩ := List.getLast?_eq_some_iff.mp ends
      rw [List.append_assoc, List.singleton_append, elements_append_slash, elements_append_slash]
      simp [elements]
  next => rw [List.append_assoc, List.singleton_append, elements_append_slash]

theorem takeWhile_without {text : List Char} {c : Char} (without : c ∉ text)
    (rest : List Char) :
    (text ++ rest).takeWhile (· ≠ c) = text ++ rest.takeWhile (· ≠ c) := by
  apply List.takeWhile_append_of_pos
  intro other member
  exact decide_eq_true fun same => without (same ▸ member)

theorem filename_joint (path : List Char) {name : List Char} (slashless : '/' ∉ name) :
    filename (joint path ++ name) = name := by
  have behind : '/' ∉ name.reverse := fun member => slashless (List.mem_reverse.mp member)
  unfold filename
  rw [List.reverse_append, takeWhile_without behind]
  rcases joint_ends path with empty | ⟨front, ends⟩
  · simp [empty]
  · simp [ends]

theorem replaceExtension_dotless (path replacement : List Char) (dotless : '.' ∉ filename path) :
    replaceExtension path replacement = path ++
      if replacement = [] ∨ replacement.head? = some '.' then replacement
      else '.' :: replacement := by
  have behind : '.' ∉ (filename path).reverse := fun member => dotless (List.mem_reverse.mp member)
  have whole := takeWhile_without behind []
  have none : extension path = [] := by
    rw [List.append_nil] at whole
    simp only [extension, whole]
    apply if_pos
    right
    simp
  simp [replaceExtension, none]

end SaneInTheMembrane.FilePaths
