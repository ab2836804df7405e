import BasicLint.Path
import BasicLint.Text.Lines

/-!
# File trees

A file tree maps locations to files, directories and symbolic links. A location is the list of names
from the root down. Paths are resolved against it name by name, following links.
-/
namespace BasicLint

inductive Entry where
  | file (bytes : List UInt8)
  | directory
  | link (target : List Char)
  deriving DecidableEq, Repr

/-- The names from the root down to something. -/
abbrev Location := List (List Char)

/-- How many bytes a name may have. -/
def nameLimit : Nat := 255

/-- Whether something in a directory can have a name. -/
def isFileName (name : List Char) : Bool :=
  Path.isName name && !name.contains '\x00' && Text.byteLength name ≤ nameLimit

/-- Whether names lead to a place below the root. -/
def isPlace (location : Location) : Bool := !location.isEmpty && location.all isFileName

/-- Why a file cannot be reached, read or written. -/
inductive FileError where
  | notFound
  | notDirectory
  | isDirectory
  | nameTooLong
  | tooManyLinks
  | nulInPath
  | notText
  deriving DecidableEq, Repr

def FileError.message : FileError → String
  | notFound => "No such file or directory (os error 2)"
  | notDirectory => "Not a directory (os error 20)"
  | isDirectory => "Is a directory (os error 21)"
  | nameTooLong => "File name too long (os error 36)"
  | tooManyLinks => "Too many levels of symbolic links (os error 40)"
  | nulInPath => "file name contained an unexpected NUL byte"
  | notText => "stream did not contain valid UTF-8"

section Lookup

variable {α β : Type} [BEq α] [LawfulBEq α] {entries : List (α × β)}

theorem lookup_of_mem (h : (entries.map (·.1)).Nodup) {key : α} {value : β}
    (hmem : (key, value) ∈ entries) : entries.lookup key = some value := by
  induction entries with
  | nil => simp at hmem
  | cons first entries ih =>
    obtain ⟨other, found⟩ := first
    rw [List.map_cons, List.nodup_cons] at h
    rcases List.mem_cons.1 hmem with hfirst | hrest
    · obtain ⟨rfl, rfl⟩ := Prod.mk.inj hfirst
      simp
    · have hne : key ≠ other := by
        rintro rfl
        exact h.1 (List.mem_map.2 ⟨_, hrest, rfl⟩)
      rw [List.lookup_cons, beq_false_of_ne hne]
      exact ih h.2 hrest

theorem lookup_filter_of_ne [DecidableEq α] {key other : α} (h : other ≠ key) :
    (entries.filter (·.1 ≠ key)).lookup other = entries.lookup other := by
  induction entries with
  | nil => rfl
  | cons entry entries ih =>
    obtain ⟨found, value⟩ := entry
    by_cases hfound : found = key
    · have hother : (other == found) = false := by simp [hfound, h]
      rw [List.filter_cons_of_neg (by simp [hfound]), List.lookup_cons, hother, ih]
    · rw [List.filter_cons_of_pos (by simp [hfound]), List.lookup_cons, List.lookup_cons, ih]

end Lookup

/-- What lies at each place below the root, one entry a place and each in a directory. -/
structure FileTree where
  entries : List (Location × Entry) := []
  distinct : (entries.map (·.1)).Nodup := by simp
  places : ∀ entry ∈ entries, isPlace entry.1 = true := by simp
  grounded : ∀ entry ∈ entries,
    entry.1.dropLast = [] ∨ (entry.1.dropLast, .directory) ∈ entries := by simp

namespace FileTree

/-- What lies at a location. The root is a directory. -/
def get? (tree : FileTree) (location : Location) : Option Entry :=
  if location.isEmpty then some .directory else tree.entries.lookup location

def isDirectory (tree : FileTree) (location : Location) : Bool :=
  match tree.get? location with
  | some .directory => true
  | _ => false

@[simp] theorem get?_root (tree : FileTree) : tree.get? [] = some .directory := rfl

theorem isDirectory_iff {tree : FileTree} {location : Location} :
    tree.isDirectory location = true ↔ tree.get? location = some .directory := by
  unfold isDirectory
  split <;> simp_all

theorem get?_of_mem {tree : FileTree} {location : Location} {entry : Entry}
    (h : (location, entry) ∈ tree.entries) : tree.get? location = some entry := by
  have hne : location.isEmpty = false := by
    have hplace := tree.places _ h
    simp only [isPlace, Bool.and_eq_true, Bool.not_eq_true'] at hplace
    exact hplace.1
  rw [get?, hne]
  exact lookup_of_mem tree.distinct h

theorem mem_of_get? {tree : FileTree} {location : Location} {entry : Entry}
    (h : tree.get? location = some entry) (hne : location ≠ []) :
    (location, entry) ∈ tree.entries := by
  rw [get?, if_neg (by simpa using hne)] at h
  obtain ⟨before, behind, heq, -⟩ := List.lookup_eq_some_iff.1 h
  rw [heq]
  exact List.mem_append_right _ List.mem_cons_self

/-- The entries at all places but one. -/
def others (tree : FileTree) (location : Location) : List (Location × Entry) :=
  tree.entries.filter (·.1 ≠ location)

theorem mem_others {tree : FileTree} {location : Location} {entry : Location × Entry} :
    entry ∈ tree.others location ↔ entry ∈ tree.entries ∧ entry.1 ≠ location := by
  simp [others]

/-- Nothing lies in what is no directory, so a place that is none may be left out. -/
theorem grounded_others {tree : FileTree} {location : Location}
    (h : tree.isDirectory location = false) {entry : Location × Entry}
    (hmem : entry ∈ tree.entries) :
    entry.1.dropLast = [] ∨ (entry.1.dropLast, .directory) ∈ tree.others location := by
  refine (tree.grounded entry hmem).imp_right fun houter => mem_others.2 ⟨houter, ?_⟩
  rintro rfl
  rw [isDirectory_iff.2 (get?_of_mem houter)] at h
  contradiction

/-- Takes away a file or a link. A directory stays. -/
def erase (tree : FileTree) (location : Location) : FileTree :=
  if h : tree.isDirectory location = true then tree
  else
    { entries := tree.others location
      distinct := tree.distinct.sublist (List.filter_sublist.map _)
      places := fun entry hmem => tree.places entry (mem_others.1 hmem).1
      grounded := fun _ hmem => grounded_others (by simpa using h) (mem_others.1 hmem).1 }

/-- Puts an entry at a place in a directory, instead of the file or link there. -/
def set (tree : FileTree) (location : Location) (entry : Entry) : FileTree :=
  if h : isPlace location = true ∧ tree.isDirectory location.dropLast = true
      ∧ tree.isDirectory location = false then
    { entries := (location, entry) :: tree.others location
      distinct := List.nodup_cons.2
        ⟨by simp [others], tree.distinct.sublist (List.filter_sublist.map _)⟩
      places := by
        intro other hother
        rcases List.mem_cons.1 hother with rfl | hother
        · exact h.1
        · exact tree.places other (mem_others.1 hother).1
      grounded := by
        intro other hother
        rcases List.mem_cons.1 hother with rfl | hother
        · refine (Decidable.em (location.dropLast = [])).imp_right fun houter => ?_
          have hne : location.dropLast ≠ location := by
            intro heq
            rw [heq, h.2.2] at h
            simp at h
          exact List.mem_cons_of_mem _
            (mem_others.2 ⟨mem_of_get? (isDirectory_iff.1 h.2.1) houter, hne⟩)
        · exact (grounded_others h.2.2 (mem_others.1 hother).1).imp_right
            (List.mem_cons_of_mem _) }
  else tree

/-- What is put at a place is what lies there. -/
theorem get?_set_self (tree : FileTree) {location : Location} (entry : Entry)
    (h : isPlace location = true) (houter : tree.isDirectory location.dropLast = true)
    (hfree : tree.isDirectory location = false) :
    (tree.set location entry).get? location = some entry := by
  rw [set, dif_pos ⟨h, houter, hfree⟩]
  exact get?_of_mem List.mem_cons_self

/-- Putting an entry at a place leaves the others alone. -/
theorem get?_set_of_ne (tree : FileTree) {location other : Location} (entry : Entry)
    (h : other ≠ location) : (tree.set location entry).get? other = tree.get? other := by
  unfold set
  split
  · have hother : (other == location) = false := by simp [h]
    simp only [get?, List.lookup_cons, hother, others, lookup_filter_of_ne h]
  · rfl

/-- What a path is followed for. -/
inductive Purpose where
  /-- To look at what is there. -/
  | look
  /-- To make a file, unless it is there. -/
  | make
  deriving DecidableEq, Repr

/-- Goes down from a location, one piece of a path after another. At a link it hands over to
`follow`, with the place to go on from and the pieces that are left. A file that is to be made may be
missing, but a slash behind its name would make it a directory. -/
def descend (tree : FileTree) (purpose : Purpose)
    (follow : Location → List (List Char) → Except FileError Location) :
    Location → List (List Char) → Except FileError Location
  | here, [] => .ok here
  | here, piece :: pieces =>
    if !tree.isDirectory here then .error .notDirectory
    else if piece.isEmpty || piece = ['.'] then descend tree purpose follow here pieces
    else if piece = ['.', '.'] then descend tree purpose follow here.dropLast pieces
    else if purpose = .make && !pieces.isEmpty && pieces.all List.isEmpty then .error .isDirectory
    else if nameLimit < Text.byteLength piece then .error .nameTooLong
    else
      match tree.get? (here ++ [piece]) with
      | none =>
        if purpose = .make && pieces.isEmpty then .ok (here ++ [piece]) else .error .notFound
      | some (.link target) =>
        follow (if Path.isAbsolute target then [] else here) (Path.pieces target ++ pieces)
      | some _ => descend tree purpose follow (here ++ [piece]) pieces

/-- Goes down from a location, through as many links as given. -/
def walk (tree : FileTree) (purpose : Purpose) : (links : Nat) → Location → List (List Char) →
    Except FileError Location
  | 0 => tree.descend purpose fun _ _ => .error .tooManyLinks
  | links + 1 => tree.descend purpose (tree.walk purpose links)

/-- How many links a path may go through. -/
def linkLimit : Nat := 40

/-- Goes down from a location, making the directories that are missing. Where something else stands
in the way, it stays outside. -/
def makeDirectories : FileTree → Location → List (List Char) → FileTree × Location
  | tree, here, [] => (tree, here)
  | tree, here, piece :: pieces =>
    if piece.isEmpty || piece = ['.'] then makeDirectories tree here pieces
    else if piece = ['.', '.'] then makeDirectories tree here.dropLast pieces
    else
      match tree.get? (here ++ [piece]) with
      | none =>
        makeDirectories (tree.set (here ++ [piece]) .directory) (here ++ [piece]) pieces
      | some _ =>
        match tree.walk .look linkLimit here [piece] with
        | .ok inside => makeDirectories tree inside pieces
        | .error _ => makeDirectories tree here pieces

/-- How many bytes a path may have, and the one that ends it. -/
def pathLimit : Nat := 4096

/-- Goes down the pieces of a path, from the root or from a directory. A path that no call takes is
refused before anything is looked at. -/
def follow (tree : FileTree) (purpose : Purpose) (start : Location) (path : List Char)
    (pieces : List (List Char)) : Except FileError Location :=
  if path.contains '\x00' then .error .nulInPath
  else if path.isEmpty then .error .notFound
  else if pathLimit ≤ Text.byteLength path then .error .nameTooLong
  else tree.walk purpose linkLimit (if Path.isAbsolute path then [] else start) pieces

/-- The location of a path that starts at a directory. -/
def locate (tree : FileTree) (purpose : Purpose) (start : Location) (path : List Char) :
    Except FileError Location :=
  tree.follow purpose start path (Path.pieces path)

end FileTree

/-- A file tree and the directory that relative paths start from. -/
structure Workspace where
  tree : FileTree := {}
  directory : Location := []

namespace Workspace

def locate (workspace : Workspace) (path : List Char) : Except FileError Location :=
  workspace.tree.locate .look workspace.directory path

/-- What a path leads to, through links. -/
def stat (workspace : Workspace) (path : List Char) : Except FileError Entry := do
  let location ← workspace.locate path
  match workspace.tree.get? location with
  | some entry => .ok entry
  | none => .error .notFound

def pathExists (workspace : Workspace) (path : List Char) : Bool :=
  match workspace.stat path with
  | .ok _ => true
  | .error _ => false

def isFile (workspace : Workspace) (path : List Char) : Bool :=
  match workspace.stat path with
  | .ok (.file _) => true
  | _ => false

def isDirectory (workspace : Workspace) (path : List Char) : Bool :=
  match workspace.stat path with
  | .ok .directory => true
  | _ => false

/-- The bytes of the file that a path leads to. -/
def read (workspace : Workspace) (path : List Char) : Except FileError (List UInt8) := do
  match ← workspace.stat path with
  | .file bytes => .ok bytes
  | _ => .error .isDirectory

/-- The absolute path of the current directory. -/
def directoryPath (workspace : Workspace) : List Char :=
  '/' :: ['/'].intercalate workspace.directory

/-- Writes a file, in place of the one there, or where links lead that are there. -/
def write (workspace : Workspace) (path : List Char) (bytes : List UInt8) :
    Except FileError Workspace := do
  let location ← workspace.tree.locate .make workspace.directory path
  match workspace.tree.get? location with
  | some .directory => .error .isDirectory
  | _ => .ok { workspace with tree := workspace.tree.set location (.file bytes) }

/-- Puts an entry at a path and makes the directories above it. A file is written through links, and
a directory that is already there stays. -/
def install (workspace : Workspace) (path : List Char) (entry : Entry) :
    Except FileError Workspace := do
  let start := if Path.isAbsolute path then [] else workspace.directory
  let above := Path.pieces ((Path.parent? path).getD [])
  let (tree, outer) := workspace.tree.makeDirectories start above
  let workspace := { workspace with tree }
  match entry, Path.fileName? path with
  | .file bytes, _ => workspace.write path bytes
  | .directory, _ =>
    .ok { workspace with tree := (tree.makeDirectories start (Path.pieces path)).1 }
  | .link target, some name => .ok { workspace with tree := tree.set (outer ++ [name]) (.link target) }
  | .link _, none => .error .isDirectory

/-- Takes away the file or link that the last piece of a path names. -/
def remove (workspace : Workspace) (path : List Char) : Except FileError Workspace := do
  let pieces := Path.pieces path
  let outer ← workspace.tree.follow .look workspace.directory path pieces.dropLast
  let name := pieces.getLastD []
  if !workspace.tree.isDirectory outer then .error .notDirectory
  else if !Path.isName name then .error .isDirectory
  else
    match workspace.tree.get? (outer ++ [name]) with
    | none => .error .notFound
    | some .directory => .error .isDirectory
    | some _ => .ok { workspace with tree := workspace.tree.erase (outer ++ [name]) }

end Workspace

end BasicLint
