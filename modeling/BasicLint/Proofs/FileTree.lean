import BasicLint.FileTree
import BasicLint.Proofs.Path
import Mathlib.Data.List.Induction

/-!
# Following paths

Everything above something in a file tree is a directory. So a path that spells out a place, with dots
and doubled slashes in between, leads to that place. In a tree without links the converse holds too:
a path without double dots leads to no other place.
-/
namespace BasicLint

open BasicLint.Path

lemma isName_of_isFileName {name : List Char} (h : isFileName name = true) :
    isName name = true := by
  simp only [isFileName, Bool.and_eq_true] at h
  exact h.1.1

namespace FileTree

variable {tree : FileTree} {here location : Location} {entry : Entry}

/-! ## Places -/

lemma isFileName_of_get? (h : tree.get? location = some entry) {name : List Char}
    (hname : name ∈ location) : isFileName name = true := by
  have hplace := tree.places _ (mem_of_get? h (List.ne_nil_of_mem hname))
  simp only [isPlace, Bool.and_eq_true, List.all_eq_true] at hplace
  exact hplace.2 name hname

/-- Something lies in a directory. -/
lemma get?_outer {name : List Char} (h : tree.get? (here ++ [name]) = some entry) :
    tree.get? here = some .directory := by
  have hmem := mem_of_get? h (by simp)
  rcases tree.grounded _ hmem with hroot | houter
  · rw [List.dropLast_concat] at hroot
    rw [hroot, get?_root]
  · rw [List.dropLast_concat] at houter
    exact get?_of_mem houter

/-- Everything above something is a directory. -/
lemma isDirectory_of_get?_append {names : Location} (h : tree.get? (here ++ names) = some entry)
    (hne : names ≠ []) : tree.isDirectory here = true := by
  induction names using List.reverseRecOn generalizing entry with
  | nil => exact absurd rfl hne
  | append_singleton names name ih =>
    rw [← List.append_assoc] at h
    have houter := get?_outer h
    by_cases hnames : names = []
    · rw [hnames, List.append_nil] at houter
      exact isDirectory_iff.2 houter
    · exact ih houter hnames

/-! ## Single steps -/

variable {follow : Location → List (List Char) → Except FileError Location}
  {piece : List Char} {pieces : List (List Char)}

/-- What a look does with a piece of a path. -/
lemma descend_look_cons : tree.descend .look follow here (piece :: pieces) =
    if tree.isDirectory here = false then .error .notDirectory
    else if isStep piece = false then tree.descend .look follow here pieces
    else if piece = ['.', '.'] then tree.descend .look follow here.dropLast pieces
    else if nameLimit < Text.byteLength piece then .error .nameTooLong
    else
      match tree.get? (here ++ [piece]) with
      | none => .error .notFound
      | some (.link target) =>
        follow (if isAbsolute target then [] else here) (Path.pieces target ++ pieces)
      | some _ => tree.descend .look follow (here ++ [piece]) pieces := by
  have hdir : (!tree.isDirectory here) = true ↔ tree.isDirectory here = false := by simp
  have hstay : (piece.isEmpty || piece = ['.']) = true ↔ isStep piece = false := by
    rw [isStep, Bool.not_eq_false']
  rw [descend]
  exact if_congr hdir rfl (if_congr hstay rfl (if_congr Iff.rfl rfl rfl))

lemma descend_stay (hdir : tree.isDirectory here = true) (h : isStep piece = false) :
    tree.descend .look follow here (piece :: pieces) = tree.descend .look follow here pieces := by
  rw [descend_look_cons, if_neg (by simp [hdir]), if_pos h]

lemma descend_of_forall_stay (hdir : tree.isDirectory here = true)
    (h : ∀ piece ∈ pieces, isStep piece = false) :
    tree.descend .look follow here pieces = .ok here := by
  induction pieces with
  | nil => rw [descend]
  | cons piece pieces ih =>
    rw [descend_stay hdir (h piece List.mem_cons_self)]
    exact ih fun p hp => h p (List.mem_cons_of_mem _ hp)

/-- A name of something that is no link leads there. -/
lemma descend_name (h : tree.get? (here ++ [piece]) = some entry)
    (hlink : ∀ target, entry ≠ .link target) :
    tree.descend .look follow here (piece :: pieces) =
      tree.descend .look follow (here ++ [piece]) pieces := by
  have hname : isFileName piece = true := isFileName_of_get? h (by simp)
  have hstep := isStep_of_isName (isName_of_isFileName hname)
  simp only [isFileName, isName, Bool.and_eq_true, bne_iff_ne, ne_eq, decide_eq_true_eq] at hname
  rw [descend_look_cons, if_neg (by simp [isDirectory_iff.2 (get?_outer h)]),
    if_neg (by simp [hstep]), if_neg hname.1.1.1.2, if_neg (by omega), h]
  cases entry with
  | file bytes => rfl
  | directory => rfl
  | link target => exact absurd rfl (hlink target)

/-! ## Whole paths -/

/-- A path that spells out the place of something, with pieces in between that stay where they are,
leads to it. Only its last piece may name a file, and none a link. -/
lemma descend_trail {name : List Char} (hup : ['.', '.'] ∉ pieces)
    (h : tree.get? (here ++ (pieces.filter isStep ++ [name])) = some entry)
    (hlink : ∀ target, entry ≠ .link target) :
    tree.descend .look follow here (pieces ++ [name]) =
      .ok (here ++ (pieces.filter isStep ++ [name])) := by
  induction pieces generalizing here with
  | nil => exact descend_name h hlink
  | cons piece pieces ih =>
    have hup' : ['.', '.'] ∉ pieces := fun hmem => hup (List.mem_cons_of_mem _ hmem)
    have hdir : tree.isDirectory here = true := isDirectory_of_get?_append h (by simp)
    by_cases hstep : isStep piece = true
    · have hplace : here ++ ((piece :: pieces).filter isStep ++ [name]) =
          here ++ [piece] ++ (pieces.filter isStep ++ [name]) := by
        rw [List.filter_cons_of_pos hstep, List.cons_append, List.append_cons]
      rw [hplace] at h ⊢
      have hinner : tree.isDirectory (here ++ [piece]) = true :=
        isDirectory_of_get?_append h (by simp)
      rw [List.cons_append, descend_name (isDirectory_iff.1 hinner) (by simp)]
      exact ih hup' h
    · rw [List.filter_cons_of_neg hstep] at h ⊢
      rw [List.cons_append, descend_stay hdir (by simpa using hstep)]
      exact ih hup' h

/-- What two ends of a path have in common, paths with these ends have in common. No link may be left
for the ends themselves. -/
lemma walk_append_congr {before behind : List (List Char)} {found : Location}
    {result : Except FileError Location}
    (hend : ∀ follow here, tree.descend .look follow here before = .ok found →
      tree.descend .look follow here behind = result)
    (links : Nat) (h : tree.walk .look links here (pieces ++ before) = .ok found) :
    tree.walk .look links here (pieces ++ behind) = result := by
  have hdescend (follow : Location → List (List Char) → Except FileError Location)
      (hfollow : ∀ here pieces, follow here (pieces ++ before) = .ok found →
        follow here (pieces ++ behind) = result) (pieces : List (List Char)) (here : Location)
      (h : tree.descend .look follow here (pieces ++ before) = .ok found) :
      tree.descend .look follow here (pieces ++ behind) = result := by
    induction pieces generalizing here with
    | nil => exact hend follow here h
    | cons piece pieces ih =>
      rw [List.cons_append, descend_look_cons] at h ⊢
      split_ifs at h ⊢ with hdir hstep hparent hlong
      · exact ih here h
      · exact ih here.dropLast h
      · cases hget : tree.get? (here ++ [piece]) with
        | none => simp [hget] at h
        | some entry =>
          cases entry with
          | file bytes =>
            simp only [hget] at h ⊢
            exact ih (here ++ [piece]) h
          | directory =>
            simp only [hget] at h ⊢
            exact ih (here ++ [piece]) h
          | link target =>
            simp only [hget, ← List.append_assoc] at h ⊢
            exact hfollow _ _ h
  induction links generalizing here pieces with
  | zero => exact hdescend _ (by simp) pieces here h
  | succ links ih => exact hdescend _ (fun here pieces h => ih h) pieces here h

/-- From the end of a path, with or without a slash behind it, the names of something lead on to it,
whatever links came before. -/
lemma walk_names {links : Nat} {names : Location} {name : List Char}
    (h : tree.walk .look links here pieces = .ok location ∨
      tree.walk .look links here (pieces ++ [[]]) = .ok location)
    (hget : tree.get? (location ++ (names ++ [name])) = some entry)
    (hlink : ∀ target, entry ≠ .link target) :
    tree.walk .look links here (pieces ++ (names ++ [name])) =
      .ok (location ++ (names ++ [name])) := by
  have hnames : ∀ n ∈ names, isName n = true := fun n hn =>
    isName_of_isFileName (isFileName_of_get? hget (by simp [hn]))
  have hup : ['.', '.'] ∉ names := fun hmem => by simpa [isName] using hnames _ hmem
  have hsteps : names.filter isStep = names :=
    List.filter_eq_self.2 fun n hn => isStep_of_isName (hnames n hn)
  have htrail (follow : Location → List (List Char) → Except FileError Location) :
      tree.descend .look follow location (names ++ [name]) =
        .ok (location ++ (names ++ [name])) := by
    rw [← hsteps] at hget
    rw [descend_trail hup hget hlink, hsteps]
  rcases h with h | h
  · rw [← List.append_nil pieces] at h
    refine walk_append_congr (fun follow found h => ?_) links h
    rw [descend] at h
    rw [Except.ok.inj h, htrail]
  · refine walk_append_congr (fun follow found h => ?_) links h
    have hstep : isStep [] = false := rfl
    rw [descend_look_cons, if_pos hstep, descend] at h
    split_ifs at h with hdir
    rw [Except.ok.inj h, htrail]

lemma walk_eq_descend (tree : FileTree) (links : Nat) :
    ∃ follow, tree.walk .look links = tree.descend .look follow := by
  cases links with
  | zero => exact ⟨_, rfl⟩
  | succ links => exact ⟨_, rfl⟩

/-- A piece of a path that leads somewhere: one that stays where it is or goes up, or a name. -/
def IsWaypoint (tree : FileTree) (piece : List Char) : Prop :=
  isStep piece = false ∨ piece = ['.', '.'] ∨ ∃ entry ∈ tree.entries, piece ∈ entry.1

/-- A path that leads somewhere has no other pieces, whatever links it goes through. -/
lemma isWaypoint_of_walk {links : Nat} (h : tree.walk .look links here pieces = .ok location) :
    ∀ piece ∈ pieces, tree.IsWaypoint piece := by
  have hdescend (follow : Location → List (List Char) → Except FileError Location)
      (hfollow : ∀ here pieces, follow here pieces = .ok location →
        ∀ piece ∈ pieces, tree.IsWaypoint piece) (pieces : List (List Char)) (here : Location)
      (h : tree.descend .look follow here pieces = .ok location) :
      ∀ piece ∈ pieces, tree.IsWaypoint piece := by
    induction pieces generalizing here with
    | nil => simp
    | cons piece pieces ih =>
      rw [List.forall_mem_cons]
      rw [descend_look_cons] at h
      split_ifs at h with hdir hstep hparent hlong
      · exact ⟨.inl hstep, ih here h⟩
      · exact ⟨.inr (.inl hparent), ih here.dropLast h⟩
      · cases hget : tree.get? (here ++ [piece]) with
        | none => simp [hget] at h
        | some entry =>
          refine ⟨.inr (.inr ⟨_, mem_of_get? hget (by simp), by simp⟩), ?_⟩
          cases entry with
          | file bytes =>
            simp only [hget] at h
            exact ih (here ++ [piece]) h
          | directory =>
            simp only [hget] at h
            exact ih (here ++ [piece]) h
          | link target =>
            simp only [hget] at h
            exact fun other hother => hfollow _ _ h other (List.mem_append_right _ hother)
  induction links generalizing here pieces with
  | zero => exact hdescend _ (by simp) pieces here h
  | succ links ih => exact hdescend _ (fun here pieces h => ih h) pieces here h

/-! ## Trees without links -/

/-- Nothing in the tree is a link. -/
def LinkFree (tree : FileTree) : Prop := ∀ location target, tree.get? location ≠ some (.link target)

lemma linkFree_of_entries (h : ∀ found ∈ tree.entries, ∀ target, found.2 ≠ .link target) :
    tree.LinkFree := by
  intro location target hget
  by_cases hroot : location = []
  · rw [hroot, get?_root] at hget
    simp at hget
  · exact h _ (mem_of_get? hget hroot) target rfl

/-- Without links a piece of a path stays, goes up or goes down to its name. -/
lemma descend_cons_eq_ok (hlinks : tree.LinkFree)
    (h : tree.descend .look follow here (piece :: pieces) = .ok location) :
    tree.isDirectory here = true ∧
      ((isStep piece = false ∧ tree.descend .look follow here pieces = .ok location) ∨
        (piece = ['.', '.'] ∧ tree.descend .look follow here.dropLast pieces = .ok location) ∨
        (isStep piece = true ∧
          tree.descend .look follow (here ++ [piece]) pieces = .ok location)) := by
  rw [descend_look_cons] at h
  split_ifs at h with hdir hstep hparent hlong
  · exact ⟨by simpa using hdir, .inl ⟨hstep, h⟩⟩
  · exact ⟨by simpa using hdir, .inr (.inl ⟨hparent, h⟩)⟩
  · refine ⟨by simpa using hdir, .inr (.inr ⟨by simpa using hstep, ?_⟩)⟩
    cases hget : tree.get? (here ++ [piece]) with
    | none => simp [hget] at h
    | some entry =>
      cases entry with
      | file bytes => simpa only [hget] using h
      | directory => simpa only [hget] using h
      | link target => exact absurd hget (hlinks _ _)

/-- Without links a path without double dots leads to the place that it spells out. -/
lemma eq_of_descend (hlinks : tree.LinkFree) (hup : ['.', '.'] ∉ pieces)
    (h : tree.descend .look follow here pieces = .ok location) :
    location = here ++ pieces.filter isStep := by
  induction pieces generalizing here with
  | nil =>
    rw [descend] at h
    simpa using (Except.ok.inj h).symm
  | cons piece pieces ih =>
    simp only [List.mem_cons, not_or] at hup
    obtain ⟨-, ⟨hstep, h⟩ | ⟨hparent, -⟩ | ⟨hstep, h⟩⟩ := descend_cons_eq_ok hlinks h
    · rw [ih hup.2 h, List.filter_cons_of_neg (by simp [hstep])]
    · exact absurd hparent.symm hup.1
    · rw [ih hup.2 h, List.filter_cons_of_pos hstep, List.append_assoc, List.singleton_append]

end FileTree

/-! ## Looking at paths -/

namespace Workspace

variable {workspace : Workspace} {path : List Char} {location : Location}

/-- The directory where a path starts. -/
def base (workspace : Workspace) (path : List Char) : Location :=
  if isAbsolute path then [] else workspace.directory

lemma locate_eq_ok_iff : workspace.locate path = .ok location ↔
    '\x00' ∉ path ∧ path ≠ [] ∧ Text.byteLength path < FileTree.pathLimit ∧
      workspace.tree.walk .look FileTree.linkLimit (workspace.base path) (pieces path) =
        .ok location := by
  unfold locate FileTree.locate FileTree.follow base
  split_ifs <;> simp_all

lemma stat_eq_ok_iff {entry : Entry} : workspace.stat path = .ok entry ↔
    ∃ location, workspace.locate path = .ok location ∧
      workspace.tree.get? location = some entry := by
  unfold stat
  cases hlocate : workspace.locate path with
  | error e => simp [bind, Except.bind]
  | ok location =>
    cases hget : workspace.tree.get? location <;> simp [bind, Except.bind, hget]

lemma pathExists_iff : workspace.pathExists path = true ↔
    ∃ location entry, workspace.locate path = .ok location ∧
      workspace.tree.get? location = some entry := by
  have hstat : workspace.pathExists path = true ↔ ∃ entry, workspace.stat path = .ok entry := by
    unfold pathExists
    split <;> simp_all
  simp only [hstat, stat_eq_ok_iff]
  exact exists_comm

lemma isFile_iff : workspace.isFile path = true ↔
    ∃ location bytes, workspace.locate path = .ok location ∧
      workspace.tree.get? location = some (.file bytes) := by
  have hstat : workspace.isFile path = true ↔ ∃ bytes, workspace.stat path = .ok (.file bytes) := by
    unfold isFile
    split <;> simp_all
  simp only [hstat, stat_eq_ok_iff]
  tauto

lemma isDirectory_iff : workspace.isDirectory path = true ↔
    ∃ location, workspace.locate path = .ok location ∧
      workspace.tree.get? location = some .directory := by
  rw [← stat_eq_ok_iff]
  unfold isDirectory
  split <;> simp_all

lemma read_eq_ok_iff {bytes : List UInt8} : workspace.read path = .ok bytes ↔
    ∃ location, workspace.locate path = .ok location ∧
      workspace.tree.get? location = some (.file bytes) := by
  rw [← stat_eq_ok_iff]
  unfold read
  cases hstat : workspace.stat path with
  | error e => simp [bind, Except.bind]
  | ok entry => cases entry <;> simp [bind, Except.bind]

end Workspace

end BasicLint
