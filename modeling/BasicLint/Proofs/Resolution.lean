import BasicLint.Command.Resolution
import BasicLint.Proofs.FileTree
import BasicLint.Proofs.Path.Ancestors

/-!
# The nearest project file

The search for settings looks at a path and at those above it. Where a path has no double dots and
the tree no links, these are the directory of the target and the directories above it, so the nearest
project file settles a run.
-/
namespace BasicLint

open BasicLint.Path

/-! ## Files and directories -/

namespace FileTree

/-- A regular file lies at a location. -/
def HasFile (tree : FileTree) (location : Location) : Prop :=
  ∃ bytes, tree.get? location = some (.file bytes)

instance (tree : FileTree) (location : Location) : Decidable (tree.HasFile location) :=
  match h : tree.get? location with
  | some (.file bytes) => isTrue ⟨bytes, h⟩
  | some .directory => isFalse (by simp [HasFile, h])
  | some (.link _) => isFalse (by simp [HasFile, h])
  | none => isFalse (by simp [HasFile, h])

/-- The directory at a location, or the one that something else there lies in. -/
def directoryOf (tree : FileTree) (location : Location) : Location :=
  if tree.isDirectory location then location else location.dropLast

lemma get?_directoryOf {tree : FileTree} {location : Location} {entry : Entry}
    (h : tree.get? location = some entry) :
    tree.get? (tree.directoryOf location) = some .directory := by
  unfold directoryOf
  split_ifs with hdir
  · exact isDirectory_iff.1 hdir
  · rcases List.eq_nil_or_concat location with rfl | ⟨outer, name, rfl⟩
    · exact get?_root tree
    · rw [List.concat_eq_append] at h ⊢
      rw [List.dropLast_concat]
      exact get?_outer h

end FileTree

namespace Workspace

variable {workspace : Workspace} {path : List Char}

/-- The current directory is spelled out by its path. -/
lemma steps_directoryPath (h : ∀ name ∈ workspace.directory, isName name = true) :
    steps workspace.directoryPath = workspace.directory := by
  have hslash : ∀ name ∈ workspace.directory, '/' ∉ name := fun name hname =>
    slash_not_mem_of_isName (h name hname)
  have hpath : workspace.directoryPath = [] ++ '/' :: ['/'].intercalate workspace.directory := rfl
  rw [hpath, steps_append_slash, steps_nil, List.nil_append]
  by_cases hne : workspace.directory = []
  · rw [hne]
    rfl
  · rw [steps, pieces, List.splitOn_intercalate '/' hslash hne]
    exact List.filter_eq_self.2 fun name hname => isStep_of_isName (h name hname)

/-- A path goes on from the path of the directory where it starts. -/
lemma steps_join_directoryPath (h : workspace.tree.isDirectory (workspace.base path) = true) :
    steps (join workspace.directoryPath path) = workspace.base path ++ steps path := by
  by_cases hpath : isAbsolute path = true
  · rw [join_of_isAbsolute _ hpath, base, if_pos hpath, List.nil_append]
  · rw [base, if_neg hpath] at h ⊢
    rw [steps_join _ (by simpa using hpath), steps_directoryPath]
    exact fun name hname => isName_of_isFileName
      (FileTree.isFileName_of_get? (FileTree.isDirectory_iff.1 h) hname)

/-- A path without anything but file names among its steps has no double dots and no zero byte. -/
lemma plain_of_isFileName_steps (h : ∀ step ∈ steps path, isFileName step = true) :
    ['.', '.'] ∉ pieces path ∧ '\x00' ∉ path := by
  refine ⟨fun hup => ?_, fun hnul => ?_⟩
  · have hname := isName_of_isFileName (h _ (parent_mem_steps hup))
    simp [isName] at hname
  · obtain ⟨step, hstep, hmem⟩ := exists_mem_steps (by decide) (by decide) hnul
    have hname := h step hstep
    simp [isFileName, hmem] at hname

/-- The path of a file in a directory that an absolute path spells out leads to that file. -/
lemma locate_join {name : List Char} (habs : isAbsolute path = true)
    (hshort : Text.byteLength (join path name) < FileTree.pathLimit)
    (hfile : workspace.tree.HasFile (steps path ++ [name])) :
    workspace.locate (join path name) = .ok (steps path ++ [name]) := by
  obtain ⟨bytes, hget⟩ := hfile
  have hnames : ∀ n ∈ steps path ++ [name], isFileName n = true :=
    fun _ => FileTree.isFileName_of_get? hget
  have hname := isName_of_isFileName (hnames name (by simp))
  have hslash := slash_not_mem_of_isName hname
  have hsteps := steps_join_name path hname
  have hplain := plain_of_isFileName_steps (hsteps ▸ hnames)
  have habs' := isAbsolute_join name habs
  obtain ⟨front, -, hpieces⟩ := pieces_join_name (ne_nil_of_isAbsolute habs) hslash
  have hfront : front.filter isStep = steps path := by
    rw [steps, hpieces, List.filter_append, List.filter_cons_of_pos (isStep_of_isName hname)]
      at hsteps
    exact (List.append_inj' hsteps rfl).1
  have hup : ['.', '.'] ∉ front := by
    intro hup
    rw [hpieces] at hplain
    exact hplain.1 (List.mem_append_left _ hup)
  obtain ⟨follow, hdescend⟩ := workspace.tree.walk_eq_descend FileTree.linkLimit
  refine locate_eq_ok_iff.2 ⟨hplain.2, ne_nil_of_isAbsolute habs', hshort, ?_⟩
  rw [hdescend, base, if_pos habs', hpieces, ← hfront]
  exact FileTree.descend_trail hup (hfront ▸ hget) (by simp)

variable (hlinks : workspace.tree.LinkFree)
include hlinks

/-- Without links and double dots, a path leads where its steps say, from a directory on. -/
lemma eq_of_locate {location : Location} (hup : ['.', '.'] ∉ pieces path)
    (h : workspace.locate path = .ok location) :
    location = workspace.base path ++ steps path ∧
      workspace.tree.isDirectory (workspace.base path) = true := by
  obtain ⟨-, -, -, hwalk⟩ := locate_eq_ok_iff.1 h
  obtain ⟨follow, hdescend⟩ := workspace.tree.walk_eq_descend FileTree.linkLimit
  rw [hdescend] at hwalk
  refine ⟨FileTree.eq_of_descend hlinks hup hwalk, ?_⟩
  obtain ⟨first, rest, hpieces⟩ := List.exists_cons_of_ne_nil (pieces_ne_nil path)
  rw [hpieces] at hwalk
  exact (FileTree.descend_cons_eq_ok hlinks hwalk).1

/-- In a directory that an absolute path spells out, the files are those of the tree. -/
lemma isFile_join_iff {name : List Char} (habs : isAbsolute path = true)
    (hsteps : ∀ step ∈ steps path, isFileName step = true) (hname : isFileName name = true)
    (hshort : Text.byteLength (join path name) < FileTree.pathLimit) :
    workspace.isFile (join path name) = true ↔ workspace.tree.HasFile (steps path ++ [name]) := by
  have hjoin := steps_join_name path (isName_of_isFileName hname)
  rw [isFile_iff]
  constructor
  · rintro ⟨location, bytes, hlocate, hget⟩
    have hnames : ∀ step ∈ steps (join path name), isFileName step = true := by
      simpa [hjoin, or_imp, forall_and] using And.intro hsteps hname
    obtain ⟨rfl, -⟩ := eq_of_locate hlinks (plain_of_isFileName_steps hnames).1 hlocate
    rw [base, if_pos (isAbsolute_join name habs), hjoin] at hget
    exact ⟨bytes, hget⟩
  · intro hfile
    obtain ⟨bytes, hget⟩ := hfile
    exact ⟨_, bytes, locate_join habs hshort ⟨bytes, hget⟩, hget⟩

end Workspace

namespace Command

/-- A directory of a tree holds a project file. -/
def HoldsProjectFile (tree : FileTree) (directory : Location) : Prop :=
  ∃ name ∈ projectFiles, tree.HasFile (directory ++ [name.toList])

instance (tree : FileTree) (directory : Location) : Decidable (HoldsProjectFile tree directory) :=
  inferInstanceAs (Decidable (∃ name ∈ projectFiles, tree.HasFile (directory ++ [name.toList])))

/-- The project file with a name, in a directory at or above another one, is the one to use there:
no directory in between holds one, and the name without a dot is not there next to the other. -/
structure Governs (tree : FileTree) (directory outer : Location) (name : String) : Prop where
  above : outer <+: directory
  known : name ∈ projectFiles
  found : tree.HasFile (outer ++ [name.toList])
  nearest : ∀ inner, inner <+: directory → outer.length < inner.length →
    ¬ HoldsProjectFile tree inner
  preferred : name = ".infobasic-lint.toml" →
    ¬ tree.HasFile (outer ++ ["infobasic-lint.toml".toList])

/-- The origin of settings without a project file: the file of the user if that is a regular file, else
the defaults. -/
def IsFallback (environment : Environment) (origin : Origin) : Prop :=
  (∃ user, environment.userDirectory = some user ∧
      environment.workspace.isFile (join user userFile.toList) = true ∧
      origin = .user (join user userFile.toList)) ∨
    (∀ user, environment.userDirectory = some user →
      environment.workspace.isFile (join user userFile.toList) = false) ∧ origin = .defaults

/-- The origin of the settings for a directory: the project file to use there, else the file of the
user, else the defaults. -/
structure IsOrigin (environment : Environment) (directory : Location) (origin : Origin) : Prop where
  project_iff : (∃ path, origin = .project path) ↔
    ∃ outer, outer <+: directory ∧ HoldsProjectFile environment.workspace.tree outer
  project : ∀ path, origin = .project path → ∃ outer name,
    Governs environment.workspace.tree directory outer name ∧
      environment.workspace.locate path = .ok (outer ++ [name.toList])
  otherwise : (∀ path, origin ≠ .project path) → IsFallback environment origin

/-- A path whose directory, and those above it, can be searched for project files. -/
structure Searchable (path : List Char) : Prop where
  absolute : isAbsolute path = true
  names : ∀ step ∈ steps path, isFileName step = true
  short : ∀ name ∈ projectFiles, Text.byteLength (join path name.toList) < FileTree.pathLimit

lemma isFileName_of_mem_projectFiles {name : String} (h : name ∈ projectFiles) :
    isFileName name.toList = true := by
  have hall : ∀ name ∈ projectFiles, isFileName name.toList = true := by decide
  exact hall name h

lemma Searchable.of_mem_ancestors {path outer : List Char} (h : Searchable path)
    (hmem : outer ∈ ancestors path) : Searchable outer := by
  obtain ⟨hbegins, habs⟩ := prefix_of_mem_ancestors hmem
  refine ⟨habs.trans h.absolute, fun step hstep => h.names step ?_, fun name hname => ?_⟩
  · exact (steps_prefix_of_mem_ancestors h.absolute hmem).subset hstep
  · have hslash := slash_not_mem_of_isName
      (isName_of_isFileName (isFileName_of_mem_projectFiles hname))
    exact (byteLength_join_le (isAbsolute_of_slash_not_mem hslash) hbegins).trans_lt
      (h.short name hname)

variable {workspace : Workspace} {path : List Char}

lemma Searchable.isFile_iff (hlinks : workspace.tree.LinkFree) (h : Searchable path) {name : String}
    (hname : name ∈ projectFiles) : workspace.isFile (join path name.toList) = true ↔
      workspace.tree.HasFile (steps path ++ [name.toList]) :=
  Workspace.isFile_join_iff hlinks h.absolute h.names (isFileName_of_mem_projectFiles hname)
    (h.short name hname)

lemma projectFileIn?_eq_none_iff (hlinks : workspace.tree.LinkFree) (h : Searchable path) :
    projectFileIn? workspace path = none ↔ ¬ HoldsProjectFile workspace.tree (steps path) := by
  simp only [projectFileIn?, List.find?_eq_none, List.forall_mem_map, HoldsProjectFile, not_exists,
    not_and]
  exact forall₂_congr fun name hname => not_congr (h.isFile_iff hlinks hname)

lemma projectFileIn?_eq_some (hlinks : workspace.tree.LinkFree) (h : Searchable path)
    {file : List Char} (hfile : projectFileIn? workspace path = some file) :
    ∃ name ∈ projectFiles, file = join path name.toList ∧
      workspace.tree.HasFile (steps path ++ [name.toList]) ∧
      (name = ".infobasic-lint.toml" →
        ¬ workspace.tree.HasFile (steps path ++ ["infobasic-lint.toml".toList])) := by
  have hplain : "infobasic-lint.toml" ∈ projectFiles := by simp [projectFiles]
  have hdotted : ".infobasic-lint.toml" ∈ projectFiles := by simp [projectFiles]
  rw [projectFileIn?, projectFiles, List.map_cons, List.find?_cons] at hfile
  split at hfile
  · rename_i hfound
    refine ⟨_, hplain, (Option.some.inj hfile).symm, (h.isFile_iff hlinks hplain).1 hfound, ?_⟩
    simp
  · rename_i hmissing
    rw [List.map_cons, List.map_nil, List.find?_singleton] at hfile
    obtain ⟨hfound, hfile⟩ := Option.ite_none_right_eq_some.1 hfile
    refine ⟨_, hdotted, (Option.some.inj hfile).symm, (h.isFile_iff hlinks hdotted).1 hfound, ?_⟩
    intro _ hfile
    rw [(h.isFile_iff hlinks hplain).2 hfile] at hmissing
    contradiction

/-- There is a project file to be found if a directory on the way up holds one. -/
lemma projectFile?_eq_none_iff (hlinks : workspace.tree.LinkFree) (h : Searchable path) :
    projectFile? workspace path = none ↔
      ∀ outer, outer <+: steps path → ¬ HoldsProjectFile workspace.tree outer := by
  rw [projectFile?, List.findSome?_eq_none_iff]
  constructor
  · intro hnone outer houter
    obtain ⟨above, habove, rfl⟩ := exists_mem_ancestors h.absolute houter
    exact (projectFileIn?_eq_none_iff hlinks (h.of_mem_ancestors habove)).1 (hnone above habove)
  · intro hnone above habove
    refine (projectFileIn?_eq_none_iff hlinks (h.of_mem_ancestors habove)).2 (hnone _ ?_)
    exact steps_prefix_of_mem_ancestors h.absolute habove

/-- The project file that is found is the one to use. -/
lemma governs_of_projectFile? (hlinks : workspace.tree.LinkFree) (h : Searchable path)
    {file : List Char} (hfile : projectFile? workspace path = some file) :
    ∃ outer name, Governs workspace.tree (steps path) outer name ∧
      workspace.locate file = .ok (outer ++ [name.toList]) := by
  obtain ⟨inner, above, rest, hsplit, hfound, hnone⟩ := List.findSome?_eq_some_iff.1 hfile
  have hmem : above ∈ ancestors path := by simp [hsplit]
  have habove := h.of_mem_ancestors hmem
  obtain ⟨name, hname, rfl, hfile, hpreferred⟩ := projectFileIn?_eq_some hlinks habove hfound
  refine ⟨steps above, name, ⟨?_, hname, hfile, ?_, hpreferred⟩, ?_⟩
  · exact steps_prefix_of_mem_ancestors h.absolute hmem
  · intro location hlocation hlonger
    obtain ⟨other, hother, rfl⟩ := exists_mem_ancestors h.absolute hlocation
    have hearlier := mem_inner_of_length_lt h.absolute hsplit hother hlonger
    exact (projectFileIn?_eq_none_iff hlinks (h.of_mem_ancestors hother)).1 (hnone other hearlier)
  · exact Workspace.locate_join habove.absolute (habove.short name hname) hfile

/-! ## Where a search starts -/

/-- The search for the settings of a target starts at the directory of the target. -/
lemma steps_searchStart (hlinks : workspace.tree.LinkFree) {target : List Char}
    {location : Location} {entry : Entry} (hup : ['.', '.'] ∉ pieces target)
    (hlocate : workspace.locate target = .ok location)
    (hget : workspace.tree.get? location = some entry) :
    isAbsolute (searchStart workspace target) = true ∧
      steps (searchStart workspace target) = workspace.tree.directoryOf location := by
  obtain ⟨rfl, hbase⟩ := Workspace.eq_of_locate hlinks hup hlocate
  have habs : isAbsolute workspace.directoryPath = true := rfl
  refine ⟨isAbsolute_join _ habs, ?_⟩
  cases entry with
  | directory =>
    have hfile : workspace.isFile target = false := by
      rw [← Bool.not_eq_true, Workspace.isFile_iff]
      rintro ⟨location, bytes, hlocate', hget'⟩
      rw [hlocate, Except.ok.injEq] at hlocate'
      rw [← hlocate', hget] at hget'
      simp at hget'
    rw [searchStart, hfile, FileTree.directoryOf, if_pos (FileTree.isDirectory_iff.2 hget)]
    exact Workspace.steps_join_directoryPath hbase
  | file bytes =>
    have hdir : workspace.tree.isDirectory (workspace.base target ++ steps target) = false := by
      simp [← Bool.not_eq_true, FileTree.isDirectory_iff, hget]
    -- A file is named by the path to it: the directory where a path starts is none.
    have hsteps : steps target ≠ [] := by
      intro hnil
      rw [hnil, List.append_nil, hbase] at hdir
      contradiction
    obtain ⟨outer, hparent⟩ := Option.ne_none_iff_exists'.1
      (mt steps_eq_nil_of_parent?_eq_none hsteps)
    obtain ⟨-, habs, houter⟩ := parent?_eq_some hparent
    have hsame : workspace.base outer = workspace.base target := by
      rw [Workspace.base, habs, Workspace.base]
    rw [searchStart, Workspace.isFile_iff.2 ⟨_, bytes, hlocate, hget⟩, if_pos rfl, hparent,
      Option.getD_some, FileTree.directoryOf, hdir, if_neg Bool.false_ne_true,
      Workspace.steps_join_directoryPath (hsame ▸ hbase), hsame, houter,
      List.dropLast_append_of_ne_nil hsteps]
  | link path => exact absurd hget (hlinks _ _)

/-! ## Origins -/

variable {environment : Environment} {target : List Char}

lemma resolve_eq_project_iff {file : List Char} : resolve environment target none = .project file ↔
    projectFile? environment.workspace (searchStart environment.workspace target) = some file := by
  unfold resolve
  dsimp only
  split
  · simp [*]
  · rename_i hnone
    split <;> simp [hnone]

lemma isFallback_of_projectFile?_eq_none
    (h : projectFile? environment.workspace (searchStart environment.workspace target) = none) :
    IsFallback environment (resolve environment target none) := by
  unfold IsFallback
  cases huser : environment.userDirectory with
  | none => exact .inr ⟨by simp, by simp [resolve, h, userFile?, huser]⟩
  | some user =>
    cases hfile : environment.workspace.isFile (join user userFile.toList) with
    | false => exact .inr ⟨by simp [hfile], by simp [resolve, h, userFile?, huser, Option.filter, hfile]⟩
    | true => exact .inl ⟨user, rfl, hfile, by simp [resolve, h, userFile?, huser, Option.filter, hfile]⟩

/-- Where the settings for a target come from, in a tree without links: the nearest project file at
the directory of the target or above it, else the file of the user, else the defaults. The path of
the target has no double dots, and there is room for the paths of project files. -/
theorem resolve_isOrigin (environment : Environment) (target : List Char)
    (hlinks : environment.workspace.tree.LinkFree)
    (hexists : environment.workspace.pathExists target = true)
    (hup : ['.', '.'] ∉ pieces target)
    (hshort : ∀ name ∈ projectFiles, Text.byteLength
      (join (searchStart environment.workspace target) name.toList) < FileTree.pathLimit) :
    ∃ location, environment.workspace.locate target = .ok location ∧
      IsOrigin environment (environment.workspace.tree.directoryOf location)
        (resolve environment target none) := by
  obtain ⟨location, entry, hlocate, hget⟩ := Workspace.pathExists_iff.1 hexists
  obtain ⟨habs, hsteps⟩ := steps_searchStart hlinks hup hlocate hget
  have hsearch : Searchable (searchStart environment.workspace target) := by
    refine ⟨habs, fun step hstep => ?_, hshort⟩
    rw [hsteps] at hstep
    exact FileTree.isFileName_of_get? (FileTree.get?_directoryOf hget) hstep
  refine ⟨location, hlocate, ?_, ?_, ?_⟩
  · rw [← hsteps]
    simp only [resolve_eq_project_iff, ← Option.ne_none_iff_exists', ne_eq,
      projectFile?_eq_none_iff hlinks hsearch]
    push Not
    rfl
  · intro file hfile
    rw [← hsteps]
    exact governs_of_projectFile? hlinks hsearch (resolve_eq_project_iff.1 hfile)
  · intro hnone
    refine isFallback_of_projectFile?_eq_none ?_
    exact Option.eq_none_iff_forall_ne_some.2 fun file hfile =>
      hnone file (resolve_eq_project_iff.2 hfile)

/-- A directory with a project file, and another next to it. -/
def siblingTree : FileTree where
  entries :=
    [(["w".toList], .directory), (["w".toList, "a".toList], .directory),
      (["w".toList, "a".toList, "infobasic-lint.toml".toList], .file []),
      (["w".toList, "a".toList, "X.b".toList], .file []),
      (["w".toList, "b".toList], .directory)]
  distinct := by decide
  places := by decide
  grounded := by decide

lemma linkFree_siblingTree : siblingTree.LinkFree :=
  FileTree.linkFree_of_entries (by simp [siblingTree])

theorem resolve_isOrigin_siblingTree :
    let environment : Environment := { workspace := ⟨siblingTree, ["w".toList]⟩ }
    let target := "./a//X.b".toList
    environment.workspace.tree.LinkFree ∧ environment.workspace.pathExists target = true ∧
      ['.', '.'] ∉ pieces target ∧
      ∃ location, environment.workspace.locate target = .ok location ∧
        IsOrigin environment (environment.workspace.tree.directoryOf location)
          (resolve environment target none) := by
  intro environment target
  have hexists : environment.workspace.pathExists target = true := by decide
  have hup : ['.', '.'] ∉ pieces target := by decide
  exact ⟨linkFree_siblingTree, hexists, hup,
    resolve_isOrigin environment target linkFree_siblingTree hexists hup (by decide)⟩

/-- With double dots the search leaves the directories above the target: on the way up from
`a/../b` it comes through `a`. -/
theorem not_resolve_isOrigin :
    ¬ ∀ (environment : Environment) (target : List Char),
      environment.workspace.tree.LinkFree → environment.workspace.pathExists target = true →
      (∀ name ∈ projectFiles, Text.byteLength
        (join (searchStart environment.workspace target) name.toList) < FileTree.pathLimit) →
      ∃ location, environment.workspace.locate target = .ok location ∧
        IsOrigin environment (environment.workspace.tree.directoryOf location)
          (resolve environment target none) := by
  intro h
  let environment : Environment := { workspace := ⟨siblingTree, ["w".toList]⟩ }
  obtain ⟨location, hlocate, horigin⟩ :=
    h environment "a/../b".toList linkFree_siblingTree (by decide) (by decide)
  have hfound : resolve environment "a/../b".toList none =
      .project "/w/a/infobasic-lint.toml".toList := by decide
  have hlocation : environment.workspace.locate "a/../b".toList =
      .ok ["w".toList, "b".toList] := by decide
  obtain rfl : ["w".toList, "b".toList] = location := Except.ok.inj (hlocation.symm.trans hlocate)
  obtain ⟨outer, houter, hholds⟩ := horigin.project_iff.1 ⟨_, hfound⟩
  have hnone : ∀ outer ∈ (siblingTree.directoryOf ["w".toList, "b".toList]).inits,
      ¬ HoldsProjectFile siblingTree outer := by decide
  exact hnone outer ((List.mem_inits _ _).2 houter) hholds

end Command

end BasicLint
