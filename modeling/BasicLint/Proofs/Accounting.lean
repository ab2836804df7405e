import BasicLint.Proofs.Discovery

/-!
# A run accounts for every source

Each file that a scan finds comes up once in the result of a run: with a report on what it holds, or
as a failure to read it. Both lists keep the order of the scan, and what happens to one file has no
bearing on the report of another.
-/
namespace BasicLint.Analyzer

open BasicLint.Path

/-! ## Outcomes -/

/-- The path that an outcome is about. -/
def outcomePath : Except FileFailure FileReport → String
  | .ok report => report.path
  | .error failure => failure.path

variable (outcomes : List (Except FileFailure FileReport))

lemma collect_cons_ok (report : FileReport) : collect (.ok report :: outcomes) =
    { collect outcomes with
      files := report :: (collect outcomes).files
      filesChecked := (collect outcomes).filesChecked + 1 } := by
  simp [collect]

lemma collect_cons_error (failure : FileFailure) : collect (.error failure :: outcomes) =
    { collect outcomes with failures := failure :: (collect outcomes).failures } := by
  simp [collect]

lemma perm_collect :
    ((collect outcomes).files.map (·.path) ++ (collect outcomes).failures.map (·.path)).Perm
      (outcomes.map outcomePath) := by
  induction outcomes with
  | nil => exact .refl _
  | cons outcome outcomes ih =>
    cases outcome with
    | ok report =>
      rw [collect_cons_ok]
      exact ih.cons report.path
    | error failure =>
      rw [collect_cons_error]
      exact List.perm_middle.trans (ih.cons failure.path)

lemma sublist_collect :
    ((collect outcomes).files.map (·.path)).Sublist (outcomes.map outcomePath) ∧
      ((collect outcomes).failures.map (·.path)).Sublist (outcomes.map outcomePath) := by
  induction outcomes with
  | nil => exact ⟨.refl _, .refl _⟩
  | cons outcome outcomes ih =>
    cases outcome with
    | ok report =>
      rw [collect_cons_ok]
      exact ⟨ih.1.cons_cons _, ih.2.cons _⟩
    | error failure =>
      rw [collect_cons_error]
      exact ⟨ih.1.cons _, ih.2.cons_cons _⟩

lemma filesChecked_collect :
    (collect outcomes).filesChecked = (collect outcomes).files.length := by
  induction outcomes with
  | nil => rfl
  | cons outcome outcomes ih =>
    cases outcome with
    | ok report => rw [collect_cons_ok, ih, List.length_cons]
    | error failure => rw [collect_cons_error, ih]

/-! ## Files -/

/-- How the result of a run stands to the files that a scan found. -/
structure Accounts (analyzer : Analyzer) (workspace : Workspace) (files : List (List Char))
    (result : LintResult) : Prop where
  once : (result.files.map (·.path) ++ result.failures.map (·.path)).Perm
    (files.map String.ofList)
  reports_order : (result.files.map (·.path)).Sublist (files.map String.ofList)
  failures_order : (result.failures.map (·.path)).Sublist (files.map String.ofList)
  report : ∀ report ∈ result.files, ∃ path ∈ files, ∃ bytes, workspace.read path = .ok bytes ∧
    report = analyzer.checkSource (String.ofList path) (Text.decodeLossy bytes)
  failure : ∀ failure ∈ result.failures, ∃ path ∈ files, ∃ error,
    workspace.read path = .error error ∧
      failure = ⟨String.ofList path, .unreadable, "Cannot read file: " ++ error.message⟩
  count : result.filesChecked = result.files.length

variable (analyzer : Analyzer) (workspace : Workspace) (files : List (List Char))

/-- A file that can be read is checked, and one that cannot is a failure. -/
lemma checkFile_cases (path : List Char) :
    (∃ bytes, workspace.read path = .ok bytes ∧ analyzer.checkFile workspace path =
        .ok (analyzer.checkSource (String.ofList path) (Text.decodeLossy bytes))) ∨
      ∃ error, workspace.read path = .error error ∧ analyzer.checkFile workspace path =
        .error ⟨String.ofList path, .unreadable, "Cannot read file: " ++ error.message⟩ := by
  unfold checkFile
  cases workspace.read path with
  | ok bytes => exact .inl ⟨bytes, rfl, rfl⟩
  | error error => exact .inr ⟨error, rfl, rfl⟩

lemma outcomePath_checkFile (path : List Char) :
    outcomePath (analyzer.checkFile workspace path) = String.ofList path := by
  obtain ⟨_, -, h⟩ | ⟨_, -, h⟩ := analyzer.checkFile_cases workspace path <;> rw [h] <;> rfl

lemma mem_files_collect {report : FileReport} :
    report ∈ (collect (files.map (analyzer.checkFile workspace))).files ↔
      ∃ path ∈ files, ∃ bytes, workspace.read path = .ok bytes ∧
        report = analyzer.checkSource (String.ofList path) (Text.decodeLossy bytes) := by
  simp only [collect, List.filterMap_map, List.mem_filterMap, Function.comp_apply]
  refine exists_congr fun path => and_congr_right fun _ => ?_
  obtain ⟨bytes, hread, h⟩ | ⟨error, hread, h⟩ := analyzer.checkFile_cases workspace path
  · simp [h, hread, eq_comm]
  · simp [h, hread]

lemma mem_failures_collect {failure : FileFailure} :
    failure ∈ (collect (files.map (analyzer.checkFile workspace))).failures ↔
      ∃ path ∈ files, ∃ error, workspace.read path = .error error ∧
        failure = ⟨String.ofList path, .unreadable, "Cannot read file: " ++ error.message⟩ := by
  simp only [collect, List.filterMap_map, List.mem_filterMap, Function.comp_apply]
  refine exists_congr fun path => and_congr_right fun _ => ?_
  obtain ⟨bytes, hread, h⟩ | ⟨error, hread, h⟩ := analyzer.checkFile_cases workspace path
  · simp [h, hread]
  · simp [h, hread, eq_comm]

lemma accounts_collect :
    analyzer.Accounts workspace files (collect (files.map (analyzer.checkFile workspace))) := by
  have hpaths : (files.map (analyzer.checkFile workspace)).map outcomePath =
      files.map String.ofList := by
    rw [List.map_map]
    exact List.map_congr_left fun path _ => analyzer.outcomePath_checkFile workspace path
  refine ⟨?_, ?_, ?_, ?_, ?_, filesChecked_collect _⟩
  · exact hpaths ▸ perm_collect _
  · exact hpaths ▸ (sublist_collect _).1
  · exact hpaths ▸ (sublist_collect _).2
  · exact fun report h => (analyzer.mem_files_collect workspace files).1 h
  · exact fun failure h => (analyzer.mem_failures_collect workspace files).1 h

/-- Reports on other files do not depend on whether or how a file can be read. -/
lemma files_collect_of_agree (workspace' : Workspace) (path : List Char)
    (h : ∀ other ∈ files, other ≠ path → workspace'.read other = workspace.read other) :
    (collect (files.map (analyzer.checkFile workspace'))).files.filter
        (·.path ≠ String.ofList path) =
      (collect (files.map (analyzer.checkFile workspace))).files.filter
        (·.path ≠ String.ofList path) := by
  have hown (workspace : Workspace) (os : List (Except FileFailure FileReport)) :
      (collect (analyzer.checkFile workspace path :: os)).files.filter
          (·.path ≠ String.ofList path) =
        (collect os).files.filter (·.path ≠ String.ofList path) := by
    obtain ⟨_, -, h⟩ | ⟨_, -, h⟩ := analyzer.checkFile_cases workspace path
    · rw [h, collect_cons_ok]
      simp [checkSource]
    · rw [h, collect_cons_error]
  induction files with
  | nil => rfl
  | cons file files ih =>
    have ih := ih fun other hother => h other (List.mem_cons_of_mem _ hother)
    rw [List.map_cons, List.map_cons]
    by_cases hfile : file = path
    · rw [hfile, hown, hown, ih]
    · have hsame : analyzer.checkFile workspace' file = analyzer.checkFile workspace file := by
        rw [checkFile, h file List.mem_cons_self hfile, checkFile]
      rw [hsame]
      cases analyzer.checkFile workspace file with
      | ok report => simp only [collect_cons_ok, List.filter_cons, ih]
      | error failure => simp only [collect_cons_error, ih]

/-! ## Directories -/

/-- A run on a directory. The files that it finds are the sources below the directory, each once and
in the order of their paths; directories with paths too long to list are left closed. The result
accounts for each of them, and a file with a path short enough to follow is checked for what it
holds. Reports on other files stay the same when a file becomes readable or unreadable. -/
theorem analyze_directory (analyzer : Analyzer) (workspace : Workspace)
    (h : workspace.isDirectory analyzer.root = true) :
    ∃ location files, workspace.locate analyzer.root = .ok location ∧
      analyzer.Covers workspace location (listed analyzer.root) files ∧
      analyzer.Accounts workspace files (analyzer.analyze workspace) ∧
      (∀ names bytes,
        analyzer.IsSource workspace location (listed analyzer.root) names (.file bytes) →
        Text.byteLength (below analyzer.root names) < FileTree.pathLimit →
        analyzer.checkSource (String.ofList (below analyzer.root names)) (Text.decodeLossy bytes) ∈
          (analyzer.analyze workspace).files) ∧
      ∀ (workspace' : Workspace) (path : List Char), analyzer.discover workspace' = .ok files →
        (∀ other ∈ files, other ≠ path → workspace'.read other = workspace.read other) →
        (analyzer.analyze workspace').files.filter (·.path ≠ String.ofList path) =
          (analyzer.analyze workspace).files.filter (·.path ≠ String.ofList path) := by
  obtain ⟨location, hlocate, hdir⟩ := Workspace.isDirectory_iff.1 h
  obtain ⟨files, hcovers⟩ := exists_covers hlocate hdir
  have hanalyze {workspace : Workspace} (h : analyzer.discover workspace = .ok files) :
      analyzer.analyze workspace = collect (files.map (analyzer.checkFile workspace)) := by
    rw [analyze, h]
  refine ⟨location, files, hlocate, hcovers, ?_, ?_, ?_⟩
  · rw [hanalyze hcovers.discovered]
    exact analyzer.accounts_collect workspace files
  · intro names bytes hsource hshort
    obtain ⟨outer, name, rfl, hget⟩ := hsource.scanned.exists_concat
    rw [hanalyze hcovers.discovered, mem_files_collect]
    exact ⟨_, (hcovers.exact _).2 ⟨_, _, hsource, rfl⟩, bytes, read_below hlocate hget hshort, rfl⟩
  · intro workspace' path hdiscover hagree
    rw [hanalyze hdiscover, hanalyze hcovers.discovered]
    exact analyzer.files_collect_of_agree workspace files workspace' path hagree

/-- Sources next to directories whose names start like theirs, a link to nothing and a link to a
directory. -/
def mixedTree : FileTree where
  entries :=
    [(["A.b".toList], .file []), (["A".toList], .directory), (["A".toList, "B.b".toList], .file []),
      (["A.X".toList], .directory), (["A.X".toList, "C.b".toList], .file []),
      (["L.b".toList], .link "none".toList), (["M.b".toList], .link "A".toList)]
  distinct := by decide
  places := by decide
  grounded := by decide

theorem analyze_directory_mixedTree :
    let workspace : Workspace := { tree := mixedTree }
    let analyzer : Analyzer := {}
    workspace.isDirectory analyzer.root = true ∧ ∃ location files,
      workspace.locate analyzer.root = .ok location ∧
      analyzer.Covers workspace location (listed analyzer.root) files ∧
      analyzer.Accounts workspace files (analyzer.analyze workspace) := by
  intro workspace analyzer
  have h : workspace.isDirectory analyzer.root = true := by decide
  obtain ⟨location, files, hlocate, hcovers, haccounts, -⟩ :=
    analyze_directory analyzer workspace h
  exact ⟨h, location, files, hlocate, hcovers, haccounts⟩

/-! ## Directories that stay closed -/

/-- The current directory, with slashes behind it. -/
def slashed (n : Nat) : List Char := '.' :: List.replicate n '/'

lemma slashed_succ (n : Nat) : slashed (n + 1) = slashed n ++ ['/'] := by
  rw [slashed, List.replicate_succ', slashed, List.cons_append]

lemma byteLength_slashed (n : Nat) : Text.byteLength (slashed n) = n + 1 := by
  induction n with
  | zero => rfl
  | succ n ih =>
    rw [slashed_succ, Text.byteLength_append, ih]
    rfl

lemma isStep_of_mem_slashed {n : Nat} {piece : List Char} (h : piece ∈ pieces (slashed n)) :
    isStep piece = false := by
  induction n with
  | zero =>
    obtain rfl : piece = ['.'] := List.mem_singleton.1 h
    rfl
  | succ n ih =>
    rw [slashed_succ, pieces_append_slash, List.mem_append] at h
    rcases h with h | h
    · exact ih h
    · obtain rfl : piece = [] := List.mem_singleton.1 h
      rfl

lemma locate_slashed {workspace : Workspace} {n : Nat} (hn : n + 1 < FileTree.pathLimit)
    (hdir : workspace.tree.isDirectory workspace.directory = true) :
    workspace.locate (slashed n) = .ok workspace.directory := by
  refine Workspace.locate_eq_ok_iff.2 ⟨by simp [slashed], by simp [slashed], ?_, ?_⟩
  · rwa [byteLength_slashed]
  · obtain ⟨follow, hwalk⟩ := workspace.tree.walk_eq_descend FileTree.linkLimit
    rw [hwalk]
    exact FileTree.descend_of_forall_stay hdir fun _ => isStep_of_mem_slashed

/-- A directory that is listed below such a path has a name that leaves room for it. -/
lemma byteLength_lt_of_listed_slashed {n : Nat} {name : List Char}
    (hname : isAbsolute name = false) (h : listed (slashed n) [name] = true) :
    n + 1 + Text.byteLength name < FileTree.pathLimit := by
  have hshort : Text.byteLength (join (slashed n) name) < FileTree.pathLimit := of_decide_eq_true h
  rw [← byteLength_slashed]
  exact (byteLength_le_join (slashed n) hname).trans_lt hshort

/-- A source in a directory. -/
def nestedTree : FileTree where
  entries := [(["D".toList], .directory), (["D".toList, "A.b".toList], .file [])]
  distinct := by decide
  places := by decide
  grounded := by decide

/-- A run does not find every source below a directory: with a root that is as long as a path may be,
no directory inside it is listed. -/
theorem not_covers_every_source :
    ¬ ∀ (analyzer : Analyzer) (workspace : Workspace),
      workspace.isDirectory analyzer.root = true →
      ∃ location files, workspace.locate analyzer.root = .ok location ∧
        analyzer.Covers workspace location (fun _ => true) files := by
  intro h
  let analyzer : Analyzer := { root := slashed 4094 }
  let workspace : Workspace := { tree := nestedTree }
  have hlocate : workspace.locate analyzer.root = .ok [] := locate_slashed (by decide) rfl
  obtain ⟨location, files, hlocate', hall⟩ :=
    h analyzer workspace (Workspace.isDirectory_iff.2 ⟨[], hlocate, rfl⟩)
  obtain rfl : [] = location := Except.ok.inj (hlocate.symm.trans hlocate')
  obtain ⟨found, hfound⟩ := exists_covers hlocate rfl
  obtain rfl : files = found := Except.ok.inj (hall.discovered.symm.trans hfound.discovered)
  have hsource : analyzer.IsSource workspace [] (fun _ => true) ["D".toList, "A.b".toList]
      (.file []) := by
    have hopened : Scanned nestedTree [] (fun _ => true) ["D".toList] .directory := .top rfl rfl
    refine ⟨.inner hopened rfl rfl, .inl ⟨[], rfl⟩, ?_, by simp [analyzer]⟩
    exact ⟨["D".toList], "A.b".toList, ['b'], rfl, by decide, "b", by simp [analyzer], by decide⟩
  obtain ⟨names, entry, hnames, heq⟩ := (hfound.exact _).1 ((hall.exact _).2 ⟨_, _, hsource, rfl⟩)
  obtain rfl : ["D".toList, "A.b".toList] = names :=
    eq_of_components_below (List.cons_ne_nil _ _) hsource.scanned.isName
      hnames.scanned.isName (congrArg components heq)
  have hscanned : Scanned nestedTree [] (listed (slashed 4094)) (["D".toList] ++ ["A.b".toList])
      entry := hnames.scanned
  have hlength := byteLength_lt_of_listed_slashed rfl (scanned_iff.1 hscanned).2
  exact absurd hlength (by decide)

end BasicLint.Analyzer
