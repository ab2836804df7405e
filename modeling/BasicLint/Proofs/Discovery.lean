import BasicLint.Analyzer
import BasicLint.Proofs.FileTree

/-!
# What a scan finds and reports

A scan of a directory goes down through directories and enters no link. It lists a directory by its
path, so one whose path is too long stays closed. Of what it comes to, a scan finds the sources, each
once and in the order of their paths. A run reports on each of them, or says that it cannot be read.
-/
namespace BasicLint.Analyzer

open BasicLint.Path

variable {root : List Char} {names : Location}

/-! ## Paths below a root -/

lemma below_concat (root : List Char) (names : Location) (name : List Char) :
    below root (names ++ [name]) = join (below root names) name := by
  simp [below, List.foldl_append]

/-- Names add their components to those of the root. -/
lemma components_below (hroot : root ≠ []) (hnames : ∀ name ∈ names, isName name = true) :
    components (below root names) = components root ++ names.map .name ∧
      below root names ≠ [] := by
  induction names using List.reverseRecOn with
  | nil => simpa [below] using hroot
  | append_singleton names name ih =>
    obtain ⟨hcomponents, hne⟩ := ih fun n hn => hnames n (List.mem_append_left _ hn)
    have hname := hnames name (by simp)
    have hrel := isAbsolute_of_slash_not_mem (slash_not_mem_of_isName hname)
    rw [below_concat]
    refine ⟨?_, fun hnil => hne (List.prefix_nil.1 (hnil ▸ prefix_join hrel))⟩
    rw [components_join hne hname, hcomponents, List.map_append, List.append_assoc]
    rfl

lemma eq_of_components_below {names' : Location} (hroot : root ≠ [])
    (hnames : ∀ name ∈ names, isName name = true) (hnames' : ∀ name ∈ names', isName name = true)
    (h : components (below root names) = components (below root names')) : names = names' := by
  rw [(components_below hroot hnames).1, (components_below hroot hnames').1,
    List.append_cancel_left_eq] at h
  exact List.map_injective_iff.2 (fun _ _ h => Component.name.inj h) h

lemma extension?_below (hroot : root ≠ []) {name : List Char}
    (hnames : ∀ n ∈ names ++ [name], isName n = true) :
    extension? (below root (names ++ [name])) = extensionOf? name := by
  rw [extension?, fileName?, (components_below hroot hnames).1]
  simp

lemma prefix_below_concat {name : List Char} (hname : isName name = true) :
    below root names <+: below root (names ++ [name]) := by
  rw [below_concat]
  exact prefix_join (isAbsolute_of_slash_not_mem (slash_not_mem_of_isName hname))

/-! ## Scanning -/

/-- Whether a scan lists the directory at `names` below a root: its path has to be short enough. -/
def listed (root : List Char) (names : Location) : Bool := isListable (below root names)

/-- A directory that is listed lies in one that is listed. -/
lemma listed_of_concat {name : List Char} (hname : isName name = true)
    (h : listed root (names ++ [name]) = true) : listed root names = true := by
  obtain ⟨behind, hbehind⟩ := prefix_below_concat hname
  simp only [listed, isListable, decide_eq_true_eq] at h ⊢
  rw [← hbehind, Text.byteLength_append] at h
  omega

/-- What a scan of the directory at a location comes to, if it lists the directories below it that
`lists` says. A link is never entered. -/
inductive Scanned (tree : FileTree) (location : Location) (lists : Location → Bool) :
    Location → Entry → Prop
  | top {name : List Char} {entry : Entry} (opened : lists [] = true)
      (found : tree.get? (location ++ [name]) = some entry) :
      Scanned tree location lists [name] entry
  | inner {outer : Location} {name : List Char} {entry : Entry}
      (directory : Scanned tree location lists outer .directory) (opened : lists outer = true)
      (found : tree.get? (location ++ (outer ++ [name])) = some entry) :
      Scanned tree location lists (outer ++ [name]) entry

variable {tree : FileTree} {location : Location} {entry : Entry}

lemma Scanned.exists_concat {lists : Location → Bool} (h : Scanned tree location lists names entry) :
    ∃ outer name, names = outer ++ [name] ∧
      tree.get? (location ++ (outer ++ [name])) = some entry := by
  cases h with
  | top _ found => exact ⟨[], _, rfl, found⟩
  | inner _ _ found => exact ⟨_, _, rfl, found⟩

lemma Scanned.isName {lists : Location → Bool} (h : Scanned tree location lists names entry) :
    ∀ name ∈ names, isName name = true := by
  obtain ⟨outer, last, rfl, hget⟩ := h.exists_concat
  exact fun name hname =>
    isName_of_isFileName (FileTree.isFileName_of_get? hget (List.mem_append_right _ hname))

/-- A scan comes to all that lies in directories that it lists. -/
lemma scanned_iff {name : List Char} :
    Scanned tree location (listed root) (names ++ [name]) entry ↔
      tree.get? (location ++ (names ++ [name])) = some entry ∧ listed root names = true := by
  constructor
  · intro h
    generalize hplace : names ++ [name] = place at h
    cases h with
    | top opened found =>
      obtain ⟨rfl, -⟩ := List.append_inj' (hplace.trans (List.nil_append _).symm) rfl
      exact ⟨found, opened⟩
    | inner directory opened found =>
      obtain ⟨rfl, -⟩ := List.append_inj' hplace rfl
      exact ⟨found, opened⟩
  · rintro ⟨found, opened⟩
    induction names using List.reverseRecOn generalizing entry name with
    | nil => exact .top opened found
    | append_singleton names outer ih =>
      have hname : isFileName outer = true := FileTree.isFileName_of_get? found (by simp)
      have hdirectory : tree.get? (location ++ (names ++ [outer])) = some .directory :=
        FileTree.get?_outer (by rwa [List.append_assoc])
      exact .inner (ih hdirectory (listed_of_concat (isName_of_isFileName hname) opened))
        opened found

lemma entryBelow?_eq_some_iff {place : Location} {path : List Char} {found : Entry} :
    entryBelow? location root (place, entry) = some (path, found) ↔ ∃ names name,
      place = location ++ (names ++ [name]) ∧ listed root names = true ∧
        path = below root (names ++ [name]) ∧ found = entry := by
  simp only [entryBelow?]
  constructor
  · intro h
    split at h
    · rename_i name names hbegins
      rw [Option.ite_none_right_eq_some] at h
      obtain ⟨hlist, h⟩ := h
      obtain ⟨rfl, rfl⟩ := Prod.mk.inj (Option.some.inj h)
      have hsplit := List.dropLast_concat_getLast (List.cons_ne_nil name names)
      refine ⟨(name :: names).dropLast, (name :: names).getLast (by simp), ?_, hlist, ?_, rfl⟩
      · rw [hsplit, List.isPrefixOf?_eq_some_iff_append_eq.1 hbegins]
      · rw [hsplit]
    · simp at h
  · rintro ⟨names, name, rfl, hlist, rfl, rfl⟩
    have hbegins : location.isPrefixOf? (location ++ (names ++ [name])) = some (names ++ [name]) :=
      List.isPrefixOf?_eq_some_iff_append_eq.2 rfl
    obtain ⟨first, rest, hcons⟩ := List.exists_cons_of_ne_nil (show names ++ [name] ≠ [] by simp)
    rw [hbegins, hcons]
    dsimp only
    rw [← hcons, List.dropLast_concat]
    exact if_pos hlist

/-- What is listed is what a scan comes to. -/
lemma mem_entriesBelow {path : List Char} : (path, entry) ∈ entriesBelow tree location root ↔
    ∃ names, Scanned tree location (listed root) names entry ∧ path = below root names := by
  simp only [entriesBelow, List.mem_filterMap, Prod.exists, entryBelow?_eq_some_iff]
  constructor
  · rintro ⟨place, found, hmem, names, name, rfl, hlist, rfl, rfl⟩
    exact ⟨names ++ [name], scanned_iff.2 ⟨FileTree.get?_of_mem hmem, hlist⟩, rfl⟩
  · rintro ⟨place, hscanned, rfl⟩
    obtain ⟨names, name, rfl, hget⟩ := hscanned.exists_concat
    have hlist := (scanned_iff.1 hscanned).2
    exact ⟨_, entry, FileTree.mem_of_get? hget (by simp), names, name, rfl, hlist, rfl, rfl⟩

/-- Different entries below a root have different paths. -/
lemma pairwise_entriesBelow (hroot : root ≠ []) :
    (entriesBelow tree location root).Pairwise
      fun a b => components a.1 ≠ components b.1 := by
  have hplaces : tree.entries.Pairwise fun a b =>
      a.1 ≠ b.1 ∧ isPlace a.1 = true ∧ isPlace b.1 = true :=
    (List.pairwise_map.1 tree.distinct).imp_of_mem fun ha hb hne =>
      ⟨hne, tree.places _ ha, tree.places _ hb⟩
  refine hplaces.filterMap _ ?_
  rintro ⟨a, entryA⟩ ⟨b, entryB⟩ ⟨hne, ha, hb⟩ ⟨pathA, foundA⟩ hA ⟨pathB, foundB⟩ hB heq
  obtain ⟨namesA, nameA, rfl, -, rfl, -⟩ := entryBelow?_eq_some_iff.1 hA
  obtain ⟨namesB, nameB, rfl, -, rfl, -⟩ := entryBelow?_eq_some_iff.1 hB
  have hnames {names : Location} (h : isPlace (location ++ names) = true) :
      ∀ name ∈ names, isName name = true := by
    simp only [isPlace, Bool.and_eq_true, List.all_eq_true] at h
    exact fun name hname => isName_of_isFileName (h.2 name (List.mem_append_right _ hname))
  exact hne (by rw [eq_of_components_below hroot (hnames ha) (hnames hb) heq])

/-! ## Sources -/

/-- A source that a scan comes to: a file, or a link that leads to no directory, with one of the
extensions and with a path that no pattern leaves out. -/
structure IsSource (analyzer : Analyzer) (workspace : Workspace) (location : Location)
    (lists : Location → Bool) (names : Location) (entry : Entry) : Prop where
  scanned : Scanned workspace.tree location lists names entry
  candidate : (∃ bytes, entry = .file bytes) ∨
    (∃ target, entry = .link target) ∧ workspace.isDirectory (below analyzer.root names) = false
  extension : ∃ outer name ext, names = outer ++ [name] ∧ extensionOf? name = some ext ∧
    ∃ listed ∈ analyzer.settings.extensions, sameLetters listed.toList ext = true
  included : ∀ glob ∈ analyzer.excludes, glob.excludes (below analyzer.root names) = false

variable {analyzer : Analyzer} {workspace : Workspace}

lemma isCandidate_iff {path : List Char} : isCandidate workspace path entry = true ↔
    (∃ bytes, entry = .file bytes) ∨
      (∃ target, entry = .link target) ∧ workspace.isDirectory path = false := by
  cases entry <;> simp [isCandidate]

lemma hasExtension_below_iff (hroot : analyzer.root ≠ []) {lists : Location → Bool}
    (h : Scanned workspace.tree location lists names entry) :
    hasExtension analyzer.settings.extensions (below analyzer.root names) = true ↔
      ∃ outer name ext, names = outer ++ [name] ∧ extensionOf? name = some ext ∧
        ∃ listed ∈ analyzer.settings.extensions, sameLetters listed.toList ext = true := by
  obtain ⟨outer, name, rfl, -⟩ := h.exists_concat
  rw [hasExtension, extension?_below hroot h.isName]
  constructor
  · intro h
    cases hext : extensionOf? name with
    | none => simp [hext] at h
    | some ext => exact ⟨outer, name, ext, rfl, hext, by simpa [hext] using h⟩
  · rintro ⟨outer', name', ext, hsplit, hext, hlisted⟩
    obtain ⟨-, hname⟩ := List.append_inj' hsplit rfl
    obtain rfl : name = name' := by simpa using hname
    rw [hext]
    simpa using hlisted

/-- The files that are found are the sources that a scan comes to, in the order of their paths. -/
structure Covers (analyzer : Analyzer) (workspace : Workspace) (location : Location)
    (lists : Location → Bool) (files : List (List Char)) : Prop where
  discovered : analyzer.discover workspace = .ok files
  ordered : files.Pairwise Before
  exact : ∀ path, path ∈ files ↔ ∃ names entry,
    analyzer.IsSource workspace location lists names entry ∧ path = below analyzer.root names

lemma exists_covers (hlocate : workspace.locate analyzer.root = .ok location)
    (hdir : workspace.tree.get? location = some .directory) :
    ∃ files, analyzer.Covers workspace location (listed analyzer.root) files := by
  have hroot : analyzer.root ≠ [] := (Workspace.locate_eq_ok_iff.1 hlocate).2.1
  refine ⟨_, by rw [discover, hlocate]; dsimp only; rw [hdir], ?_, ?_⟩
  · refine pairwise_before_mergeSort (List.pairwise_map.2 ?_)
    refine List.Pairwise.filter _ (List.pairwise_map.2 ?_)
    exact (pairwise_entriesBelow hroot).filter _
  · intro path
    simp only [List.mem_mergeSort, List.mem_filter, sourcesBelow, List.mem_map, Prod.exists,
      mem_entriesBelow, Bool.and_eq_true, isCandidate_iff]
    constructor
    · rintro ⟨⟨_, entry, ⟨⟨names, hscanned, rfl⟩, hcandidate, hext⟩, rfl⟩, hincluded⟩
      exact ⟨names, entry, ⟨hscanned, hcandidate, (hasExtension_below_iff hroot hscanned).1 hext,
        by simpa [isExcluded] using hincluded⟩, rfl⟩
    · rintro ⟨names, entry, h, rfl⟩
      refine ⟨⟨_, entry, ⟨⟨names, h.scanned, rfl⟩, h.candidate, ?_⟩, rfl⟩, ?_⟩
      · exact (hasExtension_below_iff hroot h.scanned).2 h.extension
      · simpa [isExcluded] using h.included

/-- A root is a directory, or the one file to check, or the reason why there is nothing to check. -/
lemma discover_cases (analyzer : Analyzer) (workspace : Workspace) :
    (∃ location files, analyzer.Covers workspace location (listed analyzer.root) files) ∨
      analyzer.discover workspace = .ok [analyzer.root] ∨
      ∃ kind, ∃ message ∈ ["Path not found", "Not an InfoBasic file"],
        analyzer.discover workspace = .error ⟨String.ofList analyzer.root, kind, message⟩ := by
  have hfile {location : Location} {entry : Entry} (hne : entry ≠ .directory)
      (hlocate : workspace.locate analyzer.root = .ok location)
      (hget : workspace.tree.get? location = some entry) :
      analyzer.discover workspace =
        if hasExtension analyzer.settings.extensions analyzer.root then .ok [analyzer.root]
        else .error ⟨String.ofList analyzer.root, .notSourceFile, "Not an InfoBasic file"⟩ := by
    simp only [discover, hlocate, hget]
  cases hlocate : workspace.locate analyzer.root with
  | error error =>
    exact .inr (.inr ⟨.notFound, _, List.mem_cons_self, by simp only [discover, hlocate]⟩)
  | ok location =>
    cases hget : workspace.tree.get? location with
    | none =>
      exact .inr (.inr ⟨.notFound, _, List.mem_cons_self, by simp only [discover, hlocate, hget]⟩)
    | some entry =>
      by_cases hdir : entry = .directory
      · exact .inl ⟨location, exists_covers hlocate (hdir ▸ hget)⟩
      · rw [hfile hdir hlocate hget]
        split_ifs
        · exact .inr (.inl rfl)
        · exact .inr (.inr ⟨_, _, List.mem_cons_of_mem _ List.mem_cons_self, rfl⟩)

/-! ## Reading sources -/

/-- The names of something below a root are the last pieces of its path. -/
lemma pieces_below (hroot : root ≠ []) {name : List Char}
    (hnames : ∀ n ∈ names ++ [name], isName n = true) :
    ∃ outer, (pieces root = outer ∨ pieces root = outer ++ [[]]) ∧
      pieces (below root (names ++ [name])) = outer ++ (names ++ [name]) := by
  induction names using List.reverseRecOn generalizing name with
  | nil =>
    have hslash := slash_not_mem_of_isName (hnames name (by simp))
    simpa [below] using pieces_join_name hroot hslash
  | append_singleton names last ih =>
    have hinit : ∀ n ∈ names ++ [last], isName n = true :=
      fun n hn => hnames n (List.mem_append_left _ hn)
    obtain ⟨outer, hpieces, hbelow⟩ := ih hinit
    refine ⟨outer, hpieces, ?_⟩
    have hslash := slash_not_mem_of_isName (hnames name (by simp))
    obtain ⟨inner, hinner, hjoin⟩ := pieces_join_name (components_below hroot hinit).2 hslash
    rw [below_concat, hjoin]
    rcases hinner with hinner | hinner
    · rw [← hinner, hbelow, List.append_assoc]
    · -- A path that ends in a name does not end in a slash.
      rw [hbelow, ← List.append_assoc] at hinner
      have hlast : [last] = [[]] := (List.append_inj' hinner rfl).2
      have hname := hinit last (by simp)
      simp_all [isName]

lemma mem_below {c : Char} (hc : c ≠ '/') (h : c ∈ below root names) :
    c ∈ root ∨ ∃ name ∈ names, c ∈ name := by
  induction names using List.reverseRecOn with
  | nil => exact .inl h
  | append_singleton names name ih =>
    rw [below_concat] at h
    rcases mem_join hc h with h | h
    · exact (ih h).imp_right fun ⟨n, hn, hcn⟩ => ⟨n, List.mem_append_left _ hn, hcn⟩
    · exact .inr ⟨name, by simp, h⟩

lemma isAbsolute_below (hroot : root ≠ []) (hnames : ∀ n ∈ names, isName n = true) :
    isAbsolute (below root names) = isAbsolute root := by
  have hbegins : root <+: below root names := by
    induction names using List.reverseRecOn with
    | nil => exact List.prefix_rfl
    | append_singleton names name ih =>
      exact (ih fun n hn => hnames n (List.mem_append_left _ hn)).trans
        (prefix_below_concat (hnames name (by simp)))
  exact (isAbsolute_of_prefix_of_ne_nil hbegins hroot).symm

/-- The path of a file below a root leads to that file, if it is short enough to be followed. -/
lemma read_below {outer : Location} {name : List Char} {bytes : List UInt8}
    (hlocate : workspace.locate root = .ok location)
    (hget : workspace.tree.get? (location ++ (outer ++ [name])) = some (.file bytes))
    (hshort : Text.byteLength (below root (outer ++ [name])) < FileTree.pathLimit) :
    workspace.read (below root (outer ++ [name])) = .ok bytes := by
  obtain ⟨hnul, hroot, -, hwalk⟩ := Workspace.locate_eq_ok_iff.1 hlocate
  have hfile : ∀ n ∈ outer ++ [name], isFileName n = true := fun n hn =>
    FileTree.isFileName_of_get? hget (List.mem_append_right _ hn)
  have hnames : ∀ n ∈ outer ++ [name], isName n = true := fun n hn =>
    isName_of_isFileName (hfile n hn)
  refine Workspace.read_eq_ok_iff.2 ⟨_, Workspace.locate_eq_ok_iff.2 ⟨?_, ?_, hshort, ?_⟩, hget⟩
  · intro hmem
    rcases mem_below (by decide) hmem with hmem | ⟨n, hn, hmem⟩
    · exact hnul hmem
    · have hname := hfile n hn
      simp [isFileName, hmem] at hname
  · exact (components_below hroot hnames).2
  · rw [Workspace.base, isAbsolute_below hroot hnames]
    obtain ⟨front, hpieces, hbelow⟩ := pieces_below hroot hnames
    rw [hbelow]
    refine FileTree.walk_names (hpieces.imp (fun h => ?_) (fun h => ?_)) hget (by simp)
    · rwa [← h]
    · rwa [← h]

end BasicLint.Analyzer
