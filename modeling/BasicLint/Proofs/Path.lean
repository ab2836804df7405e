import BasicLint.Path
import BasicLint.Text.Lines
import Mathlib.Data.Char
import Mathlib.Data.List.Lex
import Mathlib.Order.Basic

/-!
# Joining and ordering paths

Going on from a path adds to its pieces and to its components, whether it ends in a slash or not.
Paths are ordered component by component, and that order is total on components.
-/
namespace BasicLint.Path

/-! ## Pieces -/

lemma pieces_append_slash (a b : List Char) : pieces (a ++ '/' :: b) = pieces a ++ pieces b :=
  List.splitOn_append_cons_self a b

lemma pieces_of_slash_not_mem {s : List Char} (h : '/' ∉ s) : pieces s = [s] :=
  List.splitOn_eq_singleton h

lemma pieces_ne_nil (path : List Char) : pieces path ≠ [] := List.splitOn_ne_nil '/' path

/-- The pieces between separators hold none. -/
lemma not_mem_of_mem_splitOn {separator : Char} {s piece : List Char}
    (h : piece ∈ s.splitOn separator) : separator ∉ piece := by
  induction s generalizing piece with
  | nil =>
    obtain rfl : piece = [] := by simpa using h
    exact List.not_mem_nil
  | cons c s ih =>
    obtain ⟨first, rest, hpieces⟩ := List.exists_cons_of_ne_nil (List.splitOn_ne_nil separator s)
    rw [List.splitOn_cons_eq_if_modifyHead, hpieces] at h
    have hih : ∀ piece ∈ first :: rest, separator ∉ piece := by
      intro piece hpiece
      exact ih (by rwa [hpieces])
    split at h
    · rcases List.mem_cons.1 h with rfl | h
      · exact List.not_mem_nil
      · exact hih piece h
    · rename_i hc
      rw [List.modifyHead_cons, List.mem_cons] at h
      rcases h with rfl | h
      · have hfirst := hih first List.mem_cons_self
        simp only [beq_iff_eq] at hc
        simp [hfirst, Ne.symm hc]
      · exact hih piece (List.mem_cons_of_mem _ h)

lemma slash_not_mem_of_mem_pieces {path piece : List Char} (h : piece ∈ pieces path) :
    '/' ∉ piece :=
  not_mem_of_mem_splitOn h

lemma mem_intercalate {c separator : Char} {ps : List (List Char)} (hc : c ≠ separator)
    (h : c ∈ [separator].intercalate ps) : ∃ piece ∈ ps, c ∈ piece := by
  induction ps with
  | nil => simp at h
  | cons p ps ih =>
    cases ps with
    | nil =>
      rw [List.intercalate_singleton] at h
      exact ⟨p, List.mem_cons_self, h⟩
    | cons q ps =>
      rw [List.intercalate_cons_cons, List.append_assoc, List.mem_append, List.mem_append,
        List.mem_singleton] at h
      rcases h with h | h | h
      · exact ⟨p, List.mem_cons_self, h⟩
      · exact absurd h hc
      · obtain ⟨piece, hpiece, hmem⟩ := ih h
        exact ⟨piece, List.mem_cons_of_mem _ hpiece, hmem⟩

lemma intercalate_pieces (path : List Char) : ['/'].intercalate (pieces path) = path :=
  List.intercalate_splitOn '/'

/-- Whether a piece leads on. An empty piece and a dot stay where they are. -/
def isStep (piece : List Char) : Bool := !(piece.isEmpty || piece = ['.'])

/-- The pieces of a path that lead on. -/
def steps (path : List Char) : List (List Char) := (pieces path).filter isStep

lemma isStep_of_isName {name : List Char} (h : isName name = true) : isStep name = true := by
  simp only [isName, isStep, Bool.and_eq_true, bne_iff_ne, ne_eq, Bool.not_eq_true',
    Bool.or_eq_false_iff, decide_eq_false_iff_not] at h ⊢
  exact ⟨h.1.1.1, h.1.1.2⟩

lemma slash_not_mem_of_isName {name : List Char} (h : isName name = true) : '/' ∉ name := by
  simp only [isName, Bool.and_eq_true, Bool.not_eq_true', List.contains_eq_mem,
    decide_eq_false_iff_not] at h
  exact h.2

lemma isAbsolute_of_slash_not_mem {name : List Char} (h : '/' ∉ name) :
    isAbsolute name = false := by
  cases name with
  | nil => rfl
  | cons c name =>
    have hc : c ≠ '/' := by
      rintro rfl
      exact h List.mem_cons_self
    simp [isAbsolute, hc]

lemma isAbsolute_of_prefix_of_ne_nil {outer path : List Char} (h : outer <+: path) (hne : outer ≠ []) :
    isAbsolute outer = isAbsolute path := by
  obtain ⟨behind, rfl⟩ := h
  obtain ⟨c, rest, rfl⟩ := List.exists_cons_of_ne_nil hne
  rfl

lemma ne_nil_of_isAbsolute {path : List Char} (h : isAbsolute path = true) : path ≠ [] := by
  rintro rfl
  simp [isAbsolute] at h

@[simp] lemma steps_nil : steps [] = [] := rfl

lemma steps_append_slash (a b : List Char) : steps (a ++ '/' :: b) = steps a ++ steps b := by
  rw [steps, pieces_append_slash, List.filter_append, steps, steps]

/-- A character other than a dot or a slash belongs to a step. -/
lemma exists_mem_steps {path : List Char} {c : Char} (hslash : c ≠ '/') (hdot : c ≠ '.')
    (h : c ∈ path) : ∃ step ∈ steps path, c ∈ step := by
  rw [← intercalate_pieces path] at h
  obtain ⟨piece, hpiece, hc⟩ := mem_intercalate hslash h
  refine ⟨piece, List.mem_filter.2 ⟨hpiece, ?_⟩, hc⟩
  have hne : piece ≠ ['.'] := by
    rintro rfl
    exact hdot (List.mem_singleton.1 hc)
  simp [isStep, hne, List.ne_nil_of_mem hc]

lemma parent_mem_steps {path : List Char} (h : ['.', '.'] ∈ pieces path) : ['.', '.'] ∈ steps path :=
  List.mem_filter.2 ⟨h, rfl⟩

lemma steps_of_isName {name : List Char} (h : isName name = true) : steps name = [name] := by
  rw [steps, pieces_of_slash_not_mem (slash_not_mem_of_isName h),
    List.filter_cons_of_pos (isStep_of_isName h), List.filter_nil]

/-! ## Joining -/

/-- A relative path goes on behind a slash, which is there already or is put there. -/
lemma join_cases (directory : List Char) {path : List Char} (h : isAbsolute path = false) :
    (directory = [] ∧ join directory path = path) ∨
      (∃ outer, directory = outer ++ ['/'] ∧ join directory path = outer ++ '/' :: path) ∨
      (directory ≠ [] ∧ join directory path = directory ++ '/' :: path) := by
  unfold join
  rw [if_neg (by simp [h])]
  rcases List.eq_nil_or_concat directory with rfl | ⟨outer, last, rfl⟩
  · exact .inl ⟨rfl, rfl⟩
  · by_cases hlast : last = '/'
    · refine .inr (.inl ⟨outer, by rw [hlast, List.concat_eq_append], ?_⟩)
      simp [hlast]
    · refine .inr (.inr ⟨by simp, ?_⟩)
      simp [hlast]

lemma join_of_isAbsolute (directory : List Char) {path : List Char} (h : isAbsolute path = true) :
    join directory path = path := if_pos h

/-- The steps of a path and those from there on. -/
lemma steps_join (directory : List Char) {path : List Char} (h : isAbsolute path = false) :
    steps (join directory path) = steps directory ++ steps path := by
  rcases join_cases directory h with ⟨rfl, hj⟩ | ⟨outer, rfl, hj⟩ | ⟨-, hj⟩
  · rw [hj]
    rfl
  · rw [hj, steps_append_slash, steps_append_slash, steps_nil, List.append_nil]
  · rw [hj, steps_append_slash]

/-- A name is one more step. -/
lemma steps_join_name (directory : List Char) {name : List Char} (h : isName name = true) :
    steps (join directory name) = steps directory ++ [name] := by
  rw [steps_join directory (isAbsolute_of_slash_not_mem (slash_not_mem_of_isName h)),
    steps_of_isName h]

/-- A name is the last piece of the path to it; what stands before it are the pieces of the directory
up to a trailing slash. -/
lemma pieces_join_name {directory name : List Char} (hd : directory ≠ []) (hname : '/' ∉ name) :
    ∃ outer, (pieces directory = outer ∨ pieces directory = outer ++ [[]]) ∧
      pieces (join directory name) = outer ++ [name] := by
  rcases join_cases directory (isAbsolute_of_slash_not_mem hname) with
    ⟨rfl, -⟩ | ⟨outer, rfl, hj⟩ | ⟨-, hj⟩
  · exact absurd rfl hd
  · refine ⟨pieces outer, .inr (pieces_append_slash outer []), ?_⟩
    rw [hj, pieces_append_slash, pieces_of_slash_not_mem hname]
  · refine ⟨pieces directory, .inl rfl, ?_⟩
    rw [hj, pieces_append_slash, pieces_of_slash_not_mem hname]

lemma prefix_join {directory path : List Char} (h : isAbsolute path = false) :
    directory <+: join directory path := by
  rcases join_cases directory h with ⟨rfl, -⟩ | ⟨outer, rfl, hj⟩ | ⟨-, hj⟩
  · exact List.nil_prefix
  · rw [hj]
    exact ⟨path, by simp⟩
  · rw [hj]
    exact List.prefix_append _ _

/-- Going on from an absolute path gives an absolute path. -/
lemma isAbsolute_join {directory : List Char} (path : List Char)
    (h : isAbsolute directory = true) : isAbsolute (join directory path) = true := by
  by_cases hpath : isAbsolute path = true
  · rwa [join_of_isAbsolute directory hpath]
  · have hbegins : directory <+: join directory path := prefix_join (by simpa using hpath)
    rw [← isAbsolute_of_prefix_of_ne_nil hbegins (ne_nil_of_isAbsolute h), h]

lemma byteLength_le_join (directory : List Char) {path : List Char} (h : isAbsolute path = false) :
    Text.byteLength directory + Text.byteLength path ≤ Text.byteLength (join directory path) := by
  rcases join_cases directory h with ⟨rfl, hj⟩ | ⟨outer, rfl, hj⟩ | ⟨-, hj⟩
  · simp [hj]
  · simp only [hj, Text.byteLength_append, Text.byteLength_cons, Text.byteLength_nil]
    omega
  · simp only [hj, Text.byteLength_append, Text.byteLength_cons]
    omega

/-- A longer directory leaves less room for a name. -/
lemma byteLength_join_le {outer directory path : List Char} (h : isAbsolute path = false)
    (hbegins : outer <+: directory) :
    Text.byteLength (join outer path) ≤ Text.byteLength (join directory path) := by
  obtain ⟨behind, rfl⟩ := hbegins
  cases behind with
  | nil => rw [List.append_nil]
  | cons c behind =>
    have hc := Char.utf8Size_pos c
    have hle := byteLength_le_join (outer ++ c :: behind) h
    simp only [Text.byteLength_append, Text.byteLength_cons] at hle
    rcases join_cases outer h with ⟨rfl, hj⟩ | ⟨front, rfl, hj⟩ | ⟨-, hj⟩
    · rw [hj]
      omega
    · simp only [hj, Text.byteLength_append, Text.byteLength_cons, Text.byteLength_nil] at hle ⊢
      omega
    · have hslash : '/'.utf8Size = 1 := rfl
      simp only [hj, Text.byteLength_append, Text.byteLength_cons]
      omega

lemma mem_join {directory path : List Char} {c : Char} (hc : c ≠ '/')
    (h : c ∈ join directory path) : c ∈ directory ∨ c ∈ path := by
  unfold join at h
  split_ifs at h
  · exact .inr h
  · exact List.mem_append.1 h
  · rcases List.mem_append.1 h with h | h
    · exact .inl h
    · exact .inr ((List.mem_cons.1 h).resolve_left hc)

/-! ## Components -/

lemma isAbsolute_append_slash (a b : List Char) :
    isAbsolute (a ++ '/' :: b) = isAbsolute (a ++ ['/']) := by
  cases a <;> rfl

/-- What stands behind a slash adds components of its own. -/
lemma components_append_slash (a b : List Char) :
    components (a ++ '/' :: b) =
      components (a ++ ['/']) ++ (pieces b).filterMap (component? false) := by
  obtain ⟨first, rest, ha⟩ := List.exists_cons_of_ne_nil (pieces_ne_nil a)
  have hnil : pieces [] = [[]] := rfl
  simp only [components, pieces_append_slash, ha, isAbsolute_append_slash a b, hnil,
    List.cons_append, List.filterMap_append, List.append_assoc]
  rfl

lemma components_slash {a : List Char} (ha : a ≠ []) : components (a ++ ['/']) = components a := by
  obtain ⟨first, rest, hpieces⟩ := List.exists_cons_of_ne_nil (pieces_ne_nil a)
  have hnil : pieces [] = [[]] := rfl
  have habs : isAbsolute (a ++ ['/']) = isAbsolute a := by
    cases a with
    | nil => exact absurd rfl ha
    | cons c a => rfl
  simp only [components, pieces_append_slash, hpieces, habs, hnil, List.cons_append,
    List.filterMap_append]
  simp [component?]

/-- A name in a directory adds one component. -/
lemma components_join {directory name : List Char} (hd : directory ≠ [])
    (hname : isName name = true) :
    components (join directory name) = components directory ++ [.name name] := by
  have hslash := slash_not_mem_of_isName hname
  have hlast : (pieces name).filterMap (component? false) = [.name name] := by
    simp only [isName, Bool.and_eq_true, bne_iff_ne, ne_eq, Bool.not_eq_true'] at hname
    rw [pieces_of_slash_not_mem hslash]
    simp [component?, hname]
  rcases join_cases directory (isAbsolute_of_slash_not_mem hslash) with
    ⟨rfl, -⟩ | ⟨outer, rfl, hj⟩ | ⟨-, hj⟩
  · exact absurd rfl hd
  · rw [hj, components_append_slash, hlast]
  · rw [hj, components_append_slash, hlast, components_slash hd]

/-! ## Order -/

/-- A path that comes strictly before another, component by component. -/
def Before (a b : List Char) : Prop :=
  List.Lex (fun x y => Component.before x y = true) (components a) (components b)

lemma Component.before_iff {a b : Component} :
    a.before b = true ↔ a.rank < b.rank ∨ a.rank = b.rank ∧ a.text < b.text := by
  simp [before]

lemma Component.before_trans {a b c : Component} (h : a.before b = true) (h' : b.before c = true) :
    a.before c = true := by
  rw [before_iff] at *
  rcases h with h | ⟨h, ht⟩ <;> rcases h' with h' | ⟨h', ht'⟩
  · exact .inl (h.trans h')
  · exact .inl (h' ▸ h)
  · exact .inl (h ▸ h')
  · exact .inr ⟨h.trans h', ht.trans ht'⟩

lemma Component.eq_of_rank_text {a b : Component} (hr : a.rank = b.rank) (ht : a.text = b.text) :
    a = b := by
  cases a <;> cases b <;> simp_all [rank, text]

lemma Component.before_total {a b : Component} (h : a ≠ b) :
    a.before b = true ∨ b.before a = true := by
  rw [before_iff, before_iff]
  rcases lt_trichotomy a.rank b.rank with hr | hr | hr
  · exact .inl (.inl hr)
  · rcases lt_trichotomy a.text b.text with ht | ht | ht
    · exact .inl (.inr ⟨hr, ht⟩)
    · exact absurd (eq_of_rank_text hr ht) h
    · exact .inr (.inr ⟨hr.symm, ht⟩)
  · exact .inr (.inl hr)

lemma componentsLe_iff {as bs : List Component} : componentsLe as bs = true ↔
    as = bs ∨ List.Lex (fun x y => Component.before x y = true) as bs := by
  induction as generalizing bs with
  | nil => cases bs <;> simp [componentsLe]
  | cons a as ih =>
    cases bs with
    | nil => simp [componentsLe]
    | cons b bs =>
      simp only [componentsLe, Bool.or_eq_true, Bool.and_eq_true, decide_eq_true_eq, ih,
        List.cons.injEq]
      constructor
      · rintro (h | ⟨rfl, rfl | h⟩)
        · exact .inr (.rel h)
        · exact .inl ⟨rfl, rfl⟩
        · exact .inr (.cons h)
      · rintro (⟨rfl, rfl⟩ | h)
        · exact .inr ⟨rfl, .inl rfl⟩
        · cases h with
          | rel h => exact .inl h
          | cons h => exact .inr ⟨rfl, .inr h⟩

lemma componentsLe_total (as bs : List Component) :
    componentsLe as bs = true ∨ componentsLe bs as = true := by
  induction as generalizing bs with
  | nil => exact .inl rfl
  | cons a as ih =>
    cases bs with
    | nil => exact .inr rfl
    | cons b bs =>
      simp only [componentsLe, Bool.or_eq_true, Bool.and_eq_true, decide_eq_true_eq]
      by_cases h : a = b
      · exact (ih bs).imp (fun hle => .inr ⟨h, hle⟩) (fun hle => .inr ⟨h.symm, hle⟩)
      · exact (Component.before_total h).imp .inl .inl

lemma componentsLe_trans {as bs cs : List Component} (h : componentsLe as bs = true)
    (h' : componentsLe bs cs = true) : componentsLe as cs = true := by
  rw [componentsLe_iff] at *
  rcases h with rfl | h
  · exact h'
  · rcases h' with rfl | h'
    · exact .inr h
    · exact .inr (List.lex_trans Component.before_trans h h')

lemma le_trans (a b c : List Char) (h : le a b = true) (h' : le b c = true) : le a c = true :=
  componentsLe_trans h h'

lemma le_total (a b : List Char) : (le a b || le b a) = true := by
  rw [Bool.or_eq_true]
  exact componentsLe_total _ _

/-- Sorted paths with different components are in strict order. -/
lemma pairwise_before_mergeSort {paths : List (List Char)}
    (h : (paths.map components).Nodup) : (paths.mergeSort le).Pairwise Before := by
  have hne : (paths.mergeSort le).Pairwise (fun a b => components a ≠ components b) :=
    List.pairwise_map.1 (((List.mergeSort_perm paths le).map components).nodup_iff.2 h)
  refine (hne.and (List.pairwise_mergeSort le_trans le_total paths)).imp ?_
  rintro a b ⟨hab, hle⟩
  exact (componentsLe_iff.1 hle).resolve_left hab

end BasicLint.Path
