import BasicLint.Proofs.Path
import Mathlib.Data.List.DropRight
import Mathlib.Data.List.Induction
import Mathlib.Data.List.Infix

/-!
# The paths above a path

The parent of a path is a beginning of it, with all of its steps but the last. So the paths above an
absolute path have the beginnings of its steps, the longest first.
-/
namespace BasicLint.Path

variable {path outer : List Char}

/-! ## Beginnings of paths -/

lemma intercalate_prefix_append (ps tail : List (List Char)) :
    ['/'].intercalate ps <+: ['/'].intercalate (ps ++ tail) := by
  induction ps with
  | nil => exact List.nil_prefix
  | cons p ps ih =>
    cases ps with
    | nil =>
      cases tail with
      | nil => exact List.prefix_rfl
      | cons t tail =>
        rw [List.cons_append, List.nil_append, List.intercalate_cons_cons, List.append_assoc,
          List.intercalate_singleton]
        exact List.prefix_append _ _
    | cons q ps =>
      rw [List.cons_append, List.cons_append, List.intercalate_cons_cons,
        List.intercalate_cons_cons]
      exact (List.prefix_append_right_inj _).2 ih

variable {ps : List (List Char)}

/-- The first pieces of a path write a beginning of it. -/
lemma prefix_ofPieces (h : ps <+: pieces path) : ofPieces (isAbsolute path) ps <+: path := by
  unfold ofPieces
  split_ifs with habs
  · obtain ⟨rest, rfl⟩ : ∃ rest, path = '/' :: rest := by
      cases path <;> simp_all [isAbsolute]
    exact List.prefix_append ['/'] rest
  · obtain ⟨tail, htail⟩ := h
    have hbegins := intercalate_prefix_append ps tail
    rwa [htail, intercalate_pieces] at hbegins

lemma isAbsolute_ofPieces (h : ps <+: pieces path) :
    isAbsolute (ofPieces (isAbsolute path) ps) = isAbsolute path := by
  by_cases hne : ofPieces (isAbsolute path) ps = []
  · have hrelative : isAbsolute path = false := by
      by_contra habs
      rw [Bool.not_eq_false] at habs
      rw [habs] at hne
      match ps with
      | [] | [p] => simp [ofPieces] at hne
      | p :: q :: ps => simp [ofPieces] at hne
    rw [hne, hrelative]
    rfl
  · exact isAbsolute_of_prefix_of_ne_nil (prefix_ofPieces h) hne

/-- The first piece of an absolute path is empty. -/
lemma eq_nil_of_prefix_pieces (habs : isAbsolute path = true) {p : List Char}
    (h : p :: ps <+: pieces path) : p = [] := by
  obtain ⟨rest, rfl⟩ : ∃ rest, path = '/' :: rest := by
    cases path <;> simp_all [isAbsolute]
  have hpieces : pieces ('/' :: rest) = [] :: pieces rest := pieces_append_slash [] rest
  rw [hpieces] at h
  exact (List.cons_prefix_cons.1 h).1

lemma steps_ofPieces (h : ps <+: pieces path) :
    steps (ofPieces (isAbsolute path) ps) = ps.filter isStep := by
  unfold ofPieces
  split_ifs with habs
  · simp only [Bool.and_eq_true, decide_eq_true_eq] at habs
    match ps with
    | [] => rfl
    | [p] =>
      rw [eq_nil_of_prefix_pieces habs.1 h]
      rfl
  · by_cases hne : ps = []
    · rw [hne]
      rfl
    · have hslash : ∀ p ∈ ps, '/' ∉ p := fun p hp => slash_not_mem_of_mem_pieces (h.subset hp)
      rw [steps, pieces, List.splitOn_intercalate '/' hslash hne]

/-! ## Parents -/

lemma isStep_of_component?_eq_none {front : Bool} {piece : List Char}
    (h : component? front piece = none) : isStep piece = false := by
  unfold component? at h
  unfold isStep
  split_ifs at h <;> simp_all

lemma isStep_of_component?_ne_none {front : Bool} {piece : List Char}
    (h : component? front piece ≠ none) : isStep piece = true ∨ front = true := by
  unfold component? at h
  unfold isStep
  split_ifs at h <;> simp_all

/-- What is left out of a path behind its last component are pieces that stay where they are. What
is kept ends in a step, or is a single dot. -/
lemma exists_significant (path : List Char) :
    ∃ tail, pieces path = significant path ++ tail ∧ (∀ piece ∈ tail, isStep piece = false) ∧
      ∀ init last, significant path = init ++ [last] →
        isStep last = true ∨ init = [] ∧ isAbsolute path = false := by
  have hkept : significant path = ((pieces path).zipIdx.rdropWhile fun marked =>
    (component? (!isAbsolute path && marked.2 = 0) marked.1).isNone).map (·.1) := rfl
  rw [hkept]
  generalize pieces path = ps
  induction ps using List.reverseRecOn with
  | nil => exact ⟨[], rfl, by simp, by simp⟩
  | append_singleton ps p ih =>
    rw [List.zipIdx_append, List.zipIdx_singleton, List.rdropWhile_concat, Nat.zero_add]
    split_ifs with hstay
    · obtain ⟨tail, htail, hstays, hlast⟩ := ih
      refine ⟨tail ++ [p], ?_, ?_, hlast⟩
      · rw [← List.append_assoc, ← htail]
      · intro piece hpiece
        rcases List.mem_append.1 hpiece with hpiece | hpiece
        · exact hstays piece hpiece
        · obtain rfl := List.mem_singleton.1 hpiece
          exact isStep_of_component?_eq_none (Option.isNone_iff_eq_none.1 hstay)
    · refine ⟨[], by simp, by simp, ?_⟩
      intro init last hsplit
      rw [List.map_append, List.zipIdx_map_fst] at hsplit
      obtain ⟨rfl, hp⟩ := List.append_inj' hsplit rfl
      obtain rfl : p = last := by simpa using hp
      rw [Option.isNone_iff_eq_none] at hstay
      refine (isStep_of_component?_ne_none hstay).imp_right fun hfront => ?_
      simpa [and_comm] using hfront

lemma prefix_significant (path : List Char) : significant path <+: pieces path := by
  obtain ⟨tail, htail, -⟩ := exists_significant path
  exact ⟨tail, htail.symm⟩

lemma filter_significant (path : List Char) : (significant path).filter isStep = steps path := by
  obtain ⟨tail, htail, hstays, -⟩ := exists_significant path
  have hnil : tail.filter isStep = [] := by simpa using hstays
  rw [steps, htail, List.filter_append, hnil, List.append_nil]

lemma filter_dropLast_significant (path : List Char) :
    (significant path).dropLast.filter isStep = (steps path).dropLast := by
  obtain ⟨-, -, -, hlast⟩ := exists_significant path
  rw [← filter_significant]
  rcases List.eq_nil_or_concat (significant path) with hnil | ⟨init, last, hsplit⟩
  · rw [hnil]
    rfl
  · rw [List.concat_eq_append] at hsplit
    rw [hsplit, List.dropLast_concat, List.filter_append]
    rcases hlast init last hsplit with hstep | ⟨rfl, -⟩
    · rw [List.filter_cons_of_pos hstep, List.filter_nil, List.dropLast_concat]
    · cases hstep : isStep last <;> simp [hstep]

/-- The parent of a path is a beginning of it, without its last step. -/
lemma parent?_eq_some (h : parent? path = some outer) :
    outer <+: path ∧ isAbsolute outer = isAbsolute path ∧ steps outer = (steps path).dropLast := by
  have hinit : (significant path).dropLast <+: pieces path :=
    (List.dropLast_prefix _).trans (prefix_significant path)
  simp only [parent?, Option.ite_none_left_eq_some, Option.some.injEq] at h
  obtain ⟨-, h⟩ := h
  have habs := isAbsolute_ofPieces hinit
  have hsteps := steps_ofPieces hinit
  have hbegins := prefix_ofPieces hinit
  generalize ofPieces (isAbsolute path) (significant path).dropLast = above at *
  rw [← habs] at h ⊢
  rw [filter_dropLast_significant] at hsteps
  rw [← h]
  refine ⟨(prefix_ofPieces (prefix_significant above)).trans hbegins, ?_, ?_⟩
  · exact isAbsolute_ofPieces (prefix_significant above)
  · rw [steps_ofPieces (prefix_significant above), filter_significant, hsteps]

lemma steps_eq_nil_of_parent?_eq_none (h : parent? path = none) : steps path = [] := by
  have hnil : significant path = [] := by simpa [parent?] using h
  rw [← filter_significant, hnil, List.filter_nil]

/-- Only the root has no parent among absolute paths. -/
lemma parent?_eq_none_iff (habs : isAbsolute path = true) : parent? path = none ↔ steps path = [] := by
  refine ⟨steps_eq_nil_of_parent?_eq_none, fun hsteps => ?_⟩
  obtain ⟨-, -, -, hlast⟩ := exists_significant path
  rcases List.eq_nil_or_concat (significant path) with hnil | ⟨init, last, hsplit⟩
  · simp [parent?, hnil]
  · rw [List.concat_eq_append] at hsplit
    rw [← filter_significant, hsplit] at hsteps
    rcases hlast init last hsplit with hstep | ⟨-, hrelative⟩
    · simp [hstep] at hsteps
    · rw [habs] at hrelative
      contradiction

/-! ## Ancestors -/

lemma inits_concat {α : Type*} (xs : List α) (x : α) :
    (xs ++ [x]).inits = xs.inits ++ [xs ++ [x]] := by
  simp [List.inits_append]

lemma prefix_of_mem_ancestorsFrom {fuel : Nat} (h : outer ∈ ancestorsFrom fuel path) :
    outer <+: path ∧ isAbsolute outer = isAbsolute path := by
  induction fuel generalizing path with
  | zero =>
    obtain rfl := List.mem_singleton.1 h
    exact ⟨List.prefix_rfl, rfl⟩
  | succ fuel ih =>
    rw [ancestorsFrom] at h
    rcases List.mem_cons.1 h with rfl | h
    · exact ⟨List.prefix_rfl, rfl⟩
    · cases hparent : parent? path with
      | none => simp [hparent] at h
      | some above =>
        rw [hparent] at h
        obtain ⟨hbegins, habs, -⟩ := parent?_eq_some hparent
        exact ⟨(ih h).1.trans hbegins, (ih h).2.trans habs⟩

/-- The paths above an absolute path have the beginnings of its steps, the longest first. -/
lemma map_steps_ancestorsFrom {fuel : Nat} (habs : isAbsolute path = true)
    (hfuel : path.length ≤ fuel) :
    (ancestorsFrom fuel path).map steps = (steps path).inits.reverse := by
  induction fuel generalizing path with
  | zero =>
    obtain rfl : path = [] := List.eq_nil_of_length_eq_zero (Nat.le_zero.1 hfuel)
    simp [isAbsolute] at habs
  | succ fuel ih =>
    rw [ancestorsFrom]
    cases hparent : parent? path with
    | none => simp [(parent?_eq_none_iff habs).1 hparent]
    | some above =>
      obtain ⟨hbegins, habove, hsteps⟩ := parent?_eq_some hparent
      have hne : steps path ≠ [] := by
        rw [ne_eq, ← parent?_eq_none_iff habs, hparent]
        simp
      have hshorter : above.length < path.length := by
        refine hbegins.length_le.lt_of_ne fun hlength => ?_
        rw [hbegins.eq_of_length hlength] at hsteps
        have hless := List.length_pos_iff.2 hne
        have hsame := congrArg List.length hsteps
        rw [List.length_dropLast] at hsame
        omega
      have hrest := ih (habove.trans habs) (by omega)
      obtain ⟨init, last, hsplit⟩ := (List.eq_nil_or_concat (steps path)).resolve_left hne
      rw [List.concat_eq_append] at hsplit
      rw [hsplit, List.dropLast_concat] at hsteps
      simp [hrest, hsteps, hsplit]

lemma map_steps_ancestors (habs : isAbsolute path = true) :
    (ancestors path).map steps = (steps path).inits.reverse :=
  map_steps_ancestorsFrom habs le_rfl

lemma prefix_of_mem_ancestors (h : outer ∈ ancestors path) :
    outer <+: path ∧ isAbsolute outer = isAbsolute path :=
  prefix_of_mem_ancestorsFrom h

lemma steps_prefix_of_mem_ancestors (habs : isAbsolute path = true) (h : outer ∈ ancestors path) :
    steps outer <+: steps path := by
  have hmem := List.mem_map_of_mem (f := steps) h
  rw [map_steps_ancestors habs, List.mem_reverse] at hmem
  exact (List.mem_inits _ _).1 hmem

/-- Every beginning of the steps of an absolute path is reached on the way up. -/
lemma exists_mem_ancestors (habs : isAbsolute path = true) {location : List (List Char)}
    (h : location <+: steps path) : ∃ outer ∈ ancestors path, steps outer = location := by
  rw [← List.mem_map, map_steps_ancestors habs, List.mem_reverse]
  exact (List.mem_inits _ _).2 h

lemma pairwise_length_inits {α : Type*} (xs : List α) :
    xs.inits.Pairwise fun a b => a.length < b.length := by
  induction xs using List.reverseRecOn with
  | nil => simp
  | append_singleton xs x ih =>
    rw [inits_concat, List.pairwise_append]
    refine ⟨ih, List.pairwise_singleton _ _, fun a ha b hb => ?_⟩
    obtain rfl := List.mem_singleton.1 hb
    have hle := ((List.mem_inits _ _).1 ha).length_le
    rw [List.length_append, List.length_singleton]
    omega

/-- On the way up, steps only get fewer. -/
lemma pairwise_ancestors (habs : isAbsolute path = true) :
    (ancestors path).Pairwise fun inner outer => (steps outer).length < (steps inner).length := by
  have hinits : ((ancestors path).map steps).Pairwise fun a b => b.length < a.length := by
    rw [map_steps_ancestors habs, List.pairwise_reverse]
    exact pairwise_length_inits _
  exact List.pairwise_map.1 hinits

/-- What has more steps than a path on the way up comes before it. -/
lemma mem_inner_of_length_lt (habs : isAbsolute path = true) {inner rest : List (List Char)}
    {other : List Char} (hsplit : ancestors path = inner ++ outer :: rest)
    (hother : other ∈ ancestors path) (hlonger : (steps outer).length < (steps other).length) :
    other ∈ inner := by
  have hpairwise := pairwise_ancestors habs
  rw [hsplit] at hother hpairwise
  rcases List.mem_append.1 hother with hother | hother
  · exact hother
  · rcases List.mem_cons.1 hother with rfl | hother
    · exact absurd hlonger (Nat.lt_irrefl _)
    · have hbehind := (List.pairwise_append.1 hpairwise).2.1
      have hshorter := (List.pairwise_cons.1 hbehind).1 other hother
      omega

end BasicLint.Path
