import BasicLint.Proofs.Text.Blank
import BasicLint.Text.Scan

/-!
# Lines and places

The lines of a text are its only cut into pieces of which each but the last ends in its one line
feed. A place in a text is given by the text before it and the text from it on. Its line is one more
than the line feeds before it, and that line is put together from what stands behind the last of
these line feeds and from the first line of the rest. Since the rest is not empty there is such a
line.
-/
namespace BasicLint.Text

/-- What a text holds behind its last line feed. -/
def lineStart (u : List Char) : List Char := u.rtakeWhile (· != '\n')

/-- The first line of a text, with its terminator. -/
def firstLine (s : List Char) : List Char := (lines s).headD []

/-- A run of a class that leaves out the line feed holds none. -/
lemma newline_not_mem_of_class {p : Char → Bool} (hp : p '\n' = false) {s : List Char}
    (hs : ∀ c ∈ s, p c = true) : '\n' ∉ s := by
  intro hmem
  exact absurd (hs _ hmem) (by simp [hp])

lemma lines_ne_nil {s : List Char} (hs : s ≠ []) : lines s ≠ [] := by
  intro h
  have hf := flatten_lines s
  rw [h] at hf
  exact hs (by simpa using hf.symm)

lemma lines_cons_newline (s : List Char) : lines ('\n' :: s) = ['\n'] :: lines s := by
  simp [extendLines]

lemma lines_cons_of_ne {c : Char} (hc : c ≠ '\n') (s : List Char) :
    lines (c :: s) = (c :: firstLine s) :: (lines s).tail := by
  rw [lines_cons, firstLine]
  unfold extendLines
  rw [if_neg hc]
  cases lines s <;> rfl

lemma firstLine_cons_of_ne {c : Char} (hc : c ≠ '\n') (s : List Char) :
    firstLine (c :: s) = c :: firstLine s := by
  rw [firstLine, lines_cons_of_ne hc, List.headD_cons]

/-- Text without a line feed at the start of a text belongs to its first line. -/
lemma firstLine_append {a : List Char} (ha : '\n' ∉ a) (s : List Char) :
    firstLine (a ++ s) = a ++ firstLine s := by
  induction a with
  | nil => rfl
  | cons c a ih =>
    simp only [List.mem_cons, not_or] at ha
    rw [List.cons_append, firstLine_cons_of_ne (Ne.symm ha.1), ih ha.2, List.cons_append]

lemma firstLine_cons_newline (s : List Char) : firstLine ('\n' :: s) = ['\n'] := by
  rw [firstLine, lines_cons_newline, List.headD_cons]

lemma head?_firstLine (s : List Char) : (firstLine s).head? = s.head? := by
  cases s with
  | nil => rfl
  | cons c s =>
    by_cases hc : c = '\n'
    · rw [hc, firstLine_cons_newline]
      rfl
    · rw [firstLine_cons_of_ne hc]
      rfl

lemma firstLine_prefix (s : List Char) : firstLine s <+: s := by
  cases hs : lines s with
  | nil => simp [firstLine, hs]
  | cons l ls =>
    refine ⟨ls.flatten, ?_⟩
    rw [firstLine, hs, List.headD_cons]
    simpa [hs] using flatten_lines s

/-- Text without a line feed starts the first line exactly if it starts the text; the rest of the
first line follows it. -/
lemma firstLine_eq_append_iff {s x y : List Char} (hx : '\n' ∉ x) :
    firstLine s = x ++ y ↔ ∃ t, s = x ++ t ∧ firstLine t = y := by
  constructor
  · intro h
    obtain ⟨r, hr⟩ := firstLine_prefix s
    rw [h, List.append_assoc] at hr
    refine ⟨y ++ r, hr.symm, ?_⟩
    rw [← hr, firstLine_append hx] at h
    exact List.append_cancel_left h
  · rintro ⟨t, rfl, rfl⟩
    exact firstLine_append hx t

/-- The first line is blank exactly if the blanks at the start of the text reach its end. -/
lemma firstLine_blank_iff {s : List Char} :
    (∀ c ∈ firstLine s, isBlank c = true) ↔
      ∀ c ∈ (s.dropWhile isInlineBlank).head?, c = '\n' := by
  induction s with
  | nil => simp [firstLine]
  | cons c s ih =>
    by_cases hc : c = '\n'
    · subst hc
      simp [firstLine_cons_newline]
    · rw [firstLine_cons_of_ne hc, List.forall_mem_cons, ih, List.dropWhile_cons,
        isInlineBlank_of_ne hc]
      cases hb : isBlank c <;> simp [hc]

/-- Blanks before a text leave its first line blank. -/
lemma firstLine_append_blank {u s : List Char} (hu : ∀ c ∈ u, isBlank c = true)
    (hs : ∀ c ∈ firstLine s, isBlank c = true) : ∀ c ∈ firstLine (u ++ s), isBlank c = true := by
  induction u with
  | nil => exact hs
  | cons d u ih =>
    rw [List.forall_mem_cons] at hu
    by_cases hd : d = '\n'
    · subst hd
      simp [firstLine_cons_newline]
    · rw [List.cons_append, firstLine_cons_of_ne hd, List.forall_mem_cons]
      exact ⟨hu.1, ih hu.2⟩

/-- Text without a line feed up to a line feed is a line. -/
lemma lines_append_newline {a : List Char} (ha : '\n' ∉ a) (s : List Char) :
    lines (a ++ '\n' :: s) = (a ++ ['\n']) :: lines s := by
  induction a with
  | nil => exact lines_cons_newline s
  | cons c a ih =>
    simp only [List.mem_cons, not_or] at ha
    rw [List.cons_append, lines_cons_of_ne (Ne.symm ha.1), firstLine, ih ha.2]
    rfl

/-- A line feed keeps the lines before it apart from those behind it. -/
lemma lines_append_newline_append (u s : List Char) :
    lines (u ++ '\n' :: s) = lines (u ++ ['\n']) ++ lines s := by
  induction u with
  | nil => rfl
  | cons c u ih =>
    by_cases hc : c = '\n'
    · subst hc
      rw [List.cons_append, lines_cons_newline, ih, List.cons_append, lines_cons_newline,
        List.cons_append]
    · obtain ⟨l, ls, hl⟩ := List.exists_cons_of_ne_nil
        (lines_ne_nil (show u ++ ['\n'] ≠ [] by simp))
      simp only [List.cons_append, lines_cons_of_ne hc, firstLine, ih, hl, List.headD_cons,
        List.tail_cons]

/-- A line has a line feed at its end or none at all. -/
theorem mem_lines {l s : List Char} (h : l ∈ lines s) :
    ∃ body, '\n' ∉ body ∧ (l = body ∨ l = body ++ ['\n']) := by
  induction s generalizing l with
  | nil => simp at h
  | cons c s ih =>
    by_cases hc : c = '\n'
    · subst hc
      rw [lines_cons_newline, List.mem_cons] at h
      rcases h with rfl | h
      · exact ⟨[], by simp, .inr rfl⟩
      · exact ih h
    · rw [lines_cons_of_ne hc, List.mem_cons] at h
      rcases h with rfl | h
      · by_cases hs : lines s = []
        · exact ⟨[c], by simp [Ne.symm hc], .inl (by simp [firstLine, hs])⟩
        · have hmem : firstLine s ∈ lines s := by
            obtain ⟨l, ls, hl⟩ := List.exists_cons_of_ne_nil hs
            simp [firstLine, hl]
          obtain ⟨body, hb, hl | hl⟩ := ih hmem
          · exact ⟨c :: body, by simp [hb, Ne.symm hc], .inl (by rw [hl])⟩
          · exact ⟨c :: body, by simp [hb, Ne.symm hc], .inr (by rw [hl]; rfl)⟩
      · exact ih (List.mem_of_mem_tail h)

lemma ne_nil_of_mem_lines {l s : List Char} (h : l ∈ lines s) : l ≠ [] := by
  induction s with
  | nil => simp at h
  | cons c s ih =>
    by_cases hc : c = '\n'
    · subst hc
      rw [lines_cons_newline, List.mem_cons] at h
      rcases h with rfl | h
      · exact List.cons_ne_nil _ _
      · exact ih h
    · rw [lines_cons_of_ne hc, List.mem_cons] at h
      rcases h with rfl | h
      · exact List.cons_ne_nil _ _
      · exact ih (List.mem_of_mem_tail h)

/-- Text without a line feed at the start of a text is put before the first of its lines. -/
lemma lines_append_of_newline_not_mem {u : List Char} (hne : u ≠ []) (hu : '\n' ∉ u)
    (s : List Char) : lines (u ++ s) = (u ++ firstLine s) :: (lines s).tail := by
  induction u with
  | nil => exact absurd rfl hne
  | cons c u ih =>
    simp only [List.mem_cons, not_or] at hu
    rw [List.cons_append, lines_cons_of_ne (Ne.symm hu.1), firstLine_append hu.2, List.cons_append]
    by_cases hnil : u = []
    · rw [hnil, List.nil_append, List.nil_append]
    · rw [ih hnil hu.2, List.tail_cons]

lemma lines_of_newline_not_mem {u : List Char} (hne : u ≠ []) (hu : '\n' ∉ u) : lines u = [u] := by
  simpa [firstLine] using lines_append_of_newline_not_mem hne hu []

lemma newline_not_mem_dropLast {l s : List Char} (h : l ∈ lines s) : '\n' ∉ l.dropLast := by
  obtain ⟨body, hbody, rfl | rfl⟩ := mem_lines h
  · exact fun hl => hbody (List.dropLast_subset l hl)
  · rwa [List.dropLast_concat]

/-- Text with no line feed but at its end is one line. -/
lemma lines_of_newline_last {l : List Char} (hne : l ≠ []) (hl : '\n' ∉ l.dropLast) :
    lines l = [l] := by
  rw [← List.dropLast_concat_getLast hne]
  by_cases hlast : l.getLast hne = '\n'
  · rw [hlast, lines_append_newline hl, lines_nil]
  · refine lines_of_newline_not_mem (by simp) ?_
    simpa [hl] using Ne.symm hlast

/-- A line by itself is a text of one line. -/
lemma lines_of_mem_lines {l s : List Char} (h : l ∈ lines s) : lines l = [l] :=
  lines_of_newline_last (ne_nil_of_mem_lines h) (newline_not_mem_dropLast h)

/-- At the start of a line a text goes on with lines of its own. -/
lemma lines_append_of_lineEdge {u : List Char} (hu : lineEdge u.getLast? = true) (s : List Char) :
    lines (u ++ s) = lines u ++ lines s := by
  rcases List.eq_nil_or_concat' u with rfl | ⟨v, c, rfl⟩
  · rfl
  · obtain rfl : c = '\n' := by simpa using hu
    rw [List.append_assoc, List.singleton_append, lines_append_newline_append]

/-- A text is what stands before one of its lines, that line, and what stands behind it. -/
lemma eq_append_of_getElem?_lines {s l : List Char} {i : Nat} (h : (lines s)[i]? = some l) :
    s = ((lines s).take i).flatten ++ (l ++ ((lines s).drop (i + 1)).flatten) := by
  conv_lhs => rw [← flatten_lines s, ← List.take_append_drop i (lines s),
    List.drop_eq_getElem?_toList_append, h]
  simp

/-- There are as many line feeds before a line as there are lines. -/
lemma count_newline_flatten_take {s : List Char} {i : Nat} (hi : i < (lines s).length) :
    ((lines s).take i).flatten.count '\n' = i := by
  induction i generalizing s with
  | zero => simp
  | succ i ih =>
    have hmem : '\n' ∈ s := by
      by_contra hs
      have hne : s ≠ [] := by
        rintro rfl
        simp at hi
      rw [lines_of_newline_not_mem hne hs, List.length_singleton] at hi
      omega
    obtain ⟨body, t, rfl, hbody⟩ := List.eq_append_cons_of_mem hmem
    rw [lines_append_newline hbody, List.length_cons] at hi
    rw [lines_append_newline hbody, List.take_succ_cons, List.flatten_cons, List.count_append,
      ih (by omega), List.count_append, List.count_eq_zero.2 hbody, List.count_singleton_self]
    omega

/-! ## The only cut -/

/-- Pieces that make up a text. None is empty, a line feed stands only at the end of a piece, and no
piece but the last can lack it. -/
structure IsCut (ls : List (List Char)) (s : List Char) : Prop where
  flatten_eq : ls.flatten = s
  ne_nil : ∀ l ∈ ls, l ≠ []
  newline_last : ∀ l ∈ ls, '\n' ∉ l.dropLast
  ended : ∀ l ∈ ls.dropLast, l.getLast? = some '\n'

/-- Where another line follows, more line feeds stand before that one, so the line holds one. -/
lemma getLast?_of_mem_dropLast_lines {l s : List Char} (h : l ∈ (lines s).dropLast) :
    l.getLast? = some '\n' := by
  obtain ⟨i, hi, hl⟩ := List.getElem_of_mem h
  rw [List.length_dropLast] at hi
  rw [List.getElem_dropLast] at hl
  have hcount : ((lines s).take (i + 1)).flatten.count '\n' = i + 1 :=
    count_newline_flatten_take (by omega)
  rw [List.take_succ_eq_append_getElem (by omega), hl, List.flatten_append, List.flatten_singleton,
    List.count_append, count_newline_flatten_take (by omega)] at hcount
  have hmem : '\n' ∈ l := List.count_pos_iff.1 (by omega)
  obtain ⟨body, hbody, rfl | rfl⟩ := mem_lines (List.dropLast_subset _ h)
  · exact absurd hmem hbody
  · exact List.getLast?_concat

theorem isCut_lines (s : List Char) : IsCut (lines s) s where
  flatten_eq := flatten_lines s
  ne_nil _ := ne_nil_of_mem_lines
  newline_last _ := newline_not_mem_dropLast
  ended _ := getLast?_of_mem_dropLast_lines

/-- There is no other cut. -/
theorem IsCut.eq_lines {ls : List (List Char)} {s : List Char} (h : IsCut ls s) : ls = lines s := by
  obtain ⟨rfl, hne, hlast, hended⟩ := h
  induction ls with
  | nil => rfl
  | cons l ls ih =>
    rw [List.forall_mem_cons] at hne hlast
    have hl := lines_of_newline_last hne.1 hlast.1
    cases ls with
    | nil => simp [hl]
    | cons l' ls =>
      rw [List.dropLast_cons_cons, List.forall_mem_cons] at hended
      rw [List.flatten_cons, lines_append_of_lineEdge (by simp [hended.1]), hl,
        ← ih hne.2 hlast.2 hended.2, List.singleton_append]

/-- Texts that each end in their only line feed are the lines of what they make together. -/
lemma lines_flatten {ls : List (List Char)}
    (h : ∀ l ∈ ls, ∃ body, '\n' ∉ body ∧ l = body ++ ['\n']) : lines ls.flatten = ls := by
  have hcut : IsCut ls ls.flatten := by
    refine ⟨rfl, fun l hl => ?_, fun l hl => ?_, fun l hl => ?_⟩
    · obtain ⟨body, -, rfl⟩ := h l hl
      simp
    · obtain ⟨body, hbody, rfl⟩ := h l hl
      rwa [List.dropLast_concat]
    · obtain ⟨body, -, rfl⟩ := h l (List.dropLast_subset _ hl)
      exact List.getLast?_concat
  exact hcut.eq_lines.symm

/-! ## The line of a place -/

lemma lineStart_of_newline_not_mem {u : List Char} (hu : '\n' ∉ u) : lineStart u = u := by
  rw [lineStart, List.rtakeWhile_eq_self_iff]
  intro c hc
  simpa using ne_of_mem_of_not_mem hc hu

lemma lineStart_cons_of_mem {u : List Char} (hu : '\n' ∈ u) (c : Char) :
    lineStart (c :: u) = lineStart u := by
  simp only [lineStart, List.rtakeWhile, List.reverse_cons, List.takeWhile_append]
  rw [if_neg]
  intro h
  have hself := List.takeWhile_eq_self_iff.1 (List.IsPrefix.eq_of_length
    (List.takeWhile_prefix _) h)
  have hn := hself '\n' (List.mem_reverse.2 hu)
  simp at hn

lemma lineStart_cons_newline (u : List Char) : lineStart ('\n' :: u) = lineStart u := by
  by_cases hu : '\n' ∈ u
  · exact lineStart_cons_of_mem hu '\n'
  · have hr : ∀ c ∈ u.reverse, (c != '\n') = true := by
      intro c hc
      simpa using ne_of_mem_of_not_mem (List.mem_reverse.1 hc) hu
    rw [lineStart_of_newline_not_mem hu, lineStart, List.rtakeWhile, List.reverse_cons,
      List.takeWhile_append_of_pos hr]
    simp

/-- Where a line begins there is nothing of it before. -/
lemma lineStart_of_lineEdge {u : List Char} (hu : lineEdge u.getLast? = true) :
    lineStart u = [] := by
  rw [lineStart, List.rtakeWhile_eq_nil_iff]
  intro hne
  rw [List.getLast?_eq_some_getLast hne, lineEdge_some, beq_iff_eq] at hu
  simp [hu]

lemma newline_not_mem_lineStart (u : List Char) : '\n' ∉ lineStart u := by
  intro h
  simpa using List.mem_rtakeWhile_imp h

/-- Behind the start of a line the last line of a text begins at the start of a line. -/
lemma exists_lineStart (u : List Char) :
    ∃ v, u = v ++ lineStart u ∧
      ∀ before, lineEdge before = true → lineEdge (v.getLast?.or before) = true := by
  refine ⟨u.rdropWhile (· != '\n'), List.rdropWhile_append_rtakeWhile.symm, ?_⟩
  intro before hedge
  by_cases hv : u.rdropWhile (· != '\n') = []
  · rwa [hv, List.getLast?_nil, Option.none_or]
  · rw [List.getLast?_eq_some_getLast hv, Option.some_or, lineEdge_some, beq_iff_eq]
    simpa using List.rdropWhile_last_not _ u hv

/-- The line of a place that is not the end of the text. -/
theorem getElem?_lines_append (u : List Char) {w : List Char} (hw : w ≠ []) :
    (lines (u ++ w))[u.count '\n']? = some (lineStart u ++ firstLine w) := by
  induction u with
  | nil =>
    obtain ⟨l, ls, hl⟩ := List.exists_cons_of_ne_nil (lines_ne_nil hw)
    simp [lineStart, firstLine, hl]
  | cons c u ih =>
    by_cases hc : c = '\n'
    · subst hc
      rw [List.cons_append, lines_cons_newline, lineStart_cons_newline, List.count_cons_self,
        List.getElem?_cons_succ, ih]
    · rw [List.cons_append, lines_cons_of_ne hc, List.count_cons_of_ne hc]
      by_cases hu : '\n' ∈ u
      · obtain ⟨n, hn⟩ := Nat.exists_eq_add_one.2 (List.count_pos_iff.2 hu)
        rw [hn] at ih ⊢
        rw [lineStart_cons_of_mem hu, List.getElem?_cons_succ, List.getElem?_tail, ih]
      · have hcu : '\n' ∉ c :: u := by simp [hu, Ne.symm hc]
        rw [lineStart_of_newline_not_mem hcu, List.count_eq_zero.2 hu, List.getElem?_cons_zero,
          firstLine_append hu, List.cons_append]

theorem line?_append (u : List Char) {w : List Char} (hw : w ≠ []) :
    line? (u ++ w) (1 + u.count '\n') = some (lineStart u ++ firstLine w) := by
  rw [line?, if_neg (by omega), Nat.add_sub_cancel_left, getElem?_lines_append u hw]

/-- A place before the end of a text lies on one of its lines. -/
theorem count_newline_lt_length_lines (u : List Char) {w : List Char} (hw : w ≠ []) :
    u.count '\n' < (lines (u ++ w)).length :=
  (List.getElem?_eq_some_iff.1 (getElem?_lines_append u hw)).1

/-! ## Lines by their numbers -/

lemma bounds_of_line? {s l : List Char} {n : Nat} (h : line? s n = some l) :
    1 ≤ n ∧ n ≤ (lines s).length := by
  unfold line? at h
  split_ifs at h with hn
  have hlt := (List.getElem?_eq_some_iff.1 h).1
  omega

/-- Counting the lines of a text from one gives each its number. -/
lemma line?_of_mem_zipIdx {s l : List Char} {n : Nat} (h : (l, n) ∈ (lines s).zipIdx 1) :
    line? s n = some l := by
  obtain ⟨hn, hl⟩ := List.mem_zipIdx_iff_le_and_getElem?_sub.1 h
  have hne : n ≠ 0 := by
    dsimp only at hn
    omega
  rw [line?, if_neg hne, hl]

/-! ## Lines by byte offsets -/

lemma nextLine_add_count (c : Char) (line : Nat) (u : List Char) :
    nextLine c line + u.count '\n' = line + (c :: u).count '\n' := by
  unfold nextLine
  split_ifs with hc
  · rw [hc, List.count_cons_self]
    omega
  · rw [List.count_cons_of_ne hc]

/-- Counting off the bytes of a text takes its first character off first. -/
lemma exists_byteLength_cons (c : Char) (s : List Char) :
    ∃ n, byteLength (c :: s) = n + 1 ∧ n + 1 - c.utf8Size = byteLength s := by
  have hpos := c.utf8Size_pos
  refine ⟨byteLength (c :: s) - 1, ?_, ?_⟩ <;> rw [byteLength_cons] <;> omega

@[simp] lemma lineFrom_zero (line : Nat) (s : List Char) : lineFrom line s 0 = line := by
  cases s <;> rfl

/-- Behind a piece of a text the count goes on from the line feeds of that piece. -/
lemma lineFrom_append_add (line : Nat) (u w : List Char) (offset : Nat) :
    lineFrom line (u ++ w) (byteLength u + offset) = lineFrom (line + u.count '\n') w offset := by
  induction u generalizing line with
  | nil => simp
  | cons c u ih =>
    obtain ⟨n, hlength, hrest⟩ := exists_byteLength_cons c u
    have hstep : n + offset + 1 - c.utf8Size = byteLength u + offset := by
      rw [byteLength_cons] at hlength
      omega
    rw [List.cons_append, hlength, Nat.add_right_comm, lineFrom, hstep, ih, nextLine_add_count]

/-- The line of the byte at which a piece of a text begins. -/
theorem lineAt_append (u w : List Char) : lineAt (u ++ w) (byteLength u) = 1 + u.count '\n' := by
  have h := lineFrom_append_add 1 u w 0
  rwa [lineFrom_zero] at h

/-- A number is written on one line. -/
lemma newline_not_mem_toString (n : Nat) : '\n' ∉ (toString n).toList := by
  intro h
  rw [Nat.toString_eq_repr, Nat.toList_repr] at h
  exact absurd (Nat.isDigit_of_mem_toDigits (by decide) (by decide) h) (by decide)

end BasicLint.Text
