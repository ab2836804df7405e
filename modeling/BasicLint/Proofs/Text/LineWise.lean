import BasicLint.Proofs.Text.Scan

/-!
# Recognisers that look at one line

A recogniser that finds something only where a line begins, and decides it by that line alone, need
not search the whole text: something is recognised exactly if some line passes the test, and the
first hit is on the first such line. Blanks that lead to it from lines above change nothing in that.
If the recogniser also takes what it finds from that line, then its hits in a text are those of the
lines, each read by itself.
-/
namespace BasicLint.Text

variable {α : Type}

/-- A recogniser that finds something where a line begins that passes the test `q`, and nowhere
else. -/
structure Recognizer.LineWise (p : Recognizer α) (q : List Char → Bool) : Prop where
  anchored : p.Anchored
  /-- Behind the last line there is none that could pass. -/
  nil : q [] = false
  isSome_eq : ∀ before s, lineEdge before = true → (p before ⟨0, s⟩).isSome = q (firstLine s)

/-- The lines of a text behind `before`, without the rest of a line that has begun before it. -/
def freshLines (before : Option Char) (s : List Char) : List (List Char) :=
  if lineEdge before then lines s else (lines s).tail

/-- The number of the first of these lines, if the text starts on `line`. -/
def freshNumber (before : Option Char) (line : Nat) : Nat :=
  if lineEdge before then line else line + 1

lemma lines_eq_cons {s : List Char} (hs : s ≠ []) : lines s = firstLine s :: (lines s).tail := by
  obtain ⟨l, ls, hl⟩ := List.exists_cons_of_ne_nil (lines_ne_nil hs)
  simp [firstLine, hl]

/-- Behind a character the lines of a text are fresh but for the one that the character is on. -/
lemma freshLines_some (c : Char) (s : List Char) : freshLines (some c) s = (lines (c :: s)).tail := by
  by_cases hc : c = '\n'
  · subst hc
    rw [lines_cons_newline]
    rfl
  · rw [lines_cons_of_ne hc]
    simp [freshLines, hc]

lemma freshNumber_some (c : Char) (line : Nat) :
    freshNumber (some c) (nextLine c line) = line + 1 := by
  by_cases hc : c = '\n' <;> simp [freshNumber, nextLine, hc]

namespace Recognizer.LineWise

variable {p : Recognizer α} {q : List Char → Bool}

lemma eq_none (h : p.LineWise q) (before : Option Char) : p before ⟨0, []⟩ = none := by
  cases hedge : lineEdge before with
  | false => exact h.anchored before _ hedge
  | true =>
    have hsome := h.isSome_eq before [] hedge
    rwa [show firstLine [] = [] from rfl, h.nil, Option.isSome_eq_false_iff,
      Option.isNone_iff_eq_none] at hsome

/-- The search for the first hit goes through the fresh lines. -/
lemma firstFrom?_eq (h : p.LineWise q) (before : Option Char) (line : Nat) (s : List Char) :
    (firstFrom? p before line s).map (·.line) =
      ((freshLines before s).findIdx? q).map (· + freshNumber before line) := by
  induction s generalizing before line with
  | nil => cases hedge : lineEdge before <;> simp [firstFrom?, freshLines, hedge, h.eq_none]
  | cons c s ih =>
    have ih := ih (some c) (nextLine c line)
    rw [freshLines_some, freshNumber_some] at ih
    cases hedge : lineEdge before with
    | false =>
      simpa [firstFrom?, h.anchored before _ hedge, freshLines, freshNumber, hedge] using ih
    | true =>
      have hsome := h.isSome_eq before (c :: s) hedge
      simp only [firstFrom?, freshLines, freshNumber, hedge, ↓reduceIte]
      rw [lines_eq_cons (List.cons_ne_nil c s), List.findIdx?_cons, ← hsome]
      cases hp : p before ⟨0, c :: s⟩ with
      | none =>
        simp only [Option.isSome_none, Bool.false_eq_true, ↓reduceIte, ih, Option.map_map]
        congr 1
        funext n
        simp only [Function.comp_apply]
        omega
      | some found => simp

/-- The first hit is on the first line that passes the test. -/
theorem first?_eq (h : p.LineWise q) (s : List Char) :
    (first? p 1 s).map (·.line) = ((lines s).findIdx? q).map (· + 1) := h.firstFrom?_eq none 1 s

/-- Something is recognised in a text exactly if one of its lines passes the test. -/
theorem occurs_eq (h : p.LineWise q) (s : List Char) : occurs p s = (lines s).any q := by
  have hfirst := congrArg Option.isSome (h.first?_eq s)
  rw [Option.isSome_map, Option.isSome_map, List.findIdx?_isSome] at hfirst
  exact (occursFrom_eq_isSome p none 1 s).trans hfirst

end Recognizer.LineWise

/-! ## Cursors that see one line -/

section FirstLine

variable {p : Char → Bool}

lemma takeWhile_firstLine (hp : p '\n' = false) (s : List Char) :
    (firstLine s).takeWhile p = s.takeWhile p := by
  induction s with
  | nil => rfl
  | cons c s ih =>
    by_cases hc : c = '\n'
    · simp [hc, firstLine_cons_newline, hp]
    · rw [firstLine_cons_of_ne hc, List.takeWhile_cons, List.takeWhile_cons, ih]

lemma dropWhile_firstLine (hp : p '\n' = false) (s : List Char) :
    (firstLine s).dropWhile p = firstLine (s.dropWhile p) := by
  induction s with
  | nil => rfl
  | cons c s ih =>
    by_cases hc : c = '\n'
    · simp [hc, firstLine_cons_newline, hp]
    · rw [firstLine_cons_of_ne hc, List.dropWhile_cons, List.dropWhile_cons, ih]
      split_ifs
      · rfl
      · rw [firstLine_cons_of_ne hc]

end FirstLine

lemma after?_firstLine {literal : List Char} (h : '\n' ∉ literal) (s : List Char) :
    after? literal (firstLine s) = (after? literal s).map firstLine := by
  ext rest
  simp only [Option.map_eq_some_iff, after?_eq_some_iff, firstLine_eq_append_iff h]

namespace Cursor

/-- The cursor that sees no further than the end of the line. -/
def onLine (s : Cursor) : Cursor := ⟨s.passed, firstLine s.rest⟩

variable {p : Char → Bool}

lemma skip_onLine (hp : p '\n' = false) (s : Cursor) : s.onLine.skip p = (s.skip p).onLine := by
  rw [Cursor.mk.injEq]
  simp [onLine, takeWhile_firstLine hp, dropWhile_firstLine hp]

lemma one?_onLine (hp : p '\n' = false) (s : Cursor) :
    s.onLine.one? p = (s.one? p).map onLine := by
  obtain ⟨passed, rest⟩ := s
  cases rest with
  | nil => rfl
  | cons c rest =>
    by_cases hc : c = '\n'
    · simp [one?, onLine, hc, firstLine_cons_newline, hp]
    · cases hpc : p c <;> simp [one?, onLine, firstLine_cons_of_ne hc, hpc]

lemma after?_onLine {literal : List Char} (h : '\n' ∉ literal) (s : Cursor) :
    s.onLine.after? literal = (s.after? literal).map onLine := by
  simp only [Cursor.after?, onLine, after?_firstLine h, Option.map_map]
  rfl

lemma run?_onLine (hp : p '\n' = false) (s : Cursor) :
    s.onLine.run? p = (s.run? p).map (Prod.map id onLine) := by
  have htake : s.onLine.rest.takeWhile p = s.rest.takeWhile p := takeWhile_firstLine hp s.rest
  unfold run?
  rw [htake, skip_onLine hp]
  dsimp only
  split_ifs <;> rfl

end Cursor

/-! ## What stands behind the leading blanks -/

/-- Whether `k` finds something is told by a test of the rest of the line, and only a text that starts
with no blank passes the test. -/
structure LineTest (k : Cursor → Option (α × Cursor)) (q : List Char → Bool) : Prop where
  isSome_eq : ∀ s, (k s).isSome = q (firstLine s.rest)
  starts : ∀ line, q line = true → ∃ c ∈ line.head?, isBlank c = false

namespace LineTest

variable {k : Cursor → Option (α × Cursor)} {q : List Char → Bool}

lemma nil (h : LineTest k q) : q [] = false := by
  by_contra hq
  obtain ⟨c, hc, -⟩ := h.starts [] (Bool.not_eq_false _ ▸ hq)
  simp at hc

/-- A text that passes the test has no blanks to trim. -/
lemma trimStart_eq (h : LineTest k q) {s : List Char} (hs : q (firstLine s) = true) :
    trimStart s = s := by
  obtain ⟨c, hc, hblank⟩ := h.starts _ hs
  rw [head?_firstLine] at hc
  refine trimStart_eq_self fun d hd => ?_
  rwa [Option.mem_unique hd hc]

/-- Behind the blanks of its first line a text passes the test exactly if that line does without the
blanks at its start. -/
lemma eq_trimStart (h : LineTest k q) (s : List Char) :
    q (firstLine (s.dropWhile isInlineBlank)) = q (trimStart (firstLine s)) := by
  rw [← trimStart_dropWhile_inlineBlank (firstLine s), dropWhile_firstLine isInlineBlank_newline]
  cases hr : s.dropWhile isInlineBlank with
  | nil => rfl
  | cons c r =>
    have hinline : isInlineBlank c = false := by
      have hstop := List.head?_dropWhile_not isInlineBlank s
      rwa [hr] at hstop
    by_cases hc : c = '\n'
    · have hfeed : q ['\n'] = false := by
        by_contra hq
        obtain ⟨d, hd, hblank⟩ := h.starts _ (Bool.not_eq_false _ ▸ hq)
        obtain rfl : '\n' = d := by simpa using hd
        simp at hblank
      rw [hc, firstLine_cons_newline, trimStart_eq_nil (by simp), hfeed, h.nil]
    · rw [trimStart_eq_self]
      intro d hd
      rw [head?_firstLine] at hd
      obtain rfl : c = d := by simpa using hd
      rwa [← isInlineBlank_of_ne hc]

lemma isSome_indented (h : LineTest k q) (space : Char → Bool) (before : Option Char) (s : Cursor) :
    (indented space k before s).isSome =
      (lineEdge before && q (firstLine (s.rest.dropWhile space))) := by
  cases hedge : lineEdge before with
  | false =>
    rw [anchored_indented space k before s hedge]
    rfl
  | true =>
    rw [indented_of_lineEdge hedge, h.isSome_eq, Cursor.rest_skip, Bool.true_and]

/-- Behind the blanks of a line, the line decides. -/
theorem lineWise (h : LineTest k q) :
    (indented isInlineBlank k).LineWise fun line => q (trimStart line) where
  anchored := anchored_indented _ _
  nil := h.nil
  isSome_eq before s hedge := by
    rw [h.isSome_indented, hedge, Bool.true_and, h.eq_trimStart]

/-- In a search of the whole text the leading blanks may as well end where their line ends: blanks
that go on for several lines are cut behind the last line feed. -/
theorem occurs_indented (h : LineTest k q) (text : List Char) :
    occurs (indented isBlank k) text = occurs (indented isInlineBlank k) text := by
  rw [Bool.eq_iff_iff, occurs_iff, occurs_iff]
  simp only [h.isSome_indented, Bool.and_eq_true]
  constructor
  · rintro ⟨a, b, rfl, hedge, hq⟩
    obtain ⟨v, hv, hstart⟩ := exists_lineStart (b.takeWhile isBlank)
    have hb : b = v ++ (lineStart (b.takeWhile isBlank) ++ trimStart b) := by
      rw [← List.append_assoc, ← hv, trimStart, List.takeWhile_append_dropWhile]
    have hinline : ∀ c ∈ lineStart (b.takeWhile isBlank), isInlineBlank c = true := by
      intro c hc
      have hmem : c ∈ b.takeWhile isBlank := by
        rw [hv]
        exact List.mem_append_right v hc
      have hblank : isBlank c = true := List.mem_takeWhile_imp hmem
      rwa [isInlineBlank_of_ne (ne_of_mem_of_not_mem hc (newline_not_mem_lineStart _))]
    refine ⟨a ++ v, _, by rw [List.append_assoc, ← hb], ?_, ?_⟩
    · rw [List.getLast?_append]
      exact hstart _ hedge
    · rwa [List.dropWhile_append_of_pos hinline, dropWhile_inlineBlank_trimStart]
  · rintro ⟨a, b, rfl, hedge, hq⟩
    refine ⟨a, b, rfl, hedge, ?_⟩
    rwa [← trimStart, ← trimStart_dropWhile_inlineBlank, h.trimStart_eq hq]

/-- A test that begins with a literal. -/
lemma of_literal {literal : List Char} (hl : Solid literal) {p : Cursor → Bool}
    {p' : List Char → Bool} (hk : ∀ s, (k s).isSome = (s.after? literal).any p)
    (hp : ∀ s, p s = p' (firstLine s.rest)) :
    LineTest k fun line => (after? literal line).any p' where
  isSome_eq s := by
    rw [hk, after?_firstLine hl.newline_not_mem, Cursor.after?, Option.any_map, Option.any_map]
    simp only [hp]
  starts line h := by
    obtain ⟨rest, hrest, -⟩ := (Option.any_eq_true _ _).1 h
    obtain ⟨c, x, rfl⟩ := List.exists_cons_of_ne_nil hl.ne_nil
    rw [after?_eq_some_iff] at hrest
    exact ⟨c, by simp [hrest], hl.not_blank c List.mem_cons_self⟩

/-- A word is tested for with the character behind it. -/
lemma keyword {word : List Char} (hw : Solid word) :
    LineTest (Cursor.keyword? word) fun line => (after? word line).any (·.head?.any isBlank) := by
  refine of_literal hw (p := fun s => s.head?.any isBlank) (fun s => ?_) fun s => ?_
  · simp [Cursor.keyword?, Option.isSome_bind, Cursor.isSome_blanks?]
  · rw [head?_firstLine, Cursor.head?]

end LineTest

/-! ## Hits of a text and hits of its lines -/

namespace Recognizer

/-- What is found at the start of a text. -/
def value? (p : Recognizer α) (s : List Char) : Option α := (p none ⟨0, s⟩).map (·.1)

/-- A recogniser that finds something only where a line begins, and reads it off that line. What it
passes is of that line, so it never passes the start of another. -/
structure ReadsLine (p : Recognizer α) : Prop where
  anchored : p.Anchored
  start : ∀ before s, lineEdge before = true → p before s = p none s
  onLine : ∀ s, p none s.onLine = (p none s).map (Prod.map id Cursor.onLine)
  passes : ∀ {before s value t}, p before s = some (value, t) →
    ∃ u, u ≠ [] ∧ '\n' ∉ u ∧ s.Passes u t

namespace ReadsLine

variable {p : Recognizer α}

lemma advances (h : p.ReadsLine) : p.Advances := by
  intro before s t value hp
  obtain ⟨u, hne, -, hpasses⟩ := h.passes hp
  exact ⟨u, hne, hpasses⟩

lemma value?_firstLine (h : p.ReadsLine) (s : List Char) : p.value? (firstLine s) = p.value? s := by
  have hline := congrArg (Option.map Prod.fst) (h.onLine ⟨0, s⟩)
  rw [Option.map_map] at hline
  exact hline

/-- The hits behind a place are those of the lines that begin there or later. The scan goes on behind
each hit, still on the line of the hit, where nothing more is found. -/
lemma map_scanFrom (h : p.ReadsLine) (before : Option Char) (line : Nat) (s : List Char) :
    (scanFrom p before line 0 s).map (fun hit => (hit.value, hit.line)) =
      ((freshLines before s).zipIdx (freshNumber before line)).flatMap fun x =>
        (p.value? x.1).toList.map (·, x.2) := by
  induction hn : s.length using Nat.strong_induction_on generalizing before line s with
  | _ n ih =>
    cases s with
    | nil =>
      have hadvances : p.Advances := h.advances
      cases hedge : lineEdge before <;> simp [scanFrom, freshLines, hedge, hadvances.eq_none]
    | cons c s =>
      have hnext := ih s.length (by simp [← hn]) (some c) (nextLine c line) s rfl
      rw [freshLines_some, freshNumber_some] at hnext
      cases hedge : lineEdge before with
      | false =>
        rw [scanFrom_of_none (h.anchored before _ hedge), hnext]
        simp [freshLines, freshNumber, hedge]
      | true =>
        simp only [freshLines, freshNumber, hedge, ↓reduceIte]
        cases hp : p before ⟨0, c :: s⟩ with
        | none =>
          have hvalue : p.value? (firstLine (c :: s)) = none := by
            rw [h.value?_firstLine, value?, ← h.start before _ hedge, hp, Option.map_none]
          rw [scanFrom_of_none hp, hnext, lines_eq_cons (List.cons_ne_nil c s), List.zipIdx_cons,
            List.flatMap_cons, hvalue]
          rfl
        | some found =>
          obtain ⟨value, t⟩ := found
          obtain ⟨u, hne, hu, hpasses⟩ := h.passes hp
          have hrest : c :: s = u ++ t.rest := hpasses.rest_eq
          rw [hrest] at hn hp hpasses ⊢
          have hvalue : p.value? (u ++ firstLine t.rest) = some value := by
            rw [← firstLine_append hu, h.value?_firstLine, value?, ← h.start before _ hedge, hp,
              Option.map_some]
          have hlast : lineEdge (u.getLast?.or before) = false := by
            rw [List.getLast?_eq_some_getLast hne, Option.some_or, lineEdge_some, beq_eq_false_iff_ne]
            exact ne_of_mem_of_not_mem (List.getLast_mem hne) hu
          have hshort : t.rest.length < n := by
            have hpos := List.length_pos_iff.2 hne
            rw [List.length_append] at hn
            omega
          rw [scanFrom_of_some hne hpasses hp, List.map_cons, List.count_eq_zero.2 hu,
            ih _ hshort _ _ _ rfl, lines_append_of_newline_not_mem hne hu, List.zipIdx_cons,
            List.flatMap_cons, hvalue]
          simp [freshLines, freshNumber, hlast]

/-- The hits of a text are the hits of its lines, each on the line with its number. -/
theorem map_scan (h : p.ReadsLine) (line : Nat) (s : List Char) :
    (scan p line s).map (fun hit => (hit.value, hit.line)) =
      ((lines s).zipIdx line).flatMap fun x => (p.value? x.1).toList.map (·, x.2) :=
  h.map_scanFrom none line s

end ReadsLine

end Recognizer

end BasicLint.Text
