import BasicLint.Proofs.Recognition
import Mathlib.Data.List.Nodup

/-!
# Signals behind a call

Whether the outcome of a call is looked at is decided on the lines behind the call, cut out of the
text. The cuts make no difference: a signal of these lines is a signal of the whole text and the
other way round, because the characters on the far sides of the cuts, a parenthesis and a line feed,
belong to no word.
-/
namespace BasicLint.ErrorHandling

open Text

/-- A signal between the character before it and the character behind it: a word of its own, a
condition on a word, or one of three texts anywhere. -/
inductive IsSignal (before : Option Char) : List Char → (behind : Option Char) → Prop
  | word {x : List Char} {behind : Option Char} (hx : x ∈ ["ERR".toList, "ETEXT".toList])
      (hbefore : wordEdge before = true) (hbehind : wordEdge behind = true) :
      IsSignal before x behind
  | condition {a w b : List Char} {behind : Option Char} (ha : IsRun isBlank a)
      (hw : IsRun isWord w) (hb : IsRun isBlank b) :
      IsSignal before ("IF".toList ++ (a ++ (w ++ (b ++ "THEN".toList)))) behind
  | literal {x : List Char} {behind : Option Char}
      (hx : x ∈ ["getEtext".toList, ".error".toList, ".returnCode".toList]) :
      IsSignal before x behind

/-- The whole text holds a signal that starts behind its first `start` characters and ends before
the `count`-th line feed behind them, if there are so many. -/
def HasSignal (text : List Char) (start count : Nat) : Prop :=
  ∃ a x b, text = a ++ (x ++ b) ∧ IsSignal a.getLast? x b.head? ∧ start ≤ a.length ∧
    ((a ++ x).drop start).count '\n' < count

/-! ## What a signal is recognised by -/

lemma isSome_wholeWord_iff {word : List Char} {before : Option Char} {s : Cursor} :
    (wholeWord word before s).isSome = true ↔
      ∃ b, s.rest = word ++ b ∧ wordEdge before = true ∧ wordEdge b.head? = true := by
  simp only [Option.isSome_iff_exists, wholeWord, bind, Option.bind_eq_some_iff,
    Option.guard_eq_some', Cursor.after?_eq_some_iff, Option.some.injEq]
  constructor
  · rintro ⟨_, _, hbefore, t, ht, _, hbehind, -⟩
    exact ⟨t.rest, ht.rest_eq, hbefore, hbehind⟩
  · rintro ⟨b, hs, hbefore, hbehind⟩
    exact ⟨_, (), hbefore, _, Cursor.passes_of_rest_eq hs, (), hbehind, rfl⟩

lemma isSome_literal_iff {x : List Char} {before : Option Char} {s : Cursor} :
    (literal x before s).isSome = true ↔ ∃ b, s.rest = x ++ b := by
  rw [literal, Option.isSome_map, Option.isSome_iff_exists]
  simp only [Cursor.after?_eq_some_iff]
  constructor
  · rintro ⟨t, ht⟩
    exact ⟨t.rest, ht.rest_eq⟩
  · rintro ⟨b, hs⟩
    exact ⟨_, Cursor.passes_of_rest_eq hs⟩

lemma isSome_condition_iff {before : Option Char} {s : Cursor} :
    (condition before s).isSome = true ↔
      ∃ a w b r, s.rest = "IF".toList ++ (a ++ (w ++ (b ++ "THEN".toList))) ++ r ∧
        IsRun isBlank a ∧ IsRun isWord w ∧ IsRun isBlank b := by
  simp only [Option.isSome_iff_exists, condition, bind, Option.bind_eq_some_iff, Option.some.injEq]
  constructor
  · rintro ⟨_, s₁, h₁, s₂, h₂, ⟨w, s₃⟩, h₃, s₄, h₄, s₅, h₅, -⟩
    obtain ⟨a, hane, ha, h₂⟩ := Cursor.blanks?_eq_some h₂
    obtain ⟨hwne, hw, h₃⟩ := Cursor.run?_eq_some h₃
    obtain ⟨b, hbne, hb, h₄⟩ := Cursor.blanks?_eq_some h₄
    have hpassed := (Cursor.after?_eq_some_iff.1 h₁).trans
      (h₂.trans (h₃.trans (h₄.trans (Cursor.after?_eq_some_iff.1 h₅))))
    exact ⟨a, w, b, s₅.rest, hpassed.rest_eq, ⟨hane, ha⟩, ⟨hwne, hw⟩, ⟨hbne, hb⟩⟩
  · rintro ⟨a, w, b, r, hs, ha, hw, hb⟩
    obtain ⟨s₁, h₁, h⟩ := Cursor.passes_append_iff.1 (Cursor.passes_of_rest_eq hs)
    obtain ⟨s₂, h₂, h⟩ := Cursor.passes_append_iff.1 h
    obtain ⟨s₃, h₃, h⟩ := Cursor.passes_append_iff.1 h
    obtain ⟨s₄, h₄, h₅⟩ := Cursor.passes_append_iff.1 h
    -- No word character is blank, so each run ends where the next one begins.
    have hstop₂ : ∀ c ∈ s₂.head?, isBlank c = false := fun c hc =>
      isBlank_eq_false_of_isWord (hw.all c (h₃.mem_of_head? hw.ne_nil hc))
    have hstop₃ : ∀ c ∈ s₃.head?, isWord c = false := by
      intro c hc
      by_contra hword
      have hblank := isBlank_eq_false_of_isWord (Bool.not_eq_false _ ▸ hword)
      rw [hb.all c (h₄.mem_of_head? hb.ne_nil hc)] at hblank
      exact absurd hblank (by decide)
    have hstop₄ : ∀ c ∈ s₄.head?, isBlank c = false := by
      intro c hc
      have hthen : "THEN".toList.all (!isBlank ·) = true := by decide
      simpa using List.all_eq_true.1 hthen c (h₅.mem_of_head? (by decide) hc)
    exact ⟨_, s₁, Cursor.after?_eq_some_iff.2 h₁, s₂, h₂.blanks?_eq ha hstop₂, (w, s₃),
      h₃.run?_eq hw hstop₃, s₄, h₄.blanks?_eq hb hstop₄, _, Cursor.after?_eq_some_iff.2 h₅, rfl⟩

lemma IsSignal.ne_nil {before behind : Option Char} {x : List Char} (h : IsSignal before x behind) :
    x ≠ [] := by
  cases h with
  | word hx => rintro rfl; simp at hx
  | condition => simp
  | literal hx => rintro rfl; simp at hx

/-- The characters around a signal matter only in so far as they belong to a word. -/
lemma IsSignal.congr {before before' behind behind' : Option Char} {x : List Char}
    (h : IsSignal before x behind) (hbefore : wordEdge before' = wordEdge before)
    (hbehind : wordEdge behind' = wordEdge behind) : IsSignal before' x behind' := by
  cases h with
  | word hx h h' => exact .word hx (hbefore.trans h) (hbehind.trans h')
  | condition ha hw hb => exact .condition ha hw hb
  | literal hx => exact .literal hx

lemma isSome_orElse (x y : Option (Unit × Cursor)) :
    (x <|> y).isSome = true ↔ x.isSome = true ∨ y.isSome = true := by
  rw [Option.orElse_eq_orElse, Option.orElse_eq_or, Option.isSome_or, Bool.or_eq_true]

/-- The recogniser finds exactly the signals. -/
theorem isSome_signal_iff {before : Option Char} {s : Cursor} :
    (signal before s).isSome = true ↔ ∃ x b, s.rest = x ++ b ∧ IsSignal before x b.head? := by
  obtain ⟨n, s⟩ := s
  constructor
  · intro h
    cases s with
    | nil => simp [signal] at h
    | cons c s =>
      rw [signal_cons] at h
      split_ifs at h
      · rw [isSome_orElse, isSome_wholeWord_iff, isSome_wholeWord_iff] at h
        obtain ⟨b, hs, hbefore, hbehind⟩ | ⟨b, hs, hbefore, hbehind⟩ := h
        · exact ⟨_, b, hs, .word (by simp) hbefore hbehind⟩
        · exact ⟨_, b, hs, .word (by simp) hbefore hbehind⟩
      · obtain ⟨a, w, b, r, hs, ha, hw, hb⟩ := isSome_condition_iff.1 h
        exact ⟨_, r, hs, .condition ha hw hb⟩
      · obtain ⟨b, hs⟩ := isSome_literal_iff.1 h
        exact ⟨_, b, hs, .literal (by simp)⟩
      · rw [isSome_orElse, isSome_literal_iff, isSome_literal_iff] at h
        obtain ⟨b, hs⟩ | ⟨b, hs⟩ := h
        · exact ⟨_, b, hs, .literal (by simp)⟩
        · exact ⟨_, b, hs, .literal (by simp)⟩
      · simp at h
  · rintro ⟨x, b, rfl, h⟩
    cases h with
    | word hx hbefore hbehind =>
      have hword (word : List Char) :
          (wholeWord word before ⟨n, word ++ b⟩).isSome = true :=
        isSome_wholeWord_iff.2 ⟨b, rfl, hbefore, hbehind⟩
      simp only [List.mem_cons, List.not_mem_nil, or_false] at hx
      obtain rfl | rfl := hx
      · exact (isSome_orElse _ _).2 (.inl (hword "ERR".toList))
      · exact (isSome_orElse _ _).2 (.inr (hword "ETEXT".toList))
    | condition ha hw hb =>
      exact (@isSome_condition_iff before _).2 ⟨_, _, _, b, rfl, ha, hw, hb⟩
    | literal hx =>
      have hliteral (x : List Char) : (literal x before ⟨n, x ++ b⟩).isSome = true :=
        isSome_literal_iff.2 ⟨b, rfl⟩
      simp only [List.mem_cons, List.not_mem_nil, or_false] at hx
      obtain rfl | rfl | rfl := hx
      · exact hliteral "getEtext".toList
      · exact (isSome_orElse _ _).2 (.inl (hliteral ".error".toList))
      · exact (isSome_orElse _ _).2 (.inr (hliteral ".returnCode".toList))

/-- Signals of a text are found wherever they stand in it. -/
lemma occurs_signal_iff {s : List Char} :
    occurs signal s = true ↔ ∃ a x b, s = a ++ (x ++ b) ∧ IsSignal a.getLast? x b.head? := by
  rw [occurs_iff]
  simp only [isSome_signal_iff]
  constructor
  · rintro ⟨a, _, rfl, x, b, rfl, h⟩
    exact ⟨a, x, b, rfl, h⟩
  · rintro ⟨a, x, b, rfl, h⟩
    exact ⟨a, x ++ b, rfl, x, b, rfl, h⟩

/-! ## The lines behind a call -/

/-- A window ends at a line feed or with the text. -/
lemma exists_window_append (count : Nat) (s : List Char) :
    ∃ v, s = window count s ++ v ∧ ∀ c ∈ v.head?, c = '\n' := by
  fun_induction window count s with
  | case1 => exact ⟨[], by simp⟩
  | case2 count s hcount => exact ⟨'\n' :: s, by simp⟩
  | case3 count s hcount ih =>
    obtain ⟨v, hs, hv⟩ := ih
    exact ⟨v, by rw [List.cons_append, ← hs], hv⟩
  | case4 count c s hc ih =>
    obtain ⟨v, hs, hv⟩ := ih
    exact ⟨v, by rw [List.cons_append, ← hs], hv⟩

/-- The start of a text lies in its window exactly if it holds fewer line feeds than the window has
lines. -/
lemma prefix_window_iff {count : Nat} (hcount : 0 < count) {u s : List Char} (h : u <+: s) :
    u <+: window count s ↔ u.count '\n' < count := by
  induction s generalizing count u with
  | nil =>
    obtain rfl := List.prefix_nil.1 h
    simpa [window] using hcount
  | cons c s ih =>
    cases u with
    | nil => simpa using hcount
    | cons d u =>
      obtain ⟨rfl, hu⟩ := List.cons_prefix_cons.1 h
      by_cases hd : d = '\n'
      · subst hd
        by_cases hle : count ≤ 1
        · simp [window, hle]
          omega
        · have hmore := ih (show 0 < count - 1 by omega) hu
          simp only [window, hle, ↓reduceIte, List.cons_prefix_cons, true_and, hmore,
            List.count_cons_self]
          omega
      · simp only [window, hd, ↓reduceIte, List.cons_prefix_cons, true_and,
          List.count_cons_of_ne hd, ih hcount hu]

/-- Cutting a window out of a text neither makes nor hides a signal, if no word goes on across the
start of the window. -/
theorem isChecked_iff {count : Nat} (hcount : 0 < count) {upto rest : List Char}
    (hupto : wordEdge upto.getLast? = true) :
    isChecked count rest = true ↔ HasSignal (upto ++ rest) upto.length count := by
  obtain ⟨v, hrest, hv⟩ := exists_window_append count rest
  have hbefore (a : List Char) : wordEdge (upto ++ a).getLast? = wordEdge a.getLast? := by
    rw [List.getLast?_append]
    cases a.getLast? with
    | none => simpa using hupto
    | some c => rfl
  have hbehind (b : List Char) : wordEdge (b ++ v).head? = wordEdge b.head? := by
    rw [List.head?_append]
    cases b.head? with
    | none =>
      cases hc : v.head? with
      | none => rfl
      | some c =>
        rw [hv c hc]
        decide
    | some c => rfl
  rw [isChecked, occurs_signal_iff]
  constructor
  · rintro ⟨a, x, b, hwindow, h⟩
    refine ⟨upto ++ a, x, b ++ v, ?_, h.congr (hbefore a) (hbehind b), by simp, ?_⟩
    · rw [hrest, hwindow]
      simp
    · have hprefix : a ++ x <+: window count rest := ⟨b, by rw [hwindow, List.append_assoc]⟩
      have hcut : a ++ x <+: rest := hprefix.trans ⟨v, hrest.symm⟩
      simpa using (prefix_window_iff hcount hcut).1 hprefix
  · rintro ⟨a, x, b, htext, h, hstart, hlines⟩
    obtain ⟨a, rfl, hback⟩ := exists_append_of_length_le htext hstart
    rw [List.append_assoc, List.drop_left] at hlines
    have hprefix : a ++ x <+: window count rest :=
      (prefix_window_iff hcount ⟨b, by rw [hback, List.append_assoc]⟩).2 hlines
    obtain ⟨b', hb'⟩ := hprefix
    obtain rfl : b = b' ++ v := by
      rw [← hb', hback] at hrest
      simpa using hrest
    exact ⟨a, x, b', by rw [← hb', List.append_assoc],
      h.congr (hbefore a).symm (hbehind b').symm⟩

/-! ## Calls -/

lemma anchored_call : call.Anchored := anchored_indented _ _

lemma exists_upto {text : List Char} {hit : Hit (List Char)} (h : hit ∈ calls text) :
    ∃ upto, text = upto ++ hit.rest ∧ upto.getLast? = some '(' := by
  obtain ⟨site⟩ := mem_scan h
  obtain ⟨u, hu⟩ := exists_passes_call site.recognized
  have hback : site.back = u ++ ['('] ++ hit.rest := site.rest_eq ▸ hu.rest_eq
  refine ⟨site.front ++ (u ++ ['(']), ?_, by simp⟩
  calc text = site.front ++ site.back := site.text_eq
    _ = site.front ++ (u ++ ['(']) ++ hit.rest := by simp [hback]

lemma eq_of_line_eq {text : List Char} {hit other : Hit (List Char)} (hhit : hit ∈ calls text)
    (hother : other ∈ calls text) (h : other.line = hit.line) : other = hit := by
  have hnodup : ((calls text).map (·.line)).Nodup :=
    List.pairwise_map.2 ((pairwise_line_scan anchored_call 1 text).imp ne_of_lt)
  exact List.inj_on_of_nodup_map hnodup hother hhit h

/-- Every call stands on a line of its own. Nothing is reported on the line of a call exactly if a
signal of the whole text follows its opening parenthesis within the given number of lines. -/
theorem silent_iff_hasSignal {lookahead : Nat} (hlookahead : 0 < lookahead) {source : Source}
    (hstrict : source.strict = true) :
    (calls source.text).Pairwise (·.line < ·.line) ∧
      ∀ hit ∈ calls source.text, ∃ upto,
        source.text = upto ++ hit.rest ∧ upto.getLast? = some '(' ∧
          ((∀ d ∈ check lookahead source, d.line ≠ hit.line) ↔
            HasSignal source.text upto.length lookahead) := by
  refine ⟨pairwise_line_scan anchored_call 1 source.text, fun hit hhit => ?_⟩
  obtain ⟨upto, htext, hparen⟩ := exists_upto hhit
  refine ⟨upto, htext, hparen, ?_⟩
  have hedge : wordEdge upto.getLast? = true := by
    rw [hparen]
    decide
  have hchecked : isChecked lookahead hit.rest = true ↔
      HasSignal source.text upto.length lookahead := by
    rw [htext]
    exact isChecked_iff hlookahead hedge
  rw [← hchecked]
  simp only [check, hstrict, ↓reduceIte, List.mem_map, List.mem_filter]
  constructor
  · intro h
    by_contra hunchecked
    exact h _ ⟨hit, ⟨hhit, by simpa using hunchecked⟩, rfl⟩ rfl
  · rintro h d ⟨other, ⟨hother, hunchecked⟩, rfl⟩ hline
    obtain rfl := eq_of_line_eq hhit hother hline
    simp [h] at hunchecked

/-- A condition that goes on behind two lines does not count for the call before it. -/
theorem silent_iff_hasSignal_split :
    let source : Source := { text := "CALL SVC(A)\nIF FAILED\nTHEN RETURN\n".toList, strict := true }
    let hit : Hit (List Char) := ⟨1, "SVC".toList, "A)\nIF FAILED\nTHEN RETURN\n".toList⟩
    0 < 2 ∧ source.strict = true ∧ hit ∈ calls source.text ∧
      ∃ upto, source.text = upto ++ hit.rest ∧ upto.getLast? = some '(' ∧
        ((∀ d ∈ check 2 source, d.line ≠ hit.line) ↔ HasSignal source.text upto.length 2) := by
  intro source hit
  have hhit : hit ∈ calls source.text := .head _
  exact ⟨by decide, rfl, hhit, (silent_iff_hasSignal (by decide) rfl).2 hit hhit⟩

end BasicLint.ErrorHandling
