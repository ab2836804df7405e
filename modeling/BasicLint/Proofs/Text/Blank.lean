import BasicLint.Text.Word
import Mathlib.Data.List.DropRight

/-!
# Trimming

Trimming cuts blanks off both ends of a text and nothing else. A piece without blanks therefore
stays where it is: what stands around it is trimmed, and the piece is not.
-/
namespace BasicLint.Text

/-- A piece of text that is not empty and holds no blank. -/
structure Solid (x : List Char) : Prop where
  ne_nil : x ≠ []
  not_blank : ∀ c ∈ x, isBlank c = false

lemma solid_iff {x : List Char} : Solid x ↔ (!x.isEmpty && x.all (!isBlank ·)) = true := by
  simp only [Bool.and_eq_true, Bool.not_eq_true', List.isEmpty_eq_false_iff, List.all_eq_true]
  exact ⟨fun h => ⟨h.ne_nil, h.not_blank⟩, fun h => ⟨h.1, h.2⟩⟩

instance (x : List Char) : Decidable (Solid x) := decidable_of_iff' _ solid_iff

lemma Solid.newline_not_mem {x : List Char} (hx : Solid x) : '\n' ∉ x := by
  intro h
  have hn := hx.not_blank _ h
  simp at hn

lemma trimStart_eq_nil {b : List Char} (hb : ∀ c ∈ b, isBlank c = true) : trimStart b = [] :=
  List.dropWhile_eq_nil_iff.2 hb

lemma trimStart_append_of_blank {b : List Char} (hb : ∀ c ∈ b, isBlank c = true) (s : List Char) :
    trimStart (b ++ s) = trimStart s := by
  rw [trimStart, List.dropWhile_append_of_pos hb, trimStart]

lemma trimEnd_append_of_blank {b : List Char} (hb : ∀ c ∈ b, isBlank c = true) (s : List Char) :
    trimEnd (s ++ b) = trimEnd s := by
  have hr : ∀ c ∈ b.reverse, isBlank c = true := fun c hc => hb c (List.mem_reverse.1 hc)
  rw [trimEnd, List.reverse_append, List.dropWhile_append_of_pos hr, trimEnd]

/-- Blanks at the end of a text do not matter to its trimmed form. -/
theorem trim_append_of_blank {b : List Char} (hb : ∀ c ∈ b, isBlank c = true) (s : List Char) :
    trim (s ++ b) = trim s := by
  unfold trim
  by_cases hs : trimStart s = []
  · have hall : ∀ c ∈ s, isBlank c = true := List.dropWhile_eq_nil_iff.1 hs
    rw [trimStart_append_of_blank hall, trimStart_eq_nil hb, hs]
  · have he : trimStart (s ++ b) = trimStart s ++ b := by
      rw [trimStart, List.dropWhile_append, if_neg (by simpa [trimStart] using hs), trimStart]
    rw [he, trimEnd_append_of_blank hb]

/-- A text trims to nothing exactly if it is blank throughout. -/
theorem trim_eq_nil_iff {s : List Char} : trim s = [] ↔ ∀ c ∈ s, isBlank c = true := by
  constructor
  · intro h
    have he : ∀ c ∈ trimStart s, isBlank c = true := by
      simpa [trim, trimEnd, List.dropWhile_eq_nil_iff] using h
    have hs : trimStart s = [] := by
      by_contra hne
      have hhead := List.head_dropWhile_not isBlank hne
      have hblank := he _ (List.head_mem hne)
      simp [trimStart, hhead] at hblank
    exact List.dropWhile_eq_nil_iff.1 hs
  · intro h
    have he := trim_append_of_blank h []
    simpa using he

lemma trimStart_append_solid {x : List Char} (hx : Solid x) (a b : List Char) :
    trimStart (a ++ (x ++ b)) = trimStart a ++ (x ++ b) := by
  obtain ⟨c, y, rfl⟩ := List.exists_cons_of_ne_nil hx.ne_nil
  have hc : isBlank c = false := hx.not_blank c List.mem_cons_self
  rw [trimStart, List.dropWhile_append, trimStart]
  split_ifs with h
  · rw [List.isEmpty_iff.1 h, List.cons_append, List.dropWhile_cons, hc]
    simp
  · rfl

lemma trimEnd_append_solid {x : List Char} (hx : Solid x) (a b : List Char) :
    trimEnd (a ++ (x ++ b)) = a ++ (x ++ trimEnd b) := by
  have hr : Solid x.reverse :=
    ⟨by simpa using hx.ne_nil, fun c hc => hx.not_blank c (List.mem_reverse.1 hc)⟩
  have h := trimStart_append_solid hr b.reverse a.reverse
  simp only [trimStart] at h
  simp [trimEnd, h]

/-- What stands around a piece without blanks is trimmed, and the piece stays. -/
theorem trim_append_solid {x : List Char} (hx : Solid x) (a b : List Char) :
    trim (a ++ (x ++ b)) = trimStart a ++ (x ++ trimEnd b) := by
  rw [trim, trimStart_append_solid hx, trimEnd_append_solid hx]

/-- Trimming leaves nothing to trim. -/
theorem trim_trim (s : List Char) : trim (trim s) = trim s := by
  by_cases hs : ∀ c ∈ s, isBlank c = true
  · rw [trim_eq_nil_iff.2 hs, trim_nil]
  · push Not at hs
    obtain ⟨c, hmem, hc⟩ := hs
    have hsolid : Solid [c] := ⟨by simp, by simpa using hc⟩
    obtain ⟨a, b, rfl⟩ := List.append_of_mem hmem
    have hsplit : a ++ c :: b = a ++ ([c] ++ b) := rfl
    rw [hsplit, trim_append_solid hsolid, trim_append_solid hsolid]
    simp [trimStart, trimEnd, List.dropWhile_idempotent]

/-- What is cut off the end of a text is blank. -/
lemma exists_trimEnd (s : List Char) :
    ∃ b, (∀ c ∈ b, isBlank c = true) ∧ s = trimEnd s ++ b :=
  ⟨s.rtakeWhile isBlank, fun _ hc => List.mem_rtakeWhile_imp hc,
    List.rdropWhile_append_rtakeWhile.symm⟩

/-- What is cut off the start of a text is blank. -/
lemma exists_trimStart (s : List Char) :
    ∃ a, (∀ c ∈ a, isBlank c = true) ∧ s = a ++ trimStart s :=
  ⟨s.takeWhile isBlank, fun _ hc => List.mem_takeWhile_imp hc,
    List.takeWhile_append_dropWhile.symm⟩

lemma trim_isInfix (s : List Char) : trim s <:+: s := by
  obtain ⟨b, -, hb⟩ := exists_trimEnd (trimStart s)
  obtain ⟨a, -, ha⟩ := exists_trimStart s
  refine ⟨a, b, ?_⟩
  rw [trim, List.append_assoc, ← hb, ← ha]

/-- A trimmed text does not start with a blank. -/
lemma isBlank_eq_false_of_mem_head?_trim {s : List Char} {c : Char} (h : c ∈ (trim s).head?) :
    isBlank c = false := by
  obtain ⟨b, -, hs⟩ := exists_trimEnd (trimStart s)
  have hhead : (trimStart s).head? = some c := by
    rw [hs, List.head?_append, show (trimEnd (trimStart s)).head? = some c from h]
    rfl
  have hdrop := List.head?_dropWhile_not isBlank s
  rwa [show (s.dropWhile isBlank).head? = some c from hhead] at hdrop

lemma trimStart_eq_self {s : List Char} (h : ∀ c ∈ s.head?, isBlank c = false) :
    trimStart s = s := by
  cases s with
  | nil => rfl
  | cons c s =>
    have hc : isBlank c = false := h c rfl
    simp [trimStart, hc]

lemma isBlank_of_isInlineBlank {c : Char} (h : isInlineBlank c = true) : isBlank c = true :=
  (Bool.and_eq_true_iff.1 h).1

/-- The blanks of the first line can be left out before the start is trimmed. -/
lemma trimStart_dropWhile_inlineBlank (s : List Char) :
    trimStart (s.dropWhile isInlineBlank) = trimStart s := by
  have hblank : ∀ c ∈ s.takeWhile isInlineBlank, isBlank c = true := by
    intro c hc
    exact isBlank_of_isInlineBlank (List.mem_takeWhile_imp hc)
  rw [← trimStart_append_of_blank hblank, List.takeWhile_append_dropWhile]

/-- Behind all blanks no blank of the line follows. -/
lemma dropWhile_inlineBlank_trimStart (s : List Char) :
    (trimStart s).dropWhile isInlineBlank = trimStart s := by
  have hstop := List.head?_dropWhile_not isBlank s
  rw [← trimStart] at hstop
  cases hs : trimStart s with
  | nil => rfl
  | cons c r =>
    rw [hs] at hstop
    have hc : isBlank c = false := hstop
    simp [isInlineBlank, hc]

/-! ## Characters that are not blank -/

lemma exists_range_of_inRanges {table : List (Nat × Nat)} {c : Char}
    (h : inRanges table c = true) : ∃ r ∈ table, r.1 ≤ c.toNat ∧ c.toNat ≤ r.2 := by
  induction table with
  | nil => simp [inRanges] at h
  | cons r table ih =>
    simp only [inRanges, Bool.and_eq_true, Bool.or_eq_true, decide_eq_true_eq] at h
    obtain ⟨hlow, hhigh | hrest⟩ := h
    · exact ⟨r, List.mem_cons_self, hlow, hhigh⟩
    · obtain ⟨q, hq, hc⟩ := ih hrest
      exact ⟨q, List.mem_cons_of_mem r hq, hc⟩

/-- The visible characters below the first blank behind ASCII. -/
lemma isBlank_eq_false_of_toNat {c : Char} (hlow : 0x20 < c.toNat) (hhigh : c.toNat < 0x85) :
    isBlank c = false := by
  by_contra h
  obtain ⟨r, hr, hc⟩ := exists_range_of_inRanges (Bool.not_eq_false _ ▸ h)
  have hapart : ∀ r ∈ blankRanges, r.2 ≤ 0x20 ∨ 0x85 ≤ r.1 := by decide
  have hr := hapart r hr
  omega

lemma toNat_bounds_of_isAlphanum {c : Char} (h : c.isAlphanum = true) :
    '0'.toNat ≤ c.toNat ∧ c.toNat ≤ 'z'.toNat := by
  rcases Bool.or_eq_true_iff.1 h with h | h
  · rcases Bool.or_eq_true_iff.1 h with h | h
    · obtain ⟨hlow, hhigh⟩ : 'A'.toNat ≤ c.toNat ∧ c.toNat ≤ 'Z'.toNat := of_decide_eq_true h
      exact ⟨le_trans (by decide) hlow, le_trans hhigh (by decide)⟩
    · obtain ⟨hlow, hhigh⟩ := Bool.and_eq_true_iff.1 h
      have hlow : 'a'.toNat ≤ c.toNat := of_decide_eq_true hlow
      exact ⟨le_trans (by decide) hlow, of_decide_eq_true hhigh⟩
  · obtain ⟨hlow, hhigh⟩ := Char.isDigit_iff_toNat.1 h
    exact ⟨hlow, le_trans hhigh (by decide)⟩

lemma isBlank_eq_false_of_isAlphanum {c : Char} (h : c.isAlphanum = true) : isBlank c = false := by
  obtain ⟨hlow, hhigh⟩ := toNat_bounds_of_isAlphanum h
  exact isBlank_eq_false_of_toNat (lt_of_lt_of_le (by decide) hlow)
    (lt_of_le_of_lt hhigh (by decide))

/-- No word character is blank: behind ASCII the ranges of the two tables lie apart. -/
theorem isBlank_eq_false_of_isWord {c : Char} (h : isWord c = true) : isBlank c = false := by
  unfold isWord at h
  split_ifs at h with hc
  · rcases Bool.or_eq_true _ _ ▸ h with h | h
    · exact isBlank_eq_false_of_isAlphanum h
    · rw [beq_iff_eq.1 h]
      decide
  · by_contra hb
    obtain ⟨r, hr, hcr⟩ := exists_range_of_inRanges h
    obtain ⟨q, hq, hcq⟩ := exists_range_of_inRanges (Bool.not_eq_false _ ▸ hb)
    have hapart : ∀ r ∈ wordRanges, ∀ q ∈ blankRanges, r.2 < q.1 ∨ q.2 < r.1 := by decide +kernel
    have hrq := hapart r hr q hq
    omega

lemma isWord_eq_false_of_isBlank {c : Char} (h : isBlank c = true) : isWord c = false := by
  by_contra hword
  have hblank := isBlank_eq_false_of_isWord (Bool.not_eq_false _ ▸ hword)
  exact absurd (h.symm.trans hblank) (by decide)

lemma exists_zero_of_isDecimal {c : Char} (h : isDecimal c = true) :
    ∃ start ∈ decimalZeros, start ≤ c.toNat ∧ c.toNat < start + 10 := by
  obtain ⟨start, hstart, hc⟩ := List.any_eq_true.1 h
  rw [Bool.and_eq_true, decide_eq_true_eq, decide_eq_true_eq] at hc
  exact ⟨start, hstart, hc⟩

/-- No decimal digit is blank. -/
lemma isBlank_eq_false_of_isDecimal {c : Char} (h : isDecimal c = true) : isBlank c = false := by
  by_contra hb
  obtain ⟨start, hstart, hc⟩ := exists_zero_of_isDecimal h
  obtain ⟨r, hr, hcr⟩ := exists_range_of_inRanges (Bool.not_eq_false _ ▸ hb)
  have hapart : ∀ start ∈ decimalZeros, ∀ r ∈ blankRanges, start + 10 ≤ r.1 ∨ r.2 < start := by
    decide +kernel
  have hr := hapart start hstart r hr
  omega

end BasicLint.Text
