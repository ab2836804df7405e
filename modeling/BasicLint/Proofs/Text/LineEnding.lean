import BasicLint.Proofs.Text.Scan
import Mathlib.Data.List.Forall2

/-!
# Line endings

A text with carriage returns in front of its line feeds mirrors the text without them. The relation
also covers a text in which only some line feeds have a carriage return, which is where a cursor may
stand after it has passed blanks within a line, and a text that was cut between a carriage return and
its line feed. Every move of a cursor keeps the relation, and so do whole scans with a recogniser
that is blind to line endings.
-/
namespace BasicLint.Text

/-- Ends every line with a carriage return and a line feed. -/
def crlf (s : List Char) : List Char := s.flatMap fun c => if c = '\n' then ['\r', '\n'] else [c]

/-- The second text is the first one with a carriage return in front of some of its line feeds. A
cut one may end in a carriage return that has lost its line feed. -/
inductive Mirrors (cut : Bool) : List Char → List Char → Prop
  | nil : Mirrors cut [] []
  | stump (h : cut = true) : Mirrors cut [] ['\r']
  | char {c : Char} {s t : List Char} (hn : c ≠ '\n') (hr : c ≠ '\r') (h : Mirrors cut s t) :
      Mirrors cut (c :: s) (c :: t)
  | feed {s t : List Char} (h : Mirrors cut s t) : Mirrors cut ('\n' :: s) ('\n' :: t)
  | returnFeed {s t : List Char} (h : Mirrors cut s t) :
      Mirrors cut ('\n' :: s) ('\r' :: '\n' :: t)

@[simp] lemma crlf_nil : crlf [] = [] := rfl

@[simp] lemma crlf_newline (s : List Char) : crlf ('\n' :: s) = '\r' :: '\n' :: crlf s := rfl

lemma crlf_cons_of_ne {c : Char} (hc : c ≠ '\n') (s : List Char) : crlf (c :: s) = c :: crlf s := by
  simp [crlf, hc]

lemma mirrors_crlf {s : List Char} (hs : '\r' ∉ s) : Mirrors false s (crlf s) := by
  induction s with
  | nil => exact .nil
  | cons c s ih =>
    simp only [List.mem_cons, not_or] at hs
    by_cases hc : c = '\n'
    · subst hc
      exact .returnFeed (ih hs.2)
    · rw [crlf_cons_of_ne hc]
      exact .char hc (Ne.symm hs.1) (ih hs.2)

/-! ## Lines -/

lemma crlf_of_newline_not_mem {s : List Char} (hs : '\n' ∉ s) : crlf s = s := by
  induction s with
  | nil => rfl
  | cons c s ih =>
    simp only [List.mem_cons, not_or] at hs
    rw [crlf_cons_of_ne (Ne.symm hs.1), ih hs.2]

theorem lines_crlf (s : List Char) : lines (crlf s) = (lines s).map crlf := by
  induction s with
  | nil => rfl
  | cons c s ih =>
    by_cases hc : c = '\n'
    · subst hc
      rw [crlf_newline, lines_cons, lines_cons_newline, ih, lines_cons_newline]
      rfl
    · rw [crlf_cons_of_ne hc, lines_cons_of_ne hc, lines_cons_of_ne hc, firstLine, firstLine, ih]
      cases lines s <;> simp [crlf_cons_of_ne hc]

lemma isBlank_return : isBlank '\r' = true := by decide

/-- A line and its mirror differ in blanks at the end only. -/
theorem trim_crlf_of_mem_lines {l s : List Char} (h : l ∈ lines s) : trim (crlf l) = trim l := by
  obtain ⟨body, hb, rfl | rfl⟩ := mem_lines h
  · rw [crlf_of_newline_not_mem hb]
  · have he : crlf (body ++ ['\n']) = body ++ ['\r', '\n'] := by
      rw [crlf, List.flatMap_append, ← crlf, crlf_of_newline_not_mem hb]
      rfl
    rw [he, trim_append_of_blank (by simp [isBlank_return]), trim_append_of_blank (by simp)]

theorem snippet_crlf (s : List Char) (number : Nat) :
    snippet (crlf s) number = snippet s number := by
  unfold snippet line?
  split
  · rfl
  · rw [lines_crlf, List.getElem?_map]
    cases h : (lines s)[number - 1]? with
    | none => rfl
    | some l => exact trim_crlf_of_mem_lines (List.mem_of_getElem? h)

/-! ## Moves -/

/-- A piece of text that takes no part in a line ending. -/
def Unbroken (x : List Char) : Prop := '\n' ∉ x ∧ '\r' ∉ x

instance (x : List Char) : Decidable (Unbroken x) := inferInstanceAs (Decidable (_ ∧ _))

lemma Solid.unbroken {x : List Char} (hx : Solid x) : Unbroken x := by
  refine ⟨hx.newline_not_mem, fun h => ?_⟩
  have hr := hx.not_blank _ h
  simp [isBlank_return] at hr

/-- A class of characters that takes no part in a line ending. -/
def Within (p : Char → Bool) : Prop := p '\n' = false ∧ p '\r' = false

instance (p : Char → Bool) : Decidable (Within p) := inferInstanceAs (Decidable (_ ∧ _))

/-- At the end of a line or of the text. -/
def AtLineEnd (s : List Char) : Prop := s.head?.all (· == '\n') = true

instance (s : List Char) : Decidable (AtLineEnd s) := inferInstanceAs (Decidable (_ = true))

lemma atLineEnd_nil : AtLineEnd [] := rfl

lemma atLineEnd_newline (s : List Char) : AtLineEnd ('\n' :: s) := rfl

lemma not_atLineEnd_cons {c : Char} (hc : c ≠ '\n') (s : List Char) : ¬ AtLineEnd (c :: s) := by
  simpa [AtLineEnd] using hc

lemma AtLineEnd.dropWhile_inlineBlank {s : List Char} (hs : AtLineEnd s) :
    AtLineEnd (s.dropWhile isInlineBlank) := by
  cases s with
  | nil => exact atLineEnd_nil
  | cons c s =>
    obtain rfl : c = '\n' := by simpa [AtLineEnd] using hs
    simpa using atLineEnd_newline s

lemma AtLineEnd.takeWhile_eq_nil {s : List Char} (hs : AtLineEnd s) {p : Char → Bool}
    (hp : Within p) : s.takeWhile p = [] := by
  cases s with
  | nil => rfl
  | cons c s =>
    obtain rfl : c = '\n' := by simpa [AtLineEnd] using hs
    simp [hp.1]

lemma AtLineEnd.head?_any {s : List Char} (hs : AtLineEnd s) {p : Char → Bool}
    (hp : Within p) : s.head?.any p = false := by
  cases s with
  | nil => rfl
  | cons c s =>
    obtain rfl : c = '\n' := by simpa [AtLineEnd] using hs
    simpa using hp.1

lemma AtLineEnd.after? {s literal : List Char} (hs : AtLineEnd s) (hl : Solid literal) :
    after? literal s = none := by
  obtain ⟨l, literal, rfl⟩ := List.exists_cons_of_ne_nil hl.ne_nil
  cases s with
  | nil => rfl
  | cons c s =>
    obtain rfl : c = '\n' := by simpa [AtLineEnd] using hs
    have hc : l ≠ '\n' := fun h => hl.newline_not_mem (by simp [h])
    simp [Text.after?, hc]

namespace Mirrors

variable {cut : Bool} {s t : List Char}

/-- Without its carriage returns the mirror is the text itself. -/
lemma filter_eq (h : Mirrors cut s t) : t.filter (· != '\r') = s := by
  induction h with
  | nil => rfl
  | stump _ => rfl
  | char _ hr _ ih => simp [hr, ih]
  | feed _ ih => simp [ih]
  | returnFeed _ ih => simp [ih]

lemma after? (h : Mirrors cut s t) {literal : List Char} (hl : Unbroken literal) :
    Option.Rel (Mirrors cut) (Text.after? literal s) (Text.after? literal t) := by
  induction literal generalizing s t with
  | nil => exact .some h
  | cons l literal ih =>
    simp only [Unbroken, List.mem_cons, not_or] at hl
    obtain ⟨⟨hn, hn'⟩, hr, hr'⟩ := hl
    cases h with
    | nil => exact .none
    | stump _ => simp [Text.after?, Ne.symm hr]
    | @char c s t _ _ h =>
      by_cases hl : l = c
      · simpa [Text.after?, hl] using ih h ⟨hn', hr'⟩
      · simp [Text.after?, hl]
    | feed _ => simp [Text.after?, Ne.symm hn]
    | returnFeed _ => simp [Text.after?, Ne.symm hn, Ne.symm hr]

/-- A class that goes on over line feeds goes on over carriage returns too. -/
lemma dropWhile (h : Mirrors cut s t) {p : Char → Bool} (hp : p '\n' = true → p '\r' = true) :
    Mirrors cut (s.dropWhile p) (t.dropWhile p) := by
  induction h with
  | nil => exact .nil
  | stump hc => cases hr : p '\r' <;> simp [hr, Mirrors.nil, Mirrors.stump hc]
  | @char c s t hn hr h ih =>
    cases hc : p c
    · simpa [hc] using .char hn hr h
    · simpa [hc] using ih
  | @feed s t h ih =>
    cases hn : p '\n'
    · simpa [hn] using .feed h
    · simpa [hn] using ih
  | @returnFeed s t h ih =>
    cases hn : p '\n'
    · cases hr : p '\r'
      · simpa [hn, hr] using .returnFeed h
      · simpa [hn, hr] using .feed h
    · simpa [hn, hp hn] using ih

lemma takeWhile (h : Mirrors cut s t) {p : Char → Bool} (hp : Within p) :
    t.takeWhile p = s.takeWhile p := by
  induction h with
  | nil => rfl
  | stump _ => simp [hp.2]
  | char _ _ _ ih => rw [List.takeWhile_cons, List.takeWhile_cons, ih]
  | feed _ _ => simp [hp.1]
  | returnFeed _ _ => simp [hp.1, hp.2]

lemma head?_any (h : Mirrors cut s t) {p : Char → Bool} (hp : Within p) :
    t.head?.any p = s.head?.any p := by
  cases h <;> simp [hp.1, hp.2]

lemma atLineEnd_iff_of_feed (h : Mirrors cut s t) (ht : t.head? ≠ some '\r') :
    AtLineEnd t ↔ AtLineEnd s := by
  cases h <;> simp_all [AtLineEnd]

/-- In a mirror that is not cut a carriage return stands in front of a line feed. -/
lemma newline_of_return (h : Mirrors false s t) {u r : List Char} (ht : t = u ++ '\r' :: r) :
    AtLineEnd r := by
  induction h generalizing u with
  | nil => simp at ht
  | stump hc => simp at hc
  | char _ hr _ ih =>
    cases u with
    | nil => simp_all
    | cons d u => exact ih (List.cons.inj ht).2
  | feed _ ih =>
    cases u with
    | nil => simp at ht
    | cons d u => exact ih (List.cons.inj ht).2
  | returnFeed _ ih =>
    cases u with
    | nil =>
      rw [← (List.cons.inj ht).2]
      exact atLineEnd_newline _
    | cons d u =>
      cases u with
      | nil => simp at ht
      | cons e u => exact ih (List.cons.inj (List.cons.inj ht).2).2

end Mirrors

end BasicLint.Text
