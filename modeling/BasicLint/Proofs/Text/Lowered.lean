import BasicLint.Proofs.Text.Scan

/-!
# A text below an empty line

An empty line on top of a text moves its lines down by one and changes none of them. A recogniser
that finds nothing at a line feed, and to which a text behind a line feed is like a text at the
start, has the same hits there, each one line further down.
-/
namespace BasicLint.Text

variable {α : Type}

lemma snippet_cons_newline (s : List Char) (number : Nat) :
    snippet ('\n' :: s) (number + 1) = snippet s number := by
  unfold snippet line?
  rw [lines_cons_newline, if_neg (Nat.succ_ne_zero number), Nat.add_sub_cancel]
  cases number with
  | zero => rfl
  | succ number => rfl

def Hit.lower (hit : Hit α) : Hit α := { hit with line := hit.line + 1 }

lemma nextLine_succ (c : Char) (line : Nat) : nextLine c (line + 1) = nextLine c line + 1 := by
  unfold nextLine
  split_ifs <;> rfl

/-- The number of the first line matters to the lines of the hits only. -/
lemma scanFrom_succ (p : Recognizer α) (before : Option Char) (line skip : Nat) (s : List Char) :
    scanFrom p before (line + 1) skip s = (scanFrom p before line skip s).map Hit.lower := by
  induction s generalizing before line skip with
  | nil =>
    cases skip with
    | succ skip => rfl
    | zero =>
      simp only [scanFrom]
      split <;> rfl
  | cons c s ih =>
    cases skip with
    | succ skip => simp only [scanFrom, nextLine_succ, ih]
    | zero =>
      simp only [scanFrom, nextLine_succ, ih]
      split <;> rfl

lemma map_value_scan (p : Recognizer α) (line : Nat) (s : List Char) :
    (scan p line s).map (·.value) = (scan p 0 s).map (·.value) := by
  induction line with
  | zero => rfl
  | succ line ih =>
    rw [scan, scanFrom_succ, List.map_map]
    exact ih

/-- A recogniser that takes no notice of empty lines before a text. -/
structure Recognizer.Settled (p : Recognizer α) : Prop where
  newline : ∀ before s, p before ⟨0, '\n' :: s⟩ = none
  start : ∀ s, p (some '\n') s = p none s

namespace Recognizer.Settled

variable {p : Recognizer α} (h : p.Settled)
include h

lemma scanFrom_newline (line : Nat) (s : List Char) :
    scanFrom p (some '\n') line 0 s = scan p line s := by
  cases s <;> simp only [scan, scanFrom, h.start]

theorem scan_cons_newline (line : Nat) (s : List Char) :
    scan p line ('\n' :: s) = (scan p line s).map Hit.lower := by
  rw [scan, scanFrom_of_none (h.newline none s), h.scanFrom_newline]
  exact scanFrom_succ p none line 0 s

lemma first?_cons_newline (line : Nat) (s : List Char) :
    first? p line ('\n' :: s) = (first? p line s).map Hit.lower := by
  rw [first?_eq, first?_eq, h.scan_cons_newline, List.head?_map]

lemma occurs_cons_newline (s : List Char) : occurs p ('\n' :: s) = occurs p s := by
  have hfirst (s : List Char) : occurs p s = (first? p 1 s).isSome :=
    occursFrom_eq_isSome p none 1 s
  rw [hfirst, hfirst, h.first?_cons_newline, Option.isSome_map]

end Recognizer.Settled

end BasicLint.Text
