import BasicLint.Proofs.Text.Scan
import Mathlib.Data.List.Forall2

/-!
# Hits that lie apart

A scan goes on behind each hit and so misses what begins inside one. Where the finds of a recogniser
never overlap, nothing is missed: the hits stand, in order, at all places of the text at which the
recogniser finds something.
-/
namespace BasicLint.Text

variable {α : Type}

namespace Recognizer

/-- Nothing is recognised inside the text that a recogniser has passed. -/
def Separate (p : Recognizer α) : Prop :=
  ∀ {before : Option Char} {s t : Cursor} {value : α} {u v : List Char},
    p before s = some (value, t) → s.Passes (u ++ v) t → u ≠ [] → v ≠ [] →
      p u.getLast? ⟨0, v ++ t.rest⟩ = none

/-- Whether something is recognised behind the first `place` characters of a text that follows
`before`. -/
def findsAt (p : Recognizer α) (before : Option Char) (text : List Char) (place : Nat) : Bool :=
  (p ((text.take place).getLast?.or before) ⟨0, text.drop place⟩).isSome

/-- The places of a text at which something is recognised. -/
def places (p : Recognizer α) (before : Option Char) (text : List Char) : List Nat :=
  (List.range text.length).filter (p.findsAt before text)

@[simp] theorem findsAt_zero (p : Recognizer α) (before : Option Char) (text : List Char) :
    p.findsAt before text 0 = (p before ⟨0, text⟩).isSome := rfl

@[simp] theorem findsAt_cons_succ (p : Recognizer α) (before : Option Char) (c : Char)
    (s : List Char) (place : Nat) :
    p.findsAt before (c :: s) (place + 1) = p.findsAt (some c) s place := by
  simp only [findsAt, List.take_succ_cons, List.drop_succ_cons, getLast?_cons_or]

lemma findsAt_append (p : Recognizer α) (before : Option Char) (a b : List Char) (place : Nat) :
    p.findsAt before (a ++ b) (a.length + place) = p.findsAt (a.getLast?.or before) b place := by
  rw [findsAt, findsAt, List.take_length_add_append, List.drop_length_add_append,
    List.getLast?_append, Option.or_assoc]

lemma places_cons (p : Recognizer α) (before : Option Char) (c : Char) (s : List Char) :
    p.places before (c :: s) =
      if (p before ⟨0, c :: s⟩).isSome then 0 :: (p.places (some c) s).map (· + 1)
      else (p.places (some c) s).map (· + 1) := by
  have hlater : (p.findsAt before (c :: s)) ∘ (· + 1) = p.findsAt (some c) s :=
    funext (p.findsAt_cons_succ before c s)
  rw [places, List.length_cons, List.range_succ_eq_map, List.filter_cons, findsAt_zero,
    List.filter_map, hlater, places]

end Recognizer

variable {p : Recognizer α}

/-- Nothing is found on the way through what has been passed at a place. -/
lemma Recognizer.findsAt_eq_false (p : Recognizer α) (hadvances : p.Advances)
    (hseparate : p.Separate) {before : Option Char} {c : Char} {s : List Char} {value : α}
    {found : Cursor} (h : p before ⟨0, c :: s⟩ = some (value, found)) {place : Nat}
    (hplace : place < found.passed - 1) : p.findsAt (some c) s place = false := by
  obtain ⟨u, hu, hpasses⟩ := hadvances h
  obtain ⟨d, w, rfl⟩ := List.exists_cons_of_ne_nil hu
  obtain ⟨rfl, rfl⟩ : c = d ∧ s = w ++ found.rest := List.cons_eq_cons.1 hpasses.rest_eq
  have hpassed : found.passed = 0 + (w.length + 1) := hpasses.passed_eq
  have hinner : place < w.length := by omega
  have hcut : c :: w = (c :: w.take place) ++ w.drop place := by simp
  have hinside := hseparate h (hcut ▸ hpasses) (by simp) (by simpa using hinner)
  rw [← Option.or_none (o := (c :: w.take place).getLast?), getLast?_cons_or] at hinside
  rw [findsAt, List.take_append_of_le_length hinner.le, List.drop_append_of_le_length hinner.le,
    hinside, Option.isSome_none]

/-- Whatever is found behind a find stands behind the text that has been passed there. -/
lemma Recognizer.add_passed_le (p : Recognizer α) (hadvances : p.Advances)
    (hseparate : p.Separate) {a b : List Char} {value : α} {found : Cursor}
    (h : p a.getLast? ⟨0, b⟩ = some (value, found)) {place : Nat}
    (hplace : p.findsAt none (a ++ b) place = true) (hlt : a.length < place) :
    a.length + found.passed ≤ place := by
  obtain ⟨u, hu, hpasses⟩ := hadvances h
  obtain ⟨c, w, rfl⟩ := List.exists_cons_of_ne_nil hu
  obtain rfl : b = c :: (w ++ found.rest) := hpasses.rest_eq
  by_contra hinside
  obtain ⟨k, rfl⟩ : ∃ k, place = a.length + (k + 1) := ⟨place - a.length - 1, by omega⟩
  rw [findsAt_append, findsAt_cons_succ,
    p.findsAt_eq_false hadvances hseparate h (by omega)] at hplace
  exact absurd hplace (by decide)

/-- A hit stands behind the first `place` characters of a text. -/
def StandsAt (p : Recognizer α) (before : Option Char) (line : Nat) (text : List Char)
    (hit : Hit α) (place : Nat) : Prop :=
  ∃ site : Site p before line text hit, site.front.length = place

/-- The scan passes over no place at which something is recognised, as long as there is none among
the characters that it still has to skip. -/
lemma forall₂_scanFrom (hadvances : p.Advances) (hseparate : p.Separate) {before : Option Char}
    {line skip : Nat} {text : List Char}
    (hskip : ∀ place < skip, p.findsAt before text place = false) :
    List.Forall₂ (StandsAt p before line text) (scanFrom p before line skip text)
      (p.places before text) := by
  induction text generalizing before line skip with
  | nil =>
    cases skip with
    | succ skip => exact .nil
    | zero =>
      simp only [scanFrom, hadvances.eq_none]
      exact .nil
  | cons c s ih =>
    have later {k : Nat} (hk : ∀ place < k, p.findsAt (some c) s place = false) :
        List.Forall₂ (StandsAt p before line (c :: s))
          (scanFrom p (some c) (nextLine c line) k s) ((p.places (some c) s).map (· + 1)) := by
      refine List.forall₂_map_right_iff.2 ((ih hk).imp ?_)
      rintro hit place ⟨site, rfl⟩
      exact ⟨site.cons, rfl⟩
    rw [Recognizer.places_cons]
    cases skip with
    | succ skip =>
      have hnone := hskip 0 (Nat.zero_lt_succ skip)
      rw [Recognizer.findsAt_zero] at hnone
      rw [if_neg (by simp [hnone])]
      refine later fun place hplace => ?_
      rw [← p.findsAt_cons_succ before c s]
      exact hskip (place + 1) (Nat.succ_lt_succ hplace)
    | zero =>
      cases hc : p before ⟨0, c :: s⟩ with
      | none =>
        rw [scanFrom_of_none hc]
        exact later fun place hplace => absurd hplace (Nat.not_lt_zero place)
      | some result =>
        obtain ⟨value, found⟩ := result
        simp only [scanFrom, hc, Option.isSome_some, ↓reduceIte]
        exact .cons ⟨⟨[], c :: s, found, rfl, by simpa using hc, rfl, by simp⟩, rfl⟩
          (later fun place => p.findsAt_eq_false hadvances hseparate hc)

/-- Where finds never overlap, the hits of a scan stand at all places with a find, in order. -/
theorem forall₂_scan (p : Recognizer α) (hadvances : p.Advances) (hseparate : p.Separate)
    (line : Nat) (text : List Char) :
    List.Forall₂ (StandsAt p none line text) (scan p line text) (p.places none text) :=
  forall₂_scanFrom hadvances hseparate fun place hplace => absurd hplace (Nat.not_lt_zero place)

lemma StandsAt.line_eq {line place : Nat} {text : List Char} {hit : Hit α}
    (h : StandsAt p none line text hit place) :
    hit.line = line + (text.take place).count '\n' := by
  obtain ⟨site, rfl⟩ := h
  have hfront : text.take site.front.length = site.front :=
    (congrArg (List.take _) site.text_eq).trans List.take_left
  rw [site.line_eq, hfront]

/-- An end of a text in two parts lies in the second part or goes on from an end of the first. -/
lemma suffix_append_cases {v w z : List Char} (h : v <:+ w ++ z) :
    v <:+ z ∨ ∃ w', w' ≠ [] ∧ w' <:+ w ∧ v = w' ++ z := by
  obtain ⟨u, hu⟩ := h
  rcases List.append_eq_append_iff.1 hu with ⟨w', rfl, rfl⟩ | ⟨z', -, rfl⟩
  · by_cases hw : w' = []
    · exact .inl (by simp [hw])
    · exact .inr ⟨w', hw, ⟨u, rfl⟩, rfl⟩
  · exact .inl ⟨z', rfl⟩

end BasicLint.Text
