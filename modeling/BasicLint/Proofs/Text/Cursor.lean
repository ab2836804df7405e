import BasicLint.Text.Cursor
import Mathlib.Data.List.TakeWhile

/-!
# The text a cursor passes

Every move of a cursor passes a definite piece of text. The lemmas below name that piece for each
move, so that what a recogniser has read is found by adding up its moves.
-/
namespace BasicLint.Text

/-- A piece of text that is not empty and holds only characters of one class. -/
structure IsRun (p : Char → Bool) (u : List Char) : Prop where
  ne_nil : u ≠ []
  all : ∀ c ∈ u, p c = true

lemma mem_of_mem_head?_append {u v : List Char} (hu : u ≠ []) {c : Char}
    (hc : c ∈ (u ++ v).head?) : c ∈ u := by
  obtain ⟨d, u, rfl⟩ := List.exists_cons_of_ne_nil hu
  obtain rfl : d = c := by simpa using hc
  exact List.mem_cons_self

namespace IsRun

variable {p q : Char → Bool} {u u' s s' : List Char}

lemma of_suffix (hu : IsRun p u) (h : s <:+ u) (hs : s ≠ []) : IsRun p s :=
  ⟨hs, fun c hc => hu.all c (h.subset hc)⟩

/-- A run of one class stops a move over a class that shares no character with it. -/
lemma head?_append (hu : IsRun p u) (hpq : ∀ c, p c = true → q c = false) :
    ∀ c ∈ (u ++ s).head?, q c = false :=
  fun c hc => hpq c (hu.all c (mem_of_mem_head?_append hu.ne_nil hc))

/-- A text starts with one run of a class that ends before a character of another class. -/
lemma append_inj (hu : IsRun p u) (hu' : IsRun p u') (hs : ∀ c ∈ s.head?, p c = false)
    (hs' : ∀ c ∈ s'.head?, p c = false) (h : u ++ s = u' ++ s') : u = u' ∧ s = s' := by
  have hcut {u s : List Char} (hu : IsRun p u) (hs : ∀ c ∈ s.head?, p c = false) :
      (u ++ s).takeWhile p = u := by
    rw [List.takeWhile_append_of_pos hu.all]
    cases s with
    | nil => simp
    | cons c s => simp [hs c rfl]
  have hruns : u = u' := by rw [← hcut hu hs, h, hcut hu' hs']
  subst hruns
  exact ⟨rfl, List.append_cancel_left h⟩

end IsRun

namespace Cursor

/-- Moving from `s` to `t` passes exactly the text `u`. -/
structure Passes (s : Cursor) (u : List Char) (t : Cursor) : Prop where
  rest_eq : s.rest = u ++ t.rest
  passed_eq : t.passed = s.passed + u.length

lemma Passes.trans {s t r : Cursor} {u w : List Char} (h : s.Passes u t) (h' : t.Passes w r) :
    s.Passes (u ++ w) r where
  rest_eq := by rw [h.rest_eq, h'.rest_eq, List.append_assoc]
  passed_eq := by
    rw [h'.passed_eq, h.passed_eq, List.length_append]
    omega

theorem after?_eq_some_iff {literal : List Char} {s t : Cursor} :
    s.after? literal = some t ↔ s.Passes literal t := by
  simp only [after?, Option.map_eq_some_iff, Text.after?_eq_some_iff]
  constructor
  · rintro ⟨rest, hrest, rfl⟩
    exact ⟨hrest, rfl⟩
  · rintro ⟨hrest, hpassed⟩
    exact ⟨t.rest, hrest, by rw [← hpassed]⟩

theorem one?_eq_some_iff {p : Char → Bool} {s t : Cursor} :
    s.one? p = some t ↔ ∃ c, p c = true ∧ s.Passes [c] t := by
  unfold one?
  constructor
  · intro h
    split at h
    · simp at h
    · rename_i c rest hs
      split at h
      · rename_i hc
        obtain rfl := Option.some.inj h
        exact ⟨c, hc, by simp [hs], rfl⟩
      · simp at h
  · rintro ⟨c, hc, hrest, hpassed⟩
    simp only [hrest, List.cons_append, List.nil_append, hc, ↓reduceIte]
    rw [← show t.passed = s.passed + 1 from hpassed]

theorem passes_skip (p : Char → Bool) (s : Cursor) :
    s.Passes (s.rest.takeWhile p) (s.skip p) where
  rest_eq := by simp
  passed_eq := by simp

theorem passes_skipBlanks (s : Cursor) : s.Passes (s.rest.takeWhile isBlank) s.skipBlanks :=
  s.passes_skip isBlank

theorem blanks?_eq_some {s t : Cursor} (h : s.blanks? = some t) :
    ∃ u, u ≠ [] ∧ (∀ c ∈ u, isBlank c = true) ∧ s.Passes u t := by
  obtain ⟨r, hr, rfl⟩ := Option.map_eq_some_iff.1 h
  obtain ⟨c, hc, hp⟩ := one?_eq_some_iff.1 hr
  refine ⟨_, ?_, ?_, hp.trans r.passes_skipBlanks⟩
  · simp
  · intro x hx
    rcases List.mem_append.1 hx with hx | hx
    · rwa [List.mem_singleton.1 hx]
    · exact List.mem_takeWhile_imp hx

theorem run?_eq_some {p : Char → Bool} {s t : Cursor} {run : List Char}
    (h : s.run? p = some (run, t)) :
    run ≠ [] ∧ (∀ c ∈ run, p c = true) ∧ s.Passes run t := by
  simp only [run?, List.isEmpty_iff, Option.ite_none_left_eq_some, Option.some.injEq,
    Prod.mk.injEq] at h
  obtain ⟨hne, rfl, rfl⟩ := h
  exact ⟨hne, fun c hc => List.mem_takeWhile_imp hc, s.passes_skip p⟩

/-! ## Moves over a given text

The other way round: text that is known to lie ahead is passed by a move that fits it, if the
character behind the text ends the move.
-/

/-- A move over two pieces of text rests between them. -/
lemma passes_append_iff {s t : Cursor} {u w : List Char} :
    s.Passes (u ++ w) t ↔ ∃ r, s.Passes u r ∧ r.Passes w t := by
  constructor
  · rintro ⟨hrest, hpassed⟩
    refine ⟨⟨s.passed + u.length, w ++ t.rest⟩, ⟨by simpa using hrest, rfl⟩, rfl, ?_⟩
    rw [hpassed, List.length_append, Nat.add_assoc]
  · rintro ⟨r, h, h'⟩
    exact h.trans h'

/-- The cursor ahead of a text. -/
lemma passes_of_rest_eq {s : Cursor} {u v : List Char} (h : s.rest = u ++ v) :
    s.Passes u ⟨s.passed + u.length, v⟩ := ⟨h, rfl⟩

namespace Passes

variable {p : Char → Bool} {s t : Cursor} {u : List Char}

/-- The character at a cursor belongs to the text that is passed next. -/
lemma mem_of_head? (h : s.Passes u t) (hu : u ≠ []) {c : Char} (hc : c ∈ s.head?) : c ∈ u := by
  rw [head?, h.rest_eq] at hc
  exact mem_of_mem_head?_append hu hc

lemma skip_eq (h : s.Passes u t) (hu : ∀ c ∈ u, p c = true) (ht : ∀ c ∈ t.head?, p c = false) :
    s.skip p = t := by
  have hstop : t.rest.takeWhile p = [] ∧ t.rest.dropWhile p = t.rest := by
    cases hr : t.rest with
    | nil => simp
    | cons c r =>
      have hc : p c = false := ht c (by simp [head?, hr])
      simp [hc]
  rw [Cursor.mk.injEq, rest_skip, passed_skip, h.rest_eq, h.passed_eq,
    List.takeWhile_append_of_pos hu, List.dropWhile_append_of_pos hu, hstop.1, hstop.2]
  simp

lemma run?_eq (h : s.Passes u t) (hu : IsRun p u) (ht : ∀ c ∈ t.head?, p c = false) :
    s.run? p = some (u, t) := by
  have hskip := h.skip_eq hu.all ht
  have htake : s.rest.takeWhile p = u := by
    have hp := s.passes_skip p
    rw [hskip] at hp
    exact List.append_cancel_right (hp.rest_eq.symm.trans h.rest_eq)
  rw [run?, htake, hskip, if_neg (by simpa using hu.ne_nil)]

lemma blanks?_eq (h : s.Passes u t) (hu : IsRun isBlank u)
    (ht : ∀ c ∈ t.head?, isBlank c = false) : s.blanks? = some t := by
  obtain ⟨c, v, rfl⟩ := List.exists_cons_of_ne_nil hu.ne_nil
  obtain ⟨r, hr, hv⟩ := passes_append_iff.1 (show s.Passes ([c] ++ v) t from h)
  rw [blanks?, one?_eq_some_iff.2 ⟨c, hu.all c List.mem_cons_self, hr⟩, Option.map_some, skipBlanks,
    hv.skip_eq (fun x hx => hu.all x (List.mem_cons_of_mem c hx)) ht]

end Passes

section BehindBlanks

variable {α : Type} {p : Cursor → Option α}

lemma behindBlanks?_cons (passed : Nat) (c : Char) (rest : List Char) :
    behindBlanks? p ⟨passed, c :: rest⟩ =
      if isBlank c then behindBlanks? p ⟨passed + 1, rest⟩ <|> p ⟨passed, c :: rest⟩
      else p ⟨passed, c :: rest⟩ := rfl

/-- What is found behind blanks is found at a place that only blanks lead to. -/
theorem behindBlanks?_eq_some {s : Cursor} {found : α} (h : s.behindBlanks? p = some found) :
    ∃ u t, (∀ c ∈ u, isBlank c = true) ∧ s.Passes u t ∧ p t = some found := by
  obtain ⟨passed, rest⟩ := s
  induction rest generalizing passed with
  | nil => exact ⟨[], _, by simp, ⟨rfl, rfl⟩, h⟩
  | cons c rest ih =>
    rw [behindBlanks?_cons, Option.orElse_eq_orElse, Option.orElse_eq_or] at h
    split_ifs at h with hc
    · rcases Option.or_eq_some_iff.1 h with h | ⟨-, h⟩
      · obtain ⟨u, t, hu, hpasses, ht⟩ := ih (passed + 1) h
        have hfirst : Passes ⟨passed, c :: rest⟩ [c] ⟨passed + 1, rest⟩ := ⟨rfl, rfl⟩
        exact ⟨[c] ++ u, t, by simpa [hc] using hu, hfirst.trans hpasses, ht⟩
      · exact ⟨[], _, by simp, ⟨rfl, rfl⟩, h⟩
    · exact ⟨[], _, by simp, ⟨rfl, rfl⟩, h⟩

/-- Something is found behind blanks if there is a place that only blanks lead to where it is. -/
theorem isSome_behindBlanks? {s t : Cursor} {u : List Char} (hu : ∀ c ∈ u, isBlank c = true)
    (h : s.Passes u t) (ht : (p t).isSome = true) : (s.behindBlanks? p).isSome = true := by
  obtain ⟨passed, rest⟩ := s
  obtain ⟨passed', rest'⟩ := t
  obtain ⟨rfl, rfl⟩ : rest = u ++ rest' ∧ passed' = passed + u.length := ⟨h.rest_eq, h.passed_eq⟩
  clear h
  induction u generalizing passed with
  | nil =>
    cases rest' with
    | nil => exact ht
    | cons c rest =>
      rw [List.nil_append, behindBlanks?_cons]
      split_ifs
      · rw [Option.orElse_eq_orElse, Option.orElse_eq_or, Option.isSome_or,
          show (p ⟨passed, c :: rest⟩).isSome = true from ht, Bool.or_true]
      · exact ht
  | cons d u ih =>
    rw [List.forall_mem_cons] at hu
    rw [List.length_cons, ← Nat.add_assoc, Nat.add_right_comm] at ht
    rw [List.cons_append, behindBlanks?_cons, if_pos hu.1, Option.orElse_eq_orElse,
      Option.orElse_eq_or, Option.isSome_or, ih hu.2 (passed + 1) ht, Bool.true_or]

/-- What is found behind all blanks is preferred. -/
theorem behindBlanks?_of_skipBlanks {s : Cursor} {found : α} (h : p s.skipBlanks = some found) :
    s.behindBlanks? p = some found := by
  obtain ⟨passed, rest⟩ := s
  rw [skipBlanks, skip] at h
  induction rest generalizing passed with
  | nil => exact h
  | cons c rest ih =>
    rw [behindBlanks?_cons]
    simp only [skip.go] at h
    split_ifs at h ⊢
    · rw [ih (passed + 1) h]
      rfl
    · exact h

end BehindBlanks

/-- Blanks are passed exactly where one lies ahead. -/
lemma isSome_blanks? (s : Cursor) : s.blanks?.isSome = s.head?.any isBlank := by
  rw [blanks?, Option.isSome_map, one?, head?]
  cases s.rest with
  | nil => rfl
  | cons c r => cases h : isBlank c <;> simp [h]

end Cursor

lemma mem_takeWhile_blank {s : List Char} : ∀ c ∈ s.takeWhile isBlank, isBlank c = true :=
  fun _ hc => List.mem_takeWhile_imp hc

/-- Blanks before a text that starts with none are passed up to the text. -/
lemma skipBlanks_of_passes {s t : Cursor} {a x : List Char} (ha : ∀ c ∈ a, isBlank c = true)
    (hx : ∃ c ∈ x.head?, isBlank c = false) (h : s.Passes (a ++ x) t) :
    s.skipBlanks.Passes x t := by
  obtain ⟨r, hr, hrx⟩ := Cursor.passes_append_iff.1 h
  have hstop : ∀ c ∈ r.head?, isBlank c = false := by
    obtain ⟨c, hc, hblank⟩ := hx
    rw [Cursor.head?, hrx.rest_eq, List.head?_append, hc]
    simpa using hblank
  rwa [Cursor.skipBlanks, hr.skip_eq ha hstop]

end BasicLint.Text
