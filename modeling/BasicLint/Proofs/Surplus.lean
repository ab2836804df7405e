import BasicLint.Rule.Nesting
import Mathlib.Algebra.Order.Group.Int
import Mathlib.Order.Bounds.Image

/-!
# The depth of a text

The counter of brackets never falls below zero, so it forgets what was closed too often. Behind a
text it shows the largest surplus of opening brackets over closing ones that some end of the text
has, and its highest value is the largest surplus that any stretch of the text has.
-/
namespace BasicLint.Nesting

/-- How many more brackets a text opens than it closes. -/
def surplus (mode : Mode) (s : List Char) : ℤ := s.countP opens - s.countP mode.closes

/-- The surpluses of the ends of a text. -/
def endSurpluses (mode : Mode) (text : List Char) : Set ℤ := surplus mode '' {s | s <:+ text}

/-- The surpluses of all stretches of a text. -/
def surpluses (mode : Mode) (text : List Char) : Set ℤ := surplus mode '' {s | s <:+: text}

@[simp] theorem surplus_nil (mode : Mode) : surplus mode [] = 0 := rfl

@[simp] theorem surplus_append (mode : Mode) (s t : List Char) :
    surplus mode (s ++ t) = surplus mode s + surplus mode t := by
  simp only [surplus, List.countP_append]
  omega

lemma Mode.closes_eq_false {c : Char} (h : opens c = true) (mode : Mode) :
    mode.closes c = false := by
  simp only [opens, Bool.or_eq_true, beq_iff_eq] at h
  obtain rfl | rfl := h <;> cases mode <;> rfl

/-! ## One more character -/

lemma endSurpluses_concat (mode : Mode) (text : List Char) (c : Char) :
    endSurpluses mode (text ++ [c]) =
      insert 0 ((· + surplus mode [c]) '' endSurpluses mode text) := by
  ext n
  simp only [endSurpluses, Set.mem_image, Set.mem_ofPred_eq, Set.mem_insert_iff,
    List.suffix_concat_iff]
  constructor
  · rintro ⟨s, rfl | ⟨s, rfl, hs⟩, rfl⟩
    · exact .inl (surplus_nil mode)
    · exact .inr ⟨_, ⟨s, hs, rfl⟩, (surplus_append mode s [c]).symm⟩
  · rintro (rfl | ⟨_, ⟨s, hs, rfl⟩, rfl⟩)
    · exact ⟨[], .inl rfl, surplus_nil mode⟩
    · exact ⟨s ++ [c], .inr ⟨s, rfl, hs⟩, surplus_append mode s [c]⟩

lemma surpluses_concat (mode : Mode) (text : List Char) (c : Char) :
    surpluses mode (text ++ [c]) = surpluses mode text ∪ endSurpluses mode (text ++ [c]) := by
  rw [surpluses, surpluses, endSurpluses, ← Set.image_union, Set.union_comm]
  congr 1
  ext s
  exact List.infix_concat_iff

lemma surplus_singleton (mode : Mode) (c : Char) :
    surplus mode [c] = if opens c then 1 else if mode.closes c then -1 else 0 := by
  by_cases hopens : opens c = true
  · simp [surplus, hopens, Mode.closes_eq_false hopens mode]
  · by_cases hcloses : mode.closes c = true <;> simp [surplus, hopens, hcloses]

/-- A step moves the counter by the surplus of its character, but not below zero. -/
lemma Level.depth_step (mode : Mode) (level : Level) (c : Char) :
    ((level.step mode c).depth : ℤ) = max 0 (level.depth + surplus mode [c]) := by
  rw [surplus_singleton, step]
  split_ifs
  · dsimp only
    omega
  · dsimp only
    omega
  · omega

lemma Level.deepest_step (mode : Mode) {level : Level} (h : level.depth ≤ level.deepest)
    (c : Char) :
    ((level.step mode c).deepest : ℤ) = max (level.deepest : ℤ) (level.step mode c).depth := by
  unfold step
  split_ifs
  · dsimp only
    omega
  · dsimp only
    omega
  · omega

/-! ## The whole text -/

/-- The counter behind a text, and its highest value on the way. -/
structure Level.Measures (mode : Mode) (text : List Char) (level : Level) : Prop where
  depth_greatest : IsGreatest (endSurpluses mode text) level.depth
  deepest_greatest : IsGreatest (surpluses mode text) level.deepest

namespace Level.Measures

variable {mode : Mode} {text : List Char} {level : Level}

/-- An end of a text is one of its stretches. -/
lemma depth_le (h : level.Measures mode text) : level.depth ≤ level.deepest := by
  obtain ⟨s, hs, hdepth⟩ := h.depth_greatest.1
  have hle : (level.depth : ℤ) ≤ level.deepest :=
    h.deepest_greatest.2 ⟨s, List.IsSuffix.isInfix hs, hdepth⟩
  exact_mod_cast hle

theorem step (h : level.Measures mode text) (c : Char) :
    (level.step mode c).Measures mode (text ++ [c]) := by
  have hdepth : IsGreatest (endSurpluses mode (text ++ [c])) (level.step mode c).depth := by
    rw [endSurpluses_concat, depth_step]
    exact ((add_left_mono (a := surplus mode [c])).map_isGreatest h.depth_greatest).insert 0
  refine ⟨hdepth, ?_⟩
  rw [surpluses_concat, deepest_step mode h.depth_le]
  exact h.deepest_greatest.union hdepth

theorem foldl (h : level.Measures mode text) (rest : List Char) :
    (rest.foldl (Level.step mode) level).Measures mode (text ++ rest) := by
  induction rest generalizing text level with
  | nil => simpa using h
  | cons c rest ih => simpa using ih (h.step c)

end Level.Measures

lemma Level.measures_nil (mode : Mode) : ({} : Level).Measures mode [] := by
  constructor <;> simp [endSurpluses, surpluses]

/-- The depth of a text is the largest number by which opening brackets outweigh closing ones in a
stretch of it. The empty stretch counts, so no text is shallower than zero. -/
theorem isGreatest_depth (mode : Mode) (text : List Char) :
    IsGreatest {n : ℤ | ∃ s, s <:+: text ∧ surplus mode s = n} (depth mode text) :=
  ((Level.measures_nil mode).foldl text).deepest_greatest

example : depth .balanced ")))( (a) (".toList = 2 ∧ depth .legacy ")))( (a) (".toList = 3 := by
  decide

end BasicLint.Nesting
