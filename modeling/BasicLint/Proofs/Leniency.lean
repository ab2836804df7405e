import BasicLint.Proofs.Window
import Mathlib.Data.List.Flatten

/-!
# Looser options

Every option of a rule has a direction in which it tolerates more. A step in that direction drops
findings and adds none. What is dropped is decided finding by finding, except for nesting, where one
finding stands for the whole text and shows the limit: there silence stays silence.
-/
namespace BasicLint

open Text

/-- The second rule has looser options than the first: more prefixes, a longer search for the check
of a call, a higher limit, or parentheses that close. -/
inductive Rule.Looser : Rule → Rule → Prop
  | naming {prefixes prefixes' : List String} (h : prefixes ⊆ prefixes') :
      Looser (.naming prefixes) (.naming prefixes')
  | errorHandling {lookahead lookahead' : Nat} (h : lookahead ≤ lookahead') :
      Looser (.errorHandling lookahead) (.errorHandling lookahead')
  | fieldPosition {limit limit' : Nat} (h : limit ≤ limit') :
      Looser (.fieldPosition limit) (.fieldPosition limit')
  | nesting {limit limit' : Nat} {mode mode' : Nesting.Mode} (hlimit : limit ≤ limit')
      (hmode : mode' = mode ∨ mode' = .balanced) :
      Looser (.nesting limit mode) (.nesting limit' mode')

/-- Findings on fewer hits are fewer findings, in the same order. -/
lemma sublist_map_filter {α β : Type} {p q : α → Bool} (h : ∀ a, p a = true → q a = true)
    (f : α → β) (l : List α) : ((l.filter p).map f).Sublist ((l.filter q).map f) :=
  (List.monotone_filter_right l h).map f

namespace Naming

lemma isAccepted_of_subset {prefixes prefixes' : List String} (h : prefixes ⊆ prefixes')
    {target : List Char} (haccepted : isAccepted prefixes target = true) :
    isAccepted prefixes' target = true := by
  simp only [isAccepted, followsConvention, Bool.or_eq_true, List.any_eq_true,
    List.mem_append] at haccepted ⊢
  rcases haccepted with hreserved | ⟨⟨p, hp, htarget⟩ | hcapitals⟩ | hcamel
  · exact .inl hreserved
  · exact .inr (.inl (.inl ⟨p, hp.imp_right (@h p), htarget⟩))
  · exact .inr (.inl (.inr hcapitals))
  · exact .inr (.inr hcamel)

theorem check_sublist {prefixes prefixes' : List String} (h : prefixes ⊆ prefixes')
    (source : Source) : (check prefixes' source).Sublist (check prefixes source) := by
  unfold check
  split_ifs
  · refine List.Sublist.flatMap_right _ fun ⟨line, number⟩ _ => ?_
    refine sublist_map_filter (fun hit => ?_) _ (assigned line number)
    rw [Bool.not_eq_true', Bool.not_eq_true', ← Bool.not_eq_true, ← Bool.not_eq_true]
    exact mt (isAccepted_of_subset h)
  · exact .slnil

end Naming

namespace FieldPosition

lemma exceeds_of_le {limit limit' : Nat} (h : limit ≤ limit') {digits : List Char}
    (hexceeds : exceeds digits limit' = true) : exceeds digits limit = true := by
  unfold exceeds at hexceeds ⊢
  split at hexceeds
  · exact hexceeds
  · simp only [Bool.or_eq_true, decide_eq_true_eq] at hexceeds ⊢
    refine hexceeds.imp_right fun hlimit => ?_
    omega

theorem check_sublist {limit limit' : Nat} (h : limit ≤ limit') (source : Source) :
    (check limit' source).Sublist (check limit source) :=
  sublist_map_filter (fun _ => exceeds_of_le h) _ (accesses source.text)

end FieldPosition

namespace ErrorHandling

/-- At least the rest of the line of the call is looked at. -/
lemma window_max_one (count : Nat) (s : List Char) : window (max count 1) s = window count s := by
  cases count with
  | zero =>
    rw [Nat.zero_max]
    induction s with
    | nil => rfl
    | cons c s ih => simp [window, ih]
  | succ count => rw [max_eq_left (by omega)]

/-- A longer window shows every signal of a shorter one: the line feed at which the shorter one was
cut ends a word just as the cut did. -/
lemma isChecked_of_le {count count' : Nat} (h : count ≤ count') {rest : List Char}
    (hchecked : isChecked count rest = true) : isChecked count' rest = true := by
  have hiff (n : Nat) : isChecked n rest = true ↔ HasSignal ([] ++ rest) 0 (max n 1) := by
    rw [isChecked, ← window_max_one, ← isChecked]
    exact isChecked_iff (by omega) rfl
  obtain ⟨a, x, b, htext, hsignal, hstart, hlines⟩ := (hiff count).1 hchecked
  exact (hiff count').2 ⟨a, x, b, htext, hsignal, hstart, by omega⟩

theorem check_sublist {lookahead lookahead' : Nat} (h : lookahead ≤ lookahead')
    (source : Source) : (check lookahead' source).Sublist (check lookahead source) := by
  unfold check
  split_ifs
  · refine sublist_map_filter (fun hit => ?_) _ (calls source.text)
    rw [Bool.not_eq_true', Bool.not_eq_true', ← Bool.not_eq_true, ← Bool.not_eq_true]
    exact mt (isChecked_of_le h)
  · exact .slnil

end ErrorHandling

namespace Nesting

lemma check_eq_nil_iff {limit : Nat} {mode : Mode} {source : Source} :
    check limit mode source = [] ↔ depth mode source.text ≤ limit := by
  simp [check]

lemma closes_balanced {mode : Mode} {c : Char} (h : mode.closes c = true) :
    Mode.balanced.closes c = true := by
  cases mode with
  | balanced => exact h
  | legacy => exact Bool.or_eq_true_iff.2 (.inl h)

/-- The first counter stands no higher than the second, and never did. -/
structure Level.AtMost (a b : Level) : Prop where
  depth_le : a.depth ≤ b.depth
  deepest_le : a.deepest ≤ b.deepest

/-- Where more brackets close, the counter stays below. -/
lemma Level.AtMost.step {a b : Level} (h : a.AtMost b) (mode : Mode) (c : Char) :
    (a.step .balanced c).AtMost (b.step mode c) := by
  obtain ⟨hdepth, hdeepest⟩ := h
  unfold Level.step
  by_cases hopens : opens c = true
  · rw [if_pos hopens, if_pos hopens]
    constructor
    · dsimp only
      omega
    · dsimp only
      omega
  · rw [if_neg hopens, if_neg hopens]
    by_cases hcloses : mode.closes c = true
    · rw [if_pos (closes_balanced hcloses), if_pos hcloses]
      exact ⟨Nat.sub_le_sub_right hdepth 1, hdeepest⟩
    · rw [if_neg hcloses]
      split_ifs
      · exact ⟨(Nat.sub_le _ 1).trans hdepth, hdeepest⟩
      · exact ⟨hdepth, hdeepest⟩

lemma Level.AtMost.foldl {a b : Level} (h : a.AtMost b) (mode : Mode) (text : List Char) :
    (text.foldl (Level.step .balanced) a).AtMost (text.foldl (Level.step mode) b) := by
  induction text generalizing a b with
  | nil => exact h
  | cons c text ih => exact ih (h.step mode c)

theorem depth_balanced_le (mode : Mode) (text : List Char) :
    depth .balanced text ≤ depth mode text :=
  (Level.AtMost.foldl ⟨le_rfl, le_rfl⟩ mode text).deepest_le

theorem check_eq_nil_of_looser {limit limit' : Nat} {mode mode' : Mode} (hlimit : limit ≤ limit')
    (hmode : mode' = mode ∨ mode' = .balanced) {source : Source}
    (h : check limit mode source = []) : check limit' mode' source = [] := by
  rw [check_eq_nil_iff] at h ⊢
  have hdepth : depth mode' source.text ≤ depth mode source.text := by
    rcases hmode with rfl | rfl
    · exact le_rfl
    · exact depth_balanced_le mode source.text
  omega

end Nesting

/-- With looser options a rule reports some of its findings, unchanged and in order, and no others.
A rule on nesting has at most one finding, which shows the limit: if it has none, it gets none. -/
theorem Rule.check_of_looser {rule rule' : Rule} (h : rule.Looser rule') (source : Source) :
    (rule.kind ≠ .nesting → (rule'.check source).Sublist (rule.check source)) ∧
      (rule.check source = [] → rule'.check source = []) := by
  have hsilent (hsub : (rule'.check source).Sublist (rule.check source))
      (hnil : rule.check source = []) : rule'.check source = [] := by
    rw [hnil] at hsub
    exact List.sublist_nil.1 hsub
  cases h with
  | naming h =>
    have hsub := Naming.check_sublist h source
    exact ⟨fun _ => hsub, hsilent hsub⟩
  | errorHandling h =>
    have hsub := ErrorHandling.check_sublist h source
    exact ⟨fun _ => hsub, hsilent hsub⟩
  | fieldPosition h =>
    have hsub := FieldPosition.check_sublist h source
    exact ⟨fun _ => hsub, hsilent hsub⟩
  | nesting hlimit hmode =>
    exact ⟨fun hkind => absurd rfl hkind, Nesting.check_eq_nil_of_looser hlimit hmode⟩

/-- A condition that is complete only on the third line, and a text in which parentheses close. -/
theorem Rule.check_of_looser_split :
    let split : Source := { text := "CALL SVC(A)\nIF FAILED\nTHEN RETURN\n".toList, strict := true }
    let closed : Source := { text := "A(1) ; B(2)\n".toList, strict := false }
    (Rule.Looser (.errorHandling 2) (.errorHandling 3) ∧ (Rule.errorHandling 2).kind ≠ .nesting ∧
        ((Rule.errorHandling 3).check split).Sublist ((Rule.errorHandling 2).check split)) ∧
      Rule.Looser (.nesting 2 .legacy) (.nesting 2 .balanced) ∧
        (Rule.nesting 2 .legacy).check closed = [] ∧
          (Rule.nesting 2 .balanced).check closed = [] := by
  intro split closed
  have hlookahead : Rule.Looser (.errorHandling 2) (.errorHandling 3) := .errorHandling (by decide)
  have hmode : Rule.Looser (.nesting 2 .legacy) (.nesting 2 .balanced) :=
    .nesting le_rfl (.inr rfl)
  exact ⟨⟨hlookahead, by decide, (Rule.check_of_looser hlookahead split).1 (by decide)⟩, hmode, rfl,
    (Rule.check_of_looser hmode closed).2 rfl⟩

end BasicLint
