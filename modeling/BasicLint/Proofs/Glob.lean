import BasicLint.Glob
import Mathlib.Data.List.Infix

/-!
# What patterns match

Matching goes token by token: each token stands for the start of a text and leaves the rest to the
tokens behind it. A pattern without brackets is read character by character, so its tokens and its
text correspond one to one; in particular it matches its own text without the double stars.
-/
namespace BasicLint.Glob

/-! ## Texts and their ends -/

lemma mem_suffixes {r s : List Char} : r ∈ suffixes s ↔ r <:+ s := by
  induction s with
  | nil => simp [suffixes]
  | cons c s ih => rw [suffixes, List.mem_cons, ih, List.suffix_cons_iff]

lemma occursIn_iff {part path : List Char} : occursIn part path = true ↔ part <:+: path := by
  simp only [occursIn, List.any_eq_true, mem_suffixes, List.isPrefixOf_iff_prefix]
  constructor
  · rintro ⟨r, hr, hpart⟩
    exact hpart.isInfix.trans hr.isInfix
  · rintro ⟨a, b, rfl⟩
    exact ⟨part ++ b, ⟨a, by simp⟩, List.prefix_append _ _⟩

lemma mem_behindSlashes {r s : List Char} :
    r ∈ behindDirectories.behindSlashes s ↔ r = [] ∨ ∃ a, s = a ++ '/' :: r := by
  induction s with
  | nil => simp [behindDirectories.behindSlashes]
  | cons c s ih =>
    have hsplit : (∃ a, c :: s = a ++ '/' :: r) ↔ (c = '/' ∧ s = r) ∨ ∃ a, s = a ++ '/' :: r := by
      constructor
      · rintro ⟨a, ha⟩
        cases a with
        | nil => exact .inl (by simpa using ha)
        | cons b a => exact .inr ⟨a, (List.cons_eq_cons.1 ha).2⟩
      · rintro (⟨rfl, rfl⟩ | ⟨a, rfl⟩)
        · exact ⟨[], rfl⟩
        · exact ⟨c :: a, rfl⟩
    by_cases hc : c = '/'
    · simp only [behindDirectories.behindSlashes, if_pos hc, List.mem_cons, ih, hsplit]
      grind
    · simp only [behindDirectories.behindSlashes, if_neg hc, ih, hsplit]
      grind

/-! ## Matching token by token -/

/-- What a token can leave of a text when it stands for the start of it. -/
inductive Token.Leaves : Token → List Char → List Char → Prop where
  | one {token : Token} {c : Char} {s : List Char} :
    token.accepts c = true → Leaves token (c :: s) s
  | star {r s : List Char} : r <:+ s → Leaves .star s r
  | stay (s : List Char) : Leaves .directories s s
  | into (a r : List Char) : Leaves .directories (a ++ '/' :: r) r
  | all (s : List Char) : Leaves .directories s []

lemma Token.Leaves.suffix {token : Token} {s r : List Char} (h : token.Leaves s r) : r <:+ s := by
  cases h with
  | one _ => exact List.suffix_cons _ _
  | star h => exact h
  | stay => exact List.suffix_refl _
  | into a r => exact ⟨a ++ ['/'], by simp⟩
  | all => exact List.nil_suffix

lemma leaves_directories_iff {s r : List Char} :
    Token.directories.Leaves s r ↔ r = s ∨ r = [] ∨ ∃ a, s = a ++ '/' :: r := by
  constructor
  · intro h
    cases h with
    | one h => simp [Token.accepts] at h
    | stay => exact .inl rfl
    | into a r => exact .inr (.inr ⟨a, rfl⟩)
    | all => exact .inr (.inl rfl)
  · rintro (rfl | rfl | ⟨a, rfl⟩)
    · exact .stay _
    · exact .all _
    · exact .into a r

lemma mem_behindDirectories {r s : List Char} :
    r ∈ behindDirectories s ↔ Token.directories.Leaves s r := by
  rw [behindDirectories, List.mem_cons, mem_behindSlashes, leaves_directories_iff]

/-- Directories behind directories are directories. -/
lemma Token.Leaves.directories_trans {s r t : List Char} (h : Token.directories.Leaves s r)
    (h' : Token.directories.Leaves r t) : Token.directories.Leaves s t := by
  rw [leaves_directories_iff] at h h' ⊢
  obtain rfl | rfl | ⟨a, rfl⟩ := h
  · exact h'
  · exact .inr (.inl (by simpa using h'))
  · obtain rfl | rfl | ⟨b, rfl⟩ := h'
    · exact .inr (.inr ⟨a, rfl⟩)
    · exact .inr (.inl rfl)
    · exact .inr (.inr ⟨a ++ '/' :: b, by simp⟩)

theorem tokensMatch_cons_iff {token : Token} {tokens : List Token} {s : List Char} :
    tokensMatch (token :: tokens) s = true ↔
      ∃ r, token.Leaves s r ∧ tokensMatch tokens r = true := by
  have hone (hnil : tokensMatch (token :: tokens) [] = false)
      (hcons : ∀ c s, tokensMatch (token :: tokens) (c :: s) =
        (token.accepts c && tokensMatch tokens s))
      (hone : ∀ s r, token.Leaves s r → ∃ c, token.accepts c = true ∧ s = c :: r) :
      tokensMatch (token :: tokens) s = true ↔
        ∃ r, token.Leaves s r ∧ tokensMatch tokens r = true := by
    constructor
    · intro h
      cases s with
      | nil => simp [hnil] at h
      | cons c s =>
        rw [hcons, Bool.and_eq_true] at h
        exact ⟨s, .one h.1, h.2⟩
    · rintro ⟨r, hr, hmatch⟩
      obtain ⟨c, hc, rfl⟩ := hone s r hr
      rw [hcons, hc, hmatch, Bool.and_self]
  cases token with
  | star =>
    simp only [tokensMatch, List.any_eq_true, mem_suffixes]
    refine exists_congr fun r => and_congr_left fun _ => ⟨.star, ?_⟩
    exact Token.Leaves.suffix
  | directories =>
    simp only [tokensMatch, List.any_eq_true, mem_behindDirectories]
  | char | anyChar | within | except =>
    refine hone rfl (fun c s => rfl) ?_
    rintro _ _ ⟨hc⟩
    exact ⟨_, hc, rfl⟩

lemma tokensMatch_nil_iff {s : List Char} : tokensMatch [] s = true ↔ s = [] := by
  simp [tokensMatch]

/-- The tokens behind others get an end of the text. -/
lemma exists_suffix_of_tokensMatch {first tokens : List Token} {s : List Char}
    (h : tokensMatch (first ++ tokens) s = true) :
    ∃ r, r <:+ s ∧ tokensMatch tokens r = true := by
  induction first generalizing s with
  | nil => exact ⟨s, List.suffix_refl s, h⟩
  | cons token first ih =>
    obtain ⟨r, hr, hmatch⟩ := tokensMatch_cons_iff.1 h
    obtain ⟨t, ht, hmatch⟩ := ih hmatch
    exact ⟨t, ht.trans hr.suffix, hmatch⟩

/-- Tokens for any character take as many characters as they are. -/
lemma tokensMatch_anyChars_iff {k : Nat} {tokens : List Token} {s : List Char} :
    tokensMatch (List.replicate k .anyChar ++ tokens) s = true ↔
      k ≤ s.length ∧ tokensMatch tokens (s.drop k) = true := by
  induction k generalizing s with
  | zero => simp
  | succ k ih =>
    cases s with
    | nil => simp [List.replicate_succ, tokensMatch]
    | cons c s => simp [List.replicate_succ, tokensMatch, Token.accepts, ih]

lemma tokensMatch_replicate_iff {k : Nat} {s : List Char} :
    tokensMatch (List.replicate k .anyChar) s = true ↔ s.length = k := by
  rw [← List.append_nil (List.replicate k _), tokensMatch_anyChars_iff, tokensMatch_nil_iff,
    List.drop_eq_nil_iff]
  omega

/-- What the last tokens let stand behind a text, the whole pattern does. -/
lemma tokensMatch_append_right {first last : List Token} {s : List Char} (v : List Char)
    (hlast : ∀ r, tokensMatch last r = true → tokensMatch last (r ++ v) = true)
    (h : tokensMatch (first ++ last) s = true) : tokensMatch (first ++ last) (s ++ v) = true := by
  induction first generalizing s with
  | nil => exact hlast s h
  | cons token first ih =>
    obtain ⟨r, hr, hmatch⟩ := tokensMatch_cons_iff.1 h
    rw [List.cons_append, tokensMatch_cons_iff]
    cases hr with
    | one hc => exact ⟨_, .one hc, ih hmatch⟩
    | star hr =>
      obtain ⟨a, rfl⟩ := hr
      exact ⟨r ++ v, .star ⟨a, by simp⟩, ih hmatch⟩
    | stay => exact ⟨_, .stay _, ih hmatch⟩
    | into a r => exact ⟨_, by simpa using Token.Leaves.into a (r ++ v), ih hmatch⟩
    | all => exact ⟨[], .all _, hmatch⟩

/-! ## Reading patterns without brackets -/

/-- The tokens that a text without brackets writes behind the character `before`. -/
inductive Reads : (before : Option Char) → List Char → List Token → Prop where
  | done (before : Option Char) : Reads before [] []
  | char {before : Option Char} {c : Char} {s : List Char} {tokens : List Token} :
    c ≠ '?' → c ≠ '*' → Reads (some c) s tokens → Reads before (c :: s) (.char c :: tokens)
  | anyChar {before : Option Char} {s : List Char} {tokens : List Token} :
    Reads (some '?') s tokens → Reads before ('?' :: s) (.anyChar :: tokens)
  | star {before : Option Char} {s : List Char} {tokens : List Token} :
    s.head? ≠ some '*' → Reads (some '*') s tokens → Reads before ('*' :: s) (.star :: tokens)
  | last {before : Option Char} :
    before.all (· == '/') = true → Reads before ['*', '*'] [.directories]
  | directories {before : Option Char} {s : List Char} {tokens : List Token} :
    before.all (· == '/') = true → Reads (some '/') s tokens →
      Reads before ('*' :: '*' :: '/' :: s) (.directories :: tokens)

lemma tokensFrom_cons_eq_ok {before : Option Char} {position : Nat} {c : Char} {s : List Char}
    {tokens : List Token} (h : tokensFrom before position 0 (c :: s) = .ok tokens) :
    ∃ first skip more, token before position c s = .ok (first, skip) ∧
      tokensFrom (some c) (position + 1) skip s = .ok more ∧ tokens = first :: more := by
  rw [tokensFrom] at h
  cases hfirst : token before position c s with
  | error e => simp [hfirst, bind, Except.bind] at h
  | ok result =>
    obtain ⟨first, skip⟩ := result
    cases hmore : tokensFrom (some c) (position + 1) skip s with
    | error e => simp [hfirst, hmore, bind, Except.bind] at h
    | ok more =>
      simp only [hfirst, hmore, bind, Except.bind, Except.ok.injEq] at h
      exact ⟨first, skip, more, rfl, hmore, h.symm⟩

/-- Where no bracket opens, a character is a token by itself, or it is the first star of two. -/
lemma token_eq_ok {before : Option Char} {position skip : Nat} {c : Char} {s : List Char}
    {first : Token} (hc : c ≠ '[') (h : token before position c s = .ok (first, skip)) :
    (c ≠ '?' ∧ c ≠ '*' ∧ first = .char c ∧ skip = 0) ∨
      (c = '?' ∧ first = .anyChar ∧ skip = 0) ∨
      (c = '*' ∧ s.head? ≠ some '*' ∧ first = .star ∧ skip = 0) ∨
      (c = '*' ∧ before.all (· == '/') = true ∧ first = .directories ∧
        (s = ['*'] ∧ skip = 1 ∨ ∃ rest, s = '*' :: '/' :: rest ∧ skip = 2)) := by
  unfold token at h
  by_cases hany : c = '?'
  · rw [if_pos hany] at h
    simp only [Except.ok.injEq, Prod.mk.injEq] at h
    exact .inr (.inl ⟨hany, h.1.symm, h.2.symm⟩)
  by_cases hstar : c = '*'
  · rw [if_neg hany, if_pos hstar] at h
    split at h
    · simp at h
    · rename_i rest _
      split at h
      · rename_i hbefore
        split at h
        · simp only [Except.ok.injEq, Prod.mk.injEq] at h
          exact .inr (.inr (.inr ⟨hstar, hbefore, h.1.symm, .inl ⟨rfl, h.2.symm⟩⟩))
        · simp only [Except.ok.injEq, Prod.mk.injEq] at h
          exact .inr (.inr (.inr ⟨hstar, hbefore, h.1.symm, .inr ⟨_, rfl, h.2.symm⟩⟩))
        · simp at h
      · simp at h
    · rename_i hnext
      have hhead : s.head? ≠ some '*' := by
        intro hhead
        obtain ⟨rest, hrest⟩ := List.head?_eq_some_iff.1 hhead
        exact hnext rest hrest
      simp only [Except.ok.injEq, Prod.mk.injEq] at h
      exact .inr (.inr (.inl ⟨hstar, hhead, h.1.symm, h.2.symm⟩))
  · rw [if_neg hany, if_neg hstar, if_neg hc] at h
    simp only [Except.ok.injEq, Prod.mk.injEq] at h
    exact .inl ⟨hany, hstar, h.1.symm, h.2.symm⟩

theorem reads_of_tokensFrom {before : Option Char} {position : Nat} {s : List Char}
    {tokens : List Token} (hs : '[' ∉ s) (h : tokensFrom before position 0 s = .ok tokens) :
    Reads before s tokens := by
  induction hn : s.length using Nat.strong_induction_on generalizing before position s tokens with
  | _ n ih =>
    cases s with
    | nil =>
      obtain rfl : tokens = [] := by simpa [tokensFrom] using h.symm
      exact .done before
    | cons c s =>
      rw [List.mem_cons, not_or] at hs
      obtain ⟨first, skip, more, hfirst, hmore, rfl⟩ := tokensFrom_cons_eq_ok h
      obtain ⟨hany, hstar, rfl, rfl⟩ | ⟨rfl, rfl, rfl⟩ | ⟨rfl, hnext, rfl, rfl⟩ |
        ⟨rfl, hbefore, rfl, ⟨rfl, rfl⟩ | ⟨rest, rfl, rfl⟩⟩ := token_eq_ok (Ne.symm hs.1) hfirst
      · exact .char hany hstar (ih s.length (by simp [← hn]) hs.2 hmore rfl)
      · exact .anyChar (ih s.length (by simp [← hn]) hs.2 hmore rfl)
      · exact .star hnext (ih s.length (by simp [← hn]) hs.2 hmore rfl)
      · obtain rfl : more = [] := by simpa [tokensFrom] using hmore.symm
        exact .last hbefore
      · rw [tokensFrom, tokensFrom] at hmore
        exact .directories hbefore (ih rest.length (by simp [← hn]; omega) (by simp_all) hmore rfl)

lemma withoutStars_cons_of_ne {c : Char} (hc : c ≠ '*') (s : List Char) :
    withoutStars (c :: s) = c :: withoutStars s := by
  rw [withoutStars]
  intro _ h _
  exact hc h

lemma withoutStars_star {s : List Char} (hs : s.head? ≠ some '*') :
    withoutStars ('*' :: s) = '*' :: withoutStars s := by
  rw [withoutStars]
  rintro t - rfl
  exact hs rfl

/-- A pattern matches its own text without the double stars. -/
theorem Reads.tokensMatch_withoutStars {before : Option Char} {s : List Char}
    {tokens : List Token} (h : Reads before s tokens) :
    tokensMatch tokens (withoutStars s) = true := by
  induction h with
  | done => rfl
  | char _ hstar _ ih =>
    rw [withoutStars_cons_of_ne hstar, tokensMatch_cons_iff]
    exact ⟨_, .one (by simp [Token.accepts]), ih⟩
  | anyChar _ ih =>
    rw [withoutStars_cons_of_ne (by decide), tokensMatch_cons_iff]
    exact ⟨_, .one rfl, ih⟩
  | star hnext _ ih =>
    rw [withoutStars_star hnext, tokensMatch_cons_iff]
    exact ⟨_, .star (List.suffix_cons _ _), ih⟩
  | last => rfl
  | directories _ _ ih =>
    rw [withoutStars, withoutStars_cons_of_ne (by decide), tokensMatch_cons_iff]
    exact ⟨_, .into [] _, ih⟩

end BasicLint.Glob
