import BasicLint.Proofs.Glob

/-!
# What exclude patterns leave out

A pattern leaves out the paths that it matches, and besides every path in which its text without the
double stars occurs. So a pattern can leave out a path that it does not name. Without brackets it
never does so if it lets any text stand before and behind what it matches, and otherwise it does.
-/
namespace BasicLint.Glob

/-- A path that a pattern names: it matches it or, where the pattern is for what lies below the
directories of a name, the path goes through such a directory. -/
def Names (glob : Glob) (path : List Char) : Prop :=
  glob.isMatch path = true ∨
    ∃ dir, glob.text = "**/".toList ++ dir ++ "/**".toList ∧
      "/".toList ++ dir ++ "/".toList <:+: path

/-- Whether a pattern leaves out only paths that it names. -/
def IsFaithful (glob : Glob) : Prop := ∀ path, glob.excludes path = true → glob.Names path

/-- Whether the first token that does not stand for any single character is a star. -/
def leadsToStar : List Token → Bool
  | .star :: _ => true
  | .anyChar :: tokens => leadsToStar tokens
  | _ => false

/-- Whether tokens let any text stand before what they match. -/
def isOpen (tokens : List Token) : Bool :=
  tokens.head? = some .directories || leadsToStar tokens

/-! ## Open patterns -/

lemma exists_of_leadsToStar {tokens : List Token} (h : leadsToStar tokens = true) :
    ∃ k rest, tokens = List.replicate k .anyChar ++ .star :: rest := by
  induction tokens with
  | nil => simp [leadsToStar] at h
  | cons token tokens ih =>
    cases token with
    | star => exact ⟨0, tokens, rfl⟩
    | anyChar =>
      obtain ⟨k, rest, rfl⟩ := ih h
      exact ⟨k + 1, rest, rfl⟩
    | char | within | except | directories => simp [leadsToStar] at h

lemma isOpen_cases {tokens : List Token} (h : isOpen tokens = true) :
    (∃ rest, tokens = .directories :: rest) ∨
      ∃ k rest, tokens = List.replicate k .anyChar ++ .star :: rest := by
  rw [isOpen, Bool.or_eq_true, decide_eq_true_eq, List.head?_eq_some_iff] at h
  exact h.imp_right exists_of_leadsToStar

/-- Behind the last tokens of a pattern that is open at its end any text may stand. -/
lemma exists_open_end {tokens : List Token} (h : isOpen tokens.reverse = true) :
    ∃ first last, tokens = first ++ last ∧
      ∀ r v, tokensMatch last r = true → tokensMatch last (r ++ v) = true := by
  obtain ⟨rest, hrest⟩ | ⟨k, rest, hrest⟩ := isOpen_cases h
  · refine ⟨rest.reverse, [.directories], by simpa using congrArg List.reverse hrest, ?_⟩
    intro r v _
    exact tokensMatch_cons_iff.2 ⟨[], .all _, rfl⟩
  · refine ⟨rest.reverse, .star :: List.replicate k .anyChar,
      by simpa using congrArg List.reverse hrest, ?_⟩
    intro r v hr
    obtain ⟨x, hx, hlength⟩ := tokensMatch_cons_iff.1 hr
    have hle : k ≤ (r ++ v).length := by
      have hle := hx.suffix.length_le
      rw [tokensMatch_replicate_iff] at hlength
      rw [List.length_append]
      omega
    refine tokensMatch_cons_iff.2 ⟨(r ++ v).drop ((r ++ v).length - k),
      .star (List.drop_suffix _ _), ?_⟩
    rw [tokensMatch_replicate_iff, List.length_drop]
    omega

/-- A pattern that is open at its start matches its own text behind any other. -/
lemma Reads.tokensMatch_append_left {s : List Char} {tokens : List Token}
    (h : Reads none s tokens) (hopen : isOpen tokens = true) (u : List Char) :
    tokensMatch tokens (u ++ withoutStars s) = true := by
  obtain ⟨rest, rfl⟩ | ⟨k, rest, rfl⟩ := isOpen_cases hopen
  · cases h with
    | last => exact tokensMatch_cons_iff.2 ⟨[], .all _, rfl⟩
    | directories _ h =>
      rw [withoutStars, withoutStars_cons_of_ne (by decide), tokensMatch_cons_iff]
      exact ⟨_, .into u _, h.tokensMatch_withoutStars⟩
  · obtain ⟨hk, hmatch⟩ := tokensMatch_anyChars_iff.1 h.tokensMatch_withoutStars
    obtain ⟨r, hr, hmatch⟩ := tokensMatch_cons_iff.1 hmatch
    have hdrop : (withoutStars s).drop k <:+ (u ++ withoutStars s).drop k := by
      refine List.suffix_of_suffix_length_le ((List.drop_suffix _ _).trans (List.suffix_append _ _))
        (List.drop_suffix _ _) ?_
      simp only [List.length_drop, List.length_append]
      omega
    refine tokensMatch_anyChars_iff.2 ⟨by rw [List.length_append]; omega, ?_⟩
    exact tokensMatch_cons_iff.2 ⟨r, .star (hr.suffix.trans hdrop), hmatch⟩

theorem Reads.tokensMatch_of_isOpen {s : List Char} {tokens : List Token}
    (h : Reads none s tokens) (hstart : isOpen tokens = true)
    (hend : isOpen tokens.reverse = true) (u v : List Char) :
    tokensMatch tokens (u ++ withoutStars s ++ v) = true := by
  have hmatch := h.tokensMatch_append_left hstart u
  obtain ⟨first, last, rfl, hlast⟩ := exists_open_end hend
  exact tokensMatch_append_right v (fun r => hlast r v) hmatch

/-! ## Closed patterns -/

/-- Tokens of patterns without brackets. -/
def Token.isPlain : Token → Bool
  | .within _ | .except _ => false
  | _ => true

lemma Reads.isPlain {before : Option Char} {s : List Char} {tokens : List Token}
    (h : Reads before s tokens) : ∀ token ∈ tokens, token.isPlain = true := by
  induction h with
  | done => simp
  | last => simp [Token.isPlain]
  | char _ _ _ ih | anyChar _ ih | star _ _ ih | directories _ _ ih =>
    simpa [Token.isPlain] using ih

lemma leadsToStar_eq_false {tokens : List Token} (hplain : ∀ token ∈ tokens, token.isPlain = true)
    (h : leadsToStar tokens = false) :
    (∃ k, tokens = List.replicate k .anyChar) ∨
      (∃ k c rest, tokens = List.replicate k .anyChar ++ .char c :: rest) ∨
      ∃ k rest, tokens = List.replicate k .anyChar ++ .directories :: rest := by
  induction tokens with
  | nil => exact .inl ⟨0, rfl⟩
  | cons token tokens ih =>
    cases token with
    | char c => exact .inr (.inl ⟨0, c, tokens, rfl⟩)
    | anyChar =>
      obtain ⟨k, rfl⟩ | ⟨k, c, rest, rfl⟩ | ⟨k, rest, rfl⟩ :=
        ih (fun token ht => hplain token (List.mem_cons_of_mem _ ht)) h
      · exact .inl ⟨k + 1, rfl⟩
      · exact .inr (.inl ⟨k + 1, c, rest, rfl⟩)
      · exact .inr (.inr ⟨k + 1, rest, rfl⟩)
    | within set => simp [Token.isPlain] at hplain
    | except set => simp [Token.isPlain] at hplain
    | star => simp [leadsToStar] at h
    | directories => exact .inr (.inr ⟨0, tokens, rfl⟩)

/-- How a plain pattern starts that is not open: with single characters up to a certain one, or up
to the end or to a double star. -/
lemma isOpen_eq_false {tokens : List Token} (hplain : ∀ token ∈ tokens, token.isPlain = true)
    (h : isOpen tokens = false) :
    (∃ k, tokens = List.replicate k .anyChar) ∨
      (∃ k c rest, tokens = List.replicate k .anyChar ++ .char c :: rest) ∨
      ∃ k rest, tokens = List.replicate (k + 1) .anyChar ++ .directories :: rest := by
  rw [isOpen, Bool.or_eq_false_iff, decide_eq_false_iff_not] at h
  obtain hk | hc | ⟨k, rest, rfl⟩ := leadsToStar_eq_false hplain h.2
  · exact .inl hk
  · exact .inr (.inl hc)
  · cases k with
    | zero => exact absurd rfl h.1
    | succ k => exact .inr (.inr ⟨k, rest, rfl⟩)

lemma exists_other (c : Char) : ∃ d, d ≠ c ∧ d ≠ '/' := by
  by_cases h : c = 'x'
  · exact ⟨'y', by rw [h]; decide, by decide⟩
  · exact ⟨'x', Ne.symm h, by decide⟩

lemma not_tokensMatch_char {c d : Char} (hne : d ≠ c) {tokens : List Token} {s : List Char} :
    tokensMatch (.char c :: tokens) (d :: s) = false := by
  simp [tokensMatch, Token.accepts, Ne.symm hne]

/-- A double star takes whole directories, counted from the start of the whole text `s`. So what is
left is all of `s`, nothing, or what stands behind a slash. -/
lemma Reads.exists_leaves {before : Option Char} {text : List Char} {first last : List Token}
    (h : Reads before text (first ++ .directories :: last)) {s t : List Char} (ht : t <:+ s)
    (hbefore : before.all (· == '/') = true → Token.directories.Leaves s t)
    (hmatch : tokensMatch (first ++ .directories :: last) t = true) :
    ∃ r, Token.directories.Leaves s r ∧ tokensMatch last r = true := by
  induction first generalizing before text t with
  | nil =>
    obtain ⟨r, hr, hmatch⟩ := tokensMatch_cons_iff.1 hmatch
    cases h with
    | last hb => exact ⟨r, (hbefore hb).directories_trans hr, hmatch⟩
    | directories hb _ => exact ⟨r, (hbefore hb).directories_trans hr, hmatch⟩
  | cons token first ih =>
    obtain ⟨r, hr, hrest⟩ := tokensMatch_cons_iff.1 hmatch
    have hsuffix : r <:+ s := hr.suffix.trans ht
    generalize htokens : token :: first ++ Token.directories :: last = tokens at h
    cases h with
    | done => simp at htokens
    | last => simp at htokens
    | @char _ c _ _ _ _ h =>
      obtain ⟨rfl, rfl⟩ := List.cons_eq_cons.1 htokens
      refine ih h hsuffix (fun hslash => ?_) hrest
      obtain rfl : c = '/' := by simpa using hslash
      obtain ⟨hc⟩ := hr
      obtain rfl := beq_iff_eq.1 hc
      obtain ⟨a, rfl⟩ := ht
      exact .into a r
    | anyChar h =>
      obtain ⟨-, rfl⟩ := List.cons_eq_cons.1 htokens
      exact ih h hsuffix (by simp) hrest
    | star _ h =>
      obtain ⟨-, rfl⟩ := List.cons_eq_cons.1 htokens
      exact ih h hsuffix (by simp) hrest
    | directories hb h =>
      obtain ⟨rfl, rfl⟩ := List.cons_eq_cons.1 htokens
      exact ih h hsuffix (fun _ => (hbefore hb).directories_trans hr) hrest

/-- A pattern cannot have a double star behind a single character. -/
lemma Reads.not_anyChars_directories {before : Option Char} {s : List Char} {k : Nat}
    {rest : List Token} :
    ¬ Reads before s (List.replicate (k + 1) .anyChar ++ .directories :: rest) := by
  induction k generalizing before s with
  | zero =>
    intro h
    cases h with
    | anyChar h =>
      cases h with
      | last h => simp at h
      | directories h _ => simp at h
  | succ k ih =>
    intro h
    cases h with
    | anyChar h => exact ih h

lemma eq_replicate_of_suffix {s r : List Char} {d : Char} {k : Nat}
    (h : r <:+ s ++ List.replicate k d) (hr : r.length = k) : r = List.replicate k d := by
  have hsuffix : r <:+ List.replicate k d :=
    List.suffix_of_suffix_length_le h (List.suffix_append _ _) (by simp [hr])
  exact hsuffix.eq_of_length (by simp [hr])

/-- A pattern of single characters only does not match a longer text. -/
lemma Reads.exists_not_tokensMatch_anyChars {s : List Char} {k : Nat}
    (h : Reads none s (List.replicate k .anyChar)) :
    ∃ u v, ¬ tokensMatch (List.replicate k .anyChar) (u ++ withoutStars s ++ v) = true := by
  have hlength := tokensMatch_replicate_iff.1 h.tokensMatch_withoutStars
  refine ⟨[], ['x'], ?_⟩
  rw [tokensMatch_replicate_iff]
  simp [hlength]

/-- A pattern that is not open at its start does not match its own text behind some other. -/
lemma Reads.exists_not_tokensMatch_start {s : List Char} {tokens : List Token}
    (h : Reads none s tokens) (hopen : isOpen tokens = false) :
    ∃ u v, ¬ tokensMatch tokens (u ++ withoutStars s ++ v) = true := by
  obtain ⟨k, rfl⟩ | ⟨k, c, rest, rfl⟩ | ⟨k, rest, rfl⟩ := isOpen_eq_false h.isPlain hopen
  · exact h.exists_not_tokensMatch_anyChars
  · obtain ⟨d, hd, -⟩ := exists_other c
    refine ⟨List.replicate (k + 1) d, [], ?_⟩
    rw [tokensMatch_anyChars_iff]
    rintro ⟨-, hmatch⟩
    simp [List.replicate_succ', not_tokensMatch_char hd] at hmatch
  · exact absurd h not_anyChars_directories

/-- A pattern that is not open at its end does not match its own text before some other. -/
lemma Reads.exists_not_tokensMatch_end {s : List Char} {tokens : List Token}
    (h : Reads none s tokens) (hopen : isOpen tokens.reverse = false) :
    ∃ u v, ¬ tokensMatch tokens (u ++ withoutStars s ++ v) = true := by
  have hplain : ∀ token ∈ tokens.reverse, token.isPlain = true := by
    intro token ht
    exact h.isPlain token (List.mem_reverse.1 ht)
  obtain ⟨k, hk⟩ | ⟨k, c, rest, hk⟩ | ⟨k, rest, hk⟩ := isOpen_eq_false hplain hopen
  · obtain rfl : tokens = List.replicate k .anyChar := by simpa using congrArg List.reverse hk
    exact h.exists_not_tokensMatch_anyChars
  · obtain rfl : tokens = rest.reverse ++ .char c :: List.replicate k .anyChar := by
      simpa using congrArg List.reverse hk
    obtain ⟨d, hd, -⟩ := exists_other c
    refine ⟨[], List.replicate (k + 1) d, fun hmatch => ?_⟩
    obtain ⟨r, hr, hmatch⟩ := exists_suffix_of_tokensMatch hmatch
    obtain ⟨t, ⟨hc⟩, hlength⟩ := tokensMatch_cons_iff.1 hmatch
    rw [tokensMatch_replicate_iff] at hlength
    have heq := eq_replicate_of_suffix hr (by simp [hlength])
    rw [List.replicate_succ, List.cons_eq_cons] at heq
    exact hd (heq.1.symm.trans (beq_iff_eq.1 hc).symm)
  · obtain rfl : tokens = rest.reverse ++ .directories :: List.replicate (k + 1) .anyChar := by
      simpa using congrArg List.reverse hk
    refine ⟨[], List.replicate (k + 2) 'x', fun hmatch => ?_⟩
    obtain ⟨r, hr, hmatch⟩ := h.exists_leaves (List.suffix_refl _) (fun _ => .stay _) hmatch
    rw [tokensMatch_replicate_iff] at hmatch
    obtain rfl | rfl | ⟨a, ha⟩ := leaves_directories_iff.1 hr
    · simp only [List.length_append, List.length_replicate] at hmatch
      omega
    · simp at hmatch
    · have heq : '/' :: r = List.replicate (k + 2) 'x' :=
        eq_replicate_of_suffix ⟨a, ha.symm⟩ (by simp [hmatch])
      simp [List.replicate_succ] at heq

/-! ## Patterns for directories -/

lemma withoutStars_append_slash (s t : List Char) :
    withoutStars (s ++ '/' :: t) = withoutStars s ++ '/' :: withoutStars t := by
  fun_induction withoutStars s with
  | case1 s ih => simpa [withoutStars] using ih
  | case2 c s h ih =>
    rw [List.cons_append, withoutStars, ih, List.cons_append]
    intro s' hc hs
    cases s with
    | nil => simp at hs
    | cons d s => exact h s hc (by rw [(List.cons_eq_cons.1 hs).1])
  | case3 => rw [List.nil_append, withoutStars_cons_of_ne (by decide), List.nil_append]

lemma withoutStars_of_not_infix {s : List Char} (h : ¬ ['*', '*'] <:+: s) : withoutStars s = s := by
  fun_induction withoutStars s with
  | case1 s ih => exact absurd (List.prefix_append ['*', '*'] s).isInfix h
  | case2 c s _ ih => rw [ih fun hs => h (hs.trans (List.suffix_cons c s).isInfix)]
  | case3 => rfl

/-- A pattern that ends in two stars has a double star as its last token. -/
lemma Reads.head?_reverse {before : Option Char} {s text : List Char} {tokens : List Token}
    (h : Reads before text tokens) (htext : text = s ++ ['*', '*']) :
    tokens.reverse.head? = some .directories := by
  have hcons (token : Token) {tokens : List Token}
      (h : tokens.reverse.head? = some .directories) :
      (token :: tokens).reverse.head? = some .directories := by
    rw [List.reverse_cons, List.head?_append, h, Option.some_or]
  induction h generalizing s with
  | done => simp at htext
  | char _ hstar _ ih =>
    cases s with
    | nil => exact absurd (List.cons_eq_cons.1 htext).1 hstar
    | cons c s => exact hcons _ (ih (List.cons_eq_cons.1 htext).2)
  | anyChar _ ih =>
    cases s with
    | nil => simp at htext
    | cons c s => exact hcons _ (ih (List.cons_eq_cons.1 htext).2)
  | star hnext _ ih =>
    cases s with
    | nil => simp [(List.cons_eq_cons.1 htext).2] at hnext
    | cons c s => exact hcons _ (ih (List.cons_eq_cons.1 htext).2)
  | last => rfl
  | directories _ _ ih =>
    match s, htext with
    | [], htext | [_], htext | [_, _], htext => simp at htext
    | _ :: _ :: _ :: s, htext =>
      simp only [List.cons_append, List.cons.injEq] at htext
      exact hcons _ (ih htext.2.2.2)

/-- A pattern for what lies below a directory is open at both ends. -/
lemma Reads.isOpen_of_directory {dir : List Char} {tokens : List Token}
    (h : Reads none ("**/".toList ++ dir ++ "/**".toList) tokens) :
    isOpen tokens = true ∧ isOpen tokens.reverse = true := by
  have hend : tokens.reverse.head? = some .directories :=
    h.head?_reverse (s := "**/".toList ++ dir ++ ['/']) (by simp)
  have hstart : tokens.head? = some .directories := by
    cases h with
    | char _ hstar => exact absurd rfl hstar
    | star hnext => exact absurd rfl hnext
    | directories => rfl
  exact ⟨by simp [isOpen, hstart], by simp only [isOpen, hend, decide_true, Bool.true_or]⟩

/-! ## Faithful patterns -/

variable {text : String} {glob : Glob}

lemma reads_of_parse (h : parse text = .ok glob) (hplain : '[' ∉ glob.text) :
    Reads none glob.text glob.tokens := by
  unfold parse at h
  cases htokens : tokensFrom none 0 0 text.toList with
  | error e => simp [htokens, Except.map] at h
  | ok tokens =>
    simp only [htokens, Except.map, Except.ok.injEq] at h
    subst h
    exact reads_of_tokensFrom hplain htokens

/-- Whether nothing is left of a pattern to look for in paths. -/
def leavesNothing (glob : Glob) : Bool := withoutStars glob.text ∈ [[], ['/']]

lemma excludes_iff {path : List Char} : glob.excludes path = true ↔
    glob.isMatch path = true ∨ glob.leavesNothing = false ∧ withoutStars glob.text <:+: path := by
  simp only [excludes, leavesNothing, Bool.or_eq_true, Bool.and_eq_true, occursIn_iff]
  simp [and_assoc]

/-- A pattern for what lies below a directory leaves out only what it names, whatever brackets are
in the name of the directory. -/
lemma isFaithful_of_directory {dir : List Char}
    (htext : glob.text = "**/".toList ++ dir ++ "/**".toList) (hdir : ¬ ['*', '*'] <:+: dir) :
    glob.IsFaithful := by
  have hleft : withoutStars glob.text = "/".toList ++ dir ++ "/".toList := by
    have hsplit : glob.text = ('*' :: '*' :: '/' :: dir) ++ '/' :: ['*', '*'] := by simp [htext]
    rw [hsplit, withoutStars_append_slash, withoutStars, withoutStars_cons_of_ne (by decide),
      withoutStars_of_not_infix hdir]
    simp [withoutStars]
  intro path hpath
  obtain hmatch | ⟨-, hinfix⟩ := excludes_iff.1 hpath
  · exact .inl hmatch
  · exact .inr ⟨dir, htext, hleft ▸ hinfix⟩

lemma Reads.isFaithful_of_isOpen (h : Reads none glob.text glob.tokens)
    (hstart : isOpen glob.tokens = true) (hend : isOpen glob.tokens.reverse = true) :
    glob.IsFaithful := by
  intro path hpath
  obtain hmatch | ⟨-, u, v, rfl⟩ := excludes_iff.1 hpath
  · exact .inl hmatch
  · left
    rw [isMatch_eq]
    exact h.tokensMatch_of_isOpen hstart hend u v

/-- A pattern that is not open leaves out a path that it does not name, if there is something left
to look for in paths. -/
lemma Reads.not_isFaithful (h : Reads none glob.text glob.tokens)
    (hleft : glob.leavesNothing = false)
    (hopen : ¬ (isOpen glob.tokens = true ∧ isOpen glob.tokens.reverse = true)) :
    ¬ glob.IsFaithful := by
  intro hfaithful
  have hpath : ∃ u v, ¬ tokensMatch glob.tokens (u ++ withoutStars glob.text ++ v) = true := by
    rw [not_and_or, Bool.not_eq_true, Bool.not_eq_true] at hopen
    exact hopen.elim h.exists_not_tokensMatch_start h.exists_not_tokensMatch_end
  obtain ⟨u, v, hmatch⟩ := hpath
  have hexcluded : glob.excludes (u ++ withoutStars glob.text ++ v) = true :=
    excludes_iff.2 (.inr ⟨hleft, u, v, rfl⟩)
  obtain hnamed | ⟨dir, htext, -⟩ := hfaithful _ hexcluded
  · exact hmatch (isMatch_eq glob _ ▸ hnamed)
  · rw [htext] at h
    exact hopen h.isOpen_of_directory

/-- Which patterns leave out only paths that they name. Those for what lies below a directory do. A
pattern without brackets does if and only if nothing is left of it without the double stars, or it
lets any text stand before and behind what it matches. -/
theorem isFaithful_iff_isOpen (hglob : parse text = .ok glob) :
    (∀ dir, glob.text = "**/".toList ++ dir ++ "/**".toList → ¬ "**".toList <:+: dir →
      glob.IsFaithful) ∧
    ('[' ∉ glob.text → (glob.IsFaithful ↔
      glob.leavesNothing = true ∨
        isOpen glob.tokens = true ∧ isOpen glob.tokens.reverse = true)) := by
  refine ⟨fun dir htext hdir => isFaithful_of_directory htext hdir, fun hplain => ?_⟩
  have hreads := reads_of_parse hglob hplain
  constructor
  · intro hfaithful
    by_contra hclosed
    rw [not_or, Bool.not_eq_true] at hclosed
    exact hreads.not_isFaithful hclosed.1 hclosed.2 hfaithful
  · rintro (hleft | ⟨hstart, hend⟩)
    · intro path hpath
      obtain hmatch | ⟨hsome, -⟩ := excludes_iff.1 hpath
      · exact .inl hmatch
      · rw [hleft] at hsome
        contradiction
    · exact hreads.isFaithful_of_isOpen hstart hend

theorem isFaithful_iff_isOpen_backup :
    let copies : Glob := ⟨"**/*~?*".toList, [.directories, .star, .char '~', .anyChar, .star]⟩
    let backups : Glob :=
      ⟨"**/[ab]/**".toList,
        [.directories, .within [('a', 'a'), ('b', 'b')], .char '/', .directories]⟩
    parse "**/*~?*" = .ok copies ∧ '[' ∉ copies.text ∧ copies.IsFaithful ∧
      parse "**/[ab]/**" = .ok backups ∧ backups.IsFaithful := by
  intro copies backups
  have hcopies : parse "**/*~?*" = .ok copies := by rfl
  have hbackups : parse "**/[ab]/**" = .ok backups := by rfl
  have hplain : '[' ∉ copies.text := by decide
  refine ⟨hcopies, hplain, ?_, hbackups, ?_⟩
  · exact ((isFaithful_iff_isOpen hcopies).2 hplain).2 (.inr (by decide))
  · exact (isFaithful_iff_isOpen hbackups).1 "[ab]".toList (by decide) (by decide)

/-- The name of one file leaves out every file whose path holds that name. -/
theorem not_isFaithful_of_parse :
    ¬ ∀ (text : String) (glob : Glob), parse text = .ok glob → glob.IsFaithful := by
  intro h
  have hexcluded := h "TEST.b" _ rfl "src/MYTEST.b".toList (by decide)
  obtain hmatch | ⟨dir, hdir, -⟩ := hexcluded
  · contradiction
  · simp at hdir

end BasicLint.Glob
