import BasicLint.Proofs.Text.LineEnding

/-!
# Recognisers that are blind to line endings

Where one text mirrors another, cursors at mirrored places make mirrored moves. A recogniser that is
put together from such moves finds the same values at mirrored places. If it finds nothing at the
end of a line, then the additional places of the mirror make no difference, and a whole scan finds
the same values on the same lines.
-/
namespace BasicLint.Text

section Options

variable {α β γ δ : Type} {R : α → β → Prop} {S : γ → δ → Prop}

lemma rel_bind {x : Option α} {y : Option β} {f : α → Option γ} {g : β → Option δ}
    (h : Option.Rel R x y) (hf : ∀ a b, R a b → Option.Rel S (f a) (g b)) :
    Option.Rel S (x >>= f) (y >>= g) := by
  cases h with
  | none => exact .none
  | some hab => exact hf _ _ hab

lemma rel_map {x : Option α} {y : Option β} {f : α → γ} {g : β → δ} (h : Option.Rel R x y)
    (hf : ∀ a b, R a b → S (f a) (g b)) : Option.Rel S (x.map f) (y.map g) := by
  cases h with
  | none => exact .none
  | some hab => exact .some (hf _ _ hab)

lemma rel_or {x x' : Option α} {y y' : Option β} (h : Option.Rel R x y)
    (h' : Option.Rel R x' y') : Option.Rel R (x <|> x') (y <|> y') := by
  cases h with
  | none => exact h'
  | some hab => exact .some hab

lemma rel_guard {p q : Prop} [Decidable p] [Decidable q] (h : q ↔ p) :
    Option.Rel Eq (guard p : Option Unit) (guard q) := by
  by_cases hp : p
  · rw [guard, guard, if_pos hp, if_pos (h.2 hp)]
    exact .some rfl
  · rw [guard, guard, if_neg hp, if_neg (mt h.1 hp)]
    exact .none

lemma isSome_eq_of_rel {x : Option α} {y : Option β} (h : Option.Rel R x y) :
    y.isSome = x.isSome := by
  cases h <;> rfl

lemma eq_none_of_rel {x : Option α} {y : Option β} (h : Option.Rel R x y) (hx : x = none) :
    y = none := by
  cases h with
  | none => rfl
  | some _ => simp at hx

end Options

namespace Cursor

/-- Two cursors at mirrored places. -/
def Mirrors (cut : Bool) (s t : Cursor) : Prop := Text.Mirrors cut s.rest t.rest

namespace Mirrors

variable {cut : Bool} {s t : Cursor}

lemma after? (h : s.Mirrors cut t) {literal : List Char} (hl : Unbroken literal) :
    Option.Rel (Cursor.Mirrors cut) (s.after? literal) (t.after? literal) :=
  rel_map (Text.Mirrors.after? h hl) fun _ _ hm => hm

lemma skip (h : s.Mirrors cut t) {p : Char → Bool} (hp : p '\n' = true → p '\r' = true) :
    (s.skip p).Mirrors cut (t.skip p) := by
  unfold Cursor.Mirrors
  rw [rest_skip, rest_skip]
  exact Text.Mirrors.dropWhile h hp

lemma skipInline (h : s.Mirrors cut t) :
    (s.skip isInlineBlank).Mirrors cut (t.skip isInlineBlank) := h.skip (by decide)

lemma skipBlanks (h : s.Mirrors cut t) : s.skipBlanks.Mirrors cut t.skipBlanks :=
  h.skip (by decide)

lemma one? (h : s.Mirrors cut t) {p : Char → Bool} (hp : Within p) :
    Option.Rel (Cursor.Mirrors cut) (s.one? p) (t.one? p) := by
  obtain ⟨m, s⟩ := s
  obtain ⟨n, t⟩ := t
  cases h with
  | nil => exact .none
  | stump _ => simp [Cursor.one?, hp.2]
  | @char c s t _ _ h =>
    cases hc : p c
    · simp [Cursor.one?, hc]
    · simpa [Cursor.one?, hc, Cursor.Mirrors] using h
  | feed _ => simp [Cursor.one?, hp.1]
  | returnFeed _ => simp [Cursor.one?, hp.1, hp.2]

/-- Only blanks at the very end of a text that was cut have no counterpart. -/
lemma blanks?_or (h : s.Mirrors cut t) :
    Option.Rel (Cursor.Mirrors cut) s.blanks? t.blanks? ∨
      cut = true ∧ s.blanks? = none ∧ ∃ n, t.blanks? = some ⟨n, []⟩ := by
  obtain ⟨m, s⟩ := s
  obtain ⟨n, t⟩ := t
  cases h with
  | nil => exact .inl .none
  | stump hc => exact .inr ⟨hc, rfl, n + 1, rfl⟩
  | @char c s t _ _ h =>
    refine .inl ?_
    cases hb : isBlank c
    · simp [Cursor.blanks?, Cursor.one?, hb]
    · simpa [Cursor.blanks?, Cursor.one?, hb] using
        Mirrors.skipBlanks (s := ⟨m + 1, s⟩) (t := ⟨n + 1, t⟩) h
  | @feed s t h =>
    refine .inl ?_
    simpa [Cursor.blanks?, Cursor.one?] using
      Mirrors.skipBlanks (s := ⟨m + 1, s⟩) (t := ⟨n + 1, t⟩) h
  | @returnFeed s t h =>
    refine .inl ?_
    have hm := Mirrors.skipBlanks (s := ⟨m + 1, s⟩) (t := ⟨n + 1, t⟩) h
    simpa [Cursor.blanks?, Cursor.one?, isBlank_return, Cursor.Mirrors, Cursor.skipBlanks] using hm

lemma blanks? (h : s.Mirrors false t) :
    Option.Rel (Cursor.Mirrors false) s.blanks? t.blanks? := by
  rcases h.blanks?_or with h | ⟨hc, -⟩
  · exact h
  · simp at hc

/-- What follows blanks tells the end of a cut text by finding nothing there. -/
lemma blanks?_bind (h : s.Mirrors cut t) {γ δ : Type} {S : γ → δ → Prop}
    {f : Cursor → Option γ} {g : Cursor → Option δ}
    (hf : ∀ s t : Cursor, s.Mirrors cut t → Option.Rel S (f s) (g t))
    (hg : ∀ n, g ⟨n, []⟩ = none) : Option.Rel S (s.blanks? >>= f) (t.blanks? >>= g) := by
  rcases h.blanks?_or with h | ⟨-, hs, n, ht⟩
  · exact rel_bind h hf
  · rw [hs, ht]
    change Option.Rel S none (g ⟨n, []⟩)
    rw [hg]
    exact .none

/-- Blanks that are passed and given back until something is found behind them lead to mirrored
places, for nothing is found between a carriage return and its line feed. -/
lemma behindBlanks? {γ : Type} {R : γ → γ → Prop} {p : Cursor → Option γ} (h : s.Mirrors false t)
    (hp : ∀ s t : Cursor, s.Mirrors false t → t.head? ≠ some '\r' → Option.Rel R (p s) (p t))
    (hr : ∀ n t, p ⟨n, '\r' :: '\n' :: t⟩ = none) :
    Option.Rel R (s.behindBlanks? p) (t.behindBlanks? p) := by
  obtain ⟨m, s⟩ := s
  obtain ⟨n, t⟩ := t
  change Text.Mirrors false s t at h
  induction h generalizing m n with
  | nil => exact hp _ _ .nil (by simp [head?])
  | stump hc => simp at hc
  | @char c s t hn hreturn h ih =>
    have hhere := hp ⟨m, c :: s⟩ ⟨n, c :: t⟩ (.char hn hreturn h) (by simpa [head?] using hreturn)
    rw [behindBlanks?_cons, behindBlanks?_cons]
    split_ifs
    · exact rel_or (ih _ _) hhere
    · exact hhere
  | @feed s t h ih =>
    have hhere := hp ⟨m, '\n' :: s⟩ ⟨n, '\n' :: t⟩ (.feed h) (by simp [head?])
    rw [behindBlanks?_cons, behindBlanks?_cons, if_pos isBlank_newline, if_pos isBlank_newline]
    exact rel_or (ih _ _) hhere
  | @returnFeed s t h ih =>
    have hhere := hp ⟨m, '\n' :: s⟩ ⟨n + 1, '\n' :: t⟩ (.feed h) (by simp [head?])
    rw [behindBlanks?_cons, behindBlanks?_cons, behindBlanks?_cons, if_pos isBlank_newline,
      if_pos isBlank_newline, if_pos isBlank_return, hr]
    have hnone (found : Option γ) : (found <|> none) = found := by cases found <;> rfl
    rw [hnone]
    exact rel_or (ih _ _) hhere

end Mirrors

end Cursor

/-- One value was found, and the cursors behind it are mirrored. -/
def Alike (cut : Bool) {α : Type} (a b : α × Cursor) : Prop :=
  a.1 = b.1 ∧ a.2.Mirrors cut b.2

lemma Cursor.Mirrors.run? {cut : Bool} {s t : Cursor} (h : s.Mirrors cut t) {p : Char → Bool}
    (hp : Within p) : Option.Rel (Alike cut) (s.run? p) (t.run? p) := by
  have ht := Text.Mirrors.takeWhile h hp
  have hskip := h.skip (p := p) (by simp [hp.1])
  unfold Cursor.run?
  rw [ht]
  dsimp only
  split_ifs
  · exact .none
  · exact .some ⟨rfl, hskip⟩

/-! ## Recognisers -/

variable {α : Type} {cut : Bool}

/-- Finds nothing at the end of a line, and the same at mirrored places. -/
structure Recognizer.Blind (cut : Bool) (p : Recognizer α) : Prop where
  lineEnd : ∀ (before : Option Char) {s : Cursor}, AtLineEnd s.rest → p before s = none
  mirrors : ∀ (before : Option Char) {s t : Cursor}, s.Mirrors cut t →
    Option.Rel (Alike cut) (p before s) (p before t)

/-- What stands behind the leading blanks of a line is found in both texts. -/
lemma Recognizer.Blind.indented {k : Cursor → Option (α × Cursor)}
    (hend : ∀ {s : Cursor}, AtLineEnd s.rest → k s = none)
    (hk : ∀ {s t : Cursor}, s.Mirrors cut t → Option.Rel (Alike cut) (k s) (k t)) :
    (indented isInlineBlank k).Blind cut where
  lineEnd before s hs := by
    cases hedge : lineEdge before with
    | false => exact anchored_indented _ _ before s hedge
    | true =>
      have hskip : AtLineEnd (s.skip isInlineBlank).rest := by
        rw [Cursor.rest_skip]
        exact hs.dropWhile_inlineBlank
      rw [indented_of_lineEdge hedge, hend hskip]
  mirrors before s t h := rel_bind (rel_guard Iff.rfl) fun _ _ _ => hk h.skipInline

namespace Mirrors

lemma none_of_lineEnd {p : Recognizer α} (hp : p.Blind cut) (before : Option Char)
    {s t : List Char} (h : Mirrors cut s t) (hs : AtLineEnd s) : p before ⟨0, t⟩ = none :=
  eq_none_of_rel (hp.mirrors before (s := ⟨0, s⟩) (t := ⟨0, t⟩) h) (hp.lineEnd before hs)

theorem occursFrom_eq {p : Recognizer α} (hp : p.Blind cut) {s t : List Char}
    (h : Mirrors cut s t) (before : Option Char) :
    occursFrom p before t = occursFrom p before s := by
  induction h generalizing before with
  | nil => rfl
  | stump hc =>
    have hnone := none_of_lineEnd hp before (.stump hc) atLineEnd_nil
    have hend (before : Option Char) := hp.lineEnd before (s := ⟨0, []⟩) atLineEnd_nil
    simp [occursFrom, hnone, hend]
  | @char c s t hn hr h ih =>
    have hrel := hp.mirrors before (s := ⟨0, c :: s⟩) (t := ⟨0, c :: t⟩) (.char hn hr h)
    rw [occursFrom, occursFrom, isSome_eq_of_rel hrel, ih]
  | @feed s t h ih =>
    have hs := hp.lineEnd before (s := ⟨0, '\n' :: s⟩) (atLineEnd_newline s)
    have ht := hp.lineEnd before (s := ⟨0, '\n' :: t⟩) (atLineEnd_newline t)
    rw [occursFrom, occursFrom, hs, ht, ih]
  | @returnFeed s t h ih =>
    have hs := hp.lineEnd before (s := ⟨0, '\n' :: s⟩) (atLineEnd_newline s)
    have hr := none_of_lineEnd hp before (.returnFeed h) (atLineEnd_newline s)
    have ht := hp.lineEnd (some '\r') (s := ⟨0, '\n' :: t⟩) (atLineEnd_newline t)
    rw [occursFrom, occursFrom, occursFrom, hs, hr, ht, ih]
    rfl

theorem occurs_eq {p : Recognizer α} (hp : p.Blind cut) {s t : List Char}
    (h : Mirrors cut s t) : occurs p t = occurs p s := occursFrom_eq hp h none

/-- Two hits on one line with one value, behind which the texts are mirrored. -/
def HitAlike (a b : Hit α) : Prop :=
  a.line = b.line ∧ a.value = b.value ∧ Mirrors false a.rest b.rest

/-- What two mirrored finds have passed: as many line feeds, and the same last character unless a
line ends there. -/
lemma passed_alike {u v r r' : List Char} (h : Mirrors false (u ++ r) (v ++ r'))
    (hr : Mirrors false r r') :
    u.count '\n' = v.count '\n' ∧ (u.getLast? = v.getLast? ∨ AtLineEnd r) := by
  have hu : v.filter (· != '\r') = u := by
    have hf := h.filter_eq
    rw [List.filter_append, hr.filter_eq] at hf
    exact List.append_cancel_right hf
  constructor
  · rw [← hu, List.count_filter (by decide)]
  · rcases List.eq_nil_or_concat v with rfl | ⟨w, c, rfl⟩
    · simp [← hu]
    · by_cases hc : c = '\r'
      · right
        have hend : AtLineEnd r' := by
          refine h.newline_of_return (u := w) ?_
          rw [hc]
          simp
        have hfree : r'.head? ≠ some '\r' := by
          intro hhead
          rw [AtLineEnd, hhead] at hend
          simp at hend
        exact (hr.atLineEnd_iff_of_feed hfree).1 hend
      · left
        rw [← hu]
        simp [hc]

theorem scanFrom_alike {p : Recognizer α} (hp : p.Blind false) (ha : p.Advances) {s t : List Char}
    (h : Mirrors false s t) (line : Nat) {before before' : Option Char}
    (hb : before = before' ∨ AtLineEnd s) :
    List.Forall₂ HitAlike (scanFrom p before line 0 s) (scanFrom p before' line 0 t) := by
  -- A find passes several characters at once, so the induction is on the length of the text.
  induction hlen : s.length using Nat.strong_induction_on generalizing s t line before before' with
  | _ n ih =>
    subst hlen
    cases h with
    | nil =>
      have hend (before : Option Char) := hp.lineEnd before (s := ⟨0, []⟩) atLineEnd_nil
      simp [scanFrom, hend]
    | stump hc => simp at hc
    | @feed s t h =>
      rw [scanFrom_of_none (hp.lineEnd _ (atLineEnd_newline s)),
        scanFrom_of_none (hp.lineEnd _ (atLineEnd_newline t))]
      exact ih _ (by simp) h _ (.inl rfl) rfl
    | @returnFeed s t h =>
      have hr := none_of_lineEnd hp before' (.returnFeed h) (atLineEnd_newline s)
      rw [scanFrom_of_none (hp.lineEnd _ (atLineEnd_newline s)), scanFrom_of_none hr,
        scanFrom_of_none (hp.lineEnd _ (atLineEnd_newline t))]
      exact ih _ (by simp) h _ (.inl rfl) rfl
    | @char c s t hn hr h =>
      have hbb : before = before' := hb.resolve_right (not_atLineEnd_cons hn s)
      subst hbb
      have hm : Mirrors false (c :: s) (c :: t) := .char hn hr h
      have hrel := hp.mirrors before (s := ⟨0, c :: s⟩) (t := ⟨0, c :: t⟩) hm
      generalize hx : p before ⟨0, c :: s⟩ = x at hrel
      generalize hy : p before ⟨0, c :: t⟩ = y at hrel
      cases hrel with
      | none =>
        rw [scanFrom_of_none hx, scanFrom_of_none hy]
        exact ih _ (by simp) h _ (.inl rfl) rfl
      | @some a b hab =>
        obtain ⟨value, s'⟩ := a
        obtain ⟨value', t'⟩ := b
        obtain ⟨hvalue, hrest⟩ := hab
        dsimp only at hvalue hrest
        subst hvalue
        obtain ⟨u, hu, hpu⟩ := ha hx
        obtain ⟨v, hv, hpv⟩ := ha hy
        have hsu : c :: s = u ++ s'.rest := hpu.rest_eq
        have htv : c :: t = v ++ t'.rest := hpv.rest_eq
        rw [hsu] at hx hpu hm ⊢
        rw [htv] at hy hpv hm ⊢
        obtain ⟨hcount, hlast⟩ := passed_alike hm hrest
        rw [scanFrom_of_some hu hpu hx, scanFrom_of_some hv hpv hy, hcount]
        refine .cons ⟨rfl, rfl, hrest⟩ (ih _ ?_ hrest _ ?_ rfl)
        · have hpos := List.length_pos_iff.2 hu
          rw [hsu, List.length_append]
          omega
        · exact hlast.imp (fun h => by rw [h]) id

theorem scan_alike {p : Recognizer α} (hp : p.Blind false) (ha : p.Advances) {s t : List Char}
    (h : Mirrors false s t) (line : Nat) :
    List.Forall₂ HitAlike (scan p line s) (scan p line t) :=
  scanFrom_alike hp ha h line (.inl rfl)

end Mirrors

end BasicLint.Text
