import BasicLint.Proofs.Recognition
import BasicLint.Proofs.Text.Blindness

/-!
# No rule looks at line endings

Each recogniser of a rule finds nothing at the end of a line and the same constructs in a text and
in its mirror. Three of them do not move in step with the mirror throughout: a carriage return may
end a gap within a line, it may belong to an argument, and it may be all that is left of a line
ending where the lines behind a call are cut off. In each case what comes next fails in both texts.
-/
namespace BasicLint

open Text

namespace Text

lemma within_isWord : Within isWord := by decide

lemma within_isUpper : Within Char.isUpper := by decide

namespace Cursor

variable {s : Cursor}

lemma after?_of_atLineEnd (hs : AtLineEnd s.rest) (literal : List Char)
    (hl : Solid literal) : s.after? literal = none := by
  rw [Cursor.after?, hs.after? hl]
  rfl

lemma run?_of_atLineEnd (hs : AtLineEnd s.rest) (p : Char → Bool)
    (hp : Within p) : s.run? p = none := by
  simp [run?, hs.takeWhile_eq_nil hp]

lemma one?_of_atLineEnd (hs : AtLineEnd s.rest) (p : Char → Bool)
    (hp : Within p) : s.one? p = none := by
  have h := hs.head?_any hp
  unfold one?
  cases hr : s.rest with
  | nil => rfl
  | cons c rest =>
    have hc : p c = false := by simpa [hr] using h
    simp [hc]

lemma skip_of_atLineEnd (hs : AtLineEnd s.rest) : AtLineEnd (s.skip isInlineBlank).rest := by
  rw [rest_skip]
  exact hs.dropWhile_inlineBlank

end Cursor

end Text

/-- A keyword that opens a line, set off from what follows. -/
lemma blind_keyword {keyword : List Char} (hk : Solid keyword) :
    (indented isInlineBlank (Cursor.keyword? keyword)).Blind false := by
  refine .indented (fun hs => ?_) fun h => ?_
  · rw [Cursor.keyword?, Cursor.after?_of_atLineEnd hs keyword hk]
    rfl
  · refine rel_bind (h.after? hk.unbroken) fun s t h => ?_
    exact rel_bind h.blanks? fun _ _ h => .some ⟨rfl, h⟩

lemma Callable.blind_declaration (callable : Callable) : callable.declaration.Blind false := by
  cases callable <;> exact blind_keyword (by decide)

namespace Outline

lemma mirrors_lineEnd? {s t : Cursor} (h : s.Mirrors false t) (ht : t.head? ≠ some '\r') :
    Option.Rel (Cursor.Mirrors false) (lineEnd? s) (lineEnd? t) := by
  have hiff : t.head?.all (· == '\n') = true ↔ s.head?.all (· == '\n') = true :=
    Text.Mirrors.atLineEnd_iff_of_feed h ht
  unfold lineEnd?
  by_cases hs : s.head?.all (· == '\n') = true
  · rw [if_pos hs, if_pos (hiff.2 hs)]
    exact .some h
  · rw [if_neg hs, if_neg (mt hiff.1 hs)]
    exact .none

lemma mirrors_endOfLine? {s t : Cursor} (h : s.Mirrors false t) :
    Option.Rel (Cursor.Mirrors false) (endOfLine? s) (endOfLine? t) :=
  h.behindBlanks? (fun _ _ => mirrors_lineEnd?) fun _ _ => rfl

lemma blind_label : label.Blind false where
  lineEnd before s hs := by
    have hhead : s.head?.any Char.isUpper = false := hs.head?_any within_isUpper
    simp [label, hhead]
  mirrors before s t h := by
    have hhead : t.head?.any Char.isUpper = s.head?.any Char.isUpper :=
      Text.Mirrors.head?_any h within_isUpper
    refine rel_bind (rel_guard Iff.rfl) fun _ _ _ => ?_
    refine rel_bind (rel_guard (by rw [hhead])) fun _ _ _ => ?_
    have hname := h.skip (p := isLabelChar) (by decide)
    refine rel_bind (hname.after? (by decide)) fun s t h => ?_
    exact rel_bind (mirrors_endOfLine? h) fun _ _ h => .some ⟨rfl, h⟩

lemma blind_closed? : (indented isInlineBlank closed?).Blind false := by
  refine .indented (fun hs => ?_) fun h => ?_
  · rw [closed?, Cursor.after?_of_atLineEnd hs _ (by decide)]
    rfl
  · refine rel_bind (h.after? (by decide)) fun s t h => ?_
    exact rel_bind (mirrors_endOfLine? h) fun _ _ h => .some ⟨rfl, h⟩

end Outline

namespace Includes

lemma within_isModuleChar : Within isModuleChar := by decide

/-- A gap within a line may end at a carriage return, but no module name starts behind it. -/
lemma mirrors_gap {s t : Cursor} (h : s.Mirrors false t) :
    Option.Rel (Alike false)
      (s.one? isInlineBlank >>= fun s => (s.skip isInlineBlank).run? isModuleChar)
      (t.one? isInlineBlank >>= fun t => (t.skip isInlineBlank).run? isModuleChar) := by
  obtain ⟨m, s⟩ := s
  obtain ⟨n, t⟩ := t
  cases h with
  | nil => exact .none
  | stump hc => simp at hc
  | feed _ => exact .none
  | @char c s t _ _ h =>
    cases hc : isInlineBlank c
    · simp [Cursor.one?, hc]
    · have hm : Cursor.Mirrors false ⟨m + 1, s⟩ ⟨n + 1, t⟩ := h
      have hrun := hm.skipInline.run? within_isModuleChar
      simpa [Cursor.one?, hc] using hrun
  | @returnFeed s t _ =>
    have hend : AtLineEnd (Cursor.skip isInlineBlank ⟨n + 1, '\n' :: t⟩).rest :=
      Cursor.skip_of_atLineEnd (atLineEnd_newline t)
    have hnone := Cursor.run?_of_atLineEnd hend isModuleChar within_isModuleChar
    have hr : isInlineBlank '\r' = true := by decide
    simp [Cursor.one?, hr, hnone]

lemma blind_imported : imported.Blind false := by
  refine .indented (fun hs => ?_) fun h => ?_
  · simp only [Cursor.after?_of_atLineEnd hs "$USING".toList (by decide)]
    rfl
  · exact rel_bind (h.after? (by decide)) fun s t h => mirrors_gap h

end Includes

namespace ErrorHandling

lemma mirrors_called? {cut : Bool} {s t : Cursor} (h : s.Mirrors cut t) :
    Option.Rel (Alike cut) (called? s) (called? t) := by
  refine rel_bind (h.after? (by decide)) fun s t h => ?_
  refine h.blanks?_bind (fun s t h => ?_) fun n => rfl
  have hhead : t.head?.any Char.isAlpha = s.head?.any Char.isAlpha :=
    Text.Mirrors.head?_any h (by decide)
  refine rel_bind (rel_guard (by rw [hhead])) fun _ _ _ => ?_
  exact h.run? (by decide)

lemma mirrors_framework? {cut : Bool} {space : List Char} (hspace : Unbroken space) {s t : Cursor}
    (h : s.Mirrors cut t) : Option.Rel (Alike cut) (framework? space s) (framework? space t) := by
  refine rel_bind (h.after? hspace) fun s t h => ?_
  refine rel_bind (h.run? (by decide)) ?_
  rintro ⟨routine, s⟩ ⟨_, t⟩ ⟨rfl, h⟩
  exact .some ⟨rfl, h⟩

lemma blind_call : call.Blind false := by
  refine .indented (fun hs => ?_) fun h => ?_
  · have hcall := Cursor.after?_of_atLineEnd hs "CALL".toList (by decide)
    have hf := Cursor.after?_of_atLineEnd hs "F.".toList (by decide)
    have hst := Cursor.after?_of_atLineEnd hs "ST.".toList (by decide)
    simp only [called?, framework?, hcall, hf, hst]
    rfl
  · refine rel_bind (rel_or (mirrors_called? h) (rel_or
      (mirrors_framework? (by decide) h) (mirrors_framework? (by decide) h))) ?_
    rintro ⟨routine, s⟩ ⟨_, t⟩ ⟨rfl, h⟩
    exact rel_bind (h.skipBlanks.after? (by decide)) fun _ _ h => .some ⟨rfl, h⟩

/-! The lines behind a call may be cut right behind a carriage return. -/

lemma mirrors_window {cut : Bool} {s t : List Char} (h : Mirrors cut s t) (count : Nat) :
    Mirrors true (window count s) (window count t) := by
  induction h generalizing count with
  | nil => exact .nil
  | stump _ => exact .stump rfl
  | char hn hr _ ih =>
    simp only [window, if_neg hn]
    exact .char hn hr (ih count)
  | feed _ ih =>
    simp only [window, ↓reduceIte]
    split_ifs
    · exact .nil
    · exact .feed (ih _)
  | returnFeed _ ih =>
    simp only [window, ↓reduceIte, Char.reduceEq]
    split_ifs
    · exact .stump rfl
    · exact .returnFeed (ih _)

lemma mirrors_wholeWord {cut : Bool} {word : List Char} (hw : Unbroken word)
    (before : Option Char) {s t : Cursor} (h : s.Mirrors cut t) :
    Option.Rel (Alike cut) (wholeWord word before s) (wholeWord word before t) := by
  refine rel_bind (rel_guard Iff.rfl) fun _ _ _ => ?_
  refine rel_bind (h.after? hw) fun s t h => ?_
  have hedge : wordEdge t.head? = wordEdge s.head? :=
    congrArg not (Text.Mirrors.head?_any h within_isWord)
  exact rel_bind (rel_guard (by rw [hedge])) fun _ _ _ => .some ⟨rfl, h⟩

lemma mirrors_condition {cut : Bool} (before : Option Char) {s t : Cursor} (h : s.Mirrors cut t) :
    Option.Rel (Alike cut) (condition before s) (condition before t) := by
  refine rel_bind (h.after? (by decide)) fun s t h => ?_
  refine h.blanks?_bind (fun s t h => ?_) fun n => rfl
  refine rel_bind (h.run? (by decide)) ?_
  rintro ⟨_, s⟩ ⟨_, t⟩ ⟨-, h⟩
  refine h.blanks?_bind (fun s t h => ?_) fun n => rfl
  exact rel_bind (h.after? (by decide)) fun _ _ h => .some ⟨rfl, h⟩

lemma mirrors_literal {cut : Bool} {text : List Char} (ht : Unbroken text) (before : Option Char)
    {s t : Cursor} (h : s.Mirrors cut t) :
    Option.Rel (Alike cut) (literal text before s) (literal text before t) :=
  rel_map (h.after? ht) fun _ _ h => ⟨rfl, h⟩

lemma blind_signal : signal.Blind true where
  lineEnd before s hs := by
    obtain ⟨n, s⟩ := s
    cases s with
    | nil => rfl
    | cons c s =>
      obtain rfl : c = '\n' := by simpa [AtLineEnd] using hs
      rfl
  mirrors before s t h := by
    obtain ⟨m, s⟩ := s
    obtain ⟨n, t⟩ := t
    cases h with
    | nil => exact .none
    | stump _ => exact .none
    | feed _ => exact .none
    | returnFeed _ => exact .none
    | @char c s t hn hr h =>
      have hm : Cursor.Mirrors true ⟨m, c :: s⟩ ⟨n, c :: t⟩ := .char hn hr h
      rw [signal_cons, signal_cons]
      split_ifs
      · exact rel_or (mirrors_wholeWord (by decide) before hm)
          (mirrors_wholeWord (by decide) before hm)
      · exact mirrors_condition before hm
      · exact mirrors_literal (by decide) before hm
      · exact rel_or (mirrors_literal (by decide) before hm)
          (mirrors_literal (by decide) before hm)
      · exact .none

end ErrorHandling

lemma FieldPosition.blind_access : access.Blind false where
  lineEnd before s hs := by
    simp [access, positioned?, Cursor.run?_of_atLineEnd hs isWord within_isWord]
  mirrors before s t h := by
    refine rel_bind (rel_guard Iff.rfl) fun _ _ _ => ?_
    refine rel_bind (h.run? within_isWord) ?_
    rintro ⟨record, s⟩ ⟨_, t⟩ ⟨rfl, h⟩
    refine rel_bind (h.skipBlanks.after? (by decide)) fun s t h => ?_
    refine rel_bind (h.skipBlanks.run? (by decide)) ?_
    rintro ⟨digits, s⟩ ⟨_, t⟩ ⟨rfl, h⟩
    exact rel_bind (h.skipBlanks.after? (by decide)) fun _ _ h => .some ⟨rfl, h⟩

namespace RecordLock

/-- An argument may hold a carriage return, but then its line ends there in both texts. -/
lemma mirrors_argument {s t : List Char} (h : Mirrors false s t) :
    t.takeWhile isArgumentChar = s.takeWhile isArgumentChar ∧
        Mirrors false (s.dropWhile isArgumentChar) (t.dropWhile isArgumentChar) ∨
      AtLineEnd (s.dropWhile isArgumentChar) ∧ AtLineEnd (t.dropWhile isArgumentChar) := by
  have hn : isArgumentChar '\n' = false := by decide
  have hr : isArgumentChar '\r' = true := by decide
  induction h with
  | nil => exact .inl ⟨rfl, .nil⟩
  | stump hc => simp at hc
  | @char c s t hn' hr' h ih =>
    cases hc : isArgumentChar c
    · left
      simpa [hc] using Mirrors.char hn' hr' h
    · simpa [hc] using ih
  | feed h _ =>
    left
    simpa [hn] using Mirrors.feed h
  | @returnFeed s t h _ =>
    right
    simpa [hn, hr] using ⟨atLineEnd_newline s, atLineEnd_newline t⟩

lemma argument?_of_atLineEnd {s : Cursor} (hs : AtLineEnd (s.rest.dropWhile isArgumentChar)) :
    argument? s = none := by
  have hend : AtLineEnd (s.skip isArgumentChar).rest := by simpa using hs
  have hnone := Cursor.after?_of_atLineEnd hend [','] (by decide)
  unfold argument? Cursor.run?
  dsimp only
  split_ifs
  · rfl
  · simp [hnone]

lemma mirrors_argument? {s t : Cursor} (h : s.Mirrors false t) :
    Option.Rel (Alike false) (argument? s) (argument? t) := by
  rcases mirrors_argument h with ⟨htake, hdrop⟩ | ⟨hs, ht⟩
  · have hrun : Option.Rel (Alike false) (s.run? isArgumentChar) (t.run? isArgumentChar) := by
      unfold Cursor.run?
      rw [htake]
      dsimp only
      split_ifs
      · exact .none
      · exact .some ⟨rfl, by simpa [Cursor.Mirrors] using hdrop⟩
    refine rel_bind hrun ?_
    rintro ⟨target, s⟩ ⟨_, t⟩ ⟨rfl, h⟩
    exact rel_bind (h.after? (by decide)) fun _ _ h => .some ⟨rfl, h⟩
  · rw [argument?_of_atLineEnd hs, argument?_of_atLineEnd ht]
    exact .none

lemma blind_lock : lock.Blind false where
  lineEnd before s hs := by
    have hnone := Cursor.after?_of_atLineEnd hs "F.READU".toList (by decide)
    simp only [lock, hnone]
    simp
  mirrors before s t h := by
    refine rel_bind (h.after? (by decide)) fun s t h => ?_
    refine rel_bind (h.skipBlanks.after? (by decide)) fun s t h => ?_
    refine h.behindBlanks? (fun _ _ h _ => mirrors_argument? h) fun n t => ?_
    exact argument?_of_atLineEnd (atLineEnd_newline t)

lemma blind_release {target : List Char} (ht : Unbroken target) :
    (release target).Blind false where
  lineEnd before s hs := by
    obtain ⟨n, s⟩ := s
    cases s with
    | nil => rfl
    | cons c s =>
      obtain rfl : c = '\n' := by simpa [AtLineEnd] using hs
      rfl
  mirrors before s t h := by
    obtain ⟨m, s⟩ := s
    obtain ⟨n, t⟩ := t
    cases h with
    | nil => exact .none
    | stump hc => simp at hc
    | feed _ => exact .none
    | returnFeed _ => exact .none
    | @char c s t hn hr h =>
      have hm : Cursor.Mirrors false ⟨m, c :: s⟩ ⟨n, c :: t⟩ := .char hn hr h
      unfold release startingWith
      dsimp only
      split_ifs
      · refine rel_bind (hm.after? (by decide)) fun s t h => ?_
        refine rel_bind (rel_or (h.after? (by decide)) (h.after? (by decide))) fun s t h => ?_
        refine rel_bind (h.skipBlanks.after? (by decide)) fun s t h => ?_
        refine rel_bind (h.skipBlanks.after? ht) fun s t h => ?_
        exact rel_bind (h.skipBlanks.one? (by decide)) fun _ _ h => .some ⟨rfl, h⟩
      · exact .none

end RecordLock

namespace RawFileAccess

lemma mirrors_opening {s t : Cursor} (h : s.Mirrors false t) :
    Option.Rel (Cursor.Mirrors false) (opening s) (opening t) := by
  refine rel_bind (h.after? (by decide)) fun s t h => ?_
  refine rel_bind h.blanks? fun s t h => ?_
  exact rel_bind (h.one? (by decide)) fun s t h => h.after? (by decide)

lemma mirrors_transfer (verb preposition : List Char) (hv : Unbroken verb)
    (hp : Unbroken preposition) {s t : Cursor} (h : s.Mirrors false t) :
    Option.Rel (Cursor.Mirrors false) (transfer verb preposition s)
      (transfer verb preposition t) := by
  refine rel_bind (h.after? hv) fun s t h => ?_
  refine rel_bind h.blanks? fun s t h => ?_
  refine rel_bind (h.run? (by decide)) ?_
  rintro ⟨_, s⟩ ⟨_, t⟩ ⟨-, h⟩
  refine rel_bind h.blanks? fun s t h => ?_
  refine rel_bind (h.after? hp) fun s t h => ?_
  exact rel_bind h.blanks? fun s t h => h.after? (by decide)

lemma blind_statement : statement.Blind false where
  lineEnd before s hs := by
    have ho := Cursor.after?_of_atLineEnd hs "OPEN".toList (by decide)
    have hr := Cursor.after?_of_atLineEnd hs "READ".toList (by decide)
    have hw := Cursor.after?_of_atLineEnd hs "WRITE".toList (by decide)
    simp only [statement, opening, transfer, ho, hr, hw]
    simp
  mirrors before s t h := by
    have hread := mirrors_transfer "READ".toList "FROM".toList (by decide) (by decide) h
    have hwrite := mirrors_transfer "WRITE".toList "TO".toList (by decide) (by decide) h
    exact rel_map (rel_or (mirrors_opening h) (rel_or hread hwrite)) fun _ _ h => ⟨rfl, h⟩

end RawFileAccess

lemma Naming.blind_assignment : assignment.Blind false where
  lineEnd before s hs := by
    have hnone := Cursor.one?_of_atLineEnd hs Char.isUpper within_isUpper
    simp only [assignment, hnone]
    simp
  mirrors before s t h := by
    -- The first characters differ where a line ends, but no name starts there.
    have hhead : Option.Rel (fun a b => a = b ∨
        s.one? Char.isUpper = none ∧ t.one? Char.isUpper = none) s.head? t.head? := by
      obtain ⟨m, s⟩ := s
      obtain ⟨n, t⟩ := t
      cases h with
      | nil => exact .none
      | stump hc => simp at hc
      | char _ _ _ => exact .some (.inl rfl)
      | feed _ => exact .some (.inl rfl)
      | returnFeed _ => exact .some (.inr ⟨rfl, rfl⟩)
    refine rel_bind (rel_guard Iff.rfl) fun _ _ _ => ?_
    refine rel_bind hhead fun first first' hfirst => ?_
    rcases hfirst with rfl | ⟨hs, ht⟩
    · refine rel_bind (h.one? within_isUpper) fun s t h => ?_
      refine rel_bind (h.run? (by decide)) ?_
      rintro ⟨tail, s⟩ ⟨_, t⟩ ⟨rfl, h⟩
      exact rel_bind (h.skipBlanks.after? (by decide)) fun _ _ h => .some ⟨rfl, h⟩
    · rw [hs, ht]
      exact .none

end BasicLint
