import BasicLint.Allowance
import BasicLint.Proofs.Path
import BasicLint.Proofs.Text.Blank
import Mathlib.Data.Option.Basic

/-!
# The grammar of directives

A directive is read by cutting off one piece after the other and trimming what is left. The lines
that pass are exactly those of a grammar in which blanks may stand between the pieces, and what is
read off a line depends neither on these blanks nor on how the line is indented and ended. So every
way to write a directive is read back as that directive.
-/
namespace BasicLint.Directive

open Text

/-- What opens a comment: a star, a bang, or the word `REM` in any case and a space. -/
inductive IsLeader : List Char → Prop
  | star : IsLeader ['*']
  | bang : IsLeader ['!']
  | word {w : List Char} (hw : w.map Char.toUpper = "REM".toList) : IsLeader (w ++ [' '])

/-- A trimmed line with a directive on the entries in `body`, and what follows the directive. -/
inductive IsWritten : List Char → (body rest : List Char) → Prop
  | intro {leader a b body rest : List Char} (hleader : IsLeader leader)
      (ha : ∀ c ∈ a, isBlank c = true) (hb : ∀ c ∈ b, isBlank c = true) (hbody : ')' ∉ body) :
      IsWritten (leader ++ (a ++ ("infobasic-lint:".toList ++
        (b ++ ("allow(".toList ++ (body ++ ([')'] ++ rest))))))) body rest

/-- A text that gives a reason in quotes. -/
inductive GivesReason : List Char → (reason : List Char) → Prop
  | intro {a b reason tail : List Char} (ha : ∀ c ∈ a, isBlank c = true)
      (hb : ∀ c ∈ b, isBlank c = true) (hreason : '"' ∉ reason) :
      GivesReason (a ++ ("reason=".toList ++ (b ++ (['"'] ++ (reason ++ (['"'] ++ tail)))))) reason

/-! ## Trimmed pieces -/

lemma exists_trim (s : List Char) :
    ∃ a b, (∀ c ∈ a, isBlank c = true) ∧ (∀ c ∈ b, isBlank c = true) ∧ s = a ++ (trim s ++ b) := by
  obtain ⟨a, ha, hs⟩ := exists_trimStart s
  obtain ⟨b, hb, hstart⟩ := exists_trimEnd (trimStart s)
  exact ⟨a, b, ha, hb, by rw [trim, ← hstart, ← hs]⟩

lemma trim_trimEnd (s : List Char) : trim (trimEnd s) = trim s := by
  obtain ⟨b, hb, hs⟩ := exists_trimEnd s
  conv_rhs => rw [hs, trim_append_of_blank hb]

/-- Blanks before a piece of text without blanks are trimmed off, and so is the end. -/
lemma trim_blanks_append {a x : List Char} (ha : ∀ c ∈ a, isBlank c = true) (hx : Solid x)
    (s : List Char) : trim (a ++ (x ++ s)) = x ++ trimEnd s := by
  rw [trim_append_solid hx, trimStart_eq_nil ha, List.nil_append]

/-- A text is cut at the first occurrence of a character. -/
lemma cut?_eq_some_iff {c : Char} {s u v : List Char} :
    cut? c s = some (u, v) ↔ s = u ++ ([c] ++ v) ∧ c ∉ u := by
  constructor
  · intro h
    unfold cut? at h
    split at h
    · simp at h
    · rename_i d rest hdrop
      obtain ⟨rfl, rfl⟩ := Prod.mk.inj (Option.some.inj h)
      have hd : d = c := by
        have hhead := List.head?_dropWhile_not (· != c) s
        simpa [hdrop] using hhead
      subst hd
      constructor
      · conv_lhs => rw [← List.takeWhile_append_dropWhile (p := (· != d)) (l := s), hdrop]
        rfl
      · intro hmem
        simpa using List.mem_takeWhile_imp hmem
  · rintro ⟨rfl, hu⟩
    have hother : ∀ x ∈ u, (x != c) = true := fun x hx => by
      simpa using ne_of_mem_of_not_mem hx hu
    rw [cut?, List.dropWhile_append_of_pos hother, List.takeWhile_append_of_pos hother]
    simp

/-! ## The parts of a directive -/

theorem commentBody?_eq_some_iff {line s : List Char} :
    commentBody? line = some s ↔
      ∃ leader t, IsLeader leader ∧ trim line = leader ++ t ∧ trim t = s := by
  unfold commentBody?
  constructor
  · intro h
    split at h
    · rename_i t hline
      exact ⟨['*'], t, .star, hline, Option.some.inj h⟩
    · rename_i t hline
      exact ⟨['!'], t, .bang, hline, Option.some.inj h⟩
    · rename_i r e m t _ _ hline
      rw [Option.ite_none_right_eq_some] at h
      obtain ⟨⟨hr, he, hm⟩, h⟩ := h
      exact ⟨[r, e, m] ++ [' '], t, .word (by simp [hr, he, hm]), hline, Option.some.inj h⟩
    · simp at h
  · rintro ⟨leader, t, hleader, hline, rfl⟩
    rw [hline]
    cases hleader with
    | star => rfl
    | bang => rfl
    | @word w hw =>
      have hw : w.map Char.toUpper = ['R', 'E', 'M'] := hw
      obtain ⟨r, w, rfl, hr, hw⟩ := List.map_eq_cons_iff.1 hw
      obtain ⟨e, w, rfl, he, hw⟩ := List.map_eq_cons_iff.1 hw
      obtain ⟨m, w, rfl, hm, hw⟩ := List.map_eq_cons_iff.1 hw
      obtain rfl := List.map_eq_nil_iff.1 hw
      simp only [List.cons_append, List.nil_append]
      split
      · rename_i heq
        obtain ⟨rfl, -⟩ := List.cons.inj heq
        exact absurd hr (by decide)
      · rename_i heq
        obtain ⟨rfl, -⟩ := List.cons.inj heq
        exact absurd hr (by decide)
      · rename_i heq
        simp only [List.cons.injEq, true_and] at heq
        obtain ⟨rfl, rfl, rfl, rfl⟩ := heq
        rw [if_pos ⟨hr, he, hm⟩]
      · rename_i hother
        exact absurd rfl (hother r e m t)

lemma entries_cons_of_blank {c : Char} (hc : isBlank c = true) (s : List Char) :
    entries (c :: s) = entries s := by
  have hcomma : c ≠ ',' := by rintro rfl; exact absurd hc (by decide)
  obtain ⟨item, items, hitems⟩ := List.exists_cons_of_ne_nil (List.splitOn_ne_nil ',' s)
  have hsplit : (c :: s).splitOn ',' = (c :: item) :: items := by
    rw [List.splitOn_cons_eq_if_modifyHead, hitems]
    simp [hcomma]
  have htrim : trim (c :: item) = trim item := by simp [trim, trimStart, hc]
  rw [entries, entries, hsplit, hitems, List.map_cons, List.map_cons, htrim]

lemma entries_trimStart (s : List Char) : entries (trimStart s) = entries s := by
  obtain ⟨a, ha, hs⟩ := exists_trimStart s
  conv_rhs => rw [hs]
  clear hs
  induction a with
  | nil => rfl
  | cons c a ih =>
    rw [List.cons_append, entries_cons_of_blank (ha c List.mem_cons_self)]
    exact ih fun x hx => ha x (List.mem_cons_of_mem c hx)

lemma mem_entries_iff {body : List Char} {key : String} :
    key ∈ entries body ↔
      ∃ item ∈ body.splitOn ',', trim item ≠ [] ∧ key = String.ofList (trim item) := by
  simp only [entries, List.mem_filterMap, List.mem_map]
  constructor
  · rintro ⟨_, ⟨item, hitem, rfl⟩, hkey⟩
    rw [Option.ite_none_left_eq_some, List.isEmpty_iff] at hkey
    exact ⟨item, hitem, hkey.1, (Option.some.inj hkey.2).symm⟩
  · rintro ⟨item, hitem, hne, rfl⟩
    exact ⟨_, ⟨item, hitem, rfl⟩, by simp [hne]⟩

lemma entries_ne_nil_iff {body : List Char} :
    entries body ≠ [] ↔ ∃ item ∈ body.splitOn ',', trim item ≠ [] := by
  constructor
  · intro h
    obtain ⟨key, hkey⟩ := List.exists_mem_of_ne_nil _ h
    obtain ⟨item, hitem, hne, -⟩ := mem_entries_iff.1 hkey
    exact ⟨item, hitem, hne⟩
  · rintro ⟨item, hitem, hne⟩
    exact List.ne_nil_of_mem (mem_entries_iff.2 ⟨item, hitem, hne, rfl⟩)

/-- A closing quote is found whether or not the end of the text has been trimmed. -/
lemma cut?_trimEnd {c : Char} (hc : isBlank c = false) {u : List Char} (hu : c ∉ u)
    (v : List Char) : cut? c (trimEnd (u ++ ([c] ++ v))) = some (u, trimEnd v) := by
  have hsolid : Solid [c] := ⟨by simp, by simpa using hc⟩
  exact cut?_eq_some_iff.2 ⟨trimEnd_append_solid hsolid u v, hu⟩

theorem reason?_eq_some_iff {rest : List Char} {reason : String} :
    reason? rest = some reason ↔ GivesReason rest reason.toList := by
  simp only [reason?, bind, Option.bind_eq_some_iff, after?_eq_some_iff, Option.some.injEq]
  constructor
  · rintro ⟨s, hs, t, ht, ⟨r, tail⟩, hcut, rfl⟩
    obtain ⟨rfl, hr⟩ := cut?_eq_some_iff.1 hcut
    obtain ⟨a, a', ha, -, hrest⟩ := exists_trim rest
    obtain ⟨b, b', hb, -, hgap⟩ := exists_trim s
    rw [hs, hgap, ht] at hrest
    have hkept : (String.ofList r).toList = r := String.toList_ofList
    rw [hkept, hrest]
    simpa only [List.append_assoc] using
      @GivesReason.intro a b r (tail ++ (b' ++ a')) ha hb hr
  · intro h
    generalize hreason : reason.toList = r at h
    obtain @⟨a, b, r, tail, ha, hb, hr⟩ := h
    have hword : Solid "reason=".toList := by decide
    have hquote : Solid ['"'] := by decide
    refine ⟨_, trim_blanks_append ha hword _, trimEnd (r ++ (['"'] ++ tail)), ?_,
      (r, trimEnd tail), cut?_trimEnd (by decide) hr tail, ?_⟩
    · rw [trim_trimEnd, trim_blanks_append hb hquote]
    · rw [← hreason, String.ofList_toList]

lemma reason?_congr {s t : List Char} (h : trim s = trim t) : reason? s = reason? t := by
  rw [reason?, reason?, h]

/-! ## Whole lines -/

/-- What is read off a line that is written as a directive. -/
theorem ofLine?_of_isWritten {line body rest : List Char} (h : IsWritten (trim line) body rest) :
    ofLine? line =
      if entries body = [] then none else some ⟨entries body, reason? rest⟩ := by
  generalize hline : trim line = s at h
  obtain @⟨leader, a, b, body, rest, hleader, ha, hb, hbody⟩ := h
  have hmarker : Solid "infobasic-lint:".toList := by decide
  have hallow : Solid "allow(".toList := by decide
  have hparen : Solid [')'] := by decide
  have hcomment := commentBody?_eq_some_iff.2 ⟨leader, _, hleader, hline, rfl⟩
  rw [trim_blanks_append ha hmarker] at hcomment
  have hopen := trim_blanks_append hb hallow (body ++ ([')'] ++ rest))
  rw [← trim_trimEnd] at hopen
  have hclose : cut? ')' (trim (trimEnd (body ++ ([')'] ++ rest)))) =
      some (trimStart body, trimEnd rest) := by
    have hstart : ')' ∉ trimStart body := fun h => hbody ((List.dropWhile_suffix _).subset h)
    rw [trim_trimEnd]
    exact cut?_eq_some_iff.2 ⟨trim_append_solid hparen body rest, hstart⟩
  have hreason : reason? (trimEnd rest) = reason? rest := reason?_congr (trim_trimEnd rest)
  unfold ofLine?
  simp only [hcomment, after?_append, hopen, hclose, bind, Option.bind_some, entries_trimStart,
    hreason]
  cases entries body with
  | nil => rfl
  | cons key keys => rfl

/-- Nothing is read off a line that is not written as a directive. -/
lemma exists_isWritten {line : List Char} {directive : Directive}
    (h : ofLine? line = some directive) : ∃ body rest, IsWritten (trim line) body rest := by
  simp only [ofLine?, bind, Option.bind_eq_some_iff, after?_eq_some_iff] at h
  obtain ⟨_, hcomment, s, rfl, t, ht, ⟨keys, rest⟩, hcut, -⟩ := h
  obtain ⟨leader, u, hleader, hline, hu⟩ := commentBody?_eq_some_iff.1 hcomment
  obtain ⟨hclose, hkeys⟩ := cut?_eq_some_iff.1 hcut
  -- What trimming took off between two pieces are the blanks of the grammar.
  obtain ⟨a, a', ha, -, hgap⟩ := exists_trim u
  obtain ⟨b, b', hb, -, hgap'⟩ := exists_trim s
  obtain ⟨c, c', hc, -, hgap''⟩ := exists_trim t
  have hbody : ')' ∉ c ++ keys := by
    intro hmem
    rcases List.mem_append.1 hmem with hmem | hmem
    · exact absurd (hc _ hmem) (by decide)
    · exact hkeys hmem
  refine ⟨c ++ keys, rest ++ (c' ++ (b' ++ a')), ?_⟩
  rw [hline, hgap, hu, hgap', ht, hgap'', hclose]
  simpa only [List.append_assoc] using
    @IsWritten.intro leader a b (c ++ keys) (rest ++ (c' ++ (b' ++ a'))) hleader ha hb hbody

/-! ## Writing -/

/-- Blanks that may stand between two pieces of a directive. -/
abbrev Blanks := { s : List Char // ∀ c ∈ s, isBlank c = true }

/-- A way to write a directive on a line. -/
structure Layout where
  leader : List Char
  isLeader : IsLeader leader
  indent : Blanks
  beforeMarker : Blanks
  beforeAllow : Blanks
  /-- The blanks on both sides of the entry at each place of the list. -/
  padding : Nat → Blanks × Blanks
  beforeReason : Blanks
  beforeQuote : Blanks
  /-- Any text behind the reason. -/
  tail : List Char
  /-- The end of the line, with blanks before it or none. -/
  ending : Blanks

namespace Layout

def entry (layout : Layout) (place : Nat) (key : String) : List Char :=
  (layout.padding place).1.1 ++ (key.toList ++ (layout.padding place).2.1)

def body (layout : Layout) (keys : List String) : List Char :=
  [','].intercalate (keys.mapIdx layout.entry)

def rest (layout : Layout) : (reason : Option String) → List Char
  | none => layout.ending.1
  | some reason =>
    layout.beforeReason.1 ++ ("reason=".toList ++ (layout.beforeQuote.1 ++
      (['"'] ++ (reason.toList ++ (['"'] ++ (layout.tail ++ layout.ending.1))))))

def write (layout : Layout) (directive : Directive) : List Char :=
  layout.indent.1 ++ (layout.leader ++ (layout.beforeMarker.1 ++ ("infobasic-lint:".toList ++
    (layout.beforeAllow.1 ++ ("allow(".toList ++
      (layout.body directive.keys ++ ([')'] ++ layout.rest directive.reason)))))))

end Layout

/-- A directive that can be written: its entries are trimmed and free of what ends an entry, and its
reason is free of quotes. -/
structure IsWritable (directive : Directive) : Prop where
  keys_ne_nil : directive.keys ≠ []
  key_ne_nil : ∀ key ∈ directive.keys, key.toList ≠ []
  trimmed : ∀ key ∈ directive.keys, trim key.toList = key.toList
  free : ∀ key ∈ directive.keys, ',' ∉ key.toList ∧ ')' ∉ key.toList
  reason_free : ∀ reason ∈ directive.reason, '"' ∉ reason.toList

lemma isBlank_eq_false_of_toUpper {c : Char} (h : c.toUpper = 'R') : isBlank c = false := by
  unfold Char.toUpper at h
  split at h
  · rename_i hlower
    exact isBlank_eq_false_of_toNat (lt_of_lt_of_le (by decide) hlower.1)
      (lt_of_le_of_lt hlower.2 (by decide))
  · rw [h]
    decide

/-- A comment does not start with a blank. -/
lemma IsLeader.trimStart_append {leader : List Char} (h : IsLeader leader) (s : List Char) :
    trimStart (leader ++ s) = leader ++ s := by
  cases h with
  | star => rfl
  | bang => rfl
  | @word w hw =>
    obtain ⟨r, w, rfl, hr, -⟩ :=
      List.map_eq_cons_iff.1 (show w.map Char.toUpper = ['R', 'E', 'M'] from hw)
    simp [trimStart, isBlank_eq_false_of_toUpper hr]

lemma trim_padded {a b : List Char} (ha : ∀ c ∈ a, isBlank c = true)
    (hb : ∀ c ∈ b, isBlank c = true) (s : List Char) : trim (a ++ (s ++ b)) = trim s := by
  rw [trim, trimStart_append_of_blank ha, ← trim, trim_append_of_blank hb]

namespace Layout

variable (layout : Layout) {directive : Directive}

lemma trim_entry (place : Nat) (key : String) :
    trim (layout.entry place key) = trim key.toList :=
  trim_padded (layout.padding place).1.2 (layout.padding place).2.2 key.toList

lemma mem_of_mem_entry {place : Nat} {key : String} {c : Char} (hc : isBlank c = false)
    (h : c ∈ layout.entry place key) : c ∈ key.toList := by
  have hblanks (blanks : Blanks) : c ∉ blanks.1 := by
    intro hmem
    exact absurd ((blanks.2 c hmem).symm.trans hc) (by decide)
  rcases List.mem_append.1 h with h | h
  · exact absurd h (hblanks _)
  · exact (List.mem_append.1 h).resolve_right (hblanks _)

lemma comma_not_mem_of_mem_entries (h : directive.IsWritable) :
    ∀ entry ∈ directive.keys.mapIdx layout.entry, ',' ∉ entry := by
  intro entry hentry hcomma
  obtain ⟨place, hplace, rfl⟩ := List.mem_mapIdx.1 hentry
  exact (h.free _ (List.getElem_mem hplace)).1 (layout.mem_of_mem_entry (by decide) hcomma)

lemma paren_not_mem_body (h : directive.IsWritable) : ')' ∉ layout.body directive.keys := by
  intro hparen
  obtain ⟨entry, hentry, hparen⟩ := Path.mem_intercalate (by decide) hparen
  obtain ⟨place, hplace, rfl⟩ := List.mem_mapIdx.1 hentry
  exact (h.free _ (List.getElem_mem hplace)).2 (layout.mem_of_mem_entry (by decide) hparen)

lemma entries_body (h : directive.IsWritable) :
    entries (layout.body directive.keys) = directive.keys := by
  have hsplit : (layout.body directive.keys).splitOn ',' = directive.keys.mapIdx layout.entry :=
    List.splitOn_intercalate ',' (layout.comma_not_mem_of_mem_entries h)
      (by simpa using h.keys_ne_nil)
  have htrim :
      (directive.keys.mapIdx layout.entry).map trim = directive.keys.map String.toList := by
    refine List.ext_getElem (by simp) fun place hplace hplace' => ?_
    have hkey := h.trimmed _ (List.getElem_mem (by simpa using hplace'))
    simpa [layout.trim_entry] using hkey
  rw [entries, hsplit, htrim, List.filterMap_map]
  conv_rhs => rw [← List.filterMap_some (l := directive.keys)]
  refine List.filterMap_congr fun key hkey => ?_
  simp [h.key_ne_nil key hkey]

lemma reason?_rest (h : directive.IsWritable) :
    reason? (layout.rest directive.reason) = directive.reason := by
  cases hreason : directive.reason with
  | none =>
    have hblank : trim layout.ending.1 = trim [] := trim_eq_nil_iff.2 layout.ending.2
    exact reason?_congr hblank
  | some reason =>
    exact reason?_eq_some_iff.2
      (.intro layout.beforeReason.2 layout.beforeQuote.2 (h.reason_free reason hreason))

lemma isWritten_write (h : directive.IsWritable) :
    IsWritten (trim (layout.write directive)) (layout.body directive.keys)
      (trimEnd (layout.rest directive.reason)) := by
  have hparen : Solid [')'] := by decide
  let front := layout.leader ++ (layout.beforeMarker.1 ++ ("infobasic-lint:".toList ++
    (layout.beforeAllow.1 ++ ("allow(".toList ++ layout.body directive.keys))))
  have hwrite : layout.write directive =
      (layout.indent.1 ++ front) ++ ([')'] ++ layout.rest directive.reason) := by
    simp only [write, front, List.append_assoc]
  have hfront : trimStart (layout.indent.1 ++ front) = front := by
    rw [trimStart_append_of_blank layout.indent.2, layout.isLeader.trimStart_append]
  rw [hwrite, trim_append_solid hparen, hfront]
  simpa only [front, List.append_assoc] using IsWritten.intro layout.isLeader
    layout.beforeMarker.2 layout.beforeAllow.2 (layout.paren_not_mem_body h)

/-- Every way to write a directive is read back. -/
theorem ofLine?_write (h : directive.IsWritable) :
    ofLine? (layout.write directive) = some directive := by
  have hreason : reason? (trimEnd (layout.rest directive.reason)) = directive.reason := by
    rw [reason?_congr (trim_trimEnd _), layout.reason?_rest h]
  rw [ofLine?_of_isWritten (layout.isWritten_write h), layout.entries_body h, hreason,
    if_neg h.keys_ne_nil]

end Layout

/-- A line holds a directive exactly if, trimmed, it is written as one with an entry that is not
blank. Its keys are then the trimmed entries that are not blank, and its reason is the quoted text
that follows, if one follows. So a directive is read back however it is written. -/
theorem ofLine?_grammar (line : List Char) :
    ((ofLine? line).isSome = true ↔
      ∃ body rest, IsWritten (trim line) body rest ∧ ∃ item ∈ body.splitOn ',', trim item ≠ []) ∧
    (∀ directive body rest, ofLine? line = some directive → IsWritten (trim line) body rest →
      (∀ key, key ∈ directive.keys ↔
        ∃ item ∈ body.splitOn ',', trim item ≠ [] ∧ key = String.ofList (trim item)) ∧
      ∀ reason, directive.reason = some reason ↔ GivesReason rest reason.toList) ∧
    ∀ (layout : Layout) (directive : Directive), directive.IsWritable →
      ofLine? (layout.write directive) = some directive := by
  refine ⟨⟨fun h => ?_, ?_⟩, fun directive body rest h hwritten => ?_,
    fun layout directive => layout.ofLine?_write⟩
  · obtain ⟨directive, h⟩ := Option.isSome_iff_exists.1 h
    obtain ⟨body, rest, hwritten⟩ := exists_isWritten h
    rw [ofLine?_of_isWritten hwritten, Option.ite_none_left_eq_some] at h
    exact ⟨body, rest, hwritten, entries_ne_nil_iff.1 h.1⟩
  · rintro ⟨body, rest, hwritten, hitem⟩
    rw [ofLine?_of_isWritten hwritten, if_neg (entries_ne_nil_iff.2 hitem), Option.isSome_some]
  · rw [ofLine?_of_isWritten hwritten, Option.ite_none_left_eq_some] at h
    obtain rfl := Option.some.inj h.2
    exact ⟨fun _ => mem_entries_iff, fun _ => reason?_eq_some_iff⟩

/-- A directive behind `rem`, with blanks in many places and a text behind its reason, and the same
directive on an indented line that ends with a carriage return and a line feed. -/
theorem ofLine?_grammar_remark :
    let line := "rem  infobasic-lint: allow( A001 ,naming,) reason= \"old\" x\n".toList
    let body := " A001 ,naming,".toList
    let rest := " reason= \"old\" x".toList
    let directive : Directive := ⟨["A001", "naming"], some "old"⟩
    let space : Blanks := ⟨[' '], List.all_eq_true.1 rfl⟩
    let nothing : Blanks := ⟨[], List.all_eq_true.1 rfl⟩
    let layout : Layout :=
      { leader := ['*'], isLeader := .star, indent := ⟨['\t'], List.all_eq_true.1 rfl⟩,
        beforeMarker := nothing, beforeAllow := space, padding := fun _ => (space, nothing),
        beforeReason := space, beforeQuote := nothing, tail := [],
        ending := ⟨['\r', '\n'], List.all_eq_true.1 rfl⟩ }
    (ofLine? line = some directive ∧ IsWritten (trim line) body rest ∧
        (∀ key, key ∈ directive.keys ↔
          ∃ item ∈ body.splitOn ',', trim item ≠ [] ∧ key = String.ofList (trim item)) ∧
        ∀ reason, directive.reason = some reason ↔ GivesReason rest reason.toList) ∧
      directive.IsWritable ∧ ofLine? (layout.write directive) = some directive := by
  intro line body rest directive space nothing layout
  have hline : ofLine? line = some directive := by decide +kernel
  have hwritten : IsWritten (trim line) body rest := by
    have htrim : trim line = ("rem".toList ++ [' ']) ++ ([' '] ++ ("infobasic-lint:".toList ++
        ([' '] ++ ("allow(".toList ++ (body ++ ([')'] ++ rest)))))) := by decide
    rw [htrim]
    exact .intro (.word (by decide)) (List.all_eq_true.1 rfl) (List.all_eq_true.1 rfl) (by decide)
  have hwritable : directive.IsWritable :=
    ⟨by decide, by decide, by decide, by decide, by decide⟩
  obtain ⟨-, hread, hwrite⟩ := ofLine?_grammar line
  exact ⟨⟨hline, hwritten, hread directive body rest hline hwritten⟩, hwritable,
    hwrite layout directive hwritable⟩

end BasicLint.Directive
