import BasicLint.Proofs.Digits
import BasicLint.Proofs.Recognition
import BasicLint.Proofs.Text.Places
import Mathlib.Data.List.Sort

/-!
# Every field access is looked at

An access is found from the word before its bracket, so the scan could pass over a bracket whose
word lies inside an earlier access. That never happens: the digits of one access are not the record
of another. Each bracket with a literal position behind a word is looked at once, in order and with
the whole word, and a position in ASCII is reported exactly if its number is above the limit.
-/
namespace BasicLint.FieldPosition

open Text

/-- Behind the first `place` characters of a text a literal position in brackets follows a word,
with blanks between them or none. -/
def IsPosition (text : List Char) (place : Nat) : Prop :=
  ∃ u w a digits x r, text = u ++ (w ++ (a ++ (x ++ r))) ∧ (u ++ (w ++ a)).length = place ∧
    IsRun isWord w ∧ (∀ c ∈ a, isBlank c = true) ∧ IsBracketed digits x

/-- A hit is an access with its bracket behind the first `place` characters of a text: its record is
the whole word there, and its line the one on which the word begins. -/
def AccessAt (text : List Char) (hit : Hit Access) (place : Nat) : Prop :=
  ∃ u a x, text = u ++ (hit.value.record ++ (a ++ (x ++ hit.rest))) ∧
    (u ++ (hit.value.record ++ a)).length = place ∧ wordEdge u.getLast? = true ∧
      IsRun isWord hit.value.record ∧ (∀ c ∈ a, isBlank c = true) ∧
        IsBracketed hit.value.digits x ∧ hit.line = 1 + u.count '\n'

/-- What is reported about an access. -/
def finding (source : Source) (hit : Hit Access) : Diagnostic :=
  source.diagnostic "A001" name .error hit.line (message hit.value)
    (some "Use field equates instead of position numbers")

/-! ## The start of a word

A find inside a word is a find at the character before too, and the scan has been there. So a scan
that looks for accesses everywhere finds those that it finds at the starts of words.
-/

lemma isSome_positioned?_cons {c : Char} (hc : isWord c = true) {s : List Char}
    (h : (positioned? ⟨0, s⟩).isSome = true) : (positioned? ⟨0, c :: s⟩).isSome = true := by
  obtain ⟨⟨found, t⟩, h⟩ := Option.isSome_iff_exists.1 h
  obtain ⟨hrecord, a, x, ha, hx, hp⟩ := positioned?_eq_some_iff.1 h
  have hword : IsRun isWord (c :: found.record) :=
    ⟨by simp, List.forall_mem_cons.2 ⟨hc, hrecord.all⟩⟩
  have hrest : c :: s = c :: found.record ++ (a ++ x) ++ t.rest := congrArg (c :: ·) hp.rest_eq
  have hlonger : positioned? ⟨0, c :: s⟩ = some (⟨c :: found.record, found.digits⟩, _) :=
    positioned?_eq_some_iff.2 ⟨hword, a, x, ha, hx, Cursor.passes_of_rest_eq hrest⟩
  rw [hlonger, Option.isSome_some]

/-- Behind an access a word may start. -/
lemma exists_passes_positioned? {s t : Cursor} {found : Access}
    (h : positioned? s = some (found, t)) :
    ∃ u, s.Passes (u ++ ['>']) t := by
  obtain ⟨-, a, _, -, @⟨b, d, -, -, -⟩, hp⟩ := positioned?_eq_some_iff.1 h
  exact ⟨found.record ++ (a ++ (['<'] ++ (b ++ (found.digits ++ d)))), by simpa using hp⟩

lemma scanFrom_positioned? {before : Option Char} {s : List Char} (line : Nat)
    (h : wordEdge before = false → ∃ c, before = some c ∧ positioned? ⟨0, c :: s⟩ = none) :
    scanFrom (fun _ s => positioned? s) before line 0 s = scanFrom access before line 0 s := by
  induction hn : s.length using Nat.strong_induction_on generalizing before line s with
  | _ n ih =>
    cases s with
    | nil =>
      have hnone : positioned? ⟨0, []⟩ = none := by decide
      simp [scanFrom, access, hnone]
    | cons c s =>
      cases hp : positioned? ⟨0, c :: s⟩ with
      | none =>
        have hnone : access before ⟨0, c :: s⟩ = none := by simp [access, hp]
        rw [scanFrom_of_none hp, scanFrom_of_none hnone]
        exact ih s.length (by simp [← hn]) _ (fun _ => ⟨c, rfl, hp⟩) rfl
      | some found =>
        obtain ⟨value, t⟩ := found
        have hedge : wordEdge before = true := by
          by_contra hinside
          obtain ⟨d, rfl, hd⟩ := h (Bool.not_eq_true _ ▸ hinside)
          have hword : isWord d = true := by simpa [wordEdge] using hinside
          have hsome := isSome_positioned?_cons hword (s := c :: s) (by rw [hp, Option.isSome_some])
          rw [hd] at hsome
          contradiction
        obtain ⟨u, hu⟩ := exists_passes_positioned? hp
        have hrest : c :: s = u ++ ['>'] ++ t.rest := hu.rest_eq
        rw [hrest] at hn hp hu ⊢
        have haccess := (access_of_wordEdge hedge _).trans hp
        rw [scanFrom_of_some (by simp) hu hp, scanFrom_of_some (by simp) hu haccess]
        refine congrArg (_ :: ·) (ih t.rest.length ?_ _ (fun hedge => ?_) rfl)
        · rw [← hn, List.length_append, List.length_append]
          simp only [List.length_singleton]
          omega
        · have hclosing : wordEdge (some '>') = true := by decide
          simp [hclosing] at hedge

/-- The scan need not try the characters inside a word. -/
theorem scan_positioned? (line : Nat) (text : List Char) :
    scan (fun _ s => positioned? s) line text = scan access line text :=
  scanFrom_positioned? line fun hedge => absurd hedge (by decide)

/-! ## No access inside an access -/

/-- A text cannot come to a closing bracket first and to an opening one first. -/
lemma closing_ne_opening {u w s t : List Char} (hu : '<' ∉ u) (hw : '>' ∉ w) :
    u ++ '>' :: s ≠ w ++ '<' :: t := by
  intro h
  rcases List.append_eq_append_iff.1 h with ⟨v, rfl, hv⟩ | ⟨v, rfl, hv⟩
  · cases v with
    | nil => simp at hv
    | cons c v =>
      obtain ⟨rfl, -⟩ := List.cons_eq_cons.1 hv
      simp at hw
  · cases v with
    | nil => simp at hv
    | cons c v =>
      obtain ⟨rfl, -⟩ := List.cons_eq_cons.1 hv
      simp at hu

lemma word_ne {w y record z : List Char} (hw : w ≠ []) (hall : ∀ c ∈ w, isWord c = false)
    (hrecord : IsRun isWord record) : w ++ y ≠ record ++ z := by
  intro h
  obtain ⟨c, w, rfl⟩ := List.exists_cons_of_ne_nil hw
  have hmem : c ∈ record := mem_of_mem_head?_append hrecord.ne_nil (v := z) (by rw [← h]; rfl)
  exact absurd ((hrecord.all c hmem).symm.trans (hall c List.mem_cons_self)) (by decide)

/-- No character of a class stands in a text that holds only characters of another class. -/
lemma not_mem_of_forall {p : Char → Bool} {u : List Char} {c : Char}
    (hu : ∀ d ∈ u, p d = true) (hc : p c = false) : c ∉ u :=
  fun hmem => absurd ((hu c hmem).symm.trans hc) (by decide)

/-- Behind its first character a position in brackets begins no access: it comes to its closing
bracket before any opening one. -/
lemma IsBracketed.inside_ne {digits digits' x x' v y record a r : List Char}
    (hx : IsBracketed digits x) (hend : v <:+ x) (hv : v ≠ []) (hrecord : IsRun isWord record)
    (ha : ∀ c ∈ a, isBlank c = true) (hx' : IsBracketed digits' x') :
    v ++ y ≠ record ++ (a ++ x') ++ r := by
  obtain @⟨b, d, hb, hd, hdigits⟩ := hx
  rcases suffix_append_cases hend with hend | ⟨w, hw, hpart, rfl⟩
  · rw [← List.append_assoc, ← List.append_assoc, List.suffix_concat_iff] at hend
    obtain ⟨u, rfl, hpart⟩ := hend.resolve_left hv
    obtain ⟨-, -, -⟩ := hx'
    have hlow : '<' ∉ u := by
      refine fun hmem => ?_
      have hmem := hpart.subset hmem
      simp only [List.mem_append] at hmem
      rcases hmem with (hmem | hmem) | hmem
      · exact not_mem_of_forall hb (by decide) hmem
      · exact not_mem_of_forall hdigits.all (by decide) hmem
      · exact not_mem_of_forall hd (by decide) hmem
    have hhigh : '>' ∉ record ++ a := by
      simp only [List.mem_append, not_or]
      exact ⟨not_mem_of_forall hrecord.all (by decide), not_mem_of_forall ha (by decide)⟩
    intro h
    exact closing_ne_opening hlow hhigh (by simpa using h)
  · have hbracket : ∀ c ∈ w, isWord c = false := by
      intro c hc
      obtain rfl : c = '<' := by simpa using hpart.subset hc
      decide
    simp only [List.append_assoc]
    exact word_ne hw hbracket hrecord

lemma separate_access : access.Separate := by
  intro before s t found u v h hpasses hu hv
  obtain ⟨-, hrecord, a, x, ha, hx, hp⟩ := access_eq_some_iff.1 h
  have hcut : found.record ++ (a ++ x) = u ++ v :=
    List.append_cancel_right (hp.rest_eq.symm.trans hpasses.rest_eq)
  by_contra hinside
  obtain ⟨⟨found', t'⟩, hinside⟩ := Option.ne_none_iff_exists'.1 hinside
  obtain ⟨hedge, hrecord', a', x', ha', hx', hp'⟩ := access_eq_some_iff.1 hinside
  have hrest : v ++ t.rest = found'.record ++ (a' ++ x') ++ t'.rest := hp'.rest_eq
  rcases suffix_append_cases ⟨u, hcut.symm⟩ with hend | ⟨w, hw, -, rfl⟩
  · rcases suffix_append_cases hend with hend | ⟨w, hw, hpart, rfl⟩
    · exact hx.inside_ne hend hv hrecord' ha' hx' hrest
    · simp only [List.append_assoc] at hrest
      refine word_ne hw (fun c hc => ?_) hrecord' hrest
      exact isWord_eq_false_of_isBlank (ha c (hpart.subset hc))
  · -- The second word would begin inside the first one.
    rw [← List.append_assoc u, List.append_cancel_right_eq] at hcut
    have hlast := List.getLast?_eq_some_getLast hu
    have hword : isWord (u.getLast hu) = true :=
      hrecord.all _ (hcut ▸ List.mem_append_left w (List.getLast_mem hu))
    rw [hlast, wordEdge, Option.any_some, hword] at hedge
    exact absurd hedge (by decide)

/-! ## From words to brackets -/

/-- The place behind the word at `start` and the blanks that follow it. -/
def bracket (text : List Char) (start : Nat) : Nat :=
  start + ((⟨0, text.drop start⟩ : Cursor).skip isWord).skipBlanks.passed

lemma IsBracketed.exists_cons {digits x : List Char} (h : IsBracketed digits x) :
    ∃ y, x = '<' :: y := by
  obtain ⟨-, -, -⟩ := h
  exact ⟨_, rfl⟩

lemma bracket_eq {u w a digits x r : List Char} (hw : IsRun isWord w)
    (ha : ∀ c ∈ a, isBlank c = true) (hx : IsBracketed digits x) :
    bracket (u ++ (w ++ (a ++ (x ++ r)))) u.length = (u ++ (w ++ a)).length := by
  obtain ⟨y, rfl⟩ := hx.exists_cons
  have hword : (⟨0, w ++ (a ++ ('<' :: y ++ r))⟩ : Cursor).skip isWord =
      ⟨0 + w.length, a ++ ('<' :: y ++ r)⟩ :=
    (Cursor.passes_of_rest_eq rfl).skip_eq hw.all
      (eq_false_of_mem_head?_blanks ha (fun _ => isBlank_eq_false_of_isWord) (by decide))
  have hblanks : (⟨0 + w.length, a ++ ('<' :: y ++ r)⟩ : Cursor).skipBlanks =
      ⟨0 + w.length + a.length, '<' :: y ++ r⟩ :=
    (Cursor.passes_of_rest_eq rfl).skip_eq ha (by simp [Cursor.head?]; decide)
  rw [bracket, List.drop_left, hword, hblanks]
  simp only [List.length_append]
  omega

/-- A word grows to the whole word that ends with it. -/
lemma exists_whole_word (u : List Char) {w : List Char} (hw : IsRun isWord w) :
    ∃ u' w', u ++ w = u' ++ w' ∧ wordEdge u'.getLast? = true ∧ IsRun isWord w' := by
  refine ⟨u.rdropWhile isWord, u.rtakeWhile isWord ++ w, ?_, ?_, ?_⟩
  · rw [← List.append_assoc, List.rdropWhile_append_rtakeWhile]
  · by_cases hnil : u.rdropWhile isWord = []
    · rw [hnil]
      rfl
    · have hlast := List.rdropWhile_last_not isWord u hnil
      rw [List.getLast?_eq_some_getLast hnil, wordEdge, Option.any_some]
      simpa using hlast
  · refine ⟨by simp [hw.ne_nil], fun c hc => ?_⟩
    exact (List.mem_append.1 hc).elim List.mem_rtakeWhile_imp (hw.all c)

lemma access_of_bracketed {before : Option Char} {w a digits x r : List Char}
    (hedge : wordEdge before = true) (hw : IsRun isWord w) (ha : ∀ c ∈ a, isBlank c = true)
    (hx : IsBracketed digits x) :
    access before ⟨0, w ++ (a ++ (x ++ r))⟩ =
      some (⟨w, digits⟩, ⟨0 + (w ++ (a ++ x)).length, r⟩) :=
  access_eq_some_iff.2 ⟨hedge, hw, a, x, ha, hx, Cursor.passes_of_rest_eq (by simp)⟩

/-- Accesses are found where their words begin. -/
lemma mem_places_iff {text : List Char} {start : Nat} :
    start ∈ access.places none text ↔
      ∃ u w a digits x r, text = u ++ (w ++ (a ++ (x ++ r))) ∧ u.length = start ∧
        wordEdge u.getLast? = true ∧ IsRun isWord w ∧ (∀ c ∈ a, isBlank c = true) ∧
          IsBracketed digits x := by
  rw [Recognizer.places, List.mem_filter, List.mem_range, Recognizer.findsAt, Option.or_none,
    Option.isSome_iff_exists]
  constructor
  · rintro ⟨hstart, ⟨found, t⟩, h⟩
    obtain ⟨hedge, hrecord, a, x, ha, hx, hp⟩ := access_eq_some_iff.1 h
    have hdrop : text.drop start = found.record ++ (a ++ (x ++ t.rest)) := by
      simpa using hp.rest_eq
    refine ⟨text.take start, _, a, _, x, t.rest, ?_, List.length_take_of_le hstart.le, hedge,
      hrecord, ha, hx⟩
    rw [← hdrop, List.take_append_drop]
  · rintro ⟨u, w, a, digits, x, r, rfl, rfl, hedge, hw, ha, hx⟩
    rw [List.take_left, List.drop_left]
    have hpos := List.length_pos_iff.2 hw.ne_nil
    refine ⟨?_, _, access_of_bracketed hedge hw ha hx⟩
    simp only [List.length_append]
    omega

/-- The brackets of accesses come in the order of their words. -/
lemma bracket_lt {text : List Char} {start later : Nat} (hstart : start ∈ access.places none text)
    (hlater : later ∈ access.places none text) (hlt : start < later) :
    bracket text start < bracket text later := by
  obtain ⟨u, w, a, digits, x, r, rfl, rfl, hedge, hw, ha, hx⟩ := mem_places_iff.1 hstart
  have hpassed := access.add_passed_le advances_access separate_access
    (access_of_bracketed hedge hw ha hx) (List.mem_filter.1 hlater).2 hlt
  obtain ⟨y, rfl⟩ := hx.exists_cons
  have hbracket := bracket_eq (u := u) (r := r) hw ha hx
  have hbehind : later ≤ bracket (u ++ (w ++ (a ++ ('<' :: y ++ r)))) later := Nat.le_add_right _ _
  simp only [List.length_append, List.length_cons] at hpassed hbracket
  omega

lemma isPosition_iff {text : List Char} {place : Nat} :
    IsPosition text place ↔ ∃ start ∈ access.places none text, bracket text start = place := by
  constructor
  · rintro ⟨u, w, a, digits, x, r, rfl, rfl, hw, ha, hx⟩
    obtain ⟨u', w', hcut, hedge, hw'⟩ := exists_whole_word u hw
    have htext (z : List Char) : u ++ (w ++ z) = u' ++ (w' ++ z) := by
      rw [← List.append_assoc, hcut, List.append_assoc]
    rw [htext, htext]
    exact ⟨u'.length, mem_places_iff.2 ⟨u', w', a, digits, x, r, rfl, rfl, hedge, hw', ha, hx⟩,
      bracket_eq hw' ha hx⟩
  · rintro ⟨start, hstart, rfl⟩
    obtain ⟨u, w, a, digits, x, r, rfl, rfl, -, hw, ha, hx⟩ := mem_places_iff.1 hstart
    exact ⟨u, w, a, digits, x, r, rfl, (bracket_eq hw ha hx).symm, hw, ha, hx⟩

lemma accessAt_of_standsAt {text : List Char} {hit : Hit Access} {start : Nat}
    (h : StandsAt access none 1 text hit start) : AccessAt text hit (bracket text start) := by
  obtain ⟨site, rfl⟩ := h
  obtain ⟨hedge, hrecord, a, x, ha, hx, hp⟩ := access_eq_some_iff.1 site.recognized
  rw [Option.or_none] at hedge
  have hback : site.back = hit.value.record ++ (a ++ (x ++ hit.rest)) := by
    rw [site.rest_eq]
    simpa using hp.rest_eq
  have htext := hback ▸ site.text_eq
  refine ⟨site.front, a, x, htext, ?_, hedge, hrecord, ha, hx, site.line_eq⟩
  rw [← bracket_eq (r := hit.rest) hrecord ha hx, ← htext]

/-! ## Every position -/

lemma IsPosition.lt_length {text : List Char} {place : Nat} (h : IsPosition text place) :
    place < text.length := by
  obtain ⟨u, w, a, digits, x, r, rfl, rfl, -, -, hx⟩ := h
  obtain ⟨y, rfl⟩ := hx.exists_cons
  simp only [List.length_append, List.length_cons]
  omega

open Classical in
/-- The brackets of the accesses are exactly the brackets with a literal position behind a word. -/
lemma map_bracket_places (text : List Char) :
    (access.places none text).map (bracket text) =
      (List.range text.length).filter (IsPosition text ·) := by
  have hrange : (List.range text.length).Pairwise (· < ·) := List.pairwise_lt_range
  have hbrackets : ((access.places none text).map (bracket text)).Pairwise (· < ·) :=
    List.pairwise_map.2 ((hrange.filter _).imp_of_mem bracket_lt)
  refine hbrackets.eq_of_mem_iff (hrange.filter _) fun place => ?_
  rw [List.mem_map, ← isPosition_iff, List.mem_filter, List.mem_range, decide_eq_true_eq]
  exact ⟨fun h => ⟨h.lt_length, h⟩, And.right⟩

open Classical in
/-- The accesses are, in order and once each, those of all brackets with a literal position behind a
word. Reported are the ones above the limit, which digits of ASCII are exactly if the number that
they write is. -/
theorem accesses_eq_positions {limit : Nat} (hlimit : limit < wordSize) (source : Source) :
    List.Forall₂ (AccessAt source.text) (accesses source.text)
        ((List.range source.text.length).filter (IsPosition source.text ·)) ∧
      check limit source =
        ((accesses source.text).filter (exceeds ·.value.digits limit)).map (finding source) ∧
      ∀ digits : List Char, (∀ c ∈ digits, c.isDigit = true) →
        (exceeds digits limit = true ↔ limit < Nat.ofDigitChars 10 digits 0) := by
  refine ⟨?_, rfl, fun digits hdigits => exceeds_iff_of_ascii hdigits hlimit⟩
  rw [← map_bracket_places, List.forall₂_map_right_iff]
  have hstands := forall₂_scan access advances_access separate_access 1 source.text
  exact hstands.imp fun hit start => accessAt_of_standsAt

open Classical in
/-- The largest limit, with a number that no word holds, leading zeros, and digits that are the
record of a second access. -/
theorem accesses_eq_positions_wide :
    let limit := wordSize - 1
    let source : Source :=
      { text := "R.A<18446744073709551616> = B <\n 0042 > : C<1<2>".toList, strict := false }
    limit < wordSize ∧
      List.Forall₂ (AccessAt source.text) (accesses source.text)
        ((List.range source.text.length).filter (IsPosition source.text ·)) ∧
      check limit source =
        ((accesses source.text).filter (exceeds ·.value.digits limit)).map (finding source) ∧
      ∀ digits : List Char, (∀ c ∈ digits, c.isDigit = true) →
        (exceeds digits limit = true ↔ limit < Nat.ofDigitChars 10 digits 0) := by
  intro limit source
  have hlimit : limit < wordSize := by decide
  exact ⟨hlimit, accesses_eq_positions hlimit source⟩

example :
    (accesses "R.A<7> = B <\n 0042 > : C<1<2>".toList).map (·.value) =
      [⟨"A".toList, "7".toList⟩, ⟨"B".toList, "0042".toList⟩, ⟨"1".toList, "2".toList⟩] := by
  decide +kernel

end BasicLint.FieldPosition
