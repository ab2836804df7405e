import BasicLint.Proofs.Recognition
import BasicLint.Proofs.Text.Places

/-!
# Raw file access is reported wherever it stands

The record of a statement may end in a verb, and a scan does not look inside the statements that it
has found. Nothing is lost all the same: what follows the record makes no second statement, so that
none begins inside another one and every place with a statement is reported.
-/
namespace BasicLint.RawFileAccess

open Text

/-- A statement of raw file access stands behind the first `place` characters of a text. -/
def StatementAt (text : List Char) (place : Nat) : Prop :=
  ∃ a x b, text = a ++ (x ++ b) ∧ a.length = place ∧ IsStatement x

/-- What is reported about a statement behind the first `place` characters of a source. -/
def finding (source : Source) (place : Nat) : Diagnostic :=
  source.diagnostic "A004" name .error (1 + (source.text.take place).count '\n')
    "Using raw jBC file I/O instead of T24 framework APIs"
    (some "Use framework services (EB.API, DAS layer) instead")

/-! ## The words of a statement -/

lemma isRun_verb {verb : List Char} (h : verb ∈ verbs) : IsRun isRecordChar verb := by
  have hverbs : ∀ verb ∈ verbs, verb ≠ [] ∧ verb.all isRecordChar = true := by decide
  exact ⟨(hverbs verb h).1, List.all_eq_true.1 (hverbs verb h).2⟩

lemma isRun_preposition {verb preposition : List Char} (h : (verb, preposition) ∈ transfers) :
    IsRun isRecordChar preposition := by
  have hmoves : ∀ move ∈ transfers, move.2 ≠ [] ∧ move.2.all isRecordChar = true := by decide
  exact ⟨(hmoves _ h).1, List.all_eq_true.1 (hmoves _ h).2⟩

lemma mem_verbs_of_mem_transfers {verb preposition : List Char}
    (h : (verb, preposition) ∈ transfers) : verb ∈ verbs := by
  have hmoves : ∀ move ∈ transfers, move.1 ∈ verbs := by decide
  exact hmoves _ h

lemma solid_of_isRun {w : List Char} (h : IsRun isRecordChar w) : Solid w :=
  ⟨h.ne_nil, fun c hc => isBlank_eq_false_of_isRecordChar (h.all c hc)⟩

lemma solid_quoted {quote : Char} (h : quote ∈ ['\'', '"']) : Solid [quote] := by
  simp only [List.mem_cons, List.not_mem_nil, or_false] at h
  obtain rfl | rfl := h <;> decide

lemma solid_file : Solid "F.".toList := by decide

/-- The first word of a text and what follows the blanks behind it are told by the text. -/
lemma words_inj {w w' b b' x x' y y' : List Char} (hw : IsRun isRecordChar w)
    (hb : IsRun isBlank b) (hx : Solid x) (hw' : IsRun isRecordChar w') (hb' : IsRun isBlank b')
    (hx' : Solid x') (h : w ++ (b ++ (x ++ y)) = w' ++ (b' ++ (x' ++ y'))) :
    w = w' ∧ x ++ y = x' ++ y' := by
  have hword : ∀ c, isBlank c = true → isRecordChar c = false :=
    fun _ => isRecordChar_eq_false_of_isBlank
  have hblank {x y : List Char} (hx : Solid x) : ∀ c ∈ (x ++ y).head?, isBlank c = false :=
    fun c hc => hx.not_blank c (mem_of_mem_head?_append hx.ne_nil hc)
  obtain ⟨hfirst, hrest⟩ := hw.append_inj hw' (hb.head?_append hword) (hb'.head?_append hword) h
  exact ⟨hfirst, (hb.append_inj hb' (hblank hx) (hblank hx') hrest).2⟩

/-- A word with blanks behind it that begins a statement is a verb. -/
lemma IsStatement.mem_verbs {w b x y s r : List Char} (hs : IsStatement s)
    (hw : IsRun isRecordChar w) (hb : IsRun isBlank b) (hx : Solid x)
    (h : w ++ (b ++ (x ++ y)) = s ++ r) : w ∈ verbs := by
  cases hs with
  | opening ha hquote =>
    have hverb : "OPEN".toList ∈ verbs := by simp [verbs]
    simp only [List.append_assoc] at h
    obtain ⟨rfl, -⟩ := words_inj hw hb hx (isRun_verb hverb) ha (solid_quoted hquote) h
    exact hverb
  | transfer hmove ha hrecord =>
    have hverb := mem_verbs_of_mem_transfers hmove
    simp only [List.append_assoc] at h
    obtain ⟨rfl, -⟩ := words_inj hw hb hx (isRun_verb hverb) ha (solid_of_isRun hrecord) h
    exact hverb

/-- The end of a record is not the verb of a statement: the preposition behind it would have to be
the record, and the file name the preposition. -/
lemma IsStatement.record_ne {w b verb preposition c y s r : List Char} (hs : IsStatement s)
    (hw : IsRun isRecordChar w) (hb : IsRun isBlank b) (hmove : (verb, preposition) ∈ transfers)
    (hc : IsRun isBlank c) : w ++ (b ++ (preposition ++ (c ++ ("F.".toList ++ y)))) ≠ s ++ r := by
  intro h
  have hpreposition := isRun_preposition hmove
  cases hs with
  | @opening a quote ha hquote =>
    have hverb : "OPEN".toList ∈ verbs := by simp [verbs]
    simp only [List.append_assoc] at h
    obtain ⟨-, h⟩ := words_inj hw hb (solid_of_isRun hpreposition) (isRun_verb hverb) ha
      (solid_quoted hquote) h
    -- A quote is no character of a word.
    have hquotes : ['\'', '"'].all (!isRecordChar ·) = true := by decide
    have hword := List.all_eq_true.1 hquotes quote hquote
    have hmem : quote ∈ preposition := by
      refine mem_of_mem_head?_append hpreposition.ne_nil (v := c ++ ("F.".toList ++ y)) ?_
      rw [h]
      rfl
    rw [hpreposition.all quote hmem] at hword
    exact absurd hword (by decide)
  | transfer hmove' ha hrecord hb' =>
    have hverb := mem_verbs_of_mem_transfers hmove'
    have hpreposition' := isRun_preposition hmove'
    simp only [List.append_assoc] at h
    obtain ⟨-, h⟩ := words_inj hw hb (solid_of_isRun hpreposition) (isRun_verb hverb) ha
      (solid_of_isRun hrecord) h
    obtain ⟨-, h⟩ := words_inj hpreposition hc solid_file hrecord hb'
      (solid_of_isRun hpreposition') h
    simp only [transfers, List.mem_cons, List.not_mem_nil, or_false, Prod.mk.injEq] at hmove'
    obtain ⟨-, rfl⟩ | ⟨-, rfl⟩ := hmove' <;> simp at h

/-! ## No statement inside a statement -/

/-- The first letters of the verbs. -/
def isVerbStart (c : Char) : Bool := "ORW".toList.contains c

/-- No statement begins in a text, whatever follows the text. -/
def Inert (z : List Char) : Prop :=
  ∀ v, v <:+ z → v ≠ [] → ∀ {y s r : List Char}, IsStatement s → v ++ y ≠ s ++ r

lemma IsStatement.append_ne {w y s r : List Char} (hs : IsStatement s) (hw : w ≠ [])
    (hall : ∀ c ∈ w, isVerbStart c = false) : w ++ y ≠ s ++ r := by
  intro h
  obtain ⟨verb, hverb, z, rfl⟩ := hs.exists_verb
  have hstarts : ∀ verb ∈ verbs, verb.head?.all isVerbStart = true := by decide
  have hstart := hstarts verb hverb
  obtain ⟨c, w, rfl⟩ := List.exists_cons_of_ne_nil hw
  obtain ⟨d, verb, rfl⟩ := List.exists_cons_of_ne_nil (isRun_verb hverb).ne_nil
  obtain ⟨rfl, -⟩ := List.cons_eq_cons.1 h
  exact absurd ((hall c List.mem_cons_self).symm.trans hstart) (by decide)

lemma inert_of_all {z : List Char} (h : z.all (!isVerbStart ·) = true) : Inert z := by
  intro v hend hv y s r hs
  refine hs.append_ne hv fun c hc => ?_
  simpa using List.all_eq_true.1 h c (hend.subset hc)

lemma isVerbStart_eq_false_of_isBlank {c : Char} (h : isBlank c = true) :
    isVerbStart c = false := by
  have hstarts : "ORW".toList.all (!isBlank ·) = true := by decide
  by_contra hstart
  have hmem : c ∈ "ORW".toList := List.contains_iff_mem.1 (Bool.not_eq_false _ ▸ hstart)
  have hblank := List.all_eq_true.1 hstarts c hmem
  rw [h] at hblank
  exact absurd hblank (by decide)

lemma Inert.blanks {a z : List Char} (hz : Inert z) (ha : IsRun isBlank a) : Inert (a ++ z) := by
  intro v hend hv y s r hs
  rcases suffix_append_cases hend with hend | ⟨w, hw, hpart, rfl⟩
  · exact hz v hend hv hs
  · rw [List.append_assoc]
    refine hs.append_ne hw fun c hc => ?_
    exact isVerbStart_eq_false_of_isBlank (ha.all c (hpart.subset hc))

lemma Inert.preposition {verb preposition c : List Char} (hz : Inert (c ++ "F.".toList))
    (hmove : (verb, preposition) ∈ transfers) (hc : IsRun isBlank c) :
    Inert (preposition ++ (c ++ "F.".toList)) := by
  intro v hend hv y s r hs
  rcases suffix_append_cases hend with hend | ⟨w, hw, hpart, rfl⟩
  · exact hz v hend hv hs
  · intro h
    simp only [List.append_assoc] at h
    have hends : ∀ move ∈ transfers, ∀ verb ∈ verbs, ¬verb <:+ move.2 := by decide
    have hword := (isRun_preposition hmove).of_suffix hpart hw
    exact hends _ hmove w (hs.mem_verbs hword hc solid_file h) hpart

lemma Inert.record {record b verb preposition c : List Char}
    (hz : Inert (b ++ (preposition ++ (c ++ "F.".toList)))) (hrecord : IsRun isRecordChar record)
    (hb : IsRun isBlank b) (hmove : (verb, preposition) ∈ transfers) (hc : IsRun isBlank c) :
    Inert (record ++ (b ++ (preposition ++ (c ++ "F.".toList)))) := by
  intro v hend hv y s r hs
  rcases suffix_append_cases hend with hend | ⟨w, hw, hpart, rfl⟩
  · exact hz v hend hv hs
  · simp only [List.append_assoc]
    exact hs.record_ne (hrecord.of_suffix hpart hw) hb hmove hc

/-- A statement is a verb, and no statement begins in the rest of it. -/
lemma IsStatement.exists_inert {s : List Char} (h : IsStatement s) :
    ∃ verb ∈ verbs, ∃ a x z, IsRun isBlank a ∧ Solid x ∧ Inert (a ++ (x ++ z)) ∧
      s = verb ++ (a ++ (x ++ z)) := by
  cases h with
  | @opening a quote ha hquote =>
    have hinert : Inert ([quote] ++ "F.".toList) := by
      refine inert_of_all ?_
      simp only [List.mem_cons, List.not_mem_nil, or_false] at hquote
      obtain rfl | rfl := hquote <;> decide
    exact ⟨_, by simp [verbs], a, _, _, ha, solid_quoted hquote, hinert.blanks ha, rfl⟩
  | transfer hmove ha hrecord hb hc =>
    have hfile : Inert "F.".toList := inert_of_all (by decide)
    have hplace := (hfile.blanks hc).preposition hmove hc
    have hobject := (hplace.blanks hb).record hrecord hb hmove hc
    exact ⟨_, mem_verbs_of_mem_transfers hmove, _, _, _, ha, solid_of_isRun hrecord,
      hobject.blanks ha, rfl⟩

/-- What begins inside a statement is no statement. -/
lemma IsStatement.inside_ne {u v y s s' r : List Char} (hs : IsStatement s) (hcut : s = u ++ v)
    (hu : u ≠ []) (hv : v ≠ []) (hs' : IsStatement s') : v ++ y ≠ s' ++ r := by
  obtain ⟨verb, hverb, a, x, z, ha, hx, hinert, rfl⟩ := hs.exists_inert
  rcases suffix_append_cases ⟨u, hcut.symm⟩ with hend | ⟨w, hw, hpart, rfl⟩
  · exact hinert v hend hv hs'
  · intro h
    simp only [List.append_assoc] at h
    have hends : ∀ verb ∈ verbs, ∀ w ∈ verbs, w <:+ verb → w = verb := by decide
    have hword := hs'.mem_verbs ((isRun_verb hverb).of_suffix hpart hw) ha hx h
    obtain rfl := hends verb hverb w hword hpart
    exact hu (List.eq_nil_of_length_eq_zero (by simpa using congrArg List.length hcut))

lemma separate_statement : statement.Separate := by
  intro before s t value u v h hpasses hu hv
  obtain ⟨x, hx, hx_passes⟩ := statement_eq_some_iff.1 h
  have hcut : x = u ++ v :=
    List.append_cancel_right (hx_passes.rest_eq.symm.trans hpasses.rest_eq)
  by_contra hinside
  obtain ⟨⟨value', t'⟩, hinside⟩ := Option.ne_none_iff_exists'.1 hinside
  obtain ⟨x', hx', hx_passes'⟩ := statement_eq_some_iff.1 hinside
  exact hx.inside_ne hcut hu hv hx' hx_passes'.rest_eq

/-! ## Every place with a statement -/

lemma findsAt_iff {text : List Char} {place : Nat} (hplace : place ≤ text.length) :
    statement.findsAt none text place = true ↔ StatementAt text place := by
  rw [Recognizer.findsAt, Option.isSome_iff_exists]
  constructor
  · rintro ⟨⟨value, t⟩, h⟩
    obtain ⟨x, hx, hpasses⟩ := statement_eq_some_iff.1 h
    refine ⟨text.take place, x, t.rest, ?_, List.length_take_of_le hplace, hx⟩
    rw [← hpasses.rest_eq, List.take_append_drop]
  · rintro ⟨a, x, b, rfl, rfl, hx⟩
    rw [List.take_left, List.drop_left]
    exact ⟨((), ⟨0 + x.length, b⟩),
      statement_eq_some_iff.2 ⟨x, hx, Cursor.passes_of_rest_eq rfl⟩⟩

open Classical in
/-- Reported are, in order and once each, all places of the text at which a statement of raw file
access stands, every one on its own line. -/
theorem check_eq_statements (source : Source) :
    check source =
      ((List.range source.text.length).filter (StatementAt source.text ·)).map
        (finding source) := by
  have hplaces : statement.places none source.text =
      (List.range source.text.length).filter (StatementAt source.text ·) := by
    refine List.filter_congr fun place hplace => ?_
    rw [Bool.eq_iff_iff, decide_eq_true_eq]
    exact findsAt_iff (List.mem_range.1 hplace).le
  have hstands := forall₂_scan statement advances_statement separate_statement 1 source.text
  rw [hplaces] at hstands
  rw [check, ← List.forall₂_eq_eq_eq, List.forall₂_map_left_iff, List.forall₂_map_right_iff]
  refine hstands.imp fun hit place hplace => ?_
  rw [finding, hplace.line_eq]

example :
    (check { text := "READ OPEN.READ FROM F.READ A\n FROM F.B\nWRITE F. TO\tF.C".toList,
             strict := false }).map (·.line) = [1, 1, 3] := by
  decide +kernel

end BasicLint.RawFileAccess
