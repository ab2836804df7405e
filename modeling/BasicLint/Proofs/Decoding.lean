import BasicLint.Proofs.WellFormed
import BasicLint.Text.Utf8
import Mathlib.Data.List.SplitBy

/-!
# Decoding line by line

The byte of a line feed is a character of its own, whatever stands before it: it is no part of a
character of several bytes, so it ends one that has begun, and no other bytes make a line feed. The
lines of a decoded text are therefore the raw lines, each decoded by itself. The state of the decoder
enters only through what a pending character promises.
-/
namespace BasicLint

namespace Text

/-! ## Raw lines -/

/-- The byte of a line feed. -/
def feed : UInt8 := 0x0A

/-- The lines of raw bytes, which are cut behind every line feed. -/
def byteLines (bytes : List UInt8) : List (List UInt8) := bytes.splitBy fun b _ => b != feed

/-- The raw line with the given number, if there is one. -/
def byteLine? (bytes : List UInt8) (number : Nat) : Option (List UInt8) :=
  if number = 0 then none else (byteLines bytes)[number - 1]?

/-- Bytes with a line feed at most at their end are one line. -/
lemma byteLines_concat {body : List UInt8} (h : feed ∉ body) (last : UInt8) :
    byteLines (body ++ [last]) = [body ++ [last]] := by
  have hne (b : UInt8) (hb : b ∈ body) : (b != feed) = true := by
    simpa using ne_of_mem_of_not_mem hb h
  refine List.splitBy_of_isChain (by simp) (List.Pairwise.isChain (List.pairwise_append.2 ?_))
  exact ⟨List.pairwise_of_forall_mem_list fun b hb _ _ => hne b hb, List.pairwise_singleton _ _,
    fun b hb _ _ => hne b hb⟩

lemma byteLines_append_feed {body : List UInt8} (h : feed ∉ body) (bytes : List UInt8) :
    byteLines (body ++ feed :: bytes) = (body ++ [feed]) :: byteLines bytes := by
  have hcut : ∀ b ∈ (body ++ [feed]).getLast?, ∀ c ∈ bytes.head?, (b != feed) = false := by
    simp
  have hline := byteLines_concat h feed
  unfold byteLines at hline ⊢
  rw [List.append_cons, List.splitBy_append hcut, hline, List.singleton_append]

/-! ## One byte -/

/-- A lead promises a character behind ASCII: the next byte is none of ASCII either, and the code
point will be above that of a line feed. -/
structure Lead.IsWide (lead : Lead) : Prop where
  low : 0x80 ≤ lead.low
  bits : 0x10 ≤ 64 * lead.bits + (lead.low - 0x80)

/-- What is pending, if anything is, is a wide character. -/
def PendsWide (pending : Option Lead) : Prop := ∀ lead ∈ pending, lead.IsWide

lemma pendsWide_none : PendsWide none := fun _ h => nomatch h

lemma isWide_of_lead? {b : Nat} {lead : Lead} (h : lead? b = some lead) : lead.IsWide := by
  unfold lead? at h
  split_ifs at h <;> obtain rfl := Option.some.inj h <;> constructor <;> dsimp only <;> omega

lemma ofNat_ne_newline {n : Nat} (h : n ≠ 0x0A) : Char.ofNat n ≠ '\n' := by
  intro hn
  by_cases hvalid : n.isValidChar
  · rw [Char.ofNat, dif_pos hvalid] at hn
    exact h (congrArg Char.toNat hn)
  · rw [Char.ofNat, dif_neg hvalid] at hn
    exact absurd hn (by decide)

lemma newline_ne_replacement : '\n' ≠ replacement := by decide

/-- What any byte does to the decoder, given the characters it completes and what is then pending. -/
structure ByteStep (b : Nat) (result : List Char × Option Lead) : Prop where
  wide : PendsWide result.2
  newline : '\n' ∈ result.1 → b = 0x0A
  progress : result.1 = [] → result.2.isSome = true

lemma byteStep_startByte (b : Nat) : ByteStep b (startByte b) := by
  unfold startByte
  split_ifs with hb
  · refine ⟨pendsWide_none, fun h => ?_, by simp⟩
    by_contra hne
    exact ofNat_ne_newline hne (List.mem_singleton.1 h).symm
  · cases h : lead? b with
    | none =>
      refine ⟨pendsWide_none, fun h => ?_, by simp⟩
      exact absurd (List.mem_singleton.1 h) newline_ne_replacement
    | some lead =>
      refine ⟨?_, by simp, by simp⟩
      rintro _ ⟨⟩
      exact isWide_of_lead? h

theorem byteStep_nextByte {pending : Option Lead} (hpending : PendsWide pending) (b : Nat) :
    ByteStep b (nextByte pending b) := by
  cases pending with
  | none => exact byteStep_startByte b
  | some lead =>
    obtain ⟨hlow, hbits⟩ := hpending lead rfl
    unfold nextByte
    dsimp only
    split_ifs with hnext hlast
    · -- The last byte of a character: its code point is above that of a line feed.
      refine ⟨pendsWide_none, fun h => ?_, by simp⟩
      exact absurd (List.mem_singleton.1 h).symm (ofNat_ne_newline (by omega))
    · -- The bits that are pending only grow.
      refine ⟨?_, by simp, by simp⟩
      rintro _ ⟨⟩
      constructor <;> dsimp only <;> omega
    · -- The character that was pending is given up, and the byte is read as a first one.
      obtain ⟨hwide, hnewline, -⟩ := byteStep_startByte b
      refine ⟨hwide, fun h => ?_, by simp⟩
      rcases List.mem_cons.1 h with h | h
      · exact absurd h newline_ne_replacement
      · exact hnewline h

/-! ## Many bytes -/

lemma decodeFrom_cons (pending : Option Lead) (b : UInt8) (bytes : List UInt8) :
    decodeFrom pending (b :: bytes) =
      (nextByte pending b.toNat).1 ++ decodeFrom (nextByte pending b.toNat).2 bytes := by
  cases pending <;> rfl

variable {pending : Option Lead}

/-- A line feed ends what is pending, as the end of the bytes does. -/
lemma decodeFrom_feed (hpending : PendsWide pending) (bytes : List UInt8) :
    decodeFrom pending (feed :: bytes) = decodeFrom pending [] ++ '\n' :: decodeLossy bytes := by
  have hstart : startByte feed.toNat = (['\n'], none) := rfl
  rw [decodeFrom_cons, decodeLossy]
  cases pending with
  | none => rfl
  | some lead =>
    have hout : ¬(lead.low ≤ feed.toNat ∧ feed.toNat ≤ lead.high) := fun h =>
      absurd ((hpending lead rfl).low.trans h.1) (by decide)
    simp only [nextByte, if_neg hout, hstart]
    rfl

theorem decodeFrom_append_feed (hpending : PendsWide pending) (body bytes : List UInt8) :
    decodeFrom pending (body ++ feed :: bytes) =
      decodeFrom pending body ++ '\n' :: decodeLossy bytes := by
  induction body generalizing pending with
  | nil => exact decodeFrom_feed hpending bytes
  | cons b body ih =>
    rw [List.cons_append, decodeFrom_cons, ih (byteStep_nextByte hpending _).wide, decodeFrom_cons,
      List.append_assoc]

/-- No other byte makes a line feed. -/
theorem newline_not_mem_decodeFrom (hpending : PendsWide pending) {bytes : List UInt8}
    (h : feed ∉ bytes) : '\n' ∉ decodeFrom pending bytes := by
  induction bytes generalizing pending with
  | nil =>
    cases pending with
    | none => simp [decodeFrom]
    | some lead => simpa [decodeFrom] using newline_ne_replacement
  | cons b bytes ih =>
    obtain ⟨hwide, hnewline, -⟩ := byteStep_nextByte hpending b.toNat
    rw [List.mem_cons, not_or] at h
    rw [decodeFrom_cons, List.mem_append, not_or]
    refine ⟨fun hmem => h.1 ?_, ih hwide h.2⟩
    exact (UInt8.toNat_inj.1 (hnewline hmem)).symm

/-- Bytes make some character, if only a replacement. -/
lemma decodeFrom_ne_nil (hpending : PendsWide pending) {bytes : List UInt8}
    (h : pending.isSome = true ∨ bytes ≠ []) : decodeFrom pending bytes ≠ [] := by
  induction bytes generalizing pending with
  | nil =>
    cases pending with
    | none => simp at h
    | some lead => simp [decodeFrom]
  | cons b bytes ih =>
    obtain ⟨hwide, -, hprogress⟩ := byteStep_nextByte hpending b.toNat
    rw [decodeFrom_cons, ne_eq, List.append_eq_nil_iff]
    rintro ⟨hchars, hrest⟩
    exact ih hwide (.inl (hprogress hchars)) hrest

/-- The lines of a decoded text are the raw lines, each decoded by itself. -/
theorem lines_decodeLossy (bytes : List UInt8) :
    lines (decodeLossy bytes) = (byteLines bytes).map decodeLossy := by
  induction hn : bytes.length using Nat.strong_induction_on generalizing bytes with
  | _ n ih =>
    by_cases hmem : feed ∈ bytes
    · obtain ⟨body, rest, rfl, hbody⟩ := List.eq_append_cons_of_mem hmem
      have hline : decodeLossy (body ++ [feed]) = decodeLossy body ++ ['\n'] :=
        decodeFrom_append_feed pendsWide_none body []
      have hshort : rest.length < n := by
        rw [List.length_append, List.length_cons] at hn
        omega
      rw [byteLines_append_feed hbody, List.map_cons, hline, ← ih _ hshort rest rfl, decodeLossy,
        decodeFrom_append_feed pendsWide_none]
      exact lines_append_newline (newline_not_mem_decodeFrom pendsWide_none hbody) _
    · rcases List.eq_nil_or_concat' bytes with rfl | ⟨body, last, rfl⟩
      · rfl
      · rw [byteLines_concat (fun h => hmem (List.mem_append_left _ h)), List.map_singleton]
        exact lines_of_newline_not_mem (decodeFrom_ne_nil pendsWide_none (.inr (by simp)))
          (newline_not_mem_decodeFrom pendsWide_none hmem)

lemma line?_decodeLossy (bytes : List UInt8) (number : Nat) :
    line? (decodeLossy bytes) number = (byteLine? bytes number).map decodeLossy := by
  unfold line? byteLine?
  split_ifs
  · rfl
  · rw [lines_decodeLossy, List.getElem?_map]

end Text

open Text

/-- Decoding keeps the lines of a file, whatever bytes it holds. Each line of the text is a raw line,
decoded by itself; the line of a place in the text has the number of the raw line that holds the
place; and a diagnostic on the text names a raw line and shows it. -/
theorem Analyzer.checkSource_decodeLossy (bytes : List UInt8) :
    lines (decodeLossy bytes) = (byteLines bytes).map decodeLossy ∧
      (lines (decodeLossy bytes)).length = (byteLines bytes).length ∧
      (∀ front back, decodeLossy bytes = front ++ back → back ≠ [] →
        (byteLine? bytes (lineAt (decodeLossy bytes) (byteLength front))).map decodeLossy =
          some (lineStart front ++ firstLine back)) ∧
      ∀ (analyzer : Analyzer) (path : String),
        ∀ d ∈ (analyzer.checkSource path (decodeLossy bytes)).diagnostics,
          1 ≤ d.line ∧ d.line ≤ max 1 (byteLines bytes).length ∧
            d.snippet =
              String.ofList (trim (((byteLine? bytes d.line).map decodeLossy).getD [])) := by
  have hlength : (lines (decodeLossy bytes)).length = (byteLines bytes).length := by
    rw [lines_decodeLossy, List.length_map]
  refine ⟨lines_decodeLossy bytes, hlength, ?_, ?_⟩
  · intro front back htext hback
    rw [← line?_decodeLossy, htext, lineAt_append, line?_append front hback]
  · intro analyzer path d hd
    obtain ⟨rule, -, -, finding, hfinding, hsame⟩ := mem_checkText hd
    have hd := (Rule.wellFormed_of_mem_check hfinding).of_sameFinding hsame
    rw [← line?_decodeLossy, ← hlength]
    exact ⟨hd.line_pos, hd.line_le, hd.snippet_eq⟩

/-- A character is cut off by the line feed behind it and another by the end of the file. -/
theorem Analyzer.checkSource_decodeLossy_truncated :
    let bytes : List UInt8 := [0x20, 0xE2, 0x82, 0x0A, 0x52, 0x3C, 0x31, 0x31, 0x3E, 0xF0, 0x9F]
    let analyzer : Analyzer := { rules := [.fieldPosition 10] }
    (byteLines bytes).length = 2 ∧
      ∃ d ∈ (analyzer.checkSource "A.b" (decodeLossy bytes)).diagnostics,
        d.line = 2 ∧ d.snippet = "R<11>\uFFFD" := by
  intro bytes analyzer
  have hfound : ∃ d ∈ (analyzer.checkSource "A.b" (decodeLossy bytes)).diagnostics, d.line = 2 := by
    decide +kernel
  obtain ⟨d, hd, hline⟩ := hfound
  obtain ⟨-, hlength, -, hall⟩ := checkSource_decodeLossy bytes
  obtain ⟨-, -, hsnippet⟩ := hall analyzer "A.b" d hd
  refine ⟨?_, d, hd, hline, ?_⟩
  · rw [← hlength]
    decide +kernel
  · rw [hsnippet, hline]
    decide +kernel

end BasicLint
