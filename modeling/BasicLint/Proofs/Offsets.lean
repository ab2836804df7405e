import BasicLint.Proofs.Decoding
import Mathlib.Algebra.GroupWithZero.Nat
import Mathlib.Order.Interval.Set.Defs
import Mathlib.Order.Monotone.Defs

/-!
# Lines and byte offsets

A text is cut behind its line feeds, and the line of a byte is found by counting the bytes before it
that are line feeds. The lines are the only cut of the text into pieces of which each but the last
ends in its one line feed. Laid end to end they divide the bytes of the text among them, and the
count finds the piece in which a byte lies, also where the byte is inside a character or is itself a
line feed.
-/
namespace BasicLint

namespace Text

/-! ## The bytes of a text -/

/-- The bytes of a text in UTF-8. -/
def utf8Bytes (s : List Char) : List UInt8 := s.flatMap String.utf8EncodeChar

@[simp] lemma utf8Bytes_cons (c : Char) (s : List Char) :
    utf8Bytes (c :: s) = String.utf8EncodeChar c ++ utf8Bytes s := rfl

@[simp] lemma utf8Bytes_append (s t : List Char) :
    utf8Bytes (s ++ t) = utf8Bytes s ++ utf8Bytes t := List.flatMap_append

@[simp] lemma length_utf8Bytes (s : List Char) : (utf8Bytes s).length = byteLength s := by
  induction s with
  | nil => rfl
  | cons c s ih =>
    rw [utf8Bytes_cons, List.length_append, String.length_utf8EncodeChar, ih, byteLength_cons]

lemma feed_eq_ofNat_iff (n : Nat) : feed = UInt8.ofNat n ↔ n % 256 = 10 := by
  rw [← UInt8.toNat_inj, UInt8.toNat_ofNat', eq_comm]
  rfl

/-- The byte of a line feed is in no other character: the bytes of a wide one are above ASCII. -/
lemma feed_mem_utf8EncodeChar {c : Char} : feed ∈ String.utf8EncodeChar c ↔ c = '\n' := by
  constructor
  · intro h
    have hcode : c.val.toNat = 10 := by
      unfold String.utf8EncodeChar at h
      dsimp only at h
      split_ifs at h <;>
        simp only [List.mem_cons, List.not_mem_nil, or_false, feed_eq_ofNat_iff] at h <;> omega
    exact Char.toNat_inj.1 hcode
  · rintro rfl
    decide

lemma feed_mem_utf8Bytes {s : List Char} : feed ∈ utf8Bytes s ↔ '\n' ∈ s := by
  simp [utf8Bytes, feed_mem_utf8EncodeChar]

/-- A character that has been begun counts as a line feed if it is one. -/
lemma count_feed_take_utf8EncodeChar (c : Char) (n : Nat) :
    ((String.utf8EncodeChar c).take (n + 1)).count feed = if c = '\n' then 1 else 0 := by
  split_ifs with hc
  · have hfeed : String.utf8EncodeChar '\n' = [feed] := by decide
    rw [hc, hfeed, List.take_succ_cons, List.take_nil, List.count_singleton_self]
  · rw [List.count_eq_zero]
    exact fun h => hc (feed_mem_utf8EncodeChar.1 (List.mem_of_mem_take h))

/-! ## Counting up to an offset -/

/-- The line of an offset is found by counting the line feeds among the bytes before it. -/
lemma lineFrom_eq_count (line : Nat) (s : List Char) (offset : Nat) :
    lineFrom line s offset = line + ((utf8Bytes s).take offset).count feed := by
  induction s generalizing line offset with
  | nil => simp [lineFrom, utf8Bytes]
  | cons c s ih =>
    cases offset with
    | zero => rfl
    | succ offset =>
      rw [lineFrom, ih, utf8Bytes_cons, List.take_append, List.count_append,
        String.length_utf8EncodeChar, count_feed_take_utf8EncodeChar, nextLine]
      split_ifs <;> omega

lemma monotone_lineAt (s : List Char) : Monotone (lineAt s) := by
  intro a b hab
  rw [lineAt, lineAt, lineFrom_eq_count, lineFrom_eq_count]
  exact Nat.add_le_add_left ((List.take_prefix_take_left hab).sublist.count_le feed) 1

/-- Text without a line feed is passed on one line. -/
lemma lineFrom_of_newline_not_mem {u : List Char} (hu : '\n' ∉ u) (line : Nat) (w : List Char)
    {offset : Nat} (h : offset ≤ byteLength u) : lineFrom line (u ++ w) offset = line := by
  have hnone : feed ∉ (utf8Bytes u).take offset := fun hmem =>
    hu (feed_mem_utf8Bytes.1 (List.mem_of_mem_take hmem))
  rw [lineFrom_eq_count, utf8Bytes_append, List.take_append_of_le_length (by simpa using h),
    List.count_eq_zero.2 hnone, Nat.add_zero]

/-- A line is not left before its last byte has been passed. -/
lemma lineFrom_of_mem_lines {l s : List Char} (hl : l ∈ lines s) (line : Nat) (w : List Char)
    {offset : Nat} (h : offset < byteLength l) : lineFrom line (l ++ w) offset = line := by
  obtain ⟨body, hbody, rfl | rfl⟩ := mem_lines hl
  · exact lineFrom_of_newline_not_mem hbody line w h.le
  · have hone : byteLength ['\n'] = 1 := rfl
    rw [byteLength_append, hone] at h
    rw [List.append_assoc, lineFrom_of_newline_not_mem hbody line _ (Nat.le_of_lt_succ h)]

/-! ## The bytes of a line -/

/-- The offsets of the bytes of a line: they begin behind the lengths of the lines before it, and
there are as many as the line is long. -/
def byteRange (s : List Char) (number : Nat) : Set Nat :=
  let start := (((lines s).take (number - 1)).map byteLength).sum
  Set.Ico start (start + byteLength ((line? s number).getD []))

lemma byteLength_flatten (ls : List (List Char)) :
    byteLength ls.flatten = (ls.map byteLength).sum := by
  induction ls with
  | nil => rfl
  | cons l ls ih => rw [List.flatten_cons, byteLength_append, ih, List.map_cons, List.sum_cons]

/-- Each byte of pieces laid end to end lies in one of them. -/
lemma exists_piece {ls : List (List Char)} {offset : Nat} (h : offset < byteLength ls.flatten) :
    ∃ i l, ls[i]? = some l ∧
      ∃ k < byteLength l, offset = byteLength (ls.take i).flatten + k := by
  induction ls generalizing offset with
  | nil => simp at h
  | cons l ls ih =>
    by_cases hl : offset < byteLength l
    · exact ⟨0, l, rfl, offset, hl, by simp⟩
    · rw [List.flatten_cons, byteLength_append] at h
      have hbehind : offset - byteLength l < byteLength ls.flatten := by omega
      obtain ⟨i, l', hl', k, hk, hoffset⟩ := ih hbehind
      refine ⟨i + 1, l', hl', k, hk, ?_⟩
      rw [List.take_succ_cons, List.flatten_cons, byteLength_append]
      omega

/-- A byte of a line is on that line. -/
lemma lineAt_of_getElem?_lines {s l : List Char} {i k : Nat} (h : (lines s)[i]? = some l)
    (hk : k < byteLength l) : lineAt s (byteLength ((lines s).take i).flatten + k) = i + 1 := by
  have hcount := count_newline_flatten_take (List.getElem?_eq_some_iff.1 h).1
  have htext := eq_append_of_getElem?_lines h
  generalize ((lines s).take i).flatten = front at *
  rw [htext, lineAt, lineFrom_append_add, lineFrom_of_mem_lines (List.mem_of_getElem? h) _ _ hk,
    hcount, Nat.add_comm]

lemma byteRange_succ {s l : List Char} {i : Nat} (h : (lines s)[i]? = some l) :
    byteRange s (i + 1) = Set.Ico (byteLength ((lines s).take i).flatten)
      (byteLength ((lines s).take i).flatten + byteLength l) := by
  rw [byteRange, line?, if_neg (Nat.succ_ne_zero i), Nat.add_sub_cancel, h, Option.getD_some,
    byteLength_flatten]

lemma exists_line_of_mem_byteRange {s : List Char} {offset number : Nat}
    (h : offset ∈ byteRange s number) : ∃ l, line? s number = some l := by
  rw [← Option.isSome_iff_exists, Option.isSome_iff_ne_none]
  intro hnone
  rw [byteRange, hnone, Option.getD_none, byteLength_nil, Set.mem_Ico] at h
  omega

/-- The bytes of a line are the bytes of the text that are on it. -/
theorem mem_byteRange_iff {s : List Char} {offset number : Nat} :
    offset ∈ byteRange s number ↔ offset < byteLength s ∧ lineAt s offset = number := by
  constructor
  · intro h
    obtain ⟨l, hline⟩ := exists_line_of_mem_byteRange h
    obtain ⟨i, rfl⟩ := Nat.exists_eq_add_one.2 (bounds_of_line? hline).1
    have hl : (lines s)[i]? = some l := hline
    rw [byteRange_succ hl, Set.mem_Ico] at h
    obtain ⟨k, rfl⟩ := Nat.exists_eq_add_of_le h.1
    have hk : k < byteLength l := by omega
    refine ⟨?_, lineAt_of_getElem?_lines hl hk⟩
    have hlength := congrArg byteLength (eq_append_of_getElem?_lines hl)
    rw [byteLength_append, byteLength_append] at hlength
    omega
  · rintro ⟨hoffset, rfl⟩
    rw [← flatten_lines s] at hoffset
    obtain ⟨i, l, hl, k, hk, rfl⟩ := exists_piece hoffset
    rw [lineAt_of_getElem?_lines hl hk, byteRange_succ hl, Set.mem_Ico]
    omega

end Text

open Text

/-- The lines of a source are the only cut of its text. The line of an offset is counted in bytes,
so it grows with the offset, and a line has the bytes of the text that are on it. -/
theorem Source.lines_partition (source : Source) :
    (∀ ls, IsCut ls source.text ↔ ls = source.lines) ∧
      (∀ offset, lineAt source.text offset =
        1 + ((utf8Bytes source.text).take offset).count feed) ∧
      Monotone (lineAt source.text) ∧
      ∀ offset n, 1 ≤ n ∧ n ≤ source.lineCount ∧ offset ∈ byteRange source.text n ↔
        offset < byteLength source.text ∧ lineAt source.text offset = n := by
  rw [lines_eq, lineCount_eq]
  refine ⟨fun ls => ⟨IsCut.eq_lines, fun h => h ▸ isCut_lines source.text⟩,
    lineFrom_eq_count 1 source.text, monotone_lineAt source.text, fun offset n => ?_⟩
  rw [← mem_byteRange_iff]
  refine ⟨fun h => h.2.2, fun h => ?_⟩
  obtain ⟨l, hline⟩ := exists_line_of_mem_byteRange h
  obtain ⟨hpos, hle⟩ := bounds_of_line? hline
  exact ⟨hpos, hle, h⟩

/-- An offset inside a character of three bytes, on a last line without a line feed. -/
theorem Source.lines_partition_wide :
    let source : Source := { text := "é\n☃x".toList, strict := false }
    source.lines = ["é\n".toList, "☃x".toList] ∧ lineAt source.text 4 = 2 ∧
      4 ∈ byteRange source.text 2 := by
  intro source
  obtain ⟨hcut, -, -, hbytes⟩ := lines_partition source
  have hlines := (hcut ["é\n".toList, "☃x".toList]).1
    ⟨by decide, by decide, by decide, by decide⟩
  have hat : lineAt source.text 4 = 2 := by decide
  exact ⟨hlines.symm, hat, ((hbytes 4 2).2 ⟨by decide, hat⟩).2.2⟩

end BasicLint
