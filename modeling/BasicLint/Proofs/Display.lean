import BasicLint.Report
import Mathlib.Data.List.Perm.Basic
import Mathlib.Data.Prod.Lex

/-!
# The order of display

The findings of a file are shown by their lines, and those of a line by the names of their
severities, so an info stands before a warning although a warning is graver. Findings that agree in
both are shown as they come. These rules leave one list, and the sort finds it.
-/
namespace BasicLint

/-! ## Stable sorting by a key -/

section StableSort

variable {α κ : Type*} [LinearOrder κ] {key : α → κ}

section

variable {le : α → α → Bool} (hle : ∀ a b, le a b = true ↔ key a ≤ key b)

include hle

lemma trans_of_key (a b c : α) (hab : le a b = true) (hbc : le b c = true) : le a c = true := by
  rw [hle] at *
  exact hab.trans hbc

lemma total_of_key (a b : α) : (le a b || le b a) = true := by
  rw [Bool.or_eq_true, hle, hle]
  exact le_total _ _

lemma pairwise_key_mergeSort (l : List α) : (l.mergeSort le).Pairwise (key · ≤ key ·) :=
  (List.pairwise_mergeSort (trans_of_key hle) (total_of_key hle) l).imp fun h => (hle _ _).1 h

/-- The elements of each key stand as they did before the sort. -/
lemma filter_key_mergeSort (l : List α) (k : κ) :
    (l.mergeSort le).filter (key · = k) = l.filter (key · = k) := by
  have htied : (l.filter (key · = k)).Pairwise (le · ·) := by
    refine List.pairwise_of_forall_mem_list fun a ha b hb => (hle a b).2 ?_
    have hka : key a = k := by simpa using List.of_mem_filter ha
    have hkb : key b = k := by simpa using List.of_mem_filter hb
    rw [hka, hkb]
  have hkept := (List.sublist_mergeSort (trans_of_key hle) (total_of_key hle) htied
    List.filter_sublist).filter (key · = k)
  simp only [List.filter_filter, Bool.and_self] at hkept
  exact (hkept.eq_of_length ((List.mergeSort_perm l le).filter _).length_eq.symm).symm

end

lemma mem_of_filter_key_eq {l l' : List α}
    (h : ∀ c, l.filter (key · = key c) = l'.filter (key · = key c)) {a : α} (ha : a ∈ l) :
    a ∈ l' := by
  have hmem : a ∈ l'.filter (key · = key a) := by
    rw [← h]
    exact List.mem_filter.2 ⟨ha, by simp⟩
  exact List.mem_of_mem_filter hmem

lemma key_head_le {a b : α} {l l' : List α} (hl' : (b :: l').Pairwise (key · ≤ key ·))
    (h : ∀ c, (a :: l).filter (key · = key c) = (b :: l').filter (key · = key c)) :
    key b ≤ key a := by
  rcases List.mem_cons.1 (mem_of_filter_key_eq h List.mem_cons_self) with rfl | ha
  · exact le_rfl
  · exact (List.pairwise_cons.1 hl').1 a ha

/-- Two lists in the order of a key are the same if their elements of each key are. -/
lemma eq_of_filter_key_eq {l l' : List α} (hl : l.Pairwise (key · ≤ key ·))
    (hl' : l'.Pairwise (key · ≤ key ·))
    (h : ∀ c, l.filter (key · = key c) = l'.filter (key · = key c)) : l = l' := by
  induction l generalizing l' with
  | nil =>
    refine (List.eq_nil_iff_forall_not_mem.2 fun b hb => ?_).symm
    exact List.not_mem_nil (mem_of_filter_key_eq (fun c => (h c).symm) hb)
  | cons a l ih =>
    cases l' with
    | nil => exact absurd (mem_of_filter_key_eq h List.mem_cons_self) List.not_mem_nil
    | cons b l' =>
      -- Each list holds the first element of the other one, so neither starts with the greater key.
      have hkey : key a = key b :=
        le_antisymm (key_head_le hl fun c => (h c).symm) (key_head_le hl' h)
      have hfirst := h a
      rw [List.filter_cons_of_pos (by simp), List.filter_cons_of_pos (by simp [hkey]),
        List.cons.injEq] at hfirst
      obtain ⟨rfl, -⟩ := hfirst
      have hrest (c : α) : l.filter (key · = key c) = l'.filter (key · = key c) := by
        have hc := h c
        rw [List.filter_cons, List.filter_cons] at hc
        split_ifs at hc with hac
        · exact (List.cons.inj hc).2
        · exact hc
      rw [ih (List.pairwise_cons.1 hl).2 (List.pairwise_cons.1 hl').2 hrest]

end StableSort

/-! ## Keys of diagnostics -/

/-- Where a severity stands among the findings of a line. -/
def Severity.place : Severity → Nat
  | error => 0
  | info => 1
  | warning => 2

lemma Severity.place_injective : Function.Injective place := by
  intro a b h
  cases a <;> cases b <;> simp_all [place]

lemma Severity.name_le_name_iff (a b : Severity) : a.name ≤ b.name ↔ a.place ≤ b.place := by
  cases a <;> cases b <;> decide

namespace Diagnostic

/-- What the order of display goes by. -/
def displayKey (d : Diagnostic) : ℕ ×ₗ ℕ := toLex (d.line, d.severity.place)

lemma displayKey_le_iff {a b : Diagnostic} : a.displayKey ≤ b.displayKey ↔
    a.line ≤ b.line ∧ (a.line = b.line → a.severity.place ≤ b.severity.place) := by
  rw [displayKey, displayKey, Prod.Lex.toLex_le_toLex]
  omega

lemma displayKey_eq_iff {d : Diagnostic} {line : Nat} {severity : Severity} :
    d.displayKey = toLex (line, severity.place) ↔ d.line = line ∧ d.severity = severity := by
  rw [displayKey, toLex_inj, Prod.mk.injEq, Severity.place_injective.eq_iff]

lemma displayLe_iff (a b : Diagnostic) :
    displayLe a b = true ↔ a.displayKey ≤ b.displayKey := by
  rw [displayKey_le_iff, displayLe, Bool.or_eq_true, Bool.and_eq_true, decide_eq_true_eq,
    decide_eq_true_eq, decide_eq_true_eq, Severity.name_le_name_iff]
  omega

/-- A list shows some diagnostics: it holds the same ones, by their lines, on a line the errors
before the infos and these before the warnings, and those that agree in both as they come. -/
structure Shows (shown ds : List Diagnostic) : Prop where
  perm : shown.Perm ds
  byLine : shown.Pairwise (·.line ≤ ·.line)
  bySeverity : shown.Pairwise fun a b => a.line = b.line → a.severity.place ≤ b.severity.place
  stable : ∀ line severity, shown.filter (fun d => d.line = line ∧ d.severity = severity) =
    ds.filter fun d => d.line = line ∧ d.severity = severity

lemma filter_tied_eq (ds : List Diagnostic) (line : Nat) (severity : Severity) :
    ds.filter (fun d => d.line = line ∧ d.severity = severity) =
      ds.filter (displayKey · = toLex (line, severity.place)) := by
  simp only [displayKey_eq_iff]

theorem shows_sorted (ds : List Diagnostic) : Shows (sorted ds) ds where
  perm := List.mergeSort_perm ds displayLe
  byLine := (pairwise_key_mergeSort displayLe_iff ds).imp fun h => (displayKey_le_iff.1 h).1
  bySeverity := (pairwise_key_mergeSort displayLe_iff ds).imp fun h => (displayKey_le_iff.1 h).2
  stable line severity := by
    rw [filter_tied_eq, filter_tied_eq, sorted, filter_key_mergeSort displayLe_iff]

/-- No more than one list shows some diagnostics. -/
theorem Shows.eq {shown shown' ds : List Diagnostic} (h : Shows shown ds) (h' : Shows shown' ds) :
    shown = shown' := by
  have hpairwise {l : List Diagnostic} (hl : Shows l ds) :
      l.Pairwise (displayKey · ≤ displayKey ·) :=
    hl.byLine.imp₂ (fun _ _ hline hseverity => displayKey_le_iff.2 ⟨hline, hseverity⟩) hl.bySeverity
  refine eq_of_filter_key_eq (hpairwise h) (hpairwise h') fun d => ?_
  rw [displayKey, ← filter_tied_eq, ← filter_tied_eq, h.stable, h'.stable]

/-- What is shown is shown as it is. -/
theorem Shows.self {shown ds : List Diagnostic} (h : Shows shown ds) : Shows shown shown :=
  ⟨.refl shown, h.byLine, h.bySeverity, fun _ _ => rfl⟩

end Diagnostic

lemma Counts.add_right_comm (counts : Counts) (a b : Severity) :
    (counts.add a).add b = (counts.add b).add a := by
  cases a <;> cases b <;> rfl

/-- Counting goes by no order. -/
lemma Counts.ofDiagnostics_perm {ds ds' : List Diagnostic} (h : ds.Perm ds') :
    ofDiagnostics ds = ofDiagnostics ds' := by
  rw [ofDiagnostics, ofDiagnostics]
  exact h.foldl_eq' (fun a _ b _ counts => add_right_comm counts a.severity b.severity) {}

namespace FileReport

/-- The findings of a report in the order of display are the one list that shows them. A report
with its findings in this order shows, counts and fails as before. -/
theorem shows_iff_eq_sorted (report : FileReport) :
    (∀ shown, Diagnostic.Shows shown report.diagnostics ↔ shown = report.sorted) ∧
      let again : FileReport := { report with diagnostics := report.sorted }
      again.sorted = report.sorted ∧ again.counts = report.counts ∧
        again.hasErrors = report.hasErrors := by
  have hsorted : Diagnostic.Shows report.sorted report.diagnostics :=
    Diagnostic.shows_sorted report.diagnostics
  refine ⟨fun shown => ⟨fun h => h.eq hsorted, fun h => h ▸ hsorted⟩, ?_, ?_, ?_⟩
  · exact (Diagnostic.shows_sorted report.sorted).eq hsorted.self
  · exact Counts.ofDiagnostics_perm hsorted.perm
  · exact hsorted.perm.any_eq

/-- Two infos on one line, behind a warning of that line. -/
theorem shows_iff_eq_sorted_tied :
    let warning : Diagnostic := ⟨"A001", "hardcoded-position", .warning, 5, "", "", none⟩
    let first : Diagnostic := ⟨"S002", "structure", .info, 5, "", "", none⟩
    let second : Diagnostic := ⟨"N001", "naming", .info, 5, "", "", none⟩
    let error : Diagnostic := ⟨"S001", "structure", .error, 1, "", "", none⟩
    (FileReport.mk "A.b" [warning, first, second, error]).sorted =
      [error, first, second, warning] := by
  intro warning first second error
  have hshows : Diagnostic.Shows [error, first, second, warning]
      [warning, first, second, error] := by
    refine ⟨by decide, by decide, by decide, fun line severity => ?_⟩
    cases severity <;> simp [List.filter_cons, warning, first, second, error]
  exact (((shows_iff_eq_sorted ⟨"A.b", _⟩).1 _).1 hshows).symm

end FileReport

end BasicLint
