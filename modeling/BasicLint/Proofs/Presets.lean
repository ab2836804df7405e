import BasicLint.Proofs.WellFormed

/-!
# The minimal preset reports all errors

Only three rules have findings that are errors, and these are the rules of the minimal preset.
Neither settings nor directives make an error of another finding, unless the settings ask for it. So
a report under the minimal preset has the errors of the full report, and it fails the same files.
-/
namespace BasicLint

/-! ## How grave findings are -/

/-- Every finding is as grave as its code says. -/
theorem Rule.severity_eq_of_mem_check {rule : Rule} {source : Source} {d : Diagnostic}
    (h : d ∈ rule.check source) : d.severity = Severity.ofCode d.id := by
  have hreports {id name : String} {line : Nat} (hr : source.Reports id name line d) :
      d.severity = Severity.ofCode d.id := by
    rw [hr.severity_eq, hr.id_eq]
  cases rule with
  | outline =>
    obtain hr | ⟨_, _, hr⟩ | hr := Outline.mem_check h
    · exact hreports hr
    · exact hreports hr
    · exact hreports hr
  | naming extraPrefixes =>
    obtain ⟨_, _, _, _, _, hr, _⟩ := Naming.mem_check h
    exact hreports hr
  | includes =>
    obtain ⟨_, _, hr⟩ | hr | ⟨_, _, hr, _⟩ := Includes.mem_check h
    · exact hreports hr
    · exact hreports hr
    · exact hreports hr
  | errorHandling lookahead =>
    obtain ⟨_, _, hr⟩ := ErrorHandling.mem_check h
    exact hreports hr
  | fieldPosition limit =>
    obtain ⟨_, _, hr, _⟩ := FieldPosition.mem_check h
    exact hreports hr
  | recordLock =>
    obtain ⟨_, _, hr⟩ := RecordLock.mem_check h
    exact hreports hr
  | rawFileAccess =>
    obtain ⟨_, _, hr⟩ := RawFileAccess.mem_check h
    exact hreports hr
  | nesting limit mode => exact hreports (Nesting.mem_check h)

/-- The rules outside the minimal preset have no code for errors. -/
lemma RuleKind.ofCode_ne_error {kind : RuleKind} (hkind : kind ∉ Preset.minimal.kinds) {id : String}
    (hid : id ∈ kind.codes) : Severity.ofCode id ≠ .error := by
  have hall : ∀ kind ∈ RuleKind.all, kind ∉ Preset.minimal.kinds →
      ∀ id ∈ kind.codes, Severity.ofCode id ≠ .error := by decide
  exact hall kind (mem_all kind) hkind id hid

/-! ## Settings and directives -/

/-- Settings that make an error of nothing: they set no name of a rule and no code to that
severity. -/
def Settings.RaisesNothing (settings : Settings) : Prop :=
  ∀ kind : RuleKind, ∀ key ∈ kind.name :: kind.codes,
    (settings.entryFor? key).bind (·.severity) ≠ some .error

instance (settings : Settings) : Decidable settings.RaisesNothing :=
  decidable_of_iff (∀ kind ∈ RuleKind.all, ∀ key ∈ kind.name :: kind.codes,
      (settings.entryFor? key).bind (·.severity) ≠ some .error)
    ⟨fun h kind => h kind kind.mem_all, fun h kind _ => h kind⟩

lemma Settings.RaisesNothing.severity?_ne {settings : Settings} (h : settings.RaisesNothing)
    {kind : RuleKind} {id : String} (hid : id ∈ kind.codes) :
    settings.severity? id kind.name ≠ some .error := by
  unfold severity?
  intro hseverity
  obtain hentry | ⟨-, hentry⟩ := Option.or_eq_some_iff.1 hseverity
  · exact h kind id (List.mem_cons_of_mem _ hid) hentry
  · exact h kind kind.name List.mem_cons_self hentry

namespace Analyzer

lemma severity_ne_error_of_override? {settings : Settings} {d e : Diagnostic}
    (hsettings : settings.severity? d.id d.rule ≠ some .error) (hd : d.severity ≠ .error)
    (h : override? settings d = some e) : e.severity ≠ .error := by
  rw [override?, Option.ite_none_right_eq_some] at h
  obtain rfl := Option.some.inj h.2
  dsimp only
  cases hs : settings.severity? d.id d.rule with
  | none => exact hd
  | some severity =>
    rw [hs] at hsettings
    exact fun heq => hsettings (congrArg some heq)

end Analyzer

lemma Directive.severity_ne_error_of_excuse? {lines : Array (List Char)} {d e : Diagnostic}
    (hd : d.severity ≠ .error) (h : excuse? lines d = some e) : e.severity ≠ .error := by
  unfold excuse? at h
  split at h
  · obtain rfl := Option.some.inj h
    exact hd
  · rw [if_neg (by simp [hd])] at h
    contradiction

/-! ## Reports -/

lemma FileReport.hasErrors_eq (report : FileReport) :
    report.hasErrors = !(report.diagnostics.filter (·.severity = .error)).isEmpty := by
  rw [Bool.eq_iff_iff]
  simp [hasErrors, List.filter_eq_nil_iff]

namespace Analyzer

variable {analyzer : Analyzer}

/-- A rule outside the minimal preset reports no errors. -/
lemma filter_reported_eq_nil (hsettings : analyzer.settings.RaisesNothing) {rule : Rule}
    (hrule : rule.kind ∉ Preset.minimal.kinds) (source : Source) :
    (analyzer.reported source rule).filter (·.severity = .error) = [] := by
  rw [List.filter_eq_nil_iff]
  intro d hd
  rw [decide_eq_true_eq]
  obtain ⟨finding, hfinding, e, he, hd⟩ := mem_reported hd
  have hwell := Rule.wellFormed_of_mem_check hfinding
  have hfinding : finding.severity ≠ .error := by
    rw [Rule.severity_eq_of_mem_check hfinding]
    exact RuleKind.ofCode_ne_error hrule hwell.id_mem
  have hraised : analyzer.settings.severity? finding.id finding.rule ≠ some .error := by
    rw [hwell.rule_eq]
    exact hsettings.severity?_ne hwell.id_mem
  exact Directive.severity_ne_error_of_excuse?
    (severity_ne_error_of_override? hraised hfinding he) hd

/-- The errors under the minimal preset are those under the recommended one, in the same order,
whatever the options of the rules. So both presets fail the same files. -/
theorem errors_checkSource_minimal (analyzer : Analyzer) (rules : RuleKind → Rule) (path : String)
    (text : List Char) (hrules : ∀ kind, (rules kind).kind = kind)
    (hsettings : analyzer.settings.RaisesNothing) :
    let report := fun preset : Preset =>
      { analyzer with rules := preset.kinds.map rules }.checkSource path text
    (report .minimal).diagnostics.filter (·.severity = .error) =
        (report .recommended).diagnostics.filter (·.severity = .error) ∧
      (report .minimal).hasErrors = (report .recommended).hasErrors := by
  intro report
  have herrors : (report .minimal).diagnostics.filter (·.severity = .error) =
      (report .recommended).diagnostics.filter (·.severity = .error) := by
    have hkinds : Preset.minimal.kinds =
        Preset.recommended.kinds.filter (· ∈ Preset.minimal.kinds) := by decide
    change (checkText _ text).filter _ = (checkText _ text).filter _
    rw [checkText_eq, checkText_eq]
    simp only [List.flatMap_map, List.filter_flatMap]
    rw [hkinds]
    refine flatMap_filter_of_eq_nil fun kind _ hkind => ?_
    refine filter_reported_eq_nil hsettings ?_ _
    rw [hrules]
    exact of_decide_eq_false hkind
  refine ⟨herrors, ?_⟩
  rw [FileReport.hasErrors_eq, FileReport.hasErrors_eq, herrors]

theorem errors_checkSource_minimal_lowered :
    let settings : Settings :=
      { rules := [("A001", { severity := some .warning }), ("naming", { severity := some .warning })] }
    let report := fun preset : Preset =>
      { rules := preset.kinds.map (·.configure settings), settings, strict := true
          : Analyzer }.checkSource "A.b" "Name = R<11>\nREAD X FROM F.A\nEND\n".toList
    settings.RaisesNothing ∧ (report .minimal).diagnostics ≠ (report .recommended).diagnostics ∧
      (report .minimal).diagnostics.filter (·.severity = .error) =
        (report .recommended).diagnostics.filter (·.severity = .error) ∧
      (report .minimal).hasErrors = (report .recommended).hasErrors := by
  intro settings report
  have hsettings : settings.RaisesNothing := by decide +kernel
  refine ⟨hsettings, by decide +kernel, ?_⟩
  exact errors_checkSource_minimal { settings, strict := true } (·.configure settings) "A.b" _
    (fun kind => kind.kind_configure settings) hsettings

end Analyzer

end BasicLint
