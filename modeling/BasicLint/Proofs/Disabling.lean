import BasicLint.Proofs.WellFormed

/-!
# Switching off a name or a code

The table of rules in the settings is asked four things: whether a rule runs, whether a code is
reported, how grave a finding is, and what the options of a rule are. Switching off a key changes the
entry of that key alone. A report then loses the findings with that code or of that rule, and all
others stay as they are.
-/
namespace BasicLint

namespace Settings

/-- The settings with a name or a code switched off. What else its entry says stays. -/
def disable (settings : Settings) (key : String) : Settings :=
  { settings with
    rules := (key, { (settings.entryFor? key).getD {} with enabled := some false }) ::
      settings.rules.filter (·.1 ≠ key) }

variable (settings : Settings) {key other : String}

lemma entryFor?_disable_self (key : String) : (settings.disable key).entryFor? key =
    some { (settings.entryFor? key).getD {} with enabled := some false } := by
  simp [disable, entryFor?]

lemma entryFor?_disable_of_ne (h : other ≠ key) :
    (settings.disable key).entryFor? other = settings.entryFor? other := by
  have hne : (other == key) = false := beq_false_of_ne h
  simp only [disable, entryFor?, List.lookup_cons, hne, lookup_filter_of_ne h]

@[simp] lemma isEnabled_disable_self (key : String) :
    (settings.disable key).isEnabled key = false := by
  rw [isEnabled, entryFor?_disable_self]
  rfl

lemma isEnabled_disable_of_ne (h : other ≠ key) :
    (settings.disable key).isEnabled other = settings.isEnabled other := by
  rw [isEnabled, entryFor?_disable_of_ne settings h, isEnabled]

lemma entrySeverity_disable (key other : String) :
    ((settings.disable key).entryFor? other).bind (·.severity) =
      (settings.entryFor? other).bind (·.severity) := by
  by_cases h : other = key
  · rw [h, entryFor?_disable_self]
    cases settings.entryFor? key <;> rfl
  · rw [entryFor?_disable_of_ne settings h]

@[simp] lemma severity?_disable (key id rule : String) :
    (settings.disable key).severity? id rule = settings.severity? id rule := by
  simp only [severity?, entrySeverity_disable]

end Settings

namespace RuleKind

variable (settings : Settings) {key : String}

lemma configure_eq_of_optionsIn? {kind : RuleKind} {a b : Settings}
    (h : kind.optionsIn? a = kind.optionsIn? b) : kind.configure a = kind.configure b := by
  cases kind <;> simp only [configure, modeName, h]

/-- Switching off a key leaves a rule of another name as it is, unless the key is the only code of
that rule: then its options may get lost, but with them all its findings. -/
lemma configure_disable {kind : RuleKind} (h : kind.name ≠ key) :
    kind.configure (settings.disable key) = kind.configure settings ∨ kind.codes = [key] := by
  by_cases hcode : kind.codes.headD "" = key
  · subst hcode
    cases kind with
    | outline => exact .inl rfl
    | includes => exact .inl rfl
    | naming => exact .inr rfl
    | errorHandling => exact .inr rfl
    | fieldPosition => exact .inr rfl
    | recordLock => exact .inr rfl
    | rawFileAccess => exact .inr rfl
    | nesting => exact .inr rfl
  · refine .inl (configure_eq_of_optionsIn? ?_)
    simp only [optionsIn?, Settings.options?, Settings.entryFor?_disable_of_ne settings h,
      Settings.entryFor?_disable_of_ne settings hcode]

end RuleKind

namespace Analyzer

/-- Whether a finding has nothing to do with a key: neither its code nor its rule. -/
def isApart (key : String) (d : Diagnostic) : Bool := d.id ≠ key ∧ d.rule ≠ key

lemma isApart_of_sameFinding (key : String) (d e : Diagnostic) (h : d.SameFinding e) :
    isApart key e = isApart key d := by
  simp [isApart, h.id_eq, h.rule_eq]

lemma override?_disable (settings : Settings) (key : String) (d : Diagnostic) :
    override? (settings.disable key) d = if d.id = key then none else override? settings d := by
  unfold override?
  by_cases h : d.id = key
  · simp [h]
  · rw [Settings.isEnabled_disable_of_ne settings h, Settings.severity?_disable, if_neg h]

lemma filterMap_override?_disable (settings : Settings) (key : String) {ds : List Diagnostic}
    (h : ∀ d ∈ ds, d.rule ≠ key) :
    ds.filterMap (override? (settings.disable key)) =
      (ds.filterMap (override? settings)).filter (isApart key) := by
  rw [filter_filterMap_of_sameFinding (fun _ _ => sameFinding_of_override?)
    (isApart_of_sameFinding key), List.filterMap_filter]
  refine List.filterMap_congr fun d hd => ?_
  rw [override?_disable]
  by_cases hid : d.id = key <;> simp [isApart, hid, h d hd]

lemma filter_isApart_eq_nil (settings : Settings) (key : String) {ds : List Diagnostic}
    (h : ∀ d ∈ ds, d.id = key ∨ d.rule = key) :
    (ds.filterMap (override? settings)).filter (isApart key) = [] := by
  have hnone : ds.filter (isApart key) = [] := by
    rw [List.filter_eq_nil_iff]
    intro d hd
    rcases h d hd with hd | hd <;> simp [isApart, hd]
  rw [filter_filterMap_of_sameFinding (fun _ _ => sameFinding_of_override?)
    (isApart_of_sameFinding key), hnone, List.filterMap_nil]

variable (analyzer : Analyzer) (settings : Settings) (key : String)

/-- The analyzer with the rules and the settings that some settings ask for. -/
def configured : Analyzer := { analyzer with rules := settings.selectedRules, settings }

/-- What becomes of the findings of one rule. -/
lemma share_disable (source : Source) (kind : RuleKind) :
    (analyzer.configured (settings.disable key)).share source
        (kind.configure (settings.disable key)) =
      ((analyzer.configured settings).share source (kind.configure settings)).filter
        (isApart key) := by
  have hfindings (s : Settings) : ∀ d ∈ (kind.configure s).check source,
      d.rule = kind.name ∧ d.id ∈ kind.codes := by
    intro d hd
    have hd := Rule.wellFormed_of_mem_check hd
    exact ⟨by rw [hd.rule_eq, Rule.name, RuleKind.kind_configure],
      RuleKind.kind_configure kind s ▸ hd.id_mem⟩
  simp only [share, runs, configured, Rule.name, RuleKind.kind_configure]
  by_cases hname : kind.name = key
  · -- The rule is switched off, and every finding that it had was its own.
    have hown : ∀ d ∈ (kind.configure settings).check source, d.id = key ∨ d.rule = key :=
      fun d hd => .inr ((hfindings settings d hd).1.trans hname)
    rw [hname, Settings.isEnabled_disable_self, Bool.false_and, if_neg Bool.false_ne_true]
    split
    · exact (filter_isApart_eq_nil settings key hown).symm
    · rfl
  · rw [Settings.isEnabled_disable_of_ne settings hname]
    split
    · rw [filterMap_override?_disable settings key fun d hd =>
        (hfindings _ d hd).1.trans_ne hname]
      rcases kind.configure_disable settings hname with heq | hcodes
      · rw [heq]
      · have hid (s : Settings) : ∀ d ∈ (kind.configure s).check source,
            d.id = key ∨ d.rule = key := fun d hd =>
          .inl (List.mem_singleton.1 (hcodes ▸ (hfindings s d hd).2))
        rw [filter_isApart_eq_nil settings key (hid _), filter_isApart_eq_nil settings key (hid _)]
    · rfl

lemma findings_disable (source : Source) :
    (analyzer.configured (settings.disable key)).findings source =
      ((analyzer.configured settings).findings source).filter (isApart key) := by
  rw [findings_eq, findings_eq, List.filter_flatMap]
  simp only [configured, Settings.selectedRules, List.flatMap_map]
  exact List.flatMap_congr fun kind _ => analyzer.share_disable settings key source kind

/-- Switching off a name or a code takes the findings of that rule or with that code out of every
report, and changes nothing else: neither the other findings nor their order. -/
theorem checkSource_disable (analyzer : Analyzer) (settings : Settings) (key path : String)
    (text : List Char) :
    ((analyzer.configured (settings.disable key)).checkSource path text).diagnostics =
      ((analyzer.configured settings).checkSource path text).diagnostics.filter
        fun d => d.id ≠ key ∧ d.rule ≠ key := by
  change Directive.apply _ (findings _ _) = (Directive.apply _ (findings _ _)).filter (isApart key)
  unfold Directive.apply
  rw [filter_filterMap_of_sameFinding (fun _ _ => Directive.sameFinding_of_excuse?)
    (isApart_of_sameFinding key)]
  congr 1
  exact analyzer.findings_disable settings key _

end Analyzer

end BasicLint
