import BasicLint.Proofs.Disabling
import BasicLint.Proofs.Path
import Mathlib.Data.List.Nodup

/-!
# Picking rules by a filter

A filter is a list of names and codes in any case, with blanks around them. It picks from the full
set of rules, and a rule that is picked reports what it reports among all others. So a report under
a filter is the part of the full report that belongs to the rules of the filter.
-/
namespace BasicLint

/-! ## What the entries of a filter stand for -/

namespace RuleKind

lemma eq_of_mem_codes {a b : RuleKind} {code : String} (ha : code ∈ a.codes) (hb : code ∈ b.codes) :
    a = b := by
  have h : ∀ a ∈ all, ∀ code ∈ a.codes, ∀ b ∈ all, code ∈ b.codes → a = b := by decide
  exact h a (mem_all a) code ha b (mem_all b) hb

lemma length_of_mem_codes {kind : RuleKind} {code : String} (h : code ∈ kind.codes) :
    code.length = 4 := by
  have hall : ∀ kind ∈ all, ∀ code ∈ kind.codes, code.length = 4 := by decide
  exact hall kind (mem_all kind) code h

lemma length_name_ne (kind : RuleKind) : kind.name.length ≠ 4 := by
  cases kind <;> decide

lemma find?_all_eq_some_iff {p : RuleKind → Bool} (hp : ∀ a b, p a = true → p b = true → a = b)
    {kind : RuleKind} : all.find? p = some kind ↔ p kind = true := by
  constructor
  · exact List.find?_some
  · intro h
    obtain ⟨found, hfound⟩ := Option.isSome_iff_exists.1
      (List.find?_isSome.2 ⟨kind, mem_all kind, h⟩)
    rw [hfound, hp found kind (List.find?_some hfound) h]

end RuleKind

namespace RuleFilter

/-- Whether an entry of a filter stands for a kind of rule: it is the name of the rule or one of its
codes, whatever its case and the blanks around it. -/
def denotes (entry : List Char) (kind : RuleKind) : Bool :=
  let key := String.ofList (Text.trim entry)
  key.toLower = kind.name || key.toUpper ∈ kind.codes

/-- The entries of a filter as it is written. -/
def entries (text : String) : List (List Char) := text.toList.splitOn ','

/-- A filter as it is written, less the entries that stand for no rule. -/
def dropUnknown (text : String) : String :=
  String.ofList ([','].intercalate
    ((entries text).filter fun entry => RuleKind.all.any (denotes entry)))

/-- The kind of rule that an entry stands for. -/
def kind? (entry : List Char) : Option RuleKind := RuleKind.ofKey? (String.ofList entry)

/-- Looking up an entry finds the kind that it stands for: no code is that of two kinds, and none is
as long as a name. -/
theorem kind?_eq_some_iff {entry : List Char} {kind : RuleKind} :
    kind? entry = some kind ↔ denotes entry kind = true := by
  unfold kind? RuleKind.ofKey? denotes
  rw [String.toList_ofList]
  generalize String.ofList (Text.trim entry) = key
  have hcode (kind : RuleKind) : RuleKind.all.find? (key.toUpper ∈ ·.codes) = some kind ↔
      key.toUpper ∈ kind.codes := by
    rw [RuleKind.find?_all_eq_some_iff, decide_eq_true_eq]
    intro a b ha hb
    exact RuleKind.eq_of_mem_codes (of_decide_eq_true ha) (of_decide_eq_true hb)
  have hname : RuleKind.ofName? key.toLower = some kind ↔ key.toLower = kind.name := by
    rw [RuleKind.ofName?, RuleKind.find?_all_eq_some_iff, decide_eq_true_eq, eq_comm]
    intro a b ha hb
    exact RuleKind.name_injective ((of_decide_eq_true ha).trans (of_decide_eq_true hb).symm)
  rw [Option.or_eq_some_iff, hcode, hname, or_comm, Bool.or_eq_true, decide_eq_true_eq,
    decide_eq_true_eq]
  refine or_congr_left (and_iff_right_of_imp fun hkey => ?_)
  rw [Option.eq_none_iff_forall_ne_some]
  intro other hother
  have hlength := RuleKind.length_of_mem_codes ((hcode other).1 hother)
  have hname := kind.length_name_ne
  rw [← hkey] at hname
  unfold String.toUpper at hlength
  unfold String.toLower at hname
  rw [String.length_map] at hlength hname
  exact hname hlength

lemma kind?_nil : kind? [] = none := by decide +kernel

lemma kind?_trim (entry : List Char) : kind? (Text.trim entry) = kind? entry := by
  simp only [kind?, RuleKind.ofKey?, String.toList_ofList, Text.trim_trim]

/-- Each entry of a filter is looked up by itself. -/
lemma kinds_ofText (text : String) :
    (ofText text).kinds = ((entries text).filterMap kind?).eraseDups := by
  have hentry (entry : List Char) :
      (if (Text.trim entry).isEmpty then none else some (String.ofList (Text.trim entry))).bind
        RuleKind.ofKey? = kind? entry := by
    rw [← kind?_trim]
    by_cases h : Text.trim entry = []
    · rw [h, kind?_nil]
      rfl
    · rw [if_neg (by simpa using h)]
      rfl
  unfold kinds ofText
  dsimp only
  rw [List.filterMap_filterMap, List.filterMap_map]
  exact congrArg List.eraseDups (List.filterMap_congr fun entry _ => hentry entry)

lemma mem_kinds_ofText {text : String} {kind : RuleKind} :
    kind ∈ (ofText text).kinds ↔ ∃ entry ∈ entries text, denotes entry kind = true := by
  simp only [kinds_ofText, List.mem_eraseDups, List.mem_filterMap, kind?_eq_some_iff]

lemma nodup_eraseDups (ks : List RuleKind) : ks.eraseDups.Nodup := by
  induction hn : ks.length using Nat.strong_induction_on generalizing ks with
  | _ n ih =>
    cases ks with
    | nil => exact List.nodup_nil
    | cons kind ks =>
      have hle := List.length_filter_le (fun b => !b == kind) ks
      rw [List.eraseDups_cons, List.nodup_cons]
      refine ⟨?_, ih _ ?_ _ rfl⟩
      · simp [List.mem_eraseDups]
      · rw [← hn, List.length_cons]
        omega

lemma nodup_kinds (filter : RuleFilter) : filter.kinds.Nodup := nodup_eraseDups _

/-- A filter lists some of all kinds in an order of its own. -/
lemma perm_filter_all (filter : RuleFilter) :
    filter.kinds.Perm (RuleKind.all.filter (· ∈ filter.kinds)) := by
  have hall : RuleKind.all.Nodup := by decide
  rw [List.perm_ext_iff_of_nodup filter.nodup_kinds (hall.filter _)]
  intro kind
  simp [RuleKind.mem_all]

lemma entries_dropUnknown (text : String) :
    (entries (dropUnknown text)).filterMap kind? = (entries text).filterMap kind? := by
  have hknown (entry : List Char) :
      kind? entry ≠ none → RuleKind.all.any (denotes entry) = true := by
    intro h
    obtain ⟨kind, hkind⟩ := Option.ne_none_iff_exists'.1 h
    exact List.any_eq_true.2 ⟨kind, RuleKind.mem_all kind, kind?_eq_some_iff.1 hkind⟩
  have hfilter : ((entries text).filter fun entry => RuleKind.all.any (denotes entry)).filterMap
      kind? = (entries text).filterMap kind? := by
    rw [List.filterMap_filter]
    refine List.filterMap_congr fun entry _ => ?_
    split_ifs with h
    · rfl
    · exact (not_ne_iff.1 (mt (hknown entry) h)).symm
  unfold dropUnknown
  rw [← hfilter, entries, String.toList_ofList]
  by_cases hnil : ((entries text).filter fun entry => RuleKind.all.any (denotes entry)) = []
  · rw [hnil, List.intercalate_nil]
    simp [kind?_nil]
  · rw [List.splitOn_intercalate ',' _ hnil]
    intro entry hentry
    exact Path.not_mem_of_mem_splitOn (List.mem_of_mem_filter hentry)

/-- Entries that stand for no rule have no effect. -/
lemma kinds_dropUnknown (text : String) :
    (ofText (dropUnknown text)).kinds = (ofText text).kinds := by
  rw [kinds_ofText, kinds_ofText, entries_dropUnknown]

end RuleFilter

namespace Analyzer

variable (analyzer : Analyzer) (settings : Settings)

lemma rule_of_mem_reported {source : Source} {rule : Rule} {d : Diagnostic}
    (h : d ∈ analyzer.reported source rule) : d.rule = rule.name := by
  obtain ⟨finding, hfinding, e, he, hd⟩ := mem_reported h
  rw [(Directive.sameFinding_of_excuse? hd).rule_eq, (sameFinding_of_override? he).rule_eq]
  exact (Rule.wellFormed_of_mem_check hfinding).rule_eq

/-- Of what each rule reports, the diagnostics that name one of some rules are those of these
rules. -/
lemma filter_flatMap_reported (source : Source) (kinds chosen : List RuleKind) :
    (kinds.flatMap fun kind => analyzer.reported source (kind.configure settings)).filter
        (·.rule ∈ chosen.map RuleKind.name) =
      (kinds.filter (· ∈ chosen)).flatMap fun kind =>
        analyzer.reported source (kind.configure settings) := by
  have hname (kind : RuleKind) (d : Diagnostic)
      (hd : d ∈ analyzer.reported source (kind.configure settings)) :
      d.rule ∈ chosen.map RuleKind.name ↔ kind ∈ chosen := by
    rw [analyzer.rule_of_mem_reported hd, Rule.name, RuleKind.kind_configure, List.mem_map]
    constructor
    · rintro ⟨other, hother, heq⟩
      exact RuleKind.name_injective heq ▸ hother
    · intro h
      exact ⟨kind, h, rfl⟩
  rw [List.filter_flatMap, ← flatMap_filter_of_eq_nil]
  · refine List.flatMap_congr fun kind hkind => ?_
    rw [List.filter_eq_self]
    intro d hd
    exact decide_eq_true ((hname kind d hd).2 (of_decide_eq_true (List.mem_filter.1 hkind).2))
  · intro kind _ hkind
    rw [List.filter_eq_nil_iff]
    intro d hd
    rw [decide_eq_true_eq, hname kind d hd]
    exact of_decide_eq_false hkind

lemma kinds_of_preset (hpreset : settings.preset.bind Preset.ofName? ≠ some .minimal) :
    settings.kinds = RuleKind.all := by
  unfold Settings.kinds Settings.presetOrDefault
  cases h : settings.preset.bind Preset.ofName? with
  | none => rfl
  | some preset =>
    cases preset with
    | recommended => rfl
    | strict => rfl
    | minimal => exact absurd h hpreset

/-- A filter picks rules from the full set, and each of them reports what it reports there: up to
order, the report under a filter holds the diagnostics of the full report that name a rule of the
filter. A rule is picked once if some entry stands for it, however many do, and entries that stand
for no rule do not matter. -/
theorem checkSource_filter (analyzer : Analyzer) (settings : Settings) (filter path : String)
    (text : List Char) (hpreset : settings.preset.bind Preset.ofName? ≠ some .minimal) :
    let chosen := (RuleFilter.ofText filter).rules settings
    ({ analyzer with rules := chosen, settings }.checkSource path text).diagnostics.Perm
        (((analyzer.configured settings).checkSource path text).diagnostics.filter
          (·.rule ∈ chosen.map Rule.name)) ∧
      (chosen.map Rule.name).Nodup ∧
      (∀ rule, rule ∈ chosen ↔ rule = rule.kind.configure settings ∧
        ∃ entry ∈ RuleFilter.entries filter, RuleFilter.denotes entry rule.kind = true) ∧
      (RuleFilter.ofText (RuleFilter.dropUnknown filter)).rules settings = chosen := by
  intro chosen
  have hnames : chosen.map Rule.name = (RuleFilter.ofText filter).kinds.map RuleKind.name := by
    simp [chosen, RuleFilter.rules, Rule.name, Function.comp_def]
  refine ⟨?_, ?_, ?_, ?_⟩
  · change (checkText _ text).Perm ((checkText _ text).filter _)
    rw [checkText_eq, checkText_eq, hnames]
    simp only [configured, Settings.selectedRules, kinds_of_preset settings hpreset, chosen,
      RuleFilter.rules, List.flatMap_map]
    rw [filter_flatMap_reported]
    exact (RuleFilter.perm_filter_all _).flatMap_right _
  · rw [hnames]
    exact (RuleFilter.nodup_kinds _).map fun _ _ => RuleKind.name_injective
  · intro rule
    simp only [chosen, RuleFilter.rules, List.mem_map, ← RuleFilter.mem_kinds_ofText]
    constructor
    · rintro ⟨kind, hkind, rfl⟩
      rw [RuleKind.kind_configure]
      exact ⟨rfl, hkind⟩
    · rintro ⟨hrule, hkind⟩
      exact ⟨rule.kind, hkind, hrule.symm⟩
  · unfold RuleFilter.rules
    rw [RuleFilter.kinds_dropUnknown]
    rfl

theorem checkSource_filter_mixed :
    let settings : Settings :=
      { preset := some "STRICT", rules := [("A001", { options := [("max_index", .int 3)] })] }
    let analyzer : Analyzer := { strict := true }
    let chosen := (RuleFilter.ofText " A004, a001 ,x,Raw-File-IO").rules settings
    let text := "Y = R<5>\nREAD X FROM F.A\n".toList
    settings.preset.bind Preset.ofName? ≠ some .minimal ∧
      chosen = [.rawFileAccess, .fieldPosition 3] ∧
      ({ analyzer with rules := chosen, settings }.checkSource "A.b" text).diagnostics.Perm
        (((analyzer.configured settings).checkSource "A.b" text).diagnostics.filter
          (·.rule ∈ chosen.map Rule.name)) := by
  intro settings analyzer chosen text
  have hpreset : settings.preset.bind Preset.ofName? ≠ some .minimal := by decide +kernel
  have hchosen : chosen = [.rawFileAccess, .fieldPosition 3] := by decide +kernel
  exact ⟨hpreset, hchosen, (checkSource_filter analyzer settings _ "A.b" text hpreset).1⟩

end Analyzer

end BasicLint
