import BasicLint.Analyzer
import BasicLint.Command.Arguments
import BasicLint.Command.Resolution
import BasicLint.Command.Template
import BasicLint.Report.Render

/-!
# Running a command

A command is a function of its environment: it gives the status to exit with, what it prints, what it
says on the way and the file tree it leaves.
-/
namespace BasicLint.Command

/-- A command that failed: what it could not do, and why, from the outside in. -/
structure Failure where
  text : String
  causes : List String := []
  deriving DecidableEq, Repr

/-- The report on a failure. Causes are numbered if there are several. -/
def Failure.report (failure : Failure) : String :=
  "Error: " ++ failure.text ++ "\n" ++ match failure.causes with
    | [] => ""
    | [cause] => "\nCaused by:\n    " ++ cause ++ "\n"
    | causes => "\nCaused by:\n" ++ String.join (causes.zipIdx.map fun (cause, i) =>
      "    " ++ toString i ++ ": " ++ cause ++ "\n")

structure Outcome where
  status : Nat := 0
  output : String := ""
  events : List Event := []
  failure : Option Failure := none
  workspace : Workspace

namespace Outcome

def failed (workspace : Workspace) (events : List Event) (failure : Failure) : Outcome where
  status := 1
  events := events
  failure := some failure
  workspace := workspace

end Outcome

/-! ## check -/

/-- Whether a run is strict: asked for, set, or part of the preset. -/
def isStrict (request : CheckRequest) (settings : Settings) : Bool :=
  request.strict || settings.strict || (settings.preset.bind Preset.ofName?).any (·.isStrict)

/-- The rules of a run: those that are asked for, or those of the preset. -/
def chosenRules (request : CheckRequest) (settings : Settings) : List Rule :=
  match request.rules with
  | some text => (RuleFilter.ofText text).rules settings
  | none => settings.selectedRules

/-- A warning on a bracket mode that there is not. -/
def modeEvents (settings : Settings) (kind : RuleKind) : List Event :=
  (kind.unknownMode? settings).toList.map fun mode =>
    .warn "Unknown paren_mode, using balanced" [("paren_mode", mode)]

/-- What the choice of rules by a filter says, key by key. -/
def filterEvents (settings : Settings) (key : String) : List Event :=
  match RuleKind.ofKey? key with
  | none => [.warn ("Unknown rule: " ++ key)]
  | some kind => modeEvents settings kind

/-- What the choice of rules says. -/
def choiceEvents (request : CheckRequest) (settings : Settings) : List Event :=
  match request.rules with
  | some text => (RuleFilter.ofText text).keys.flatMap (filterEvents settings)
  | none =>
    settings.unknownPreset?.toList.map
        (fun preset => .warn "Unknown preset, using recommended" [("preset", preset)])
      ++ settings.kinds.flatMap (modeEvents settings)

/-- Files that cannot be read again for their excerpts. -/
def rereadEvents (workspace : Workspace) (result : LintResult) : List Event :=
  result.withIssues.filterMap fun report =>
    match workspace.read report.path.toList with
    | .ok _ => none
    | .error e =>
      some (.warn ("Cannot re-read " ++ report.path ++ " for rendering: " ++ e.message))

/-- The settings at an origin. -/
def Origin.load (origin : Origin) (workspace : Workspace) : Except Failure Settings :=
  match origin.path? with
  | none => .ok {}
  | some path =>
    match Command.load workspace path with
    | .ok settings => .ok settings
    | .error e =>
      .error ⟨"Failed to load config: " ++ String.ofList path,
        e.message :: match e with
          | .unreadable _ error => [error.message]
          | .malformed => []⟩

/-- The analyzer that a request asks for. -/
def CheckRequest.analyzer (request : CheckRequest) (environment : Environment)
    (settings : Settings) : Except Failure Analyzer :=
  match Analyzer.build environment.startWorkers (request.path.getD ['.'])
      (chosenRules request settings) request.exclude settings
      (some (isStrict request settings)) with
  | .ok analyzer => .ok analyzer
  | .error e => .error ⟨"Failed to build analyzer", e.message :: e.causes⟩

def checkingEvent (analyzer : Analyzer) : Event :=
  .info ("Checking " ++ String.ofList analyzer.root ++ " with "
    ++ toString analyzer.rules.length ++ " rules (strict: "
    ++ (if analyzer.strict then "true" else "false") ++ ")")

def runCheck (environment : Environment) (shared : Shared) (request : CheckRequest) : Outcome :=
  let workspace := environment.workspace
  let origin := resolve environment (request.path.getD ['.']) shared.config
  match origin.load workspace with
  | .error failure => .failed workspace origin.events failure
  | .ok settings =>
    let chosen := origin.events ++ choiceEvents request settings
    match request.analyzer environment settings with
    | .error failure => .failed workspace chosen failure
    | .ok analyzer =>
      let result := analyzer.analyze workspace
      let format := request.format.getD .text
      let events := chosen ++ checkingEvent analyzer :: analyzer.events workspace result
        ++ (if format = .pretty then rereadEvents workspace result else [])
      match result.render workspace environment.isText format with
      | .error e => .failed workspace events ⟨e.message, []⟩
      | .ok output =>
        { status := if result.hasErrors then 1 else 0
          output
          events
          workspace }

/-! ## list-rules -/

/-- A text with blanks behind it up to a width. -/
def pad (width : Nat) (text : String) : String :=
  text ++ String.ofList (List.replicate (width - text.length) ' ')

def ruleRow (codes name strict description : String) : String :=
  pad 16 codes ++ " " ++ pad 20 name ++ " " ++ pad 7 strict ++ " " ++ description ++ "\n"

def kindRow (kind : RuleKind) : String :=
  ruleRow (",".intercalate kind.codes) kind.name (if kind.strictOnly then "yes" else "")
    kind.description

def ruleList : String :=
  "Available rules:\n\n" ++ ruleRow "Codes" "Name" "Strict" "Description"
    ++ String.ofList (List.replicate 90 '-') ++ "\n" ++ String.join (RuleKind.all.map kindRow)
    ++ "\nS002, I001 and I002 also need strict mode; the other codes of their rules do not.\n"
    ++ "\nPresets:\n"
    ++ "  recommended  - All rules, strict checks only with --strict (default)\n"
    ++ "  strict       - All rules with strict mode always on\n"
    ++ "  minimal      - structure, hardcoded-position, raw-file-io\n"
    ++ "\nUse --rules to filter specific rules, e.g.:\n"
    ++ "  infobasic-lint check --rules structure,raw-file-io\n"
    ++ "  infobasic-lint check --rules S001,A001,A004\n"

/-! ## init -/

def settingsFile : String := "infobasic-lint.toml"

def runInit (workspace : Workspace) (force : Bool) : Outcome :=
  if workspace.pathExists settingsFile.toList && !force then
    .failed workspace []
      ⟨"Configuration file already exists at " ++ settingsFile ++ ". Use --force to overwrite.", []⟩
  else
    match workspace.write settingsFile.toList template.toUTF8.toList with
    | .error e => .failed workspace [] ⟨e.message, []⟩
    | .ok workspace =>
      { output := "Created " ++ settingsFile ++ "\n\nNext steps:\n  1. Edit " ++ settingsFile
          ++ " to configure rules\n  2. Run: infobasic-lint check\n"
        workspace }

/-! ## The program -/

def versionLine : String := "infobasic-lint 0.1.0\n"

def usage : String := "Usage: infobasic-lint [OPTIONS] <check|list-rules|init>\n"

def perform (environment : Environment) (invocation : Invocation) : Outcome :=
  match invocation.request with
  | .check request => runCheck environment invocation.shared request
  | .listRules => { output := ruleList, workspace := environment.workspace }
  | .init force => runInit environment.workspace force
  | .version => { output := versionLine, workspace := environment.workspace }
  | .help => { output := usage, workspace := environment.workspace }

/-- Runs a command line. One that is not understood exits with status two; details are said only in a
verbose run. -/
def run (environment : Environment) (arguments : List String) : Outcome :=
  match Invocation.ofArguments? arguments with
  | none => { status := 2, workspace := environment.workspace }
  | some invocation =>
    let outcome := perform environment invocation
    { outcome with
      events := outcome.events.filter fun event =>
        invocation.shared.verbose || event.level != .debug }

end BasicLint.Command
