import BasicLint.Report.Render

/-!
# Command lines

A command line is read from left to right. Options may stand before or behind the positional
argument; those of the program as a whole may stand before or behind the name of the command, and
the ones behind it win. An option that takes one value is given at most once.
-/
namespace BasicLint.Command

/-- Options of the program as a whole. -/
structure Shared where
  verbose : Bool := false
  config : Option (List Char) := none
  deriving DecidableEq, Repr

/-- What is asked of the command `check`. -/
structure CheckRequest where
  path : Option (List Char) := none
  strict : Bool := false
  format : Option Format := none
  rules : Option String := none
  exclude : List String := []
  deriving DecidableEq, Repr

inductive Request where
  | check (request : CheckRequest)
  | listRules
  | init (force : Bool)
  | version
  | help
  deriving DecidableEq, Repr

structure Invocation where
  shared : Shared := {}
  request : Request
  deriving DecidableEq, Repr

/-- The names that an option can have on the command line. -/
inductive OptionName where
  | verbose
  | config
  | strict
  | format
  | rules
  | exclude
  | force
  | version
  | help
  deriving DecidableEq, Repr

namespace OptionName

def ofLong? : String → Option OptionName
  | "verbose" => some verbose
  | "config" => some config
  | "strict" => some strict
  | "format" => some format
  | "rules" => some rules
  | "exclude" => some exclude
  | "force" => some force
  | "version" => some version
  | "help" => some help
  | _ => none

def ofShort? : Char → Option OptionName
  | 'v' => some verbose
  | 'c' => some config
  | 's' => some strict
  | 'f' => some format
  | 'e' => some exclude
  | 'V' => some version
  | 'h' => some help
  | _ => none

def takesValue : OptionName → Bool
  | config | format | rules | exclude => true
  | _ => false

end OptionName

/-- Which options and positional arguments are known at a place of the command line. -/
inductive Scope where
  | program
  | check
  | listRules
  | init
  deriving DecidableEq, Repr

def Scope.knows : Scope → OptionName → Bool
  | _, .verbose | _, .config | _, .help => true
  | .program, .version => true
  | .check, .strict | .check, .format | .check, .rules | .check, .exclude => true
  | .init, .force => true
  | _, _ => false

/-- A piece of a command line. -/
inductive Piece where
  | flag (name : OptionName)
  | setting (name : OptionName) (value : String)
  | positional (text : String)
  deriving DecidableEq, Repr

/-- How an argument with options ends. -/
inductive Ending where
  | complete
  /-- With an option that waits for its value. -/
  | waiting (name : OptionName)
  /-- With something that is no option here. -/
  | unknown
  deriving DecidableEq, Repr

/-- The options of one argument. They are taken in before its end is looked at. -/
structure Cluster where
  pieces : List Piece := []
  ending : Ending := .complete
  deriving DecidableEq, Repr

/-- The option with a name, if it is known at a place. -/
def Scope.option? (scope : Scope) (name : Option OptionName) : Option OptionName :=
  name.filter scope.knows

/-- A cluster of short options, such as `sv` or `fjson`. -/
def short (scope : Scope) : List Char → Cluster
  | [] => {}
  | c :: s =>
    match scope.option? (OptionName.ofShort? c) with
    | none => { ending := .unknown }
    | some name =>
      if name.takesValue then
        match s with
        | [] => { ending := .waiting name }
        | '=' :: value => { pieces := [.setting name (String.ofList value)] }
        | value => { pieces := [.setting name (String.ofList value)] }
      else
        let more := short scope s
        { more with pieces := .flag name :: more.pieces }

/-- A long option, such as `strict` or `format=json`. -/
def long (scope : Scope) (s : List Char) : Cluster :=
  match scope.option? (OptionName.ofLong? (String.ofList (s.takeWhile (· != '=')))) with
  | none => { ending := .unknown }
  | some name =>
    match s.dropWhile (· != '='), name.takesValue with
    | [], true => { ending := .waiting name }
    | [], false => { pieces := [.flag name] }
    | _ :: value, true => { pieces := [.setting name (String.ofList value)] }
    | _ :: _, false => { ending := .unknown }

/-- The options of an argument. One or two dashes alone are none. -/
def cluster? (scope : Scope) (argument : String) : Option Cluster :=
  match argument.toList with
  | '-' :: '-' :: s => if s.isEmpty then none else some (long scope s)
  | '-' :: c :: s => some (short scope (c :: s))
  | _ => none

/-- What has been understood so far of the options at one place. -/
structure Parsed where
  shared : Shared := {}
  check : CheckRequest := {}
  force : Bool := false

/-- The outcome of taking in a piece. -/
inductive Step where
  | proceed (parsed : Parsed)
  | finish (request : Request)
  | refuse

/-- Takes in a piece; what was given before may not be given again, except for patterns. -/
def Parsed.take (parsed : Parsed) (scope : Scope) : Piece → Step
  | .flag .verbose =>
    if parsed.shared.verbose then .refuse
    else .proceed { parsed with shared := { parsed.shared with verbose := true } }
  | .flag .strict =>
    if parsed.check.strict then .refuse
    else .proceed { parsed with check := { parsed.check with strict := true } }
  | .flag .force => if parsed.force then .refuse else .proceed { parsed with force := true }
  | .flag .version => .finish .version
  | .flag .help => .finish .help
  | .flag _ => .refuse
  | .setting .config value =>
    if parsed.shared.config.isSome || value.isEmpty then .refuse
    else .proceed { parsed with shared := { parsed.shared with config := some value.toList } }
  | .setting .format value =>
    match parsed.check.format, Format.ofName? value with
    | none, some format =>
      .proceed { parsed with check := { parsed.check with format := some format } }
    | _, _ => .refuse
  | .setting .rules value =>
    if parsed.check.rules.isSome then .refuse
    else .proceed { parsed with check := { parsed.check with rules := some value } }
  | .setting .exclude value =>
    .proceed { parsed with
      check := { parsed.check with exclude := parsed.check.exclude ++ [value] } }
  | .setting _ _ => .refuse
  | .positional text =>
    if scope != .check || parsed.check.path.isSome || text.isEmpty then .refuse
    else .proceed { parsed with check := { parsed.check with path := some text.toList } }

/-- Takes in pieces one after another. -/
def Parsed.takeAll (scope : Scope) : Parsed → List Piece → Step
  | parsed, [] => .proceed parsed
  | parsed, piece :: pieces =>
    match parsed.take scope piece with
    | .proceed parsed => takeAll scope parsed pieces
    | step => step

/-- The commands by name. -/
def Scope.ofCommand? : String → Option Scope
  | "check" => some .check
  | "list-rules" => some .listRules
  | "init" => some .init
  | _ => none

/-- The command that gives help. -/
def helpName : String := "help"

/-- Whether help can be given on the commands that are named: none or one. -/
def helpsOn : List String → Bool
  | [] => true
  | [command] => (Scope.ofCommand? command).isSome || command = helpName
  | _ => false

/-- The request that the options of a command amount to. -/
def Parsed.request (parsed : Parsed) : Scope → Option Request
  | .program => none
  | .check => some (.check parsed.check)
  | .listRules => some .listRules
  | .init => some (.init parsed.force)

/-- How the reading of arguments goes on. -/
inductive Expecting where
  /-- Options and positional arguments. -/
  | anything
  /-- The value of an option. -/
  | value (name : OptionName)
  /-- Positional arguments only, behind a double dash. -/
  | positionals
  deriving DecidableEq, Repr

/-- The options of the program win only where the command does not give them itself. -/
def Shared.merge (outer inner : Shared) : Shared where
  verbose := outer.verbose || inner.verbose
  config := inner.config.or outer.config

/-- Reads arguments from left to right. The options of the program are put aside in `outer` when a
command is named. -/
def readFrom (outer : Shared) : Scope → Parsed → Expecting → List String → Option Invocation
  | scope, parsed, expecting, [] =>
    match expecting with
    | .value _ => none
    | _ => (parsed.request scope).map fun request => ⟨outer.merge parsed.shared, request⟩
  | scope, parsed, expecting, argument :: arguments =>
    let proceed := fun step expecting =>
      match step with
      | Step.proceed parsed => readFrom outer scope parsed expecting arguments
      | .finish request => some ⟨outer.merge parsed.shared, request⟩
      | .refuse => none
    match expecting with
    | .positionals => proceed (parsed.take scope (.positional argument)) .positionals
    | .value name =>
      if argument = "--" || (cluster? scope argument).isSome then none
      else proceed (parsed.take scope (.setting name argument)) .anything
    | .anything =>
      if argument = "--" then readFrom outer scope parsed .positionals arguments
      else
        match cluster? scope argument with
        | some cluster =>
          match parsed.takeAll scope cluster.pieces, cluster.ending with
          | .proceed _, .unknown => none
          | step, .waiting name => proceed step (.value name)
          | step, _ => proceed step .anything
        | none =>
          if scope = .program then
            if argument = helpName then
              if helpsOn arguments then some ⟨parsed.shared, .help⟩ else none
            else
              match Scope.ofCommand? argument with
              | none => none
              | some command => readFrom parsed.shared command {} .anything arguments
          else proceed (parsed.take scope (.positional argument)) .anything

/-- What a command line asks for, or nothing if it is not understood. -/
def Invocation.ofArguments? (arguments : List String) : Option Invocation :=
  readFrom {} .program {} .anything arguments

end BasicLint.Command
