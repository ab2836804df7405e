import BasicLint.Event
import BasicLint.FileTree
import BasicLint.Settings
import BasicLint.Text.Utf8

/-!
# Where settings come from

An explicit file; else the nearest project file in the directory of the target or in a directory
above it on the path; else the file of the user; else the defaults.
-/
namespace BasicLint.Command

/-- How many workers a system starts that numbers its processes in 15 bits. -/
def workerLimit : Nat := 32767

/-- Starts workers, as long as there are not too many of them. -/
def startUpTo (limit workers : Nat) : Except String Unit :=
  if workers ≤ limit then .ok () else .error "Resource temporarily unavailable (os error 11)"

/-- What a command runs in. -/
structure Environment where
  workspace : Workspace := {}
  /-- The directory with the settings of the user. -/
  userDirectory : Option (List Char) := none
  /-- Whether a path is text. One that is not stands in a workspace the way it is shown. -/
  isText : String → Bool := fun _ => true
  /-- How the system answers a call for workers: it starts them, or says why not. -/
  startWorkers : Nat → Except String Unit := startUpTo workerLimit

/-- Where the settings of a run come from. -/
inductive Origin where
  | explicit (path : List Char)
  | project (path : List Char)
  | user (path : List Char)
  | defaults
  deriving DecidableEq, Repr

/-- Names of project files, in the order in which they are looked for. -/
def projectFiles : List String := ["infobasic-lint.toml", ".infobasic-lint.toml"]

def userFile : String := "config.toml"

/-- The directory where the search for a project file starts: that of the target, as an absolute
path. -/
def searchStart (workspace : Workspace) (target : List Char) : List Char :=
  let directory := if workspace.isFile target then (Path.parent? target).getD [] else target
  Path.join workspace.directoryPath directory

/-- The project file of a directory. -/
def projectFileIn? (workspace : Workspace) (directory : List Char) : Option (List Char) :=
  (projectFiles.map fun name => Path.join directory name.toList).find? workspace.isFile

/-- The nearest project file at a directory or above it. -/
def projectFile? (workspace : Workspace) (start : List Char) : Option (List Char) :=
  (Path.ancestors start).findSome? (projectFileIn? workspace)

/-- The file with the settings of the user. -/
def userFile? (environment : Environment) : Option (List Char) :=
  (environment.userDirectory.map fun directory => Path.join directory userFile.toList).filter
    environment.workspace.isFile

/-- Where the settings for a target come from. -/
def resolve (environment : Environment) (target : List Char) (explicit : Option (List Char)) :
    Origin :=
  match explicit with
  | some path => .explicit path
  | none =>
    match projectFile? environment.workspace (searchStart environment.workspace target) with
    | some path => .project path
    | none =>
      match userFile? environment with
      | some path => .user path
      | none => .defaults

def Origin.path? : Origin → Option (List Char)
  | explicit path | project path | user path => some path
  | defaults => none

/-- What the search for settings says. -/
def Origin.events : Origin → List Event
  | project path => [.debug ("Found project config: " ++ String.ofList path)]
  | user path =>
    [.debug ("Found global config: " ++ String.ofList path),
      .info ("Using global config: " ++ String.ofList path)]
  | explicit _ | defaults => []

/-- Why settings cannot be loaded. -/
inductive SettingsError where
  | unreadable (path : List Char) (error : FileError)
  | malformed
  deriving DecidableEq, Repr

def SettingsError.message : SettingsError → String
  | unreadable path error =>
    "Failed to read config file " ++ String.ofList path ++ ": " ++ error.message
  | malformed => "Failed to parse config"

/-- The settings in a file. -/
def load (workspace : Workspace) (path : List Char) : Except SettingsError Settings :=
  match workspace.read path with
  | .error e => .error (.unreadable path e)
  | .ok bytes =>
    match Text.decode? bytes with
    | none => .error (.unreadable path .notText)
    | some text =>
      match Settings.parse? text with
      | none => .error .malformed
      | some settings => .ok settings

end BasicLint.Command
