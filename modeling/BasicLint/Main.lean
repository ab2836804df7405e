import BasicLint.Command.Run

/-!
# The program

The commands work on a file tree that is a value. This module takes a picture of the part of the disk
that a command can look at, runs the command on it, and carries out what it asks for. A link is
pictured as a link to the place it leads to.
-/
namespace BasicLint.Main

/-- The absolute path of a location. -/
def pathOf (location : Location) : String := String.ofList ('/' :: ['/'].intercalate location)

/-- The location of an absolute path without links. -/
def locationOf (path : String) : Location :=
  (Path.pieces path.toList).filter fun piece => !piece.isEmpty

/-- The entry with a name in a directory. -/
def child? (directory name : String) : IO (Option IO.FS.DirEntry) := do
  try
    let entries ← (← IO.FS.realPath directory).readDir
    return entries.toList.find? (·.fileName = name)
  catch _ => return none

/-- The target of a link that leads to nothing: no file has this name. -/
def nowhere : List Char := ['\x00']

/-- Adds an entry of a directory to a picture, and gives the directory it is or leads to. -/
def picture (tree : FileTree) (here : Location) (entry : IO.FS.DirEntry) :
    IO (FileTree × Option Location) := do
  let location := here ++ [entry.fileName.toList]
  let path := pathOf location
  let contents := fun (place : Location) (tree : FileTree) => do
    if ← entry.path.isDir then return (tree, some place)
    try return (tree.set place (.file (← IO.FS.readBinFile path).toList), none)
    catch _ => return (tree, none)
  match (← entry.path.symlinkMetadata).type with
  | .dir => return (tree.set location .directory, some location)
  | .symlink =>
    let target ← try pure (locationOf (← IO.FS.realPath path).toString)
      catch _ => return (tree.set location (.link nowhere), none)
    let (tree, _) := tree.makeDirectories [] target.dropLast
    let tree := if ← entry.path.isDir then tree.set target .directory else tree
    contents target (tree.set location (.link (pathOf target).toList))
  | _ => contents location tree

/-- Adds what a path goes through, and gives the directory at its end. -/
def trace (tree : FileTree) (start : Location) (pieces : List (List Char)) :
    IO (FileTree × Option Location) := do
  let mut tree := (tree.makeDirectories [] start).1
  let mut here := start
  for piece in pieces do
    if piece.isEmpty || piece = ['.'] then continue
    if piece = ['.', '.'] then
      here := here.dropLast
      continue
    match ← child? (pathOf here) (String.ofList piece) with
    | none => return (tree, none)
    | some entry =>
      let (next, inside) ← picture tree here entry
      tree := next
      match inside with
      | none => return (tree, none)
      | some inside => here := inside
  return (tree, some here)

/-- Adds all that lies below a directory. Links are not entered. -/
partial def below (tree : FileTree) (here : Location) : IO FileTree := do
  let mut tree := tree
  for entry in ← (← IO.FS.realPath (pathOf here)).readDir do
    let (next, inside) ← picture tree here entry
    tree := next
    if inside = some (here ++ [entry.fileName.toList]) then
      tree ← below tree (here ++ [entry.fileName.toList])
  return tree

/-- Adds what a path goes through, from a directory or from the root. -/
def tracePath (tree : FileTree) (start : Location) (path : List Char) :
    IO (FileTree × Option Location) :=
  trace tree (if Path.isAbsolute path then [] else start) (Path.pieces path)

/-- The part of the disk that a command can look at. -/
def takePicture (directory : Location) (user : Option (List Char)) (arguments : List String) :
    IO FileTree := do
  let (tree, _) ← trace {} [] directory
  let mut tree := tree
  let invocation := Command.Invocation.ofArguments? arguments
  let target := match invocation.map (·.request) with
    | some (.check request) => request.path.getD ['.']
    | _ => []
  let (next, root) ← tracePath tree directory target
  tree := next
  if !target.isEmpty then
    if let some root := root then tree ← below tree root
  let start := Command.searchStart ⟨tree, directory⟩ target
  let projects := (Path.ancestors start).flatMap fun outer =>
    Command.projectFiles.map fun name => Path.join outer name.toList
  let users := user.toList.map fun outer => Path.join outer Command.userFile.toList
  let explicit := (invocation.bind (·.shared.config)).toList
  for path in projects ++ users ++ explicit ++ [Command.settingsFile.toList] do
    let (next, _) ← tracePath tree directory path
    tree := next
  return tree

/-- The directory with the settings of the user. -/
def userDirectory : IO (Option (List Char)) := do
  match ← IO.getEnv "INFOBASIC_LINT_CONFIG_DIR" with
  | some directory => return some directory.toList
  | none =>
    return (← IO.getEnv "HOME").map fun home => Path.join home.toList ".infobasic-lint".toList

end BasicLint.Main

open BasicLint in
def main (arguments : List String) : IO UInt32 := do
  let directory := Main.locationOf (← IO.FS.realPath ".").toString
  let user ← Main.userDirectory
  let tree ← Main.takePicture directory user arguments
  let outcome := Command.run { workspace := ⟨tree, directory⟩, userDirectory := user } arguments
  if let some ⟨_, .init _⟩ := Command.Invocation.ofArguments? arguments then
    if outcome.status = 0 then
      try IO.FS.writeFile Command.settingsFile Command.template
      catch e =>
        IO.eprint (Command.Failure.report ⟨toString e, []⟩)
        return 1
  for event in outcome.events do
    IO.eprintln event.line
  IO.print outcome.output
  if let some failure := outcome.failure then IO.eprint failure.report
  return outcome.status.toUInt32
