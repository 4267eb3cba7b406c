import CommonChangelog.Command.Arguments
import CommonChangelog.Command.Run

/-!
# The program

Looks up the paths that a command line depends on, runs it on what was found, and carries the
outcome out. What is found is an `Environment`, so all decisions are made by `Invocation.run`. The
program starts no other program: it sees no repository and no answer of `gh`.
-/

namespace CommonChangelog.Program

/-! ## Looking things up -/

/-- What lies at a path. -/
def probe (path : Text) : IO FileSystem.Node := do
  try
    return .file (← IO.FS.readFile (String.ofList path)).toList
  catch
    | .inappropriateType .. => return .directory
    | _ => return .nothing

/-- What is known after a look at each step of a path. -/
def explore (files : FileSystem) (path : Text) : IO FileSystem :=
  (FileSystem.approaches path).foldlM (fun files step =>
    match files.place step with
    | .ok place => do
      if files.nodeAt place = .nothing then
        return files.learn place (← probe place.path)
      else return files
    | .error _ => return files) files

/-- The name of the configuration file of a user. -/
def userConfigFile : Text := ".changelog-kit.toml"

/-- The directory of a user's configuration files, by the two variables that may name it. -/
def configDirectory? (configHome home : Option Text) : Option Text :=
  let absolute := configHome.filter FileSystem.isAbsolute
  absolute.or (home.map fun home => FileSystem.below home ".config")

/-- The configuration of the user. -/
def userConfig : IO (Option Text) := do
  let configHome := (← IO.getEnv "XDG_CONFIG_HOME").map String.toList
  let home := (← IO.getEnv "HOME").map String.toList
  match configDirectory? configHome home with
  | none => return none
  | some directory =>
    match ← probe (FileSystem.below directory userConfigFile) with
    | .file text => return some text
    | _ => return none

/-- What a command line finds: first what its configuration depends on, then the rest. -/
def lookAround (invocation : Invocation) : IO Environment := do
  let files ← invocation.configPaths.foldlM explore {}
  let environment : Environment := { files, userConfig := ← userConfig }
  let files ← (invocation.commandPaths environment).foldlM explore files
  return { environment with files }

/-! ## Carrying out -/

/-- Prints a text on the stream that it belongs to. -/
def display : Piece → IO Unit
  | .out text => IO.print (String.ofList text)
  | .err text => IO.eprint (String.ofList text)

/-- Writes what an outcome writes, prints what it prints, and gives its exit code. -/
def perform (outcome : Outcome) : IO UInt32 := do
  if let some write := outcome.write then
    IO.FS.writeFile (String.ofList write.place.path) (String.ofList write.text)
  outcome.pieces.forM display
  return outcome.code.toUInt32

/-- What the program can be asked to do. -/
def usage : Text :=
  "Usage: changelog-kit [--config FILE] [--root DIRECTORY] COMMAND\n\nCommands:\n" ++
    Text.unlines (Arguments.entries.map fun entry => "  " ++ entry.name)

end CommonChangelog.Program

open CommonChangelog in
/-- Runs the command line that the arguments spell. -/
def main (args : List String) : IO UInt32 := do
  match Arguments.read (args.map String.toList) with
  | .error fault =>
    Program.display (if fault.code = 0 then .out Program.usage else .err Program.usage)
    return fault.code.toUInt32
  | .ok invocation => Program.perform (invocation.run (← Program.lookAround invocation))
