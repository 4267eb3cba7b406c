import CommonChangelog.Version.Bump

/-!
# Commands

What the program can be asked to do, and the options that hold for every command.
-/

namespace CommonChangelog

/-- A command with its arguments. -/
inductive Command where
  /-- Checks a changelog. -/
  | validate (file : Option Text)
  /-- Puts the releases in order. -/
  | sort (file : Option Text) (dryRun : Bool)
  /-- Checks that staged files come with a change of the changelog. -/
  | checkUpdated (skipBranch : Bool) (staged : List Text)
  /-- Checks that the changelog has every pull request of the history. -/
  | coverage (file : Option Text)
  /-- Carries an older changelog over; without an output the input is overwritten. -/
  | migrate (input : Text) (output repository : Option Text) (dryRun : Bool)
  /-- Makes a first changelog from the history; without a date it is dated today. -/
  | retrofit (version : Text) (date repository output : Option Text) (dryRun : Bool)
  /-- Makes a changelog from published releases. -/
  | importReleases (repo : Text) (output : Option Text) (prereleases dryRun : Bool)
  /-- Suggests the next version. -/
  | nextVersion (file : Option Text)
  /-- Prints a version after a bump. -/
  | bump (version : Text) (kind : Bump)
  deriving DecidableEq, Repr

/-- A command and the options that hold for all commands. -/
structure Invocation where
  /-- The configuration file, unless it is looked for. -/
  config : Option Text := none
  /-- The directory that paths are relative to. -/
  root : Text := "."
  command : Command
  deriving DecidableEq, Repr

end CommonChangelog
