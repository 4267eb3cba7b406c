import CommonChangelog.Config
import CommonChangelog.Coverage
import CommonChangelog.Repository.Basic

/-!
# Is the changelog updated?

A commit that stages significant files has to come with an update of the changelog, unless the
branch updated it before. Paths that match an exclusion are not significant.
-/

namespace CommonChangelog

namespace Exclusions

/--
A pattern that ends in a slash is a directory and matches at the front of a path or after a slash;
any other pattern matches at the end of a path.
-/
def matchesPath (pattern path : Text) : Bool :=
  if Text.endsWith "/" pattern then
    Text.startsWith pattern path || Text.contains ("/" ++ pattern) path
  else path = pattern || Text.endsWith pattern path

/-- One of the patterns matches the path. -/
def excludes (exclusions : Exclusions) (path : Text) : Bool :=
  exclusions.patterns.any fun pattern => matchesPath pattern path

end Exclusions

/-- The result of the check. -/
inductive UpdateCheck where
  | noStagedFiles
  | changelogStaged
  | updatedInBranch
  | onlyExcluded
  /-- These significant files lack an update of the changelog. -/
  | missing (significant : List Text)
  deriving DecidableEq, Repr

namespace UpdateCheck

/-- The name of the file that the check looks for. -/
def changelogFile : Text := "CHANGELOG.md"

/-- The changelog at the root, or one in a directory. -/
def isChangelog (path : Text) : Bool :=
  path = changelogFile || Text.endsWith ("/" ++ changelogFile) path

/--
Checks staged paths, by default those of the repository. An update earlier in the branch counts
unless `skipBranch` is set, and only that of the changelog at the root.
-/
def run (repository : Repository) (exclusions : Exclusions) (staged : Option (List Text))
    (skipBranch : Bool) : UpdateCheck :=
  let staged := staged.getD repository.staged
  if staged.isEmpty then noStagedFiles
  else if staged.any isChangelog then changelogStaged
  else if !skipBranch && repository.changed.contains changelogFile then updatedInBranch
  else match staged.filter fun path => !exclusions.excludes path with
    | [] => onlyExcluded
    | significant => missing significant

def passed : UpdateCheck → Bool
  | missing _ => false
  | _ => true

def message : UpdateCheck → Text
  | noStagedFiles => "No staged files"
  | changelogStaged => "CHANGELOG.md is updated"
  | updatedInBranch => "CHANGELOG.md already updated in this branch"
  | onlyExcluded => "Only excluded files staged (no changelog update required)"
  | missing _ => "CHANGELOG.md not updated"

/-- What is wrong, before the files are listed. -/
def complaint : List Text :=
  ["CHANGELOG.md must be updated when modifying significant files.",
   "Staged files requiring changelog update:"]

/-- What to do, after the files are listed. -/
def advice : List Text :=
  [[], "Add your changes to the [Unreleased] section in CHANGELOG.md"]

/-- The lines that explain a failure. -/
def errors : UpdateCheck → List Text
  | missing significant => complaint ++ Coverage.listing 10 id significant ++ advice
  | _ => []

end UpdateCheck

end CommonChangelog
