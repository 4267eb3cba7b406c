import CommonChangelog.Commit
import CommonChangelog.Error

/-!
# Repositories

What the checks ask of a repository: its history from the oldest commit on, the staged paths, the
default branch, and the paths changed since the branch left it. Only the history can fail; the
other answers are empty if the repository has none.
-/

namespace CommonChangelog

/-- The answers of a repository. -/
structure Repository where
  history : Except Error (List Commit) := .ok []
  staged : List Text := []
  defaultBranch : Option Text := none
  /-- The paths changed in this branch. -/
  changed : List Text := []

namespace Repository

/-- The repository with one more commit, which has no date. -/
def commit (repository : Repository) (hash subject author : Text) : Repository :=
  { repository with
    history := repository.history.map fun log => log ++ [⟨hash, subject, author, none⟩] }

/-- The repository with one more staged path. -/
def stage (repository : Repository) (path : Text) : Repository :=
  { repository with staged := repository.staged ++ [path] }

/-- The repository on a branch with these changes against the default branch. -/
def branch (repository : Repository) (defaultBranch : Text) (changed : List Text) : Repository :=
  { repository with defaultBranch := some defaultBranch, changed }

end Repository

end CommonChangelog
