import CommonChangelog.Text.Basic

/-!
# Snapshots

A snapshot is the set of files that a commit or the index holds: paths with texts. Differences
between snapshots are lists of paths in the order of their bytes, which is the order of their code
points. There are no renames: a moved file is removed in one place and added in another. A path
that names a file names no directory, so a file that is written takes the place of either.
-/

namespace CommonChangelog

/-- The files of a commit: paths with their texts, each path once. -/
abbrev Snapshot := List (Text × Text)

namespace Snapshot

/-- The text of a file. -/
def read? (files : Snapshot) (path : Text) : Option Text := files.lookup path

/-- The path lies below the directory. -/
def isBelow (directory path : Text) : Bool := Text.startsWith (directory ++ "/") path

/-- Two files cannot have both paths: they are equal, or one is a directory of the other. -/
def clashes (p q : Text) : Bool := p = q || isBelow p q || isBelow q p

/-- The snapshot without a file. -/
def remove (files : Snapshot) (path : Text) : Snapshot := files.filter fun file => file.1 ≠ path

/-- The snapshot with a file added, or its text replaced. -/
def put (files : Snapshot) (path text : Text) : Snapshot := files.remove path ++ [(path, text)]

/-- The snapshot with a file in the place of those that clash with it. -/
def write (files : Snapshot) (path text : Text) : Snapshot :=
  (files.filter fun file => !clashes path file.1) ++ [(path, text)]

/-- A file is written, or removed if there is no text. -/
def change (files : Snapshot) (path : Text) : Option Text → Snapshot
  | some text => files.write path text
  | none => files.remove path

/-- The snapshot after changes, one after the other. -/
def apply (files : Snapshot) (changes : List (Text × Option Text)) : Snapshot :=
  changes.foldl (fun files (path, text) => files.change path text) files

/-- The paths of either snapshot, in order, each once. -/
def paths (a b : Snapshot) : List Text :=
  ((a ++ b).map (·.1)).eraseDups.mergeSort fun p q => (Text.order p q).isLE

/-- The paths whose files differ, be it that one of them is missing. -/
def changed (before after : Snapshot) : List Text :=
  (paths before after).filter fun path => before.read? path ≠ after.read? path

/-- The changed paths that exist afterwards. -/
def written (before after : Snapshot) : List Text :=
  (changed before after).filter fun path => (after.read? path).isSome

end Snapshot

end CommonChangelog
