import CommonChangelog.Category
import CommonChangelog.Text.Digit

/-!
# Changelog documents

A `Changelog` is a title and a list of releases. A `Release` is a label (`Unreleased` or a
version), an optional date, an optional notice and groups of changes; a `Group` holds the changes
of one category, under the heading that the document gives it. A `Change` is a text with
references and a breaking flag.

`Release.edit` changes the group of a category, which it inserts in canonical position if the
release has none.
-/

namespace CommonChangelog

/-- Where a change comes from. An empty address means that only the number is written. -/
inductive Reference where
  | pullRequest (number : UInt64) (url : Text)
  | issue (number : UInt64) (url : Text)
  | commit (hash url : Text)
  deriving DecidableEq, Repr

/-- The number of a pull request or of an issue. -/
def Reference.number? : Reference → Option UInt64
  | pullRequest n _ => some n
  | issue n _ => some n
  | commit _ _ => none

/-- One entry of a changelog. -/
structure Change where
  text : Text
  references : List Reference := []
  breaking : Bool := false
  deriving DecidableEq, Repr

/-- The changes of one category within a release. -/
structure Group where
  category : Category
  /-- The heading as the document writes it. -/
  heading : Text
  changes : List Change
  deriving DecidableEq, Repr

/-- A group without changes, under its canonical heading. -/
def Group.empty (category : Category) : Group := ⟨category, category.name, []⟩

/-- The label of the section for changes that are not released yet. -/
def unreleasedLabel : Text := "Unreleased"

/-- The title of a document that does not give one. -/
def defaultTitle : Text := "Changelog"

/-- One section of a changelog. -/
structure Release where
  /-- The word `Unreleased`, or the version, which need not be valid. -/
  label : Text
  date : Option Text := none
  notice : Option Text := none
  groups : List Group := []
  deriving DecidableEq, Repr

namespace Release

/-- An empty section for changes that are not released yet. -/
def unreleased : Release := { label := unreleasedLabel }

def isUnreleased (release : Release) : Bool := release.label = unreleasedLabel

/-- Every change of every group. -/
def changes (release : Release) : List Change := release.groups.flatMap (·.changes)

end Release

namespace Group

/-- The groups with one for this category, put before the first group that belongs behind it. -/
def ensure (category : Category) (groups : List Group) : List Group :=
  if groups.any (·.category = category) then groups
  else
    groups.takeWhile (·.category ≤ category) ++
      empty category :: groups.dropWhile (·.category ≤ category)

/-- The groups with the changes of the first group of a category edited. -/
def editFirst (category : Category) (f : List Change → List Change) : List Group → List Group
  | [] => []
  | group :: groups =>
    if group.category = category then { group with changes := f group.changes } :: groups
    else group :: editFirst category f groups

end Group

namespace Release

/-- Edits the changes of a category; the group is inserted in canonical position if missing. -/
def edit (release : Release) (category : Category) (f : List Change → List Change) : Release :=
  { release with groups := Group.editFirst category f (Group.ensure category release.groups) }

/-- Adds a change at the end of its category. -/
def add (release : Release) (category : Category) (change : Change) : Release :=
  release.edit category (· ++ [change])

/-- Adds changes one after the other, each to its category. -/
def addAll (release : Release) (entries : List (Category × Change)) : Release :=
  entries.foldl (fun r entry => r.add entry.1 entry.2) release

end Release

/-- A changelog. -/
structure Changelog where
  title : Text := defaultTitle
  releases : List Release := []
  deriving DecidableEq, Repr

namespace Changelog

/-- The first section for unreleased changes. -/
def unreleased? (changelog : Changelog) : Option Release :=
  changelog.releases.find? (·.isUnreleased)

/-- The releases that carry a version. -/
def versioned (changelog : Changelog) : List Release :=
  changelog.releases.filter (!·.isUnreleased)

/-- The labels of the versioned releases, in the order of the document. -/
def versions (changelog : Changelog) : List Text := changelog.versioned.map (·.label)

/-- The first versioned release of the document. -/
def latest? (changelog : Changelog) : Option Release :=
  changelog.releases.find? (!·.isUnreleased)

end Changelog

end CommonChangelog
