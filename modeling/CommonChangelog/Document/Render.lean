import CommonChangelog.Document.Reference

/-!
# Writing a changelog

`Changelog.render` writes a document in the canonical form: a title, an optional quoted intro, an
optional preface, the releases with their groups in stored order under canonical headings, and, if
a repository is known, definitions for the links of the release headings. The text ends with one
newline and has no empty lines before it.
-/

namespace CommonChangelog

/-- What is written around the releases. -/
structure Layout where
  /-- Lines of a block quote under the title. -/
  intro : List Text := []
  /-- A paragraph after the intro. -/
  preface : Option Text := none
  /-- The repository that releases link to. -/
  repository : Option Text := none
  deriving DecidableEq, Repr

/-- The intro of documents that the library creates. -/
def commonIntro : List Text :=
  ["This project follows [Common Changelog](https://common-changelog.org/) with an",
   "[Unreleased section extension](.skills/changelog/references/unreleased-extension.md)."]

/-- The list item of a change. -/
def Change.render (change : Change) : Text :=
  "- " ++ (if change.breaking then Change.breakingMark ++ " " else []) ++ change.text ++
    change.references.flatMap fun reference => ' ' :: reference.render

namespace Release

/-- The heading of a release; only versioned releases show their date. -/
def heading (release : Release) : Text :=
  "## [" ++ release.label ++ "]" ++
    match release.date with
    | none => []
    | some date => if release.isUnreleased then [] else " - " ++ date

/-- The lines of a notice, if there is one. -/
def noticeLines : Option Text → List Text
  | none => []
  | some notice => ["_" ++ notice ++ "_", []]

end Release

/-- The lines of a group: heading, changes, and empty lines after both. -/
def Group.lines (group : Group) : List Text :=
  ["### " ++ group.category.name, []] ++ group.changes.map Change.render ++ [[]]

/-- The lines of a release. -/
def Release.lines (release : Release) : List Text :=
  [release.heading, []] ++ noticeLines release.notice ++ release.groups.flatMap Group.lines

namespace Changelog

/-- The link definition of one release. Unreleased changes are compared with the latest release. -/
def linkOf (repository : Text) (latest : Option Release) (release : Release) : Option Text :=
  if release.isUnreleased then
    latest.map fun latest =>
      "[Unreleased]: " ++ repository ++ "/compare/v" ++ latest.label ++ "...HEAD"
  else
    some ("[" ++ release.label ++ "]: " ++ repository ++ "/releases/tag/v" ++ release.label)

/-- The link definitions of all releases. -/
def linkLines (changelog : Changelog) (repository : Text) : List Text :=
  changelog.releases.filterMap (linkOf repository changelog.latest?)

/-- A line of a block quote. -/
def quoted (line : Text) : Text := "> " ++ line

/-- The lines of the intro, quoted, and an empty line after them. -/
def introLines (intro : List Text) : List Text :=
  if intro.isEmpty then [] else intro.map quoted ++ [[]]

/-- The lines of a document, before empty lines at the end are dropped. -/
def lines (changelog : Changelog) (layout : Layout) : List Text :=
  ["# " ++ changelog.title, []] ++ introLines layout.intro ++
    (match layout.preface with
      | none => []
      | some preface => [preface, []]) ++
    changelog.releases.flatMap Release.lines ++
    (match layout.repository with
      | none => []
      | some repository => linkLines changelog repository)

/-- The lines before the empty ones at the end. -/
def dropEmptyEnd (ls : List Text) : List Text := (ls.reverse.dropWhile List.isEmpty).reverse

/-- Writes a changelog. -/
def render (changelog : Changelog) (layout : Layout) : Text :=
  Text.join "\n" (dropEmptyEnd (changelog.lines layout)) ++ "\n"

end Changelog

end CommonChangelog
