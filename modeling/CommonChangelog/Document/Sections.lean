import CommonChangelog.Document.Parse
import CommonChangelog.Version.Order

/-!
# Sorting a changelog

`sortReleases` works on the text, not on the document: it moves whole sections, unreleased changes
first and then versions newest first, and leaves every line as it is. A section is a release
heading with the lines up to the next release heading, so a malformed heading stays within the
section in which it stands.
-/

namespace CommonChangelog

/-- The lines of one release, its heading first. -/
structure Section where
  label : Text
  lines : List Text
  deriving DecidableEq, Repr

namespace Section

def isUnreleased (s : Section) : Bool := s.label = unreleasedLabel

/-- The lines before the first release, and the sections. -/
def cut : List Text → List Text × List Section
  | [] => ([], [])
  | line :: rest =>
    let (before, sections) := cut rest
    match Line.classify line with
    | .version label _ => ([], ⟨label, line :: before⟩ :: sections)
    | _ => (line :: before, sections)

/-- Unreleased sections first, then the others newest first; equal ones keep their order. -/
def arrange (sections : List Section) : List Section :=
  sections.filter isUnreleased ++
    (sections.filter (!·.isUnreleased)).mergeSort fun a b => Version.mayPrecede a.label b.label

end Section

/-- The text with its sections in order. -/
def sortReleases (content : Text) : Text :=
  let (header, sections) := Section.cut (Text.split '\n' content)
  Text.join "\n" (header ++ (Section.arrange sections).flatMap (·.lines))

/-- The versioned releases stand newest first. -/
def releasesSorted (rules : Rules) (content : Text) : Bool :=
  Version.labelsSorted (Changelog.ofText rules content).versions

end CommonChangelog
