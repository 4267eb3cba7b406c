import CommonChangelog.Config
import CommonChangelog.Document.Line
import CommonChangelog.Document.Reference

/-!
# Reading a changelog

`Changelog.ofText` goes through the lines of a text once. It never fails: lines that mean nothing
at their place are ignored, a malformed heading and what stands under it are skipped, and groups
without entries are dropped.
-/

namespace CommonChangelog

/-- Where the reader is in the document, and what is open there. -/
inductive Place where
  /-- Before the first release. -/
  | header
  /-- In a release, before its first category; the notices so far are in order. -/
  | release (release : Release) (notices : List Text)
  /-- In a group of a release. -/
  | group (release : Release) (group : Group)
  /-- Under a malformed heading. -/
  | skipped
  deriving DecidableEq, Repr

namespace Place

/-- The release with its notices joined by spaces; notices without text are no notice. -/
def withNotices (release : Release) (notices : List Text) : Release :=
  match Text.trim (Text.join " " notices) with
  | [] => release
  | text => { release with notice := some text }

/-- The release with the group at its end, unless the group is empty. -/
def withGroup (release : Release) (group : Group) : Release :=
  if group.changes.isEmpty then release
  else { release with groups := release.groups ++ [group] }

/-- The release that is open, as it stands if it ends here. -/
def close : Place → List Release
  | header | skipped => []
  | release r notices => [withNotices r notices]
  | group r g => [withGroup r g]

end Place

/-- What has been read so far. -/
structure Reader where
  title : Text := defaultTitle
  releases : List Release := []
  place : Place := .header
  deriving DecidableEq, Repr

namespace Reader

/-- Ends the open release and goes on at another place. -/
def moveTo (reader : Reader) (place : Place) : Reader :=
  { reader with releases := reader.releases ++ reader.place.close, place }

/-- An empty group under a heading of the document. -/
def openGroup (rules : Rules) (heading : Text) : Group := ⟨rules.category heading, heading, []⟩

/-- Reads one line. -/
def step (rules : Rules) (reader : Reader) : Line → Reader
  | .title text =>
    match reader.place with
    | .header => { reader with title := text }
    | _ => reader
  | .version label date => reader.moveTo (.release { label, date } [])
  | .malformed _ => reader.moveTo .skipped
  | .category heading =>
    match reader.place with
    | .release r notices =>
      { reader with place := .group (Place.withNotices r notices) (openGroup rules heading) }
    | .group r g => { reader with place := .group (Place.withGroup r g) (openGroup rules heading) }
    | _ => reader
  | .notice text =>
    match reader.place with
    | .release r notices => { reader with place := .release r (notices ++ [text]) }
    | _ => reader
  | .entry text =>
    match reader.place with
    | .group r g =>
      { reader with place := .group r { g with changes := g.changes ++ [Change.ofEntry text] } }
    | _ => reader
  | .blank | .other _ => reader

/-- The document if the text ends here. -/
def finish (reader : Reader) : Changelog := ⟨reader.title, reader.releases ++ reader.place.close⟩

end Reader

/-- The document that a list of classified lines makes up. -/
def Changelog.ofLines (rules : Rules) (lines : List Line) : Changelog :=
  (lines.foldl (Reader.step rules) {}).finish

/-- Reads a changelog. -/
def Changelog.ofText (rules : Rules) (content : Text) : Changelog :=
  Changelog.ofLines rules ((Text.lines content).map Line.classify)

end CommonChangelog
