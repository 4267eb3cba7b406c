import CommonChangelog.Diagnostic
import CommonChangelog.Document.Parse
import CommonChangelog.Version.Order

/-!
# Validation

Validation collects every finding on a changelog and stops at none. Changes, groups and releases
are checked by themselves; the order of releases, repeated versions and the place of the unreleased
section are checked on the whole document.
-/

namespace CommonChangelog

/-- A date in the form `YYYY-MM-DD`, of digits of any script. -/
def isoDate : Scanner Text := fun s => do
  let (year, rest) ← Text.exactly? 4 Text.isDigit s
  let rest ← Text.after? "-" rest
  let (month, rest) ← Text.exactly? 2 Text.isDigit rest
  let rest ← Text.after? "-" rest
  let (day, rest) ← Text.exactly? 2 Text.isDigit rest
  return (year ++ "-" ++ month ++ "-" ++ day, rest)

/-- The whole text is a date. -/
def isIsoDate (s : Text) : Bool := (isoDate s).any fun (_, rest) => rest.isEmpty

namespace Change

/-- Released changes need a reference, and every text should open with a verb. -/
def findings (rules : Rules) (unreleased : Bool) (change : Change) : List Diagnostic :=
  (if change.references.isEmpty && !unreleased then [.missingReference change.text] else []) ++
  (if !change.text.isEmpty && !rules.isImperative change.text then
    [.imperativeMoodSuspect change.text] else [])

end Change

namespace Group

/--
A heading that is no category is reported, and then the changes are not looked at. `previous` are
the categories before the group, none of which may belong behind it.
-/
def findings (rules : Rules) (unreleased : Bool) (previous : List Category) (group : Group) :
    List Diagnostic :=
  match Category.ofName? group.heading with
  | none => [.invalidCategory group.heading]
  | some category =>
    (if previous.any (category < ·) then [.categoryOutOfOrder category] else []) ++
    group.changes.flatMap (Change.findings rules unreleased)

/-- The findings on groups that stand after others. -/
def allFindings (rules : Rules) (unreleased : Bool) (previous : List Category) :
    List Group → List Diagnostic
  | [] => []
  | group :: groups =>
    findings rules unreleased previous group ++
      allFindings rules unreleased (previous ++ [group.category]) groups

end Group

namespace Release

/-- The label of a release has to be a version. -/
def labelFindings (release : Release) : List Diagnostic :=
  if Version.isVersion release.label then [] else [.invalidVersion release.label]

/-- A release has to have a date in the form `YYYY-MM-DD`. -/
def dateFindings (release : Release) : List Diagnostic :=
  match release.date with
  | none => [.missingDate release.label]
  | some date => if isIsoDate date then [] else [.invalidDate release.label date]

/-- Label and date are checked on versioned releases only. -/
def findings (rules : Rules) (release : Release) : List Diagnostic :=
  if release.isUnreleased then Group.allFindings rules true [] release.groups
  else
    labelFindings release ++ dateFindings release ++
      Group.allFindings rules false [] release.groups

end Release

/-- The members of a list that occur in it more than once, each at its first place. -/
def repeated (xs : List Text) : List Text :=
  (xs.filter fun x => 1 < xs.count x).eraseDups

namespace Changelog

def orderFindings (changelog : Changelog) : List Diagnostic :=
  if Version.labelsSorted changelog.versions then []
  else [.releasesNotSorted changelog.versions]

def duplicateFindings (changelog : Changelog) : List Diagnostic :=
  match repeated changelog.versions with
  | [] => []
  | versions => [.duplicateVersion versions]

/-- The first release carries a version although there are unreleased changes. -/
def unreleasedMisplaced (changelog : Changelog) : Bool :=
  !(changelog.releases.head?.any (·.isUnreleased)) && changelog.unreleased?.isSome

/-- The findings on a document. -/
def findings (rules : Rules) (changelog : Changelog) : List Diagnostic :=
  (if changelog.releases.isEmpty then [.noReleases] else []) ++
    changelog.releases.flatMap (Release.findings rules) ++
    orderFindings changelog ++ duplicateFindings changelog ++
    (if unreleasedMisplaced changelog then [.unreleasedNotFirst] else [])

end Changelog

/-- How the text of a changelog has to begin. -/
def headerText : Text := "# Changelog"

/-- The text begins with the header, apart from blanks. -/
def hasHeader (content : Text) : Bool := Text.startsWith headerText (Text.trim content)

/-- The report on the text of a changelog. -/
def validate (rules : Rules) (content : Text) : Report :=
  Report.ofList <|
    (if hasHeader content then [] else [.missingHeader]) ++
      (Changelog.ofText rules content).findings rules

end CommonChangelog
