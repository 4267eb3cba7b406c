import CommonChangelog.Category

/-!
# Diagnostics

What validation can find in a changelog, how severe each finding is, and its wording. Errors make a
changelog invalid; warnings are advice. A `Report` keeps both in the order in which they were found.
-/

namespace CommonChangelog

inductive Severity where
  | error | warning
  deriving DecidableEq, Repr

/-- A finding of the validation. -/
inductive Diagnostic where
  /-- The document does not begin with its header. -/
  | missingHeader
  | noReleases
  /-- The label of a release is not a version. -/
  | invalidVersion (version : Text)
  | missingDate (version : Text)
  | invalidDate (version date : Text)
  /-- The heading of a group is not the name of a category. -/
  | invalidCategory (heading : Text)
  /-- A group stands after one that belongs behind it. -/
  | categoryOutOfOrder (category : Category)
  | missingReference (text : Text)
  /-- An entry does not open with a known verb. -/
  | imperativeMoodSuspect (text : Text)
  | releasesNotSorted (found : List Text)
  | duplicateVersion (versions : List Text)
  | unreleasedNotFirst
  deriving DecidableEq, Repr

namespace Diagnostic

def severity : Diagnostic → Severity
  | imperativeMoodSuspect _ | unreleasedNotFirst => .warning
  | _ => .error

/-- How much of an entry is quoted when a reference is missing. -/
def quoteLength : Nat := 50

/-- How much of an entry is quoted when its mood is suspect. -/
def shortQuoteLength : Nat := 30

def message : Diagnostic → Text
  | missingHeader => "CHANGELOG.md must start with \"# Changelog\" header"
  | noReleases => "CHANGELOG.md must have at least one release entry or Unreleased section"
  | invalidVersion version =>
    "Invalid version \"" ++ version ++
      "\". Must be valid semver without 'v' prefix (e.g., \"2.0.0\")"
  | missingDate version => "Release " ++ version ++ " is missing date"
  | invalidDate version date =>
    "Invalid date format \"" ++ date ++ "\" for version " ++ version ++ ". Must be YYYY-MM-DD"
  | invalidCategory heading =>
    "Invalid category \"" ++ heading ++ "\". Must be one of: " ++ Category.nameList ", "
  | categoryOutOfOrder category =>
    "Category \"" ++ category.name ++ "\" is out of order. Expected order: " ++
      Category.nameList " > "
  | missingReference text =>
    "Change \"" ++ Text.truncate text quoteLength ++
      "\" has no reference (PR or commit required)"
  | imperativeMoodSuspect text =>
    "Change \"" ++ Text.truncate text shortQuoteLength ++
      "\" may not use imperative mood (should start with verb like \"Add\", \"Fix\", etc.)"
  | releasesNotSorted found =>
    "Releases are not sorted newest-first. Found order: " ++ Text.join ", " found
  | duplicateVersion versions => "Duplicate versions found: " ++ Text.join ", " versions
  | unreleasedNotFirst => "Unreleased section should be at the top of the changelog"

end Diagnostic

/-- Everything that a validation found. -/
structure Report where
  errors : List Diagnostic := []
  warnings : List Diagnostic := []
  deriving DecidableEq, Repr

namespace Report

/-- Nothing makes the changelog invalid. -/
def passed (report : Report) : Bool := report.errors.isEmpty

/-- Files a finding by its severity. -/
def push (report : Report) (diagnostic : Diagnostic) : Report :=
  match diagnostic.severity with
  | .error => { report with errors := report.errors ++ [diagnostic] }
  | .warning => { report with warnings := report.warnings ++ [diagnostic] }

/-- The findings of both reports, those of the first one first. -/
def merge (report later : Report) : Report :=
  ⟨report.errors ++ later.errors, report.warnings ++ later.warnings⟩

/-- The report on a list of findings. -/
def ofList (diagnostics : List Diagnostic) : Report :=
  ⟨diagnostics.filter fun d => d.severity = .error,
    diagnostics.filter fun d => d.severity = .warning⟩

end Report

end CommonChangelog
