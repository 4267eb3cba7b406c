import CommonChangelog.Coverage
import CommonChangelog.Diagnostic
import CommonChangelog.UpdateCheck

/-!
# Console output

What a command prints, as pieces in order, each on one of the two output streams. Errors, warnings
and details go to the error stream; results and progress go to the other one.
-/

namespace CommonChangelog

/-- A text that is printed. -/
inductive Piece where
  | out (text : Text)
  | err (text : Text)
  deriving DecidableEq, Repr

namespace Console

/-- A line on the error stream. -/
def detail (line : Text) : Piece := .err (line ++ "\n")

def error (message : Text) : Piece := detail ("ERROR: " ++ message)
def warning (message : Text) : Piece := detail ("⚠ WARNING: " ++ message)

/-- A line of the result. -/
def result (line : Text) : Piece := .out (line ++ "\n")

def success (message : Text) : Piece := result ("✓ " ++ message)
def status (message : Text) : Piece := result ("→ " ++ message)

/-- The verdict of a check, on the stream that it belongs to. -/
def verdict (passed : Bool) (message : Text) : Piece :=
  if passed then success message else error message

/-- A text that would be written to a file. -/
def dryRun (markdown : Text) : List Piece :=
  [.out "\n--- DRY RUN OUTPUT ---\n\n", .out markdown]

/-- The number of entries that got a marker, if there are any. -/
def todoHint? (count : Nat) : Option Text :=
  if count = 0 then none
  else some ("Entries needing attention: " ++ Text.ofNat count ++
    ". Search for \"<!-- TODO:\" in the output to find them.")

def todoHint (count : Nat) : List Piece := (todoHint? count).toList.map warning

end Console

namespace Report

/-- Findings of one severity under a line that counts them. -/
def findingLines (noun : Text) (diagnostics : List Diagnostic) : List Text :=
  if diagnostics.isEmpty then []
  else
    (Text.ofNat diagnostics.length ++ " " ++ noun ++ "(s):") ::
      diagnostics.map fun d => "  - " ++ d.message

/-- The lines of a report before the verdict. -/
def details (report : Report) : List Text :=
  findingLines "error" report.errors ++ findingLines "warning" report.warnings

def verdict (report : Report) : Text :=
  if report.passed then "CHANGELOG.md is valid" else "CHANGELOG.md validation failed"

/-- The lines of a report. -/
def lines (report : Report) : List Text := report.details ++ [report.verdict]

/-- What is printed of a report. -/
def display (report : Report) : List Piece :=
  report.details.map Console.detail ++ [Console.verdict report.passed report.verdict]

end Report

/-- What is printed of a comparison. -/
def Coverage.display (coverage : Coverage) : List Piece :=
  (coverage.errors ++ coverage.warnings).map Console.detail ++
    [Console.verdict coverage.passed coverage.message]

/-- What is printed of a check. -/
def UpdateCheck.display (check : UpdateCheck) : List Piece :=
  Console.verdict check.passed check.message ::
    check.errors.map fun line => Console.detail ("  " ++ line)

end CommonChangelog
