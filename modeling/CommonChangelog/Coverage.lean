import CommonChangelog.Commit
import CommonChangelog.Document.Reference

/-!
# Coverage

Every pull request that the history mentions should appear in the changelog. Both sides are sets of
numbers, kept as strictly rising lists.
-/

namespace CommonChangelog

namespace Coverage

/-- The numbers in rising order, each once. -/
def sortedSet (ns : List UInt64) : List UInt64 := (ns.mergeSort (· ≤ ·)).eraseDups

/-- The numbers that a list of written numerals denotes. -/
def numbers (found : List (Text × Text)) : List UInt64 :=
  found.filterMap fun (digits, _) => Text.number? digits

/-- The numbers after number signs in the subjects of commits, except those of automation. -/
def ofLog (rules : Rules) (log : List Commit) : List UInt64 :=
  sortedSet <|
    (log.filter fun commit => !rules.isAutomation commit.author).flatMap fun commit =>
      numbers (Scanner.all Reference.hashNumber commit.subject)

/-- The label `[#12]`, giving the digits. -/
def labelledNumber : Scanner Text := fun s => do
  let rest ← Text.after? "[" s
  let (digits, rest) ← Reference.hashNumber rest
  let rest ← Text.after? "]" rest
  return (digits, rest)

/-- The numbers in brackets and the bare numbers of a changelog. -/
def ofChangelog (content : Text) : List UInt64 :=
  sortedSet (numbers (Scanner.all labelledNumber content) ++ Reference.bareNumbers content)

end Coverage

/-- The difference between the numbers of the history and those of the changelog. -/
structure Coverage where
  /-- How many numbers the history has. -/
  total : Nat
  /-- In the history only. -/
  missing : List UInt64
  /-- In the changelog only. -/
  extra : List UInt64
  deriving DecidableEq, Repr

namespace Coverage

/-- Compares the numbers of the history with those of the changelog. -/
def compare (history changelog : List UInt64) : Coverage :=
  let known := sortedSet history
  let written := sortedSet changelog
  { total := known.length
    missing := known.filter fun n => !written.contains n
    extra := written.filter fun n => !known.contains n }

/-- Nothing is missing from the changelog. -/
def passed (coverage : Coverage) : Bool := coverage.missing.isEmpty

/-- The result in one line. -/
def message (coverage : Coverage) : Text :=
  if coverage.total = 0 && coverage.extra.isEmpty then "No PRs found in repository"
  else if coverage.passed then
    "All " ++ Text.ofNat coverage.total ++ " PR(s) are documented in CHANGELOG.md"
  else Text.ofNat coverage.missing.length ++ " PR(s) missing from CHANGELOG.md"

/-- How many items of a list are shown, and how many are not. -/
def listing {α : Type} (limit : Nat) (write : α → Text) (items : List α) : List Text :=
  ((items.take limit).map fun item => "  - " ++ write item) ++
    if items.length ≤ limit then []
    else ["  ... and " ++ Text.ofNat (items.length - limit) ++ " more"]

/-- A number with its sign. -/
def showNumber (n : UInt64) : Text := "#" ++ Text.ofWord n

/-- The lines that list what is missing. -/
def errors (coverage : Coverage) : List Text :=
  if coverage.missing.isEmpty then []
  else
    (Text.ofNat coverage.missing.length ++
      " PR(s) from git history are missing from CHANGELOG.md:") ::
      listing 20 showNumber coverage.missing

/-- The lines that list what the history does not know. -/
def warnings (coverage : Coverage) : List Text :=
  if coverage.extra.isEmpty then []
  else
    (Text.ofNat coverage.extra.length ++
      " PR(s) in CHANGELOG.md not found in git history:") ::
      listing 10 showNumber coverage.extra

end Coverage

end CommonChangelog
