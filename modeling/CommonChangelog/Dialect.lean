import CommonChangelog.Text.Scan

/-!
# Dialects of changelogs

How an existing changelog is written is guessed from names that it mentions and from the shape of
its headings.
-/

namespace CommonChangelog

inductive Dialect where
  | commonChangelog | keepAChangelog | conventional | semverMarkdown | custom
  deriving DecidableEq, Repr

namespace Dialect

def name : Dialect → Text
  | commonChangelog => "common-changelog"
  | keepAChangelog => "keep-a-changelog"
  | conventional => "conventional"
  | semverMarkdown => "semver-markdown"
  | custom => "custom"

/-- The places of a text at which a line begins. -/
def laterLines : Text → List Text
  | [] => []
  | c :: cs => if c = '\n' then cs :: laterLines cs else laterLines cs

/-- The suffixes of a text that begin with a line, the whole text first. -/
def lineStarts (s : Text) : List Text := s :: laterLines s

/-- The number signs of a heading of at most this level, and the blanks after them. -/
def headingMark (level : Nat) (s : Text) : Option Text := do
  let (marks, rest) ← Text.run? (· = '#') s
  guard (marks.length ≤ level)
  return Text.trimStart rest

/-- The types of conventional commits that appear as headings. -/
def headingTypes : List Text := ["feat", "fix", "chore", "refactor"]

/-- A heading that is the header of a conventional commit. -/
def isConventionalHeading (s : Text) : Bool := Option.isSome do
  let rest ← headingMark 3 s
  let rest ← headingTypes.findSome? fun type => Text.afterFold? type rest
  Text.afterOne? (fun c => c = ':' || c = '(') (Text.trimStart rest)

/-- A heading of the first or second level that begins with two numbers and a dot between them. -/
def isVersionHeading (s : Text) : Bool := Option.isSome do
  let rest ← headingMark 2 s
  let (_, rest) ← Text.run? Text.isDigit (Text.skipOne (· = '[') rest)
  let rest ← Text.after? "." rest
  Text.run? Text.isDigit rest

/-- The text names Common Changelog's site. -/
def namesCommonChangelog (lower : Text) : Bool :=
  Text.contains "common-changelog" lower && Text.contains ".org" lower

/-- The text names Keep a Changelog or its site. -/
def namesKeepAChangelog (lower : Text) : Bool :=
  (Text.contains "keepachangelog" lower && Text.contains ".com" lower) ||
    Text.contains "keep a changelog" lower

/-- The dialect of a text: names decide before headings do. -/
def detect (content : Text) : Dialect :=
  let lower := Text.lower content
  if namesCommonChangelog lower then commonChangelog
  else if namesKeepAChangelog lower then keepAChangelog
  else if (lineStarts content).any isConventionalHeading then conventional
  else if (lineStarts content).any isVersionHeading then semverMarkdown
  else custom

end Dialect

end CommonChangelog
