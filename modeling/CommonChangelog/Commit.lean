import CommonChangelog.Config
import CommonChangelog.Text.Scan
import CommonChangelog.Text.Word

/-!
# Commits

A `Commit` is one entry of the history. `Conventional` is the reading of a message in the form
`type(scope)!: description`; the scope and the exclamation mark may be missing, and blanks may
stand before the description.
-/

namespace CommonChangelog

/-- One commit of the history. -/
structure Commit where
  hash : Text
  /-- The first line of the message. -/
  subject : Text
  author : Text
  /-- The author's date, as an ISO 8601 timestamp. -/
  date : Option Text
  deriving DecidableEq, Repr

/-- A conventional commit message. -/
structure Conventional where
  kind : Text
  scope : Option Text
  description : Text
  breaking : Bool
  deriving DecidableEq, Repr

namespace Conventional

/-- The parts of a header as they are written. -/
structure Header where
  kind : Text
  /-- The text between parentheses, if they are there. -/
  scope : Option Text
  exclaimed : Bool
  description : Text
  deriving DecidableEq, Repr

/-- The text between parentheses at the front. The parentheses must close. -/
def scope? (s : Text) : Option Text × Text :=
  match s with
  | '(' :: inner =>
    match Text.spanOf (· ≠ ')') inner with
    | (scope, _ :: rest) => (some scope, rest)
    | (_, []) => (none, s)
  | _ => (none, s)

/-- An exclamation mark at the front. -/
def exclamation? : Text → Bool × Text
  | '!' :: rest => (true, rest)
  | s => (false, s)

/--
What is described after the colon: the text after the leading blanks, which has to be one line. If
there are only blanks, the last of them is the description, unless it ends a line.
-/
def description? (s : Text) : Option Text :=
  match Text.trimStart s with
  | [] =>
    match s.getLast? with
    | none | some '\n' => none
    | some c => some [c]
  | body => if '\n' ∈ body then none else some body

/-- Reads the header of a conventional message. -/
def header? (s : Text) : Option Header := do
  let (kind, rest) ← Text.run? Text.isWord s
  let (scope, rest) := scope? rest
  let (exclaimed, rest) := exclamation? rest
  let rest ← Text.after? ":" rest
  let description ← description? rest
  return ⟨kind, scope, exclaimed, description⟩

/-- A line of a message that announces a breaking change. -/
def hasBreakingFooter (message : Text) : Bool :=
  Text.contains "BREAKING CHANGE:" message || Text.contains "BREAKING-CHANGE:" message

/-- The first line of a message, without the blanks around it. -/
def subjectOf (message : Text) : Text := Text.trim ((Text.lines message).head?.getD [])

/--
Reads a message whose first line has the conventional form. It is breaking if the header has the
exclamation mark or the message has a breaking footer. An empty scope is no scope.
-/
def ofMessage? (message : Text) : Option Conventional := do
  let header ← header? (subjectOf message)
  return {
    kind := header.kind
    scope := header.scope.filter fun scope => !scope.isEmpty
    description := Text.trim header.description
    breaking := header.exclaimed || hasBreakingFooter message }

/-- The category that the type of the commit implies. -/
def category (commit : Conventional) (rules : Rules) : Category := rules.category commit.kind

/-- The description of a text in conventional form, and any other text as it is. -/
def dropHeader (s : Text) : Text :=
  match header? s with
  | some header => header.description
  | none => s

end Conventional

end CommonChangelog
