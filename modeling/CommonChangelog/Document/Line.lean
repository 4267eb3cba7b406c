import CommonChangelog.Text.Scan

/-!
# Lines of a changelog

Each line has a role of its own, which `Line.classify` reads off the line without its neighbours
and without the blanks around it.
-/

namespace CommonChangelog

/-- The role of a line. -/
inductive Line where
  /-- Written `# Title`. -/
  | title (text : Text)
  /-- Written `## [label]` or `## [label] - date`; any word after the dash is taken for the date. -/
  | version (label : Text) (date : Option Text)
  /-- A heading of the second level without a label in brackets. -/
  | malformed (text : Text)
  /-- Written `### Heading`. -/
  | category (heading : Text)
  /-- Written `_notice_`. -/
  | notice (text : Text)
  /-- Written `- entry` or `* entry`. -/
  | entry (text : Text)
  | blank
  | other (text : Text)
  deriving DecidableEq, Repr

namespace Line

/-- A word after a dash that has blanks on both sides. -/
def dashed? (s : Text) : Option Text := do
  let rest ← Text.afterBlanks? s
  let rest ← Text.after? "-" rest
  let rest ← Text.afterBlanks? rest
  let (word, _) ← Text.run? (fun c => !Text.isBlank c) rest
  return word

/-- The label in brackets of a heading of the second level, and the date after it. -/
def heading? (line : Text) : Option (Text × Option Text) := do
  let rest ← Text.after? "##" line
  let rest ← Text.afterBlanks? rest
  let rest ← Text.after? "[" rest
  let (label, rest) ← Text.run? (· ≠ ']') rest
  let rest ← Text.after? "]" rest
  return (Text.trim label, dashed? rest)

/-- The text between two underscores. -/
def noticeText? : Text → Option Text
  | '_' :: rest =>
    match rest.getLast? with
    | some '_' => some (Text.trim rest.dropLast)
    | _ => none
  | _ => none

/-- The text of a list item. -/
def entryText? (line : Text) : Option Text :=
  (Text.after? "- " line).or (Text.after? "* " line)

/-- The role of a line that has no blanks around it. -/
def ofTrimmed (line : Text) : Line :=
  if line.isEmpty then .blank
  else if let some rest := Text.after? "# " line then .title (Text.trim rest)
  else if Text.startsWith "## " line then
    match heading? line with
    | some (label, date) => .version label date
    | none => .malformed line
  else if let some rest := Text.after? "### " line then .category (Text.trim rest)
  else if let some text := noticeText? line then .notice text
  else if let some text := entryText? line then .entry (Text.trim text)
  else .other line

/-- The role of a line. -/
def classify (line : Text) : Line := ofTrimmed (Text.trim line)

end Line

end CommonChangelog
