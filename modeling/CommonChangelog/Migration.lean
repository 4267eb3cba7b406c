import CommonChangelog.Dialect
import CommonChangelog.Document.Render
import CommonChangelog.Title
import CommonChangelog.Validation

/-!
# Migration of older changelogs

A changelog in another dialect is read leniently: headings may lack brackets, entries need no
references, and categories may come in any order and from any vocabulary. Entries are rephrased
into the imperative mood, and those that mention nothing like a reference get a marker that asks
for one.
-/

namespace CommonChangelog

open Text (after? run? isDigit trimStart)

/-- Stands at the end of an entry that has no reference. -/
def todoMarker : Text := "<!-- TODO: Add PR/commit reference -->"

/-! ## Lines -/

/-- The role of a line in an older changelog. -/
inductive LegacyLine where
  | version (label : Text) (date : Option Text)
  | category (word : Text)
  | entry (text : Text)
  | other
  deriving DecidableEq, Repr

namespace LegacyLine

/-- What was read from `s` when `rest` is left. -/
def taken (s rest : Text) : Text := s.take (s.length - rest.length)

/-- A label in brackets, of at least one character. -/
def bracketedLabel : Scanner Text := fun s => do
  match ← after? "[" s with
  | [] => none
  | c :: rest =>
    let (more, rest) := Text.spanOf (· ≠ ']') rest
    return (c :: more, ← after? "]" rest)

/-- A dot and digits. -/
def dotNumber (s : Text) : Option Text := do
  let (_, rest) ← run? isDigit (← after? "." s)
  return rest

/-- A character of a prerelease. -/
def isPrereleaseChar (c : Char) : Bool := c.isAlphanum || c == '.' || c == '-'

/-- A hyphen and characters of a prerelease. -/
def hyphenated (s : Text) : Option Text := do
  let (_, rest) ← run? isPrereleaseChar (← after? "-" s)
  return rest

/-- A version of two or three numbers, perhaps with a `v` before and a prerelease after it. -/
def bareLabel : Scanner Text := fun s => do
  let (_, rest) ← run? isDigit (Text.skipOne (· = 'v') s)
  let rest ← dotNumber rest
  let rest := (dotNumber rest).getD rest
  let rest := (hyphenated rest).getD rest
  return (taken s rest, rest)

/-- A date after a hyphen, with any blanks around the hyphen. -/
def date? (s : Text) : Option Text := do
  let rest ← after? "-" (trimStart s)
  let (date, _) ← isoDate (trimStart rest)
  return date

/-- The label and the date of a release heading. -/
def version? (line : Text) : Option (Text × Option Text) := do
  let rest := trimStart (← after? "##" line)
  let (label, rest) ← (bracketedLabel rest).or (bareLabel rest)
  return (label, date? rest)

/-- The first word of a category heading. -/
def category? (line : Text) : Option Text := do
  let (word, _) ← run? Text.isWord (trimStart (← after? "###" line))
  return word

/-- The text of a list item. Of an item of two or more blanks the last blank is the text. -/
def entry? (line : Text) : Option Text := do
  let rest ← Text.afterOne? (fun c => c = '-' || c = '*') line
  let text ← Text.afterBlanks? rest
  match text with
  | [] => if 2 ≤ rest.length then rest.getLast?.map fun c => [c] else none
  | text => some text

/-- The role of a line. -/
def classify (line : Text) : LegacyLine :=
  match version? line, category? line, entry? line with
  | some (label, date), _, _ => .version label date
  | none, some word, _ => .category word
  | none, none, some text => .entry text
  | none, none, none => .other

end LegacyLine

/-! ## Entries -/

namespace Legacy

/-- The label `Unreleased` for any case, a version without its `v`, and any other label trimmed. -/
def normalizeLabel (label : Text) : Text :=
  let label := Text.trim label
  if Text.sameAscii label unreleasedLabel then unreleasedLabel
  else match label with
    | 'v' :: rest => if Version.isVersion rest then rest else label
    | _ => label

/-- The verb of a deprecation at the front, in any form and case, and the blanks after it. -/
def deprecation : Scanner Unit := fun s => do
  let rest ← Text.afterFold? "deprecate" s
  let rest ← Text.afterBlanks? (Text.skipOne (fun c => Text.fold c = 'd' || Text.fold c = 's') rest)
  return ((), rest)

/-- The word that marks a breaking change, in any case, with asterisks and a colon. -/
def breakingWord : Scanner Unit := fun s => do
  let star := Text.skipOne (· = '*')
  let rest ← Text.afterFold? "breaking" (star (star s))
  return ((), trimStart (star (star (Text.skipOne (· = ':') rest))))

/-- An entry about a deprecation opens with the verb. -/
def openWithDeprecate (raw : Text) : Text :=
  let lower := Text.lower raw
  if Text.contains "deprecat" lower && !Text.startsWith "deprecate " lower then
    "Deprecate " ++ Scanner.removeStart deprecation raw
  else raw

/-- The entry mentions the word that marks a breaking change. -/
def isBreaking (raw : Text) : Bool := Text.contains "breaking" (Text.lower raw)

/-- The text of an entry in the imperative mood, without the word that marks a breaking change. -/
def reword (raw : Text) : Text :=
  let text := openWithDeprecate raw
  Title.toImperative (if isBreaking raw then Scanner.removeFirst breakingWord text else text)

/-- Nothing in the entry looks like a reference. -/
def needsReference (raw : Text) : Bool := !Reference.isHinted (reword raw)

/-- The change that an entry stands for. -/
def change (raw : Text) : Change where
  text := Reference.strip (reword raw) ++ if needsReference raw then " " ++ todoMarker else []
  references := Reference.extract (reword raw)
  breaking := isBreaking raw

/-! ## Documents -/

/-- What has been read so far. -/
structure Reader where
  closed : List Release := []
  /-- The release that is being read. -/
  current : Option Release := none
  /-- The category that entries belong to. -/
  category : Option Category := none
  /-- Number of entries that got the marker. -/
  todos : Nat := 0
  deriving DecidableEq, Repr

/-- Reads one line. Categories count within a release, entries within a category. -/
def Reader.step (rules : Rules) (reader : Reader) : LegacyLine → Reader
  | .version label date =>
    { closed := reader.closed ++ reader.current.toList
      current := some { label := normalizeLabel label, date }
      category := none
      todos := reader.todos }
  | .category word =>
    if reader.current.isSome then { reader with category := some (rules.category word) }
    else reader
  | .entry raw =>
    match reader.current, reader.category with
    | some release, some category =>
      { reader with
        current := some (release.add category (change raw))
        todos := reader.todos + if needsReference raw then 1 else 0 }
    | _, _ => reader
  | .other => reader

/-- The lines of an older changelog read from the first to the last. -/
def read (rules : Rules) (content : Text) : Reader :=
  ((Text.split '\n' content).map LegacyLine.classify).foldl (Reader.step rules) {}

/-- The document that an older changelog is read as. -/
def parse (rules : Rules) (content : Text) : Changelog :=
  let reader := read rules content
  { releases := reader.closed ++ reader.current.toList }

/-- Number of entries of an older changelog that got the marker. -/
def todoCount (rules : Rules) (content : Text) : Nat := (read rules content).todos

end Legacy

/-- A changelog that was carried over. -/
structure Migration where
  dialect : Dialect
  releaseCount : Nat
  /-- Entries that got the marker. -/
  todoCount : Nat
  output : Text
  deriving DecidableEq, Repr

/-- Carries a changelog over, unless it is in the common dialect already. -/
def migrate? (rules : Rules) (repository : Option Text) (content : Text) : Option Migration :=
  match Dialect.detect content with
  | .commonChangelog => none
  | dialect =>
    let changelog := Legacy.parse rules content
    some {
      dialect
      releaseCount := changelog.releases.length
      todoCount := Legacy.todoCount rules content
      output := changelog.render { intro := commonIntro, repository } }

end CommonChangelog
