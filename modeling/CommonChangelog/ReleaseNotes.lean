import CommonChangelog.Document.Render
import CommonChangelog.Migration

/-!
# Importing published releases

The notes of releases published on GitHub become a changelog: one section for each release, newest
first, with list items and longer lines of prose as entries. The category of an entry is that of
the heading above it, or is guessed from its first word. Entries without a number get the marker
that asks for a reference.
-/

namespace CommonChangelog

open Text (after? run? isDigit trimStart)

/-- A release as it was published. -/
structure PublishedRelease where
  tag : Text
  name : Option Text := none
  body : Option Text := none
  publishedAt : Option Text := none
  prerelease : Bool := false
  deriving DecidableEq, Repr

namespace ReleaseNotes

/-! ## Labels and dates -/

/-- The word `version`, in any case, and a hyphen or underscore after it. -/
def versionWord : Scanner Unit := fun s => do
  let rest ← Text.afterFold? "version" s
  return ((), Text.skipOne (fun c => c = '-' || c = '_') rest)

/-- The label of a tag: `v1.2.0` and `version-1.2.0` are labelled `1.2.0`. -/
def labelOfTag (tag : Text) : Text :=
  Text.skipOne (· = 'v') (Scanner.removeStart versionWord tag)

/-- The calendar date of a timestamp. -/
def dateOfTimestamp : Option Text → Option Text
  | none => none
  | some timestamp =>
    match timestamp.takeWhile (· ≠ 'T') with
    | [] => none
    | date => some date

/-! ## Categories -/

/-- The words that stand for each category, in the order in which they are looked for. -/
def keywords : List (Category × List Text) :=
  [(.added, ["add", "new", "feature", "implement", "create", "introduce", "support"]),
   (.fixed, ["fix", "bug", "patch", "resolve", "correct", "repair", "security"]),
   (.removed, ["remove", "delete", "drop", "deprecate", "eliminate"]),
   (.changed, ["change", "update", "modify", "refactor", "improve", "enhance", "upgrade"])]

/-- The first category one of whose keywords has the property. -/
def categoryWhere? (p : Text → Bool) : Option Category :=
  (keywords.find? fun entry => entry.2.any p).map (·.1)

/-- The category of a heading that contains a keyword. -/
def categoryOfHeading? (word : Text) : Option Category :=
  let lower := Text.lower word
  categoryWhere? fun keyword => Text.contains keyword lower

/-- The types of conventional commits that release notes use. -/
def commitTypes : List Text :=
  ["feat", "fix", "chore", "refactor", "docs", "style", "perf", "test", "build", "ci"]

/-- The commit type at the front of a text in lower case, set off by a blank, `(` or `:`. -/
def commitType? (lower : Text) : Option Text :=
  commitTypes.find? fun type =>
    match after? type lower with
    | some (c :: _) => Text.isBlank c || c = '(' || c = ':'
    | _ => false

/-- The category of a commit type. -/
def categoryOfType (type : Text) : Category :=
  if type = "feat" then .added else if type = "fix" then .fixed else .changed

/-- A mark of a list item. -/
def isBullet (c : Char) : Bool := c = '-' || c = '*' || c = '•'

/-- The category of an entry: by its commit type, else by the keyword that it begins with. -/
def categoryOfEntry (text : Text) : Category :=
  let lower := Text.lower text
  match commitType? lower with
  | some type => categoryOfType type
  | none =>
    let body := trimStart (lower.dropWhile isBullet)
    (categoryWhere? fun keyword => Text.startsWith keyword body).getD .changed

/-! ## Entries -/

/-- The address of a pull request in the repository, or nothing if there is no repository. -/
def pullRequestUrl (repository : Option Text) (n : UInt64) : Text :=
  match repository with
  | none => []
  | some url => url ++ "/pull/" ++ Text.ofWord n

/-- The last place at which `part` occurs, as the text before it and the text after it. -/
def lastSplit? (part : Text) : Text → Option (Text × Text)
  | [] => none
  | c :: cs =>
    match lastSplit? part cs with
    | some (before, after) => some (c :: before, after)
    | none => (after? part (c :: cs)).map fun after => ([], after)

/--
The address of a pull request after ` in ` at the end of an entry, giving the digits. The address
has no blanks in it and something before its last `/pull/`.
-/
def pullRequestSuffix : Scanner Text := fun s => do
  let rest ← Text.afterBlanks? s
  let rest ← after? "in" rest
  let rest ← Text.afterBlanks? rest
  let rest ← after? "http" rest
  let rest ← after? "://" (Text.skipOne (· = 's') rest)
  let (address, rest) ← run? (fun c => !Text.isBlank c) rest
  let (before, digits) ← lastSplit? "/pull/" address
  guard (!before.isEmpty && !digits.isEmpty && digits.all isDigit && Text.allBlank rest)
  return (digits, [])

/-- A number in parentheses at the end of an entry, with the blanks around it. -/
def trailingNumber : Scanner Unit := fun s => do
  let (_, rest) ← Reference.bareNumber (trimStart s)
  guard (Text.allBlank rest)
  return ((), [])

/-- A character of an account name. -/
def isAccountChar (c : Char) : Bool := Text.isWord c || c == '-'

/-- The words `by @account` at the end of an entry, with the blanks around it. -/
def authorSuffix : Scanner Unit := fun s => do
  let rest ← after? "by" (trimStart s)
  let rest ← Text.afterBlanks? rest
  let rest ← after? "@" rest
  let (_, rest) ← run? isAccountChar rest
  guard (Text.allBlank rest)
  return ((), [])

/-- The header of a conventional commit of a known type, in any case, and the blanks after it. -/
def commitHeader : Scanner Unit := fun s => do
  let rest ← commitTypes.findSome? fun type => Text.afterFold? type s
  let (_, rest) := Conventional.scope? rest
  let (_, rest) := Conventional.exclamation? rest
  let rest ← after? ":" rest
  return ((), trimStart rest)

/-- The number that the address at the end of an item gives. -/
def suffixNumber? (text : Text) : Option UInt64 := do
  let (_, digits, _) ← Scanner.first? pullRequestSuffix text
  Text.number? digits

/-- The number after the first number sign that digits follow. -/
def firstNumber? (text : Text) : Option UInt64 := do
  let (_, digits, _) ← Scanner.first? Reference.hashNumber text
  Text.number? digits

/-- The text of a list item, without what becomes a reference and without author and header. -/
def itemText (text : Text) : Text :=
  let clean := Scanner.removeFirst pullRequestSuffix text
  let clean := Scanner.removeFirst trailingNumber clean
  let clean := Scanner.removeFirst authorSuffix clean
  let clean := Text.trim (Scanner.removeStart commitHeader clean)
  Text.capitalize (Reference.strip clean)

/-- The number of a list item: that of the address at its end, else the first one in its text. -/
def itemNumber? (text : Text) : Option UInt64 := (suffixNumber? text).or (firstNumber? text)

/-- The change of a list item. -/
def item (repository : Option Text) (text : Text) : Change :=
  match itemNumber? text with
  | some n => {
      text := itemText text
      references := [.pullRequest n (pullRequestUrl repository n)] }
  | none => { text := itemText text ++ " " ++ todoMarker }

/-- The longest prose that is kept whole. -/
def proseLimit : Nat := 100

/-- Prose has to be longer than this to be an entry. -/
def proseThreshold : Nat := 20

/-- The change of a line of prose. -/
def prose (line : Text) : Change := { text := Text.truncate line proseLimit ++ " " ++ todoMarker }

/-! ## Bodies -/

/-- The role of a line of release notes. -/
inductive Role where
  | heading (word : Text)
  | item (text : Text)
  | prose (line : Text)
  | skipped
  deriving DecidableEq, Repr

/-- The first word of a heading of at most the third level. -/
def headingWord? (line : Text) : Option Text := do
  let (word, _) ← run? Text.isWord (← Dialect.headingMark 3 line)
  return word

/-- The text of a list item in a line without blanks around it. -/
def itemText? (line : Text) : Option Text := do
  let rest ← Text.afterOne? isBullet line
  match ← Text.afterBlanks? rest with
  | [] => none
  | text => some text

/-- The role of a line without blanks around it. -/
def roleOf (line : Text) : Role :=
  match headingWord? line, itemText? line with
  | some word, _ => .heading word
  | none, some text => .item text
  | none, none =>
    if proseThreshold < line.length && !Text.startsWith "#" line then .prose line else .skipped

/-- The entries under a heading of this category, or under none. Unknown headings end nothing. -/
def entriesUnder (repository : Option Text) (current : Option Category) :
    List Role → List (Category × Change)
  | [] => []
  | .heading word :: rest =>
    entriesUnder repository ((categoryOfHeading? word).or current) rest
  | .item text :: rest =>
    (current.getD (categoryOfEntry text), item repository text) ::
      entriesUnder repository current rest
  | .prose line :: rest =>
    (categoryOfEntry line, prose line) :: entriesUnder repository current rest
  | .skipped :: rest => entriesUnder repository current rest

/-- The lines of a text that are not blank, without the blanks around them. -/
def trimmedLines (body : Text) : List Text :=
  ((Text.lines body).map Text.trim).filter fun line => !line.isEmpty

/-- The entries of release notes, in order. -/
def entries (repository : Option Text) (body : Text) : List (Category × Change) :=
  entriesUnder repository none ((trimmedLines body).map roleOf)

/-- The only entry of a release without notes. -/
def placeholder (release : PublishedRelease) : Category × Change :=
  (.changed, {
    text := "Release " ++ release.name.getD release.tag ++
      " <!-- TODO: Add details from git history -->" })

/-- The section of a published release. -/
def sectionOf (repository : Option Text) (release : PublishedRelease) : Release :=
  let empty : Release := {
    label := labelOfTag release.tag
    date := dateOfTimestamp release.publishedAt }
  match entries repository (release.body.getD []) with
  | [] => empty.addAll [placeholder release]
  | found => empty.addAll found

/-- Latest first; releases without a time come last, and equal ones keep their order. -/
def laterFirst (a b : PublishedRelease) : Bool :=
  match a.publishedAt, b.publishedAt with
  | _, none => true
  | none, some _ => false
  | some s, some t => (Text.order t s).isLE

end ReleaseNotes

/-- A changelog made of published releases. -/
structure Import where
  changelog : Changelog
  markdown : Text
  releaseCount : Nat
  /-- Markers in the text that ask for details. -/
  todoCount : Nat
  deriving DecidableEq, Repr

namespace Import

/-- The paragraph under the intro of imported changelogs. -/
def preface : Text := "_Imported from GitHub releases._"

/-- How every marker begins. -/
def todoStart : Text := "<!-- TODO:"

/-- The releases that are imported, in order. -/
def selected (includePrereleases : Bool) (releases : List PublishedRelease) :
    List PublishedRelease :=
  (releases.filter fun r => includePrereleases || !r.prerelease).mergeSort
    ReleaseNotes.laterFirst

/-- An empty unreleased section and one section for each release. -/
def changelogOf (repository : Option Text) (releases : List PublishedRelease) : Changelog :=
  { releases := .unreleased :: releases.map (ReleaseNotes.sectionOf repository) }

/-- Imports published releases. -/
def ofReleases (repository : Option Text) (includePrereleases : Bool)
    (releases : List PublishedRelease) : Import :=
  let chosen := selected includePrereleases releases
  let changelog := changelogOf repository chosen
  let markdown :=
    changelog.render { intro := commonIntro, preface := some preface, repository }
  { changelog, markdown
    releaseCount := chosen.length
    todoCount := Text.count todoStart markdown }

end Import

end CommonChangelog
