import CommonChangelog.Document.Render
import CommonChangelog.ReleaseNotes

/-!
# A first changelog from history

The commits that merged a pull request become the entries of one release. Each is categorised by
its conventional header, else by the verbs of its title. Within a category breaking changes come
first, and then later ones before earlier ones.
-/

namespace CommonChangelog

/-- What the subject of a commit says about the change. -/
structure Categorized where
  category : Category
  breaking : Bool
  text : Text
  deriving DecidableEq, Repr

namespace Retrofit

/-- The verbs that decide the category of a title, in the order in which they are looked for. -/
def verbs : List (Text × Category) :=
  [("add", .added), ("fix", .fixed), ("remove", .removed)]

/-- The title opens with the verb or has it between two spaces. -/
def usesVerb (lower verb : Text) : Bool :=
  Text.startsWith verb lower || Text.contains (" " ++ verb ++ " ") lower

/-- The category that the verbs of a title imply. -/
def categoryOfTitle (title : Text) : Category :=
  let lower := Text.lower title
  ((verbs.find? fun entry => usesVerb lower entry.1).map (·.2)).getD .changed

/-- The subject without emoji and without a ticket at its front. -/
def undecorated (subject : Text) : Text := Title.dropTicket (Title.removeEmoji subject)

/-- Categorises the subject of a commit. -/
def categorize (rules : Rules) (subject : Text) : Categorized :=
  let clean := undecorated subject
  let breaking := Title.looksBreaking clean
  match Conventional.ofMessage? clean with
  | some commit => {
      category := commit.category rules
      breaking := breaking || commit.breaking
      text := Title.clean commit.description }
  | none =>
    let title := Title.clean subject
    { category := categoryOfTitle title, breaking, text := title }

/-- The digits of the first number in parentheses. -/
def numberText? (subject : Text) : Option Text :=
  (Scanner.first? Reference.bareNumber subject).map fun (_, digits, _) => digits

/-- The commit merged a pull request. -/
def isMerge (commit : Commit) : Bool := (numberText? commit.subject).isSome

/-- The number of the pull request that a subject names, if it fits 64 bits. -/
def pullRequest? (subject : Text) : Option UInt64 := numberText? subject >>= Text.number?

/-- The commits that merged a pull request, without those of automation accounts. -/
def merges (rules : Rules) (log : List Commit) : List Commit :=
  (log.filter fun commit => !rules.isAutomation commit.author).filter isMerge

/-- An entry with what decides its place. -/
structure Entry where
  category : Category
  date : Option Text
  change : Change
  deriving DecidableEq, Repr

/-- The entry of a commit. -/
def entry (rules : Rules) (repository : Option Text) (commit : Commit) : Entry :=
  let categorized := categorize rules commit.subject
  { category := categorized.category
    date := commit.date
    change := {
      text := Text.trim (Scanner.removeFirst ReleaseNotes.trailingNumber categorized.text)
      references := (pullRequest? commit.subject).toList.map fun n =>
        .pullRequest n (ReleaseNotes.pullRequestUrl repository n)
      breaking := categorized.breaking } }

/-- A later date may stand before an earlier one, and any date before none. -/
def dateMayPrecede : Option Text → Option Text → Bool
  | _, none => true
  | none, some _ => false
  | some s, some t => (Text.order t s).isLE

/-- Breaking changes first, and then by date. -/
def mayPrecede (a b : Entry) : Bool :=
  match a.change.breaking, b.change.breaking with
  | true, false => true
  | false, true => false
  | _, _ => dateMayPrecede a.date b.date

/-- The notice under the release. -/
def notice : Text :=
  "Initial versioned release. Retroactively documents all changes since repository creation."

end Retrofit

/-- A changelog made of history. -/
structure Retrofit where
  changelog : Changelog
  markdown : Text
  /-- Commits that merged a pull request. -/
  mergeCount : Nat
  deriving DecidableEq, Repr

namespace Retrofit

/-- An empty unreleased section, and one release with every merge of the log. -/
def changelogOf (rules : Rules) (version date : Text) (repository : Option Text)
    (log : List Commit) : Changelog :=
  let sorted := ((merges rules log).map (entry rules repository)).mergeSort mayPrecede
  let release : Release := { label := version, date := some date, notice := some notice }
  { releases :=
      [.unreleased, release.addAll (sorted.map fun e => (e.category, e.change))] }

/-- The first changelog of a project with this history. -/
def ofLog (rules : Rules) (version date : Text) (repository : Option Text) (log : List Commit) :
    Retrofit :=
  let changelog := changelogOf rules version date repository log
  { changelog
    markdown := changelog.render { intro := commonIntro, repository }
    mergeCount := (merges rules log).length }

end Retrofit

end CommonChangelog
