import CommonChangelog.Commit
import CommonChangelog.Document.Basic
import CommonChangelog.Error

/-!
# The next version

The version that should come next follows from the latest release and from what has changed since:
the entries of the unreleased section, or, if it has none, the conventional commits dated after
the latest release.
-/

namespace CommonChangelog

namespace Impact

/-- Nothing has changed. -/
def isEmpty (impact : Impact) : Bool := impact = {}

/-- What either of two impacts has. -/
def union (a b : Impact) : Impact :=
  ⟨a.breaking || b.breaking, a.features || b.features, a.fixes || b.fixes⟩

/-- Several impacts together have what one of them has. -/
theorem foldl_union (field : Impact → Bool)
    (h : ∀ a b : Impact, field (a.union b) = (field a || field b)) (impacts : List Impact)
    (start : Impact) : field (impacts.foldl union start) = (field start || impacts.any field) := by
  induction impacts generalizing start with
  | nil => rw [List.foldl_nil, List.any_nil, Bool.or_false]
  | cons impact impacts ih => rw [List.foldl_cons, ih, h, List.any_cons, Bool.or_assoc]

/-- The impact of changes of a category: additions are features, all others count as fixes. -/
def ofCategory (category : Category) (breaking : Bool) : Impact :=
  { breaking
    features := category = .added
    fixes := category ≠ .added }

/-- The impact of a group; an empty group has none. -/
def ofGroup (group : Group) : Impact :=
  if group.changes.isEmpty then {} else ofCategory group.category (group.changes.any (·.breaking))

/-- The impact of a release. -/
def ofRelease (release : Release) : Impact :=
  (release.groups.map ofGroup).foldl union {}

/-- The impact of a commit message; only conventional ones have any. -/
def ofMessage (rules : Rules) (message : Text) : Impact :=
  match Conventional.ofMessage? message with
  | some commit => ofCategory (commit.category rules) commit.breaking
  | none => {}

/-- The impact of commit messages. -/
def ofMessages (rules : Rules) (messages : List Text) : Impact :=
  (messages.map (ofMessage rules)).foldl union {}

end Impact

/-- A version that should come next. -/
structure NextVersion where
  /-- The label of the latest release. -/
  current : Text
  impact : Impact
  next : Version
  deriving DecidableEq, Repr

namespace NextVersion

/-- Number of bytes of a character in UTF-8. -/
def byteLength (c : Char) : Nat := c.utf8Size

/-- The start of a text that has exactly this many bytes, if characters end there. -/
def takeBytes? : Nat → Text → Option Text
  | 0, _ => some []
  | _ + 1, [] => none
  | n + 1, c :: cs =>
    if byteLength c ≤ n + 1 then (takeBytes? (n + 1 - byteLength c) cs).map (c :: ·) else none
termination_by _ cs => cs.length

/-- The calendar date that a timestamp begins with, or a shorter text as it is. -/
def calendarDate (timestamp : Text) : Text := (takeBytes? 10 timestamp).getD timestamp

/-- The commit is dated after a release. Without both dates it counts as later. -/
def isAfter (released : Option Text) (commit : Commit) : Bool :=
  match released, commit.date with
  | some date, some committed => Text.order (calendarDate committed) date = .gt
  | _, _ => true

/-- The commits dated after a release. -/
def commitsAfter (released : Option Text) (history : List Commit) : List Commit :=
  history.filter (isAfter released)

/-- The impact of what is not released yet. -/
def pending (rules : Rules) (changelog : Changelog) (latest : Release) (history : List Commit) :
    Impact :=
  match changelog.unreleased? with
  | some release =>
    if release.changes.isEmpty then
      .ofMessages rules ((commitsAfter latest.date history).map (·.subject))
    else .ofRelease release
  | none => .ofMessages rules ((commitsAfter latest.date history).map (·.subject))

/-- The next version, or nothing if nothing is pending. -/
def suggest (rules : Rules) (changelog : Changelog) (history : List Commit) :
    Except Error (Option NextVersion) :=
  match changelog.latest? with
  | none => .error .noRelease
  | some latest =>
    let impact := pending rules changelog latest history
    if impact.isEmpty then .ok none
    else match Version.following latest.label impact with
      | .error e => .error (.version e)
      | .ok next => .ok (some { current := latest.label, impact, next })

end NextVersion

end CommonChangelog
