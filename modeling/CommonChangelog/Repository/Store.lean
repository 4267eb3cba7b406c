import CommonChangelog.Repository.Basic
import CommonChangelog.Repository.Snapshot
import CommonChangelog.Timestamp

/-!
# Stored repositories

A `Store` holds revisions, references and the index, as a repository on disk does. `Store.answers`
is what the checks see of it: the revisions that the head reaches, the staged paths, the default
branch, and the paths changed since the branch left the default branch.
-/

namespace CommonChangelog

/-- A commit as it is stored. -/
structure Revision where
  message : Text
  author : Text
  /-- The author's time, in seconds since 1970. -/
  time : Int
  /-- The author's offset from UTC, in minutes. -/
  offset : Int
  /-- The committer's time, which orders the history. -/
  committed : Int
  /-- Numbers of earlier revisions. -/
  parents : List Nat
  files : Snapshot
  deriving DecidableEq, Repr

/-- What a reference points at. -/
inductive RefTarget where
  | revision (n : Nat)
  /-- Another reference, which may be missing. -/
  | ref (name : Text)
  deriving DecidableEq, Repr

/-- A repository as it is stored; revisions are numbered in order. -/
structure Store where
  revisions : List Revision := []
  /-- The revision that the checked-out branch points at. -/
  head : Option Nat := none
  refs : List (Text × RefTarget) := []
  index : Snapshot := []
  deriving DecidableEq, Repr

/-! ## Messages and names -/

namespace Revision

/-- White space of ASCII. -/
def isSpace (c : Char) : Bool := c = ' ' || ('\t' ≤ c && c ≤ '\r')

/-- The text begins with a line of nothing but white space, or is at its end. -/
def startsBlankLine (s : Text) : Bool :=
  match s.dropWhile fun c => isSpace c && c ≠ '\n' with
  | [] => true
  | c :: _ => c = '\n'

/-- The characters up to the first line of nothing but white space. -/
def paragraph : Text → Text
  | [] => []
  | c :: cs => if c = '\n' && startsBlankLine cs then [] else c :: paragraph cs

/-- White space with a newline in it becomes one space; white space at the end is dropped. -/
def joinLines (spaces : Text) : Text → Text
  | [] => []
  | c :: cs =>
    if isSpace c then joinLines (spaces ++ [c]) cs
    else (if '\n' ∈ spaces then [' '] else spaces) ++ c :: joinLines [] cs

/-- The subject of a message: its first paragraph, on one line. -/
def subjectOf (message : Text) : Text :=
  joinLines [] (paragraph (message.dropWhile (· = '\n')))

/-- A character that names are stored without at their ends. -/
def isCrud (c : Char) : Bool := c.toNat ≤ 0x20 || ".,:;<>\"\\'".toList.contains c

/-- A name as it is stored. -/
def storedName (name : Text) : Text :=
  ((name.dropWhile isCrud).reverse.dropWhile isCrud).reverse

/-- A time as it is stored: 32 bits without a sign. -/
def storedTime (seconds : Int) : Int := seconds % 4294967296

/-- An offset as it is stored: one of 15 hours or more is not, and counts as none. -/
def storedOffset (minutes : Int) : Int := if minutes.natAbs < 900 then minutes else 0

/-- The entry of the history for a revision. -/
def toCommit (n : Nat) (revision : Revision) : Commit where
  hash := Text.ofNat n
  subject := subjectOf revision.message
  author := storedName revision.author
  date := Timestamp.render? (storedTime revision.time) (storedOffset revision.offset)

end Revision

namespace Store

/-! ## Growing -/

/-- The files of a revision. -/
def filesOf (store : Store) (n : Nat) : Snapshot :=
  (store.revisions[n]?.map (·.files)).getD []

/-- Adds a revision whose files are those of its first parent with changes. -/
def add (store : Store) (revision : Revision) (changes : List (Text × Option Text)) : Store :=
  let start := (revision.parents.head?.map store.filesOf).getD []
  { store with
    revisions := store.revisions ++ [{ revision with files := start.apply changes }] }

/-! ## History -/

/-- The numbers below `n` that revisions in `wanted` reach, latest first. -/
def reach (store : Store) : Nat → List Nat → List Nat
  | 0, _ => []
  | n + 1, wanted =>
    if wanted.contains n then
      n :: reach store n (wanted ++ (store.revisions[n]?.map (·.parents)).getD [])
    else reach store n wanted

/-- The revision and everything that it descends from. -/
def ancestors (store : Store) (n : Nat) : List Nat := store.reach (n + 1) [n]

/-- The time at which a revision was committed. -/
def committed (store : Store) (n : Nat) : Int :=
  (store.revisions[n]?.map fun revision => Revision.storedTime revision.committed).getD 0

/-- Why there is no history yet. -/
def unborn : Text := "reference 'refs/heads/main' not found; class=Reference (4)"

/-- The history of the head, from the oldest commit on. -/
def history (store : Store) : Except Error (List Commit) :=
  match store.head with
  | none => .error (.history unborn)
  | some head =>
    let numbers := (store.ancestors head).mergeSort fun a b => store.committed a ≤ store.committed b
    .ok (numbers.filterMap fun n => store.revisions[n]?.map (Revision.toCommit n))

/-! ## References -/

/-- Where references of a remote repository lie. -/
def remotes : Text := "refs/remotes/"

/-- The head of the remote repository. -/
def remoteHead : Text := "refs/remotes/origin/HEAD"

/-- Branches that are taken for the default branch if the remote head names none. -/
def usualBranches : List Text := ["origin/main", "origin/master"]

/-- The name without the place of remote references in front of it. -/
def dropRemotes (name : Text) : Text :=
  match Text.after? remotes name with
  | some rest => if rest.length < name.length then dropRemotes rest else rest
  | none => name
termination_by name.length

/-- The name of the default branch. -/
def defaultBranch (store : Store) : Option Text :=
  match store.refs.lookup remoteHead with
  | some (.ref target) => some (dropRemotes target)
  | _ => usualBranches.find? fun branch => (store.refs.lookup (remotes ++ branch)).isSome

/-- The checked-out branch. -/
def mainBranch : Text := "refs/heads/main"

/-- Where a name leads. -/
inductive Lookup where
  | found (revision : Nat)
  | missing
  /-- One reference leads to another too often. -/
  | endless
  deriving DecidableEq, Repr

/-- Follows a reference through at most `n` others. -/
def follow (store : Store) (n : Nat) (name : Text) : Lookup :=
  match store.refs.lookup name, n with
  | some (.revision k), _ => .found k
  | some (.ref _), 0 => .endless
  | some (.ref other), n + 1 => follow store n other
  | none, _ =>
    match store.head with
    | some k => if name = mainBranch || name = "HEAD" then .found k else .missing
    | none => .missing

/-- How often one reference may lead to another. -/
def followLimit : Nat := 5

/-- The places at which a short name is looked up, in order. -/
def expansions (name : Text) : List Text :=
  [name, "refs/" ++ name, "refs/tags/" ++ name, "refs/heads/" ++ name, "refs/remotes/" ++ name,
   "refs/remotes/" ++ name ++ "/HEAD"]

/--
The revision that a short name stands for: the head if the name ends with `@`, and otherwise what
the first place leads to that is not missing.
-/
def resolve (store : Store) (name : Text) : Option Nat :=
  if name.getLast? = some '@' then store.head
  else
    match ((expansions name).map (store.follow followLimit)).find? (· ≠ .missing) with
    | some (.found n) => some n
    | _ => none

/-! ## Branches -/

/-- The common ancestor of two revisions that was committed last. -/
def mergeBase (store : Store) (a b : Nat) : Option Nat :=
  let others := store.ancestors b
  let common := (store.ancestors a).filter others.contains
  (common.mergeSort fun m n => store.committed n ≤ store.committed m).head?

/-- The revision at which the branch began; without a default branch the parent of the head. -/
def branchBase (store : Store) (head : Nat) : Option Nat :=
  match store.defaultBranch with
  | some branch => store.resolve branch >>= store.mergeBase head
  | none => store.revisions[head]? >>= fun revision => revision.parents.head?

/-- A path as it is shown: a backslash separates components as well. -/
def shownPath (path : Text) : Text := path.map fun c => if c = '\\' then '/' else c

/-- The paths changed in the branch. -/
def changed (store : Store) : List Text :=
  let found := do
    let head ← store.head
    let base ← store.branchBase head
    return Snapshot.changed (store.filesOf base) (store.filesOf head)
  (found.getD []).map shownPath

/-- The paths that the index adds or changes. -/
def staged (store : Store) : List Text :=
  (Snapshot.written ((store.head.map store.filesOf).getD []) store.index).map shownPath

/-- What the checks see of a stored repository. -/
def answers (store : Store) : Repository where
  history := store.history
  staged := store.staged
  defaultBranch := store.defaultBranch
  changed := store.changed

end Store

end CommonChangelog
