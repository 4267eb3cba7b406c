import CommonChangelog.Document.Basic
import CommonChangelog.Text.Scan
import CommonChangelog.Text.Word

/-!
# References in entries

An entry refers to pull requests, issues and commits in three written forms: `[#12](url)`, a bare
`(#12)`, and a commit hash in backticks as the label of a link. `Reference.extract` reads them,
`Reference.strip` removes them, and `Reference.render` writes one in the form that both know.
-/

namespace CommonChangelog

open Text (after? run? isDigit)

namespace Reference

/-! ## Written forms -/

/-- An address in parentheses. -/
def target : Scanner Text := fun s => do
  let rest ← after? "(" s
  let (url, rest) ← run? (· ≠ ')') rest
  let rest ← after? ")" rest
  return (url, rest)

/-- A number sign and digits. -/
def hashNumber : Scanner Text := fun s => do
  let rest ← after? "#" s
  run? isDigit rest

/-- A link `[#12](url)`, giving the digits and the address. -/
def numberLink : Scanner (Text × Text) := fun s => do
  let rest ← after? "[" s
  let (digits, rest) ← hashNumber rest
  let rest ← after? "]" rest
  let (url, rest) ← target rest
  return ((digits, url), rest)

/-- The form `(#12)`, giving the digits. -/
def bareNumber : Scanner Text := fun s => do
  let rest ← after? "(" s
  let (digits, rest) ← hashNumber rest
  let rest ← after? ")" rest
  return (digits, rest)

/-- A lower-case hexadecimal digit. -/
def isHashDigit (c : Char) : Bool := ('a' ≤ c && c ≤ 'f') || Text.isAsciiDigit c

/-- The length of a commit hash, possibly abbreviated. -/
def isHashLength (n : Nat) : Bool := 7 ≤ n && n ≤ 40

/-- A commit hash in backticks as the label of a link, giving hash and address. -/
def commitLink : Scanner (Text × Text) := fun s => do
  let rest ← after? "[`" s
  let (hash, rest) ← run? isHashDigit rest
  guard (isHashLength hash.length)
  let rest ← after? "`]" rest
  let (url, rest) ← target rest
  return ((hash, url), rest)

/-- The form between parentheses. -/
def parenthesized {α : Type} (read : Scanner α) : Scanner α := fun s => do
  let rest ← after? "(" s
  let (a, rest) ← read rest
  let rest ← after? ")" rest
  return (a, rest)

/-- The form after any number of blanks. -/
def spaced {α : Type} (read : Scanner α) : Scanner α := fun s => read (Text.trimStart s)

/-! ## Extraction -/

/-- The part of an address that marks an issue. -/
def issuePath : Text := "/issues/"

/-- The reference that a link with this number stands for. -/
def ofLink (number : UInt64) (url : Text) : Reference :=
  if Text.contains issuePath url then .issue number url else .pullRequest number url

/-- The numbered links of an entry. Numbers that do not fit 64 bits are no references. -/
def links (s : Text) : List Reference :=
  (Scanner.all numberLink s).filterMap fun ((digits, url), _) =>
    (Text.number? digits).map fun n => ofLink n url

/--
The numbers in the bare form. In front of a closing bracket the form is the inside of a label and
does not count.
-/
def bareNumbers (s : Text) : List UInt64 :=
  (Scanner.all bareNumber s).filterMap fun (digits, rest) =>
    if rest.head? = some ']' then none else Text.number? digits

/-- Adds a bare number unless a reference has it already. -/
def addBare (references : List Reference) (n : UInt64) : List Reference :=
  if references.any (·.number? = some n) then references else references ++ [.pullRequest n []]

/-- The commit links of an entry. -/
def commits (s : Text) : List Reference :=
  (Scanner.all commitLink s).map fun ((hash, url), _) => .commit hash url

/-- The references of an entry: numbered links, then bare numbers that are new, then commits. -/
def extract (s : Text) : List Reference :=
  (bareNumbers s).foldl addBare (links s) ++ commits s

/-! ## Removal -/

/--
The text without references and without the blanks before them, and trimmed. Forms in parentheses
go first, so that their parentheses go with them.
-/
def strip (s : Text) : Text :=
  let s := Scanner.removeAll (spaced (parenthesized numberLink)) s
  let s := Scanner.removeAll (spaced (parenthesized commitLink)) s
  let s := Scanner.removeAll (spaced bareNumber) s
  let s := Scanner.removeAll (spaced numberLink) s
  Text.trim (Scanner.removeAll (spaced commitLink) s)

/-! ## Writing -/

/-- The written form of a reference. -/
def render : Reference → Text
  | pullRequest n url | issue n url =>
    if url.isEmpty then "(#" ++ Text.ofWord n ++ ")"
    else "([#" ++ Text.ofWord n ++ "](" ++ url ++ "))"
  | commit hash url => "([`" ++ hash ++ "`](" ++ url ++ "))"

/-! ## Hints -/

/-- A word that looks like a commit hash, in either case. -/
def isHashWord (word : Text) : Bool :=
  isHashLength word.length && word.all fun c => isHashDigit c.toLower

/-- The parts of an address that lead to a pull request, an issue or a commit. -/
def pagePaths : List Text := ["pull", "issues", "commit"]

/-- The address of a page of a repository on GitHub. -/
def githubPage : Scanner Unit := fun s => do
  let rest ← after? "http" s
  let rest := Text.skipOne (· = 's') rest
  let rest ← after? "://github.com/" rest
  let (_, rest) ← run? (· ≠ '/') rest
  let rest ← after? "/" rest
  let (_, rest) ← run? (· ≠ '/') rest
  let rest ← after? "/" rest
  let rest ← pagePaths.findSome? fun page => after? page rest
  return ((), rest)

/-- An upper-case ASCII letter. -/
def isKeyLetter (c : Char) : Bool := 'A' ≤ c && c ≤ 'Z'

/-- The key of a ticket: two or more capitals, a hyphen and digits, as in `EN-12`. -/
def ticketKey : Scanner Unit := fun s => do
  let (letters, rest) ← run? isKeyLetter s
  guard (2 ≤ letters.length)
  let rest ← after? "-" rest
  let (_, rest) ← run? isDigit rest
  return ((), rest)

/-- A ticket key with no word character right after it. -/
def isTicketWord (s : Text) : Bool :=
  match ticketKey s with
  | some (_, c :: _) => !Text.isWord c
  | some (_, []) => true
  | none => false

/-- The text mentions something that looks like a reference, even in a form that is not read. -/
def isHinted (s : Text) : Bool :=
  Scanner.occurs hashNumber s || (Text.words s).any isHashWord ||
    Scanner.occurs githubPage s || (Text.wordStarts false s).any isTicketWord

end Reference

namespace Change

/-- The mark before the text of a breaking change. -/
def breakingMark : Text := "**Breaking:**"

/-- The mark and the blanks after it. -/
def breakingMarker : Scanner Unit := fun s =>
  (after? breakingMark s).map fun rest => ((), Text.trimStart rest)

/-- The entry carries the mark of a breaking change. -/
def isMarkedBreaking (s : Text) : Bool := Text.contains breakingMark s

/-- The text of an entry without its first breaking mark and without references. -/
def clean (s : Text) : Text := Reference.strip (Scanner.removeFirst breakingMarker s)

/-- Reads the text of a list item. -/
def ofEntry (s : Text) : Change where
  text := clean s
  references := Reference.extract s
  breaking := isMarkedBreaking s

end Change

end CommonChangelog
