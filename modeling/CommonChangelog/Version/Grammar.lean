import CommonChangelog.Text.Quoted
import CommonChangelog.Text.Scan
import CommonChangelog.Version.Basic

/-!
# The grammar of versions

`Version.read` accepts a version in the grammar of Semantic Versioning 2.0.0, without a `v` in
front, whose three numbers have 64 bits. A text that is not one has a first `Fault`, and the part
of the version in which it lies.
-/

namespace CommonChangelog.Version

/-- The parts of a version, in the order in which they are read. -/
inductive Part where
  | major | minor | patch | prerelease | build
  deriving DecidableEq, Repr

def Part.name : Part → Text
  | major => "major version number"
  | minor => "minor version number"
  | patch => "patch version number"
  | prerelease => "pre-release identifier"
  | build => "build metadata"

/-- Why a text is not a version. -/
inductive Fault where
  | empty
  | endsIn (part : Part)
  | unexpectedIn (part : Part) (c : Char)
  | unexpectedAfter (part : Part) (c : Char)
  | leadingZero (part : Part)
  | tooLarge (part : Part)
  | emptyIdentifier (part : Part)
  deriving DecidableEq, Repr

def Fault.message : Fault → Text
  | empty => "empty string, expected a semver version"
  | endsIn part => "unexpected end of input while parsing " ++ part.name
  | unexpectedIn part c =>
    "unexpected character " ++ Text.quoteChar c ++ " while parsing " ++ part.name
  | unexpectedAfter part c => "unexpected character " ++ Text.quoteChar c ++ " after " ++ part.name
  | leadingZero part => "invalid leading zero in " ++ part.name
  | tooLarge part => "value of " ++ part.name ++ " exceeds u64::MAX"
  | emptyIdentifier part => "empty identifier segment in " ++ part.name

/-- A numeral of more than one digit that begins with a zero. -/
def hasLeadingZero : Text → Bool
  | '0' :: _ :: _ => true
  | _ => false

/-- A number at the front: ASCII digits, no leading zero, 64 bits. -/
def number (part : Part) (s : Text) : Except Fault (UInt64 × Text) :=
  match Text.spanOf Text.isAsciiDigit s with
  | ([], []) => .error (.endsIn part)
  | ([], c :: _) => .error (.unexpectedIn part c)
  | (digits, rest) =>
    if hasLeadingZero digits then .error (.leadingZero part)
    else match Text.number? digits with
      | none => .error (.tooLarge part)
      | some n => .ok (n, rest)

/-- The dot that ends a part. -/
def dot (part : Part) : Text → Except Fault Text
  | [] => .error (.endsIn part)
  | c :: rest => if c = '.' then .ok rest else .error (.unexpectedAfter part c)

/-- A character that identifiers consist of. -/
def isIdentifierChar (c : Char) : Bool := c.isAlphanum || c == '-'

/-- What is wrong with one identifier: prereleases have no numbers with a leading zero. -/
def identifierFault? (part : Part) (identifier : Text) : Option Fault :=
  if identifier.isEmpty then some (.emptyIdentifier part)
  else if part = .prerelease ∧ identifier.all Text.isAsciiDigit ∧ hasLeadingZero identifier then
    some (.leadingZero part)
  else none

/-- The identifiers at the front, as one text; the first faulty one is reported. -/
def identifiers (part : Part) (s : Text) : Except Fault (Text × Text) :=
  let (run, rest) := Text.spanOf (fun c => isIdentifierChar c || c == '.') s
  match (Text.split '.' run).findSome? (identifierFault? part) with
  | some fault => .error fault
  | none => .ok (run, rest)

/-- The identifiers after a mark, or none if the text does not begin with the mark. -/
def identifiersAfter (mark : Char) (part : Part) :
    Text → Except Fault (Option Text × Text)
  | [] => .ok (none, [])
  | c :: rest =>
    if c = mark then do
      let (run, rest) ← identifiers part rest
      return (some run, rest)
    else .ok (none, c :: rest)

/-- The part that was read last, when the identifier lists were read or were absent. -/
def lastPart (prerelease build : Option Text) : Part :=
  if build.isSome then .build else if prerelease.isSome then .prerelease else .patch

/-- Reads a version, or gives the first fault. -/
def read (s : Text) : Except Fault Version := do
  if s.isEmpty then throw .empty
  let (major, rest) ← number .major s
  let rest ← dot .major rest
  let (minor, rest) ← number .minor rest
  let rest ← dot .minor rest
  let (patch, rest) ← number .patch rest
  let (prerelease, rest) ← identifiersAfter '-' .prerelease rest
  let (build, rest) ← identifiersAfter '+' .build rest
  match rest with
  | [] => return ⟨major, minor, patch, prerelease, build, s⟩
  | c :: _ => throw (.unexpectedAfter (lastPart prerelease build) c)

/-- The version that a text writes, if it writes one. -/
def read? (s : Text) : Option Version := (read s).toOption

/-- The text is a version. -/
def isVersion (s : Text) : Bool := (read? s).isSome

/-- The text is a version with a prerelease. -/
def isPrereleaseText (s : Text) : Bool := ((read? s).map isPrerelease).getD false

end CommonChangelog.Version
