import CommonChangelog.Version.Grammar

/-!
# Bumping versions

A bump increments one of the three numbers, sets those after it to zero, and drops prerelease and
build. It fails only if the number it increments is the largest 64-bit number. Which bump a release
calls for follows from its `Impact`.
-/

namespace CommonChangelog

/-- Which number of a version a release increments. -/
inductive Bump where
  | major | minor | patch
  deriving DecidableEq, Repr

def Bump.name : Bump → Text
  | major => "major"
  | minor => "minor"
  | patch => "patch"

/-- The kinds of change that a release contains. -/
structure Impact where
  breaking : Bool := false
  features : Bool := false
  fixes : Bool := false
  deriving DecidableEq, Repr

/-- The strongest kind of change decides; without any it is a patch. -/
def Impact.bump (impact : Impact) : Bump :=
  if impact.breaking then .major else if impact.features then .minor else .patch

namespace Version

/-- Why there is no version. -/
inductive Error where
  | malformed (text : Text) (fault : Fault)
  | overflow (bump : Bump) (version : Version)
  deriving DecidableEq, Repr

def Error.message : Error → Text
  | malformed text fault =>
    "'" ++ text ++ "' is not valid semver without a 'v' prefix (" ++ fault.message ++ ")"
  | overflow bump version =>
    "cannot apply " ++ bump.name ++ " bump to '" ++ version.text ++ "': component overflows"

/-- Reads a version, or says why the text is none. -/
def ofText (s : Text) : Except Error Version :=
  match read s with
  | .ok v => .ok v
  | .error fault => .error (.malformed s fault)

/-- The next 64-bit number, unless this is the largest. -/
def successor? (n : UInt64) : Option UInt64 := Text.word64? (n.toNat + 1)

/-- The version after a bump, unless a number overflows. -/
def bump? (v : Version) : Bump → Option Version
  | .major => (successor? v.major).map fun n => plain n 0 0
  | .minor => (successor? v.minor).map fun n => plain v.major n 0
  | .patch => (successor? v.patch).map fun n => plain v.major v.minor n

/-- The version after a bump. -/
def bump (v : Version) (kind : Bump) : Except Error Version :=
  match bump? v kind with
  | some w => .ok w
  | none => .error (.overflow kind v)

/-- The version after a bump of the version that a text writes. -/
def bumpText (s : Text) (kind : Bump) : Except Error Version := do
  (← ofText s).bump kind

/-- The version that should follow a release with this label, given what has changed since. -/
def following (label : Text) (impact : Impact) : Except Error Version :=
  bumpText label impact.bump

end Version

end CommonChangelog
