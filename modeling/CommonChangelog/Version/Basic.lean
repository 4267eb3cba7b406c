import CommonChangelog.Text.Digit

/-!
# Versions

A version in the sense of Semantic Versioning 2.0.0: three 64-bit numbers, an optional list of
prerelease identifiers and an optional list of build identifiers, both kept as the text in which
dots separate them. `Version.text` writes a version; the grammar that reads one is in
`CommonChangelog.Version.Grammar`.
-/

namespace CommonChangelog

structure Version where
  major : UInt64
  minor : UInt64
  patch : UInt64
  /-- Dot-separated identifiers after the hyphen. -/
  prerelease : Option Text
  /-- Dot-separated identifiers after the plus sign. -/
  build : Option Text
  /-- The text the version was read from. -/
  source : Text
  deriving DecidableEq, Repr

namespace Version

/-- The three numbers with dots between them. -/
def coreText (major minor patch : UInt64) : Text :=
  Text.ofWord major ++ "." ++ Text.ofWord minor ++ "." ++ Text.ofWord patch

/-- A plain release: no prerelease and no build. -/
def plain (major minor patch : UInt64) : Version :=
  ⟨major, minor, patch, none, none, coreText major minor patch⟩

/-- A mark and the identifiers after it, or nothing. -/
def tailText (mark : Char) : Option Text → Text
  | none => []
  | some identifiers => mark :: identifiers

/-- The written form of a version. -/
def text (v : Version) : Text :=
  coreText v.major v.minor v.patch ++ tailText '-' v.prerelease ++ tailText '+' v.build

def isPrerelease (v : Version) : Bool := v.prerelease.isSome

/-- The letters that a prerelease begins with, such as `rc` for `rc.1` and `beta` for `beta3`. -/
def tag (v : Version) : Option Text :=
  match v.prerelease with
  | none => none
  | some identifiers =>
    match identifiers.takeWhile Char.isAlpha with
    | [] => none
    | letters => some letters

end Version

end CommonChangelog
