import CommonChangelog.Version.Grammar

/-!
# The order of versions

`Version.precedence` is the order of Semantic Versioning: the numbers decide first, a release is
above its prereleases, and prereleases are compared identifier by identifier. Build identifiers
take no part. `newestFirst` is the order of release labels in a changelog: the higher version
comes first, and labels that are no versions come last, all equal.
-/

namespace CommonChangelog.Version

/-- An identifier of ASCII digits. -/
def isNumeric (identifier : Text) : Bool := !identifier.isEmpty && identifier.all Text.isAsciiDigit

/--
Numeric identifiers rank below others and among each other by value, which for numerals without
leading zeros is by length and then by text; other identifiers rank by their characters.
-/
def compareIdentifier (a b : Text) : Ordering :=
  match isNumeric a, isNumeric b with
  | true, true => (compare a.length b.length).then (Text.order a b)
  | true, false => .lt
  | false, true => .gt
  | false, false => Text.order a b

/-- The first pair of different identifiers decides; a proper start of a list ranks lower. -/
def compareIdentifiers : List Text → List Text → Ordering
  | [], [] => .eq
  | [], _ :: _ => .lt
  | _ :: _, [] => .gt
  | a :: as, b :: bs => (compareIdentifier a b).then (compareIdentifiers as bs)

/-- A release ranks above each of its prereleases. -/
def comparePrerelease : Option Text → Option Text → Ordering
  | none, none => .eq
  | none, some _ => .gt
  | some _, none => .lt
  | some a, some b => compareIdentifiers (Text.split '.' a) (Text.split '.' b)

/-- Which of two versions ranks higher. -/
def precedence (v w : Version) : Ordering :=
  (compare v.major w.major).then <|
  (compare v.minor w.minor).then <|
  (compare v.patch w.patch).then <|
  comparePrerelease v.prerelease w.prerelease

/-- The order of labels in a changelog: `lt` means that the first one is newer. -/
def newestFirst (a b : Text) : Ordering :=
  match read? a, read? b with
  | none, none => .eq
  | none, some _ => .gt
  | some _, none => .lt
  | some v, some w => precedence w v

/-- Label `a` may stand before label `b`. -/
def mayPrecede (a b : Text) : Bool := (newestFirst a b).isLE

/-- Labels newest first; labels of equal rank keep their order. -/
def sortLabels (labels : List Text) : List Text := labels.mergeSort mayPrecede

/-- Each label may stand before the next one. -/
def labelsSorted : List Text → Bool
  | a :: b :: rest => mayPrecede a b && labelsSorted (b :: rest)
  | _ => true

end CommonChangelog.Version
