import CommonChangelog.Text.CaseTable

/-!
# Upper and lower case

`lower` and `upperChar` are the full mappings: one letter may become several, and a capital sigma
becomes `ς` at the end of a word and `σ` elsewhere. `fold` is the smaller equivalence under which
fixed words of the line formats are recognised in any case.
-/

namespace CommonChangelog.Text

/-- The first run that covers the code point decides; a code point that none covers stays. -/
def mapCase (runs : List CaseRun) (c : Char) : Char :=
  match runs.findSome? fun run => run.map? c.toNat with
  | some n => Char.ofNat n
  | none => c

/-- The lower case of a letter, apart from the context that a capital sigma looks at. -/
def lowerChar (c : Char) : Text :=
  if c.toNat < 0x80 then [c.toLower]
  else if c = 'İ' then ['i', '\u0307']
  else [mapCase lowerRuns c]

/-- The upper case of a letter. -/
def upperChar (c : Char) : Text :=
  if c.toNat < 0x80 then [c.toUpper]
  else match upperSpecial.lookup c.toNat with
    | some ns => ns.map Char.ofNat
    | none => [mapCase upperRuns c]

/-- The first character that counts for the end of a word is a cased letter. -/
def casedAhead (s : Text) : Bool :=
  match s.dropWhile ignorableRanges.has with
  | [] => false
  | c :: _ => casedRanges.has c

/-- A capital sigma after `before` (nearest character first) and in front of `ahead`. -/
def lowerSigma (before ahead : Text) : Char :=
  if casedAhead before && !casedAhead ahead then 'ς' else 'σ'

/-- The lower case of a text that stands after `before`, whose nearest character comes first. -/
def lowerAfter (before : Text) : Text → Text
  | [] => []
  | c :: cs =>
    (if c = 'Σ' then [lowerSigma before cs] else lowerChar c) ++ lowerAfter (c :: before) cs

/-- The lower case of a text. -/
def lower (s : Text) : Text := lowerAfter [] s

/-- The text with its first character in upper case. -/
def capitalize : Text → Text
  | [] => []
  | c :: cs => upperChar c ++ cs

/--
The lower-case ASCII letter that a letter is read as. Besides the capitals these are the long s
and the Kelvin sign; every other character stands for itself.
-/
def fold (c : Char) : Char :=
  if c = 'ſ' then 's' else if c = '\u212a' then 'k' else c.toLower

/-- What follows `start`, given in lower case, in a text that begins with it in any case. -/
def afterFold? : Text → Text → Option Text
  | [], s => some s
  | _ :: _, [] => none
  | p :: ps, c :: cs => if p = fold c then afterFold? ps cs else none

/-- The two texts differ at most in the case of ASCII letters. -/
def sameAscii (a b : Text) : Bool := a.map Char.toLower == b.map Char.toLower

end CommonChangelog.Text
