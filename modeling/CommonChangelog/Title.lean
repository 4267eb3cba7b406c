import CommonChangelog.Commit
import CommonChangelog.Document.Reference

/-!
# Titles of commits and pull requests

A title becomes the text of an entry by dropping what does not belong there (emoji, shortcodes,
numbers of pull requests, ticket keys, part markers, a conventional header, noise words, stray
punctuation at the ends), and by rephrasing narrative openings into the imperative mood.
-/

namespace CommonChangelog.Title

open Text (after? afterFold? afterBlanks? run? skipOne isDigit isBlank trimStart)

/-! ## Emoji and shortcodes -/

/-- The code points of pictographs, dingbats, flags, variation selectors and the joiner. -/
def emojiRanges : Ranges :=
  [(0x200d, 0x200d), (0x2600, 0x26ff), (0x2700, 0x27bf), (0x2b50, 0x2b50), (0xfe00, 0xfe0f),
   (0x1f1e0, 0x1f1ff), (0x1f300, 0x1f9ff), (0x1fa00, 0x1faff)]

def isEmoji (c : Char) : Bool := emojiRanges.has c

/-- The text without emoji, trimmed. -/
def removeEmoji (s : Text) : Text := Text.trim (s.filter fun c => !isEmoji c)

/-- A letter or underscore of a shortcode, in any case. -/
def isShortcodeChar (c : Char) : Bool :=
  let folded := Text.fold c
  ('a' ≤ folded && folded ≤ 'z') || c == '_'

/-- The name of an emoji between colons. -/
def shortcode : Scanner Unit := fun s => do
  let rest ← after? ":" s
  let (_, rest) ← run? isShortcodeChar rest
  let rest ← after? ":" rest
  return ((), rest)

/-! ## Numbers, tickets and parts -/

/-- A colon, a hyphen or a blank. -/
def isSeparator (c : Char) : Bool := c == ':' || c == '-' || isBlank c

/-- The rest after any separators. -/
def afterSeparators (s : Text) : Text := s.dropWhile isSeparator

/-- The rest after a word, in any case, and blanks; the text itself if it does not begin so. -/
def skipWord (word s : Text) : Text :=
  match afterFold? word s with
  | some rest => trimStart rest
  | none => s

/-- The number of a pull request at the end of a title, as in `(#12)`, `#12` or `PR #12`. -/
def trailingNumber : Scanner Unit := fun s => do
  let rest := skipWord "pr" (skipOne (· = '(') (trimStart s))
  let (_, rest) ← Reference.hashNumber rest
  guard (skipOne (· = ')') rest).isEmpty
  return ((), [])

/-- A ticket key in brackets or parentheses, and the separators after it. -/
def bracketedTicket : Scanner Unit := fun s => do
  let rest ← Text.afterOne? (fun c => c = '[' || c = '(') s
  let ((), rest) ← Reference.ticketKey rest
  let rest ← Text.afterOne? (fun c => c = ']' || c = ')') rest
  return ((), afterSeparators rest)

/-- A ticket key that a colon or a hyphen sets off from what follows. -/
def leadingKey : Scanner Unit := fun s => do
  let ((), rest) ← Reference.ticketKey s
  let rest ← Text.afterOne? (fun c => c = ':' || c = '-') (trimStart rest)
  return ((), trimStart rest)

/-- The text without bracketed tickets, and without a key at its front. -/
def removeTickets (s : Text) : Text :=
  Scanner.removeAll bracketedTicket (Scanner.removeStart leadingKey s)

/-- A ticket key at the front, with or without brackets, and the separators after it. -/
def leadingTicket : Scanner Unit := fun s => do
  let ((), rest) ← Reference.ticketKey (skipOne (· = '[') s)
  return ((), afterSeparators (skipOne (· = ']') rest))

/-- The text without a ticket key at its front, trimmed. -/
def dropTicket (s : Text) : Text := Text.trim (Scanner.removeStart leadingTicket s)

/-- The word that may stand before a part marker. -/
def skipPartWord (s : Text) : Text :=
  ((afterFold? "part" s).or (afterFold? "pr" s)).getD s

/-- A part marker such as `Part 1/4 -`, `PR 2/3:` or `(1/2)`. -/
def partMarker : Scanner Unit := fun s => do
  let rest := trimStart (skipPartWord (skipOne (· = '(') s))
  let (_, rest) ← run? isDigit rest
  let rest ← after? "/" rest
  let (_, rest) ← run? isDigit rest
  return ((), afterSeparators (skipOne (· = ')') rest))

/-! ## Noise -/

/-- Words at the front of a title that say that it is not finished. -/
def noiseWords : List Text := ["wip", "draft", "tmp", "temp"]

/-- A noise word at the front, in any case, and the separators after it. -/
def noiseWord : Scanner Unit := fun s => do
  let rest ← noiseWords.findSome? fun word => afterFold? word s
  return ((), afterSeparators rest)

/-- A character that is dropped at both ends of a title. -/
def isEdgeNoise (c : Char) : Bool :=
  isSeparator c || c == '[' || c == ']' || c == '(' || c == ')'

/-- The text between the noise at its ends. -/
def dropEdges (s : Text) : Text :=
  ((s.dropWhile isEdgeNoise).reverse.dropWhile isEdgeNoise).reverse

/-- Each run of blanks replaced by one space. `inside` tells whether a blank came before. -/
def squeezeBlanks (inside : Bool) : Text → Text
  | [] => []
  | c :: cs =>
    if isBlank c then if inside then squeezeBlanks true cs else ' ' :: squeezeBlanks true cs
    else c :: squeezeBlanks false cs

/-! ## Mood -/

/-- A word of an opening. -/
inductive OpeningWord where
  /-- This word, in any case. -/
  | fixed (word : Text)
  /-- Any word. -/
  | any
  deriving DecidableEq, Repr

/-- Reads the words of an opening, blanks after each, and gives the word that was left open. -/
def opening (captured : Text) : List OpeningWord → Scanner Text
  | [], s => some (captured, s)
  | .fixed word :: words, s => do
    opening captured words (← afterBlanks? (← afterFold? word s))
  | .any :: words, s => do
    let (word, rest) ← run? Text.isWord s
    opening word words (← afterBlanks? rest)

/-- An opening and what is written instead of it. -/
structure Rephrasing where
  words : List OpeningWord
  /-- Written first. -/
  verb : Text
  /-- The open word and a space follow the verb. -/
  keepsWord : Bool := false

/-- The narrative openings, in the order in which they are rephrased. -/
def rephrasings : List Rephrasing :=
  [{ words := [.fixed "added"], verb := "Add " },
   { words := [.fixed "fixed"], verb := "Fix " },
   { words := [.fixed "removed"], verb := "Remove " },
   { words := [.fixed "changed"], verb := "Change " },
   { words := [.fixed "updated"], verb := "Update " },
   { words := [.fixed "the", .any, .fixed "now"], verb := "Make ", keepsWord := true },
   { words := [.fixed "we", .fixed "have", .fixed "added"], verb := "Add " },
   { words := [.fixed "this", .fixed "release", .fixed "includes"], verb := "" }]

/-- The text with one opening rephrased, if it begins so. -/
def Rephrasing.apply (rephrasing : Rephrasing) (s : Text) : Text :=
  match opening [] rephrasing.words s with
  | some (word, rest) =>
    rephrasing.verb ++ (if rephrasing.keepsWord then word ++ " " else []) ++ rest
  | none => s

/-- The text with each opening rephrased in turn, and its first character in upper case. -/
def toImperative (s : Text) : Text :=
  Text.capitalize (rephrasings.foldl (fun t rephrasing => rephrasing.apply t) s)

/-! ## Whole titles -/

/-- The text announces a breaking change. -/
def looksBreaking (s : Text) : Bool :=
  Text.contains "!:" s || Text.contains "BREAKING" s ||
    Text.contains "breaking change" (Text.lower s)

/-- What is left of a title after everything that does not belong into an entry is dropped. -/
def strip (s : Text) : Text :=
  let s := Scanner.removeAll shortcode (removeEmoji s)
  let s := Scanner.removeAll trailingNumber s
  let s := Scanner.removeAll (Reference.spaced Reference.bareNumber) s
  let s := removeTickets s
  let s := Scanner.removeAll partMarker s
  let s := Scanner.removeStart noiseWord (Conventional.dropHeader s)
  Text.trim (squeezeBlanks false (dropEdges s))

/-- The text of an entry for a title; a title of which nothing is left is kept as it is. -/
def clean (s : Text) : Text :=
  match strip s with
  | [] => Text.trim s
  | rest => Text.capitalize rest

end CommonChangelog.Title
