import CommonChangelog.Text.Blank
import CommonChangelog.Text.Case
import CommonChangelog.Text.Digit

/-!
# Scanners

A scanner reads something from the front of a text and gives its value and the rest, or fails.
Scanners are composed in the `Option` monad. This module searches with them: the first place at
which one succeeds, all places from left to right without overlaps, and the text with those places
replaced. Only a scanner that consumed something counts as a find.
-/

namespace CommonChangelog

/-- Reads a value from the front of a text and leaves the rest. -/
abbrev Scanner (α : Type) := Text → Option (α × Text)

namespace Text

/-- The longest run of characters in a class, and the rest. -/
def spanOf (p : Char → Bool) (s : Text) : Text × Text := (s.takeWhile p, s.dropWhile p)

/-- The longest run of characters in a class, if there is at least one. -/
def run? (p : Char → Bool) : Scanner Text := fun s =>
  match s.takeWhile p with
  | [] => none
  | r => some (r, s.dropWhile p)

/-- At least one blank. -/
def afterBlanks? (s : Text) : Option Text := (run? isBlank s).map (·.2)

/-- One character of a class. -/
def afterOne? (p : Char → Bool) : Text → Option Text
  | [] => none
  | c :: cs => if p c then some cs else none

/-- The rest after one character of a class, or the whole text if it begins with none. -/
def skipOne (p : Char → Bool) (s : Text) : Text := (afterOne? p s).getD s

/-- Exactly `n` characters of a class. -/
def exactly? (n : Nat) (p : Char → Bool) : Scanner Text := fun s =>
  if (s.take n).length = n ∧ (s.take n).all p then some (s.take n, s.drop n) else none

end Text

namespace Scanner

variable {α : Type}

/-- The scanner consumed something. -/
def find (read : Scanner α) (s : Text) : Option (α × Text) :=
  match read s with
  | some (a, rest) => if rest.length < s.length then some (a, rest) else none
  | none => none

theorem find_shorter {read : Scanner α} {s rest : Text} {a : α}
    (h : find read s = some (a, rest)) : rest.length < s.length := by
  unfold find at h
  split at h
  · split at h
    · next hlt => cases h; exact hlt
    · exact absurd h (by simp)
  · exact absurd h (by simp)

/-- The first place at which the scanner succeeds: the text before it, the value, the rest. -/
def first? (read : Scanner α) : Text → Option (Text × α × Text)
  | [] => none
  | c :: cs =>
    match find read (c :: cs) with
    | some (a, rest) => some ([], a, rest)
    | none => (first? read cs).map fun (before, a, rest) => (c :: before, a, rest)

/-- The scanner succeeds somewhere in the text. -/
def occurs (read : Scanner α) (s : Text) : Bool := (first? read s).isSome

/-- The values at all places, from left to right, and what follows each. -/
def all (read : Scanner α) (s : Text) : List (α × Text) :=
  match s with
  | [] => []
  | c :: cs =>
    match found : find read (c :: cs) with
    | some (a, rest) =>
      have := find_shorter found
      (a, rest) :: all read rest
    | none => all read cs
termination_by s.length
decreasing_by
  · assumption
  · exact Nat.lt_add_one cs.length

/-- The text with what was read at all places removed. -/
def removeAll (read : Scanner α) (s : Text) : Text :=
  match s with
  | [] => []
  | c :: cs =>
    match found : find read (c :: cs) with
    | some (_, rest) =>
      have := find_shorter found
      removeAll read rest
    | none => c :: removeAll read cs
termination_by s.length
decreasing_by
  · assumption
  · exact Nat.lt_add_one cs.length

/-- The text with what was read at the first place removed. -/
def removeFirst (read : Scanner α) (s : Text) : Text :=
  match first? read s with
  | some (before, _, rest) => before ++ rest
  | none => s

/-- The rest after what was read at the front, or the whole text if the scanner fails there. -/
def removeStart (read : Scanner α) (s : Text) : Text := ((read s).map (·.2)).getD s

end Scanner

namespace Text

/-- Number of places at which `part` occurs, counted from the left without overlaps. -/
def count (part s : Text) : Nat :=
  (Scanner.all (fun t => (after? part t).map ((), ·)) s).length

end Text

end CommonChangelog
