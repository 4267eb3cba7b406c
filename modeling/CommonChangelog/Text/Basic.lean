/-!
# Texts

A text is the list of its characters. Every rule of a changelog is a rule about characters, so
the library works on lists throughout and leaves `String` to the outermost layer.

This module holds the operations that know nothing about character classes: looking for a part,
cutting at a separator, and reading lines. `split` and `List.intercalate` undo each other, and
`lines` is `split` with the terminators of both kinds removed.
-/

namespace CommonChangelog

/-- A text is its list of characters. -/
abbrev Text := List Char

instance : Coe String Text := ⟨String.toList⟩

namespace Text

/-- What follows `start` in a text that begins with it. -/
def after? : Text → Text → Option Text
  | [], s => some s
  | _ :: _, [] => none
  | p :: ps, c :: cs => if p = c then after? ps cs else none

/-- The text begins with `start`. -/
def startsWith (start s : Text) : Bool := start.isPrefixOf s

/-- The text ends with `stop`. -/
def endsWith (stop s : Text) : Bool := stop.isSuffixOf s

/-- Whether `part` occurs somewhere in the text. -/
def contains (part : Text) : Text → Bool
  | [] => part.isEmpty
  | c :: cs => part.isPrefixOf (c :: cs) || contains part cs

/-- The pieces between the separators: always one more piece than there are separators. -/
def split (sep : Char) : Text → List Text
  | [] => [[]]
  | c :: cs =>
    if c = sep then [] :: split sep cs
    else match split sep cs with
      | [] => [[c]]
      | piece :: pieces => (c :: piece) :: pieces

/-- A line without the carriage return at its end. -/
def dropReturn (line : Text) : Text :=
  match line.getLast? with
  | some '\r' => line.dropLast
  | _ => line

/--
The lines of a text. A newline, or a carriage return and a newline, ends a line, and nothing
follows the last terminator.
-/
def lines (s : Text) : List Text :=
  let pieces := split '\n' s
  let ended := pieces.dropLast.map dropReturn
  match pieces.getLast? with
  | none | some [] => ended
  | some last => ended ++ [last]

/-- Pieces joined with a separator between them. -/
def join (sep : Text) (pieces : List Text) : Text := List.intercalate sep pieces

/-- Each line ended by a newline. -/
def unlines (ls : List Text) : Text := ls.flatMap fun l => l ++ ['\n']

/-- The first `length` characters, with three dots when something was cut off. -/
def truncate (s : Text) (length : Nat) : Text :=
  if s.length ≤ length then s else s.take length ++ "..."

/--
Texts are ordered by the code points of their characters, the first difference deciding; a proper
start of a text comes before it.
-/
def order : Text → Text → Ordering
  | [], [] => .eq
  | [], _ :: _ => .lt
  | _ :: _, [] => .gt
  | a :: as, b :: bs => (compare a.toNat b.toNat).then (order as bs)

/-! ## Laws of cutting and joining -/

theorem after?_eq_some {start s rest : Text} : after? start s = some rest ↔ s = start ++ rest := by
  induction start generalizing s with
  | nil => simp [after?, eq_comm]
  | cons p ps ih =>
    cases s with
    | nil => simp [after?]
    | cons c cs => by_cases h : p = c <;> simp [after?, h, ih, eq_comm]

theorem split_ne_nil (sep : Char) (s : Text) : split sep s ≠ [] := by
  cases s with
  | nil => simp [split]
  | cons c cs =>
    simp only [split]
    split
    · simp
    · split <;> simp

theorem join_split (sep : Char) (s : Text) : join [sep] (split sep s) = s := by
  induction s with
  | nil => rfl
  | cons c cs ih =>
    have hne := split_ne_nil sep cs
    simp only [split]
    cases hs : split sep cs with
    | nil => exact absurd hs hne
    | cons piece pieces =>
      rw [hs] at ih
      by_cases h : c = sep
      · subst h
        simpa [join, List.intercalate, List.intersperse] using ih
      · simp only [h, if_false]
        cases pieces <;> simp_all [join, List.intercalate, List.intersperse]

end Text

end CommonChangelog
