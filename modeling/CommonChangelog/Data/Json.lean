import CommonChangelog.Data.Basic
import CommonChangelog.Text.Scan

/-!
# JSON texts

`Json.parse?` reads one JSON value with nothing but blanks around it. The grammar is the strict one:
no trailing commas, no comments, no control characters in strings. A string whose escapes are half
of a surrogate pair is well formed but denotes no text, and neither does a table with such a name.
-/

namespace CommonChangelog.Json

open Text (after? run?)

/-- The four blanks of JSON. -/
def isSpace (c : Char) : Bool := c = ' ' || c = '\t' || c = '\n' || c = '\r'

def skipSpace (s : Text) : Text := s.dropWhile isSpace

/-! ## Strings -/

/-- The value of a hexadecimal digit. -/
def hexValue? (c : Char) : Option Nat :=
  if '0' ≤ c && c ≤ '9' then some (c.toNat - '0'.toNat)
  else if 'a' ≤ c && c ≤ 'f' then some (c.toNat - 'a'.toNat + 10)
  else if 'A' ≤ c && c ≤ 'F' then some (c.toNat - 'A'.toNat + 10)
  else none

/-- The number that hexadecimal digits write. -/
def hexNumber? (digits : Text) : Option Nat :=
  digits.foldlM (fun n c => (hexValue? c).map fun d => n * 16 + d) 0

/-- The characters that stand for themselves after a backslash, or for a control character. -/
def simpleEscape? : Char → Option Char
  | '"' => some '"'
  | '\\' => some '\\'
  | '/' => some '/'
  | 'b' => some '\x08'
  | 'f' => some '\x0c'
  | 'n' => some '\n'
  | 'r' => some '\r'
  | 't' => some '\t'
  | _ => none

/-- A unit of a string: a character, or a 16-bit unit that an escape writes. -/
inductive Piece where
  | char (c : Char)
  | unit (n : Nat)

/-- The pieces of a string after its opening quote, and the rest after its closing quote. -/
def pieces : Text → Option (List Piece × Text)
  | [] => none
  | '"' :: rest => some ([], rest)
  | '\\' :: 'u' :: a :: b :: c :: d :: rest => do
    let n ← hexNumber? [a, b, c, d]
    let (more, rest) ← pieces rest
    return (.unit n :: more, rest)
  | '\\' :: c :: rest => do
    let c ← simpleEscape? c
    let (more, rest) ← pieces rest
    return (.char c :: more, rest)
  | c :: rest =>
    if c.toNat < 0x20 then none
    else do
      let (more, rest) ← pieces rest
      return (.char c :: more, rest)

def isLeading (n : Nat) : Bool := 0xd800 ≤ n && n < 0xdc00
def isTrailing (n : Nat) : Bool := 0xdc00 ≤ n && n < 0xe000

/-- The characters of pieces; a leading unit needs a trailing one after it. -/
def decode? : List Piece → Option Text
  | [] => some []
  | .char c :: rest => (decode? rest).map (c :: ·)
  | .unit a :: .unit b :: rest =>
    if isLeading a && isTrailing b then
      (decode? rest).map (Char.ofNat (0x10000 + (a - 0xd800) * 0x400 + (b - 0xdc00)) :: ·)
    else if isLeading a || isTrailing a then none
    else (decode? (.unit b :: rest)).map (Char.ofNat a :: ·)
  | .unit a :: rest =>
    if isLeading a || isTrailing a then none else (decode? rest).map (Char.ofNat a :: ·)

/-- A string. -/
def string : Scanner Data := fun s => do
  let (ps, rest) ← pieces (← after? "\"" s)
  return (match decode? ps with
    | some t => .text t
    | none => .undecodable, rest)

/-! ## Numbers and names -/

/-- Digits, of which a zero must be the only one. -/
def integerPart (s : Text) : Option Text := do
  let (digits, rest) ← run? Text.isAsciiDigit s
  guard (digits.head? ≠ some '0' || digits.length = 1)
  return rest

/-- A point and digits, or nothing. -/
def fraction (s : Text) : Option Text :=
  match after? "." s with
  | none => some s
  | some rest => (run? Text.isAsciiDigit rest).map (·.2)

/-- An exponent, or nothing. -/
def exponent (s : Text) : Option Text :=
  match Text.afterOne? (fun c => c = 'e' || c = 'E') s with
  | none => some s
  | some rest =>
    (run? Text.isAsciiDigit (Text.skipOne (fun c => c = '+' || c = '-') rest)).map (·.2)

def number : Scanner Data := fun s => do
  let rest ← integerPart (Text.skipOne (· = '-') s)
  let rest ← exponent (← fraction rest)
  return (.number, rest)

/-- One of the three names. -/
def name : Scanner Data := fun s =>
  ((after? "null" s).map (Data.null, ·)).or <|
  ((after? "true" s).map (Data.bool true, ·)).or <|
  (after? "false" s).map (Data.bool false, ·)

/-! ## Lists and tables -/

/-- Items separated by commas, up to a closing bracket; `n` bounds their number. -/
def items {α : Type} (close : Char) (item : Scanner α) : Nat → Scanner (List α)
  | 0, _ => none
  | n + 1, s => do
    let (a, rest) ← item (skipSpace s)
    match skipSpace rest with
    | c :: rest =>
      if c = close then return ([a], rest)
      else if c = ',' then
        let (more, rest) ← items close item n rest
        return (a :: more, rest)
      else none
    | [] => none

/-- Items after an opening bracket, possibly none. -/
def bracketed {α : Type} (opening close : Char) (item : Scanner α) : Scanner (List α) := fun s => do
  let rest ← Text.afterOne? (· = opening) s
  match Text.afterOne? (· = close) (skipSpace rest) with
  | some rest => return ([], rest)
  | none => items close item rest.length rest

/-- A name and a value. -/
def member (value : Scanner Data) : Scanner (Data × Data) := fun s => do
  let (key, rest) ← string s
  let rest ← after? ":" (skipSpace rest)
  let (d, rest) ← value (skipSpace rest)
  return ((key, d), rest)

/-- The table of members, if each of their names denotes a text. -/
def tableOf (members : List (Data × Data)) : Data :=
  match members.mapM fun (key, d) => key.text?.map (·, d) with
  | some fields => .table .closed fields
  | none => .undecodable

/-- A value whose brackets nest at most `n` deep. -/
def value : Nat → Scanner Data
  | 0, _ => none
  | n + 1, s =>
    match s with
    | '"' :: _ => string s
    | '[' :: _ => (bracketed '[' ']' (value n) s).map fun (ds, rest) => (.list .closed ds, rest)
    | '{' :: _ =>
      (bracketed '{' '}' (member (value n)) s).map fun (members, rest) => (tableOf members, rest)
    | _ => (name s).or (number s)

/-- Reads a JSON text. -/
def parse? (s : Text) : Option Data := do
  let (d, rest) ← value (s.length + 1) (skipSpace s)
  guard (skipSpace rest).isEmpty
  return d

end CommonChangelog.Json
