import CommonChangelog.Data.Json

/-!
# TOML documents

`Toml.parse?` reads a document of TOML 1.0. A document is a sequence of lines: a key and a value, a
header that opens a table, or nothing. Keys may be dotted. A table may be defined only once, and
the forms of tables decide what may be added to one later.
-/

namespace CommonChangelog.Toml

open Text (after? run?)

/-! ## Blanks, comments and line ends -/

def isSpace (c : Char) : Bool := c = ' ' || c = '\t'

def skipSpace (s : Text) : Text := s.dropWhile isSpace

/-- A character that comments may hold: no control character but the tab. -/
def isPlain (c : Char) : Bool := c = '\t' || (0x20 ≤ c.toNat && c.toNat ≠ 0x7f)

/-- A newline, or a carriage return and a newline. -/
def newline? (s : Text) : Option Text := (after? "\n" s).or (after? "\r\n" s)

/-- The rest after a comment, if there is one. -/
def skipComment (s : Text) : Text :=
  match s with
  | '#' :: rest => rest.dropWhile isPlain
  | _ => s

/-- Blanks and a comment up to the end of the line or of the document. -/
def lineEnd? (s : Text) : Option Text :=
  match skipComment (skipSpace s) with
  | [] => some []
  | rest => newline? rest

/-- Blanks and newlines, and perhaps comments; `n` bounds the number of newlines. -/
def skipLines (comments : Bool) : Nat → Text → Text
  | 0, s => s
  | n + 1, s =>
    let s := skipSpace s
    match newline? (if comments then skipComment s else s) with
    | some rest => skipLines comments n rest
    | none => s

/-- Blanks, newlines and comments, as they may stand between the items of a list. -/
def skipAll (s : Text) : Text := skipLines true (s.length + 1) s

/-! ## Strings -/

/-- A code point given by hexadecimal digits, if it is a character. -/
def codePoint? (digits : Text) : Option Char := do
  let n ← Json.hexNumber? digits
  guard (n < 0xd800 ∨ 0xdfff < n ∧ n < 0x110000)
  return Char.ofNat n

/-- An escape after its backslash. -/
def escape : Scanner Char := fun s =>
  match s with
  | 'u' :: rest => do
    guard (4 ≤ rest.length)
    return (← codePoint? (rest.take 4), rest.drop 4)
  | 'U' :: rest => do
    guard (8 ≤ rest.length)
    return (← codePoint? (rest.take 8), rest.drop 8)
  | '/' :: _ => none
  | c :: rest => (Json.simpleEscape? c).map (·, rest)
  | [] => none

/-- The characters of a basic string up to its closing quote; `n` bounds their number. -/
def basicChars : Nat → Scanner Text
  | 0, _ => none
  | n + 1, s =>
    match s with
    | '"' :: rest => some ([], rest)
    | '\\' :: rest => do
      let (c, rest) ← escape rest
      let (more, rest) ← basicChars n rest
      return (c :: more, rest)
    | c :: rest => do
      guard (isPlain c)
      let (more, rest) ← basicChars n rest
      return (c :: more, rest)
    | [] => none

/-- A string in double quotes, with escapes. -/
def basicString : Scanner Text := fun s => do
  let rest ← after? "\"" s
  basicChars (rest.length + 1) rest

/-- A string in single quotes, without escapes. -/
def literalString : Scanner Text := fun s => do
  let (chars, rest) := Text.spanOf (fun c => isPlain c && c ≠ '\'') (← after? "'" s)
  return (chars, ← after? "'" rest)

/-- A backslash at the end of a line takes the line end, blanks and empty lines after it away. -/
def continuation? (s : Text) : Option Text := do
  let rest ← newline? (skipSpace s)
  return skipLines false (rest.length + 1) rest

/--
The characters of a string of several lines, whose quote is `q`, up to its three closing quotes,
before which two more may stand; `n` bounds the number of steps.
-/
def multilineChars (q : Char) (escapes : Bool) : Nat → Scanner Text
  | 0, _ => none
  | n + 1, s =>
    match newline? s with
    | some rest => do
      let (more, rest) ← multilineChars q escapes n rest
      return ('\n' :: more, rest)
    | none =>
      match s with
      | [] => none
      | c :: cs =>
        if c = q then
          let (quotes, rest) := Text.spanOf (· = q) s
          if quotes.length ≤ 2 then do
            let (more, rest) ← multilineChars q escapes n rest
            return (quotes ++ more, rest)
          else if quotes.length ≤ 5 then some (quotes.drop 3, rest)
          else none
        else if c = '\\' && escapes then
          match continuation? cs with
          | some rest => multilineChars q escapes n rest
          | none => do
            let (e, rest) ← escape cs
            let (more, rest) ← multilineChars q escapes n rest
            return (e :: more, rest)
        else do
          guard (isPlain c)
          let (more, rest) ← multilineChars q escapes n cs
          return (c :: more, rest)

/-- A string of several lines; a newline right after its opening quotes does not count. -/
def multilineString (q : Char) (escapes : Bool) : Scanner Text := fun s => do
  let rest ← after? [q, q, q] s
  let rest := (newline? rest).getD rest
  multilineChars q escapes (rest.length + 1) rest

/-- A string of any form. -/
def string : Scanner Text := fun s =>
  if Text.startsWith "\"\"\"" s then multilineString '"' true s
  else if Text.startsWith "'''" s then multilineString '\'' false s
  else (basicString s).or (literalString s)

/-! ## Numbers and timestamps -/

/-- Digits of a class with single underscores between them. -/
def digitsOf (p : Char → Bool) (s : Text) : Option (Text × Text) := do
  let (run, rest) := Text.spanOf (fun c => p c || c = '_') s
  let groups := Text.split '_' run
  guard (groups.all fun group => !group.isEmpty)
  return (groups.flatten, rest)

def isSign (c : Char) : Bool := c = '+' || c = '-'

/-- A decimal integer without leading zeros, giving its digits. -/
def decimal (s : Text) : Option (Text × Text) := do
  let (digits, rest) ← digitsOf Text.isAsciiDigit (Text.skipOne isSign s)
  guard (digits.head? ≠ some '0' || digits.length = 1)
  return (digits, rest)

/-- The largest integer, and with a minus sign one more. -/
def integerLimit (negative : Bool) : Nat := 0x8000000000000000 - if negative then 0 else 1

def decimalInteger (s : Text) : Option Text := do
  let (digits, rest) ← decimal s
  guard (Text.digitsValue digits ≤ integerLimit (s.head? = some '-'))
  return rest

/-- The value of digits of a base. -/
def baseValue (base : Nat) (digits : Text) : Nat :=
  digits.foldl (fun n c => n * base + (Json.hexValue? c).getD 0) 0

/-- An integer of another base, after its mark. -/
def basedInteger (mark : Text) (base : Nat) (s : Text) : Option Text := do
  let isBaseDigit := fun c => (Json.hexValue? c).any (· < base)
  let (digits, rest) ← digitsOf isBaseDigit (← after? mark s)
  guard (baseValue base digits ≤ integerLimit false)
  return rest

def integer (s : Text) : Option Text :=
  (basedInteger "0x" 16 s).or <| (basedInteger "0o" 8 s).or <| (basedInteger "0b" 2 s).or <|
  decimalInteger s

/-- A point and digits, giving the digits. -/
def fraction : Scanner Text := fun s => do
  digitsOf Text.isAsciiDigit (← after? "." s)

/-- An exponent, giving its value; leading zeros are allowed. -/
def exponent : Scanner Int := fun s => do
  let rest ← Text.afterOne? (fun c => c = 'e' || c = 'E') s
  let (digits, after) ← digitsOf Text.isAsciiDigit (Text.skipOne isSign rest)
  let size : Int := Text.digitsValue digits
  return (if rest.head? = some '-' then -size else size, after)

/--
The digits of the least number that is rounded to infinity: half a unit in the last place above the
largest 64-bit floating-point number.
-/
def infinityDigits : Text :=
  "179769313486231580793728971405303415079934132710037826936173778980444968292764750946649017" ++
  "977587207096330286416692887910946555547851940402630657488671505820681908902000708383676273" ++
  "854845817711531764475730270069855571366959622842914819860834936475292719074168444365510704" ++
  "342711559699508093042880177904174497792"

/--
The number that the digits write, of which `scale` stand behind the point, is rounded to infinity.
Of two numbers with equally many places before the point the digits decide.
-/
def isInfinite (digits : Text) (scale : Int) : Bool :=
  let digits := digits.dropWhile (· = '0')
  let places := digits.length - scale
  !digits.isEmpty &&
    (infinityDigits.length < places ||
      places = infinityDigits.length && (Text.order infinityDigits digits).isLE)

/--
A number with a fraction or an exponent, or one of the special numbers. Digits may not write a
positive number that is too large, but they may write a negative one.
-/
def float (s : Text) : Option Text :=
  let unsigned := Text.skipOne isSign s
  ((after? "inf" unsigned).or (after? "nan" unsigned)).or do
    let (whole, rest) ← decimal s
    let (decimals, power, rest) ←
      match fraction rest with
      | some (decimals, rest) =>
        let (power, rest) := (exponent rest).getD (0, rest)
        some (decimals, power, rest)
      | none => (exponent rest).map fun (power, rest) => ([], power, rest)
    guard (s.head? = some '-' || !isInfinite (whole ++ decimals) (decimals.length - power))
    return rest

/-- Exactly `n` digits whose value lies between two bounds. -/
def bounded (n least most : Nat) : Scanner Nat := fun s => do
  let (digits, rest) ← Text.exactly? n Text.isAsciiDigit s
  let value := Text.digitsValue digits
  guard (least ≤ value ∧ value ≤ most)
  return (value, rest)

/-- The days of a month. -/
def monthLength (year month : Nat) : Nat :=
  if month = 2 then if year % 4 = 0 ∧ (year % 100 ≠ 0 ∨ year % 400 = 0) then 29 else 28
  else if month = 4 ∨ month = 6 ∨ month = 9 ∨ month = 11 then 30 else 31

def date (s : Text) : Option Text := do
  let (year, rest) ← bounded 4 0 9999 s
  let (month, rest) ← bounded 2 1 12 (← after? "-" rest)
  let (_, rest) ← bounded 2 1 (monthLength year month) (← after? "-" rest)
  return rest

/-- A point and any number of digits, or nothing. -/
def secondFraction (s : Text) : Text :=
  match after? "." s with
  | none => s
  | some rest => ((run? Text.isAsciiDigit rest).map (·.2)).getD s

def time (s : Text) : Option Text := do
  let (_, rest) ← bounded 2 0 23 s
  let (_, rest) ← bounded 2 0 59 (← after? ":" rest)
  let (_, rest) ← bounded 2 0 60 (← after? ":" rest)
  return secondFraction rest

/-- An offset from UTC. -/
def offset (s : Text) : Option Text :=
  (Text.afterOne? (fun c => c = 'Z' || c = 'z') s).or do
    let (_, rest) ← bounded 2 0 23 (← Text.afterOne? isSign s)
    let (_, rest) ← bounded 2 0 59 (← after? ":" rest)
    return rest

/-- A date, a time, or both, perhaps with an offset. -/
def timestamp (s : Text) : Option Text :=
  match date s with
  | none => time s
  | some rest =>
    let timed := do
      let rest ← time (← Text.afterOne? (fun c => c = 'T' || c = 't' || c = ' ') rest)
      return (offset rest).getD rest
    some (timed.getD rest)

/-- A value that is no string, list or table. -/
def bare : Scanner Data := fun s =>
  ((after? "true" s).map (Data.bool true, ·)).or <|
  ((after? "false" s).map (Data.bool false, ·)).or <|
  ((timestamp s).map (Data.timestamp, ·)).or <|
  ((float s).or (integer s)).map (Data.number, ·)

/-! ## Keys -/

/-- A character of a key without quotes. -/
def isKeyChar (c : Char) : Bool := c.isAlphanum || c = '_' || c = '-'

/-- One part of a key. -/
def keyPart : Scanner Text := fun s =>
  match s with
  | '"' :: _ => basicString s
  | '\'' :: _ => literalString s
  | _ => run? isKeyChar s

/-- Parts with dots between them and blanks around the dots; `n` bounds their number. -/
def keyParts : Nat → Scanner (List Text)
  | 0, _ => none
  | n + 1, s => do
    let (part, rest) ← keyPart (skipSpace s)
    match after? "." (skipSpace rest) with
    | none => return ([part], skipSpace rest)
    | some rest =>
      let (more, rest) ← keyParts n rest
      return (part :: more, rest)

/-- How deep lists and tables on one line may nest, and how many parts a key may have. -/
def depthLimit : Nat := 79

/-- A key with the blanks around it. -/
def key : Scanner (List Text) := fun s => do
  let (path, rest) ← keyParts (s.length + 1) s
  guard (path.length ≤ depthLimit)
  return (path, rest)

/-! ## Tables -/

/-- The fields with the entry of one name replaced or, if there is none, added at the end. -/
def put (fields : List (Text × Data)) (name : Text) (d : Data) : List (Text × Data) :=
  if (fields.lookup name).isSome then
    fields.map fun field => if field.1 = name then (name, d) else field
  else fields ++ [(name, d)]

/-- What is done at the end of a path: a table in some form gets other fields. -/
abbrev Edit := TableForm → List (Text × Data) → Option (TableForm × List (Text × Data))

/-- Edits the last table of a list. -/
def editLast (edit : Edit) (tables : List Data) : Option (List Data) :=
  match tables.getLast? with
  | some (.table form fields) => do
    let (form, fields) ← edit form fields
    return tables.dropLast ++ [.table form fields]
  | _ => none

/-- What lies under a name when a path goes through it. -/
def editUnder (through : TableForm) (edit : Edit) : Option Data → Option Data
  | none => do
    let (form, fields) ← edit through []
    return .table form fields
  | some (.table .closed _) => none
  | some (.table form fields) => do
    guard (through ≠ .dotted ∨ form = .implied ∨ form = .dotted)
    let (form, fields) ← edit form fields
    return .table form fields
  | some (.list .headed tables) => (editLast edit tables).map (.list .headed)
  | some _ => none

/--
Goes down a path and edits the table at its end. Missing tables come about in the form `through`:
implied on the way of a header, dotted on the way of a key. Tables with a header are closed to
dotted keys, and values that are no tables end every path.
-/
def descend (through : TableForm) : List Text → Edit → Edit
  | [], edit => edit
  | name :: path, edit => fun form fields => do
    let d ← editUnder through (descend through path edit) (fields.lookup name)
    return (form, put fields name d)

/-- Adds a new entry. Dotted keys add to tables of dotted keys only, and plain keys to others. -/
def insertNew (isDotted : Bool) (name : Text) (d : Data) : Edit := fun form fields => do
  guard ((form = .dotted ↔ isDotted) ∧ (fields.lookup name).isNone)
  return (form, put fields name d)

/-- Adds an entry under a key. -/
def insertKey (path : List Text) (d : Data) : Edit :=
  match path.reverse with
  | [] => fun _ _ => none
  | name :: parents =>
    descend .dotted parents.reverse (insertNew (!parents.isEmpty) name d)

/-- Opens a table by its header; a table that was only implied may be opened once. -/
def openTable (name : Text) : Edit := fun form fields =>
  match fields.lookup name with
  | none => some (form, put fields name (.table .headed []))
  | some (.table .implied inner) => some (form, put fields name (.table .headed inner))
  | some _ => none

/-- Adds a table to a list of tables by a header. -/
def openItem (name : Text) : Edit := fun form fields =>
  match fields.lookup name with
  | none => some (form, put fields name (.list .headed [.table .headed []]))
  | some (.list .headed tables) =>
    some (form, put fields name (.list .headed (tables ++ [.table .headed []])))
  | some _ => none

/-- Opens what a header names. -/
def openHeader (isList : Bool) (path : List Text) : Edit :=
  match path.reverse with
  | [] => fun _ _ => none
  | name :: parents =>
    descend .implied parents.reverse (if isList then openItem name else openTable name)

/-! ## Values -/

/-- Items of a list, separated by commas, up to the closing bracket; a last comma is allowed. -/
def listItems (value : Scanner Data) : Nat → Scanner (List Data)
  | 0, _ => none
  | n + 1, s =>
    match skipAll s with
    | ']' :: rest => some ([], rest)
    | s => do
      let (d, rest) ← value s
      match skipAll rest with
      | ',' :: rest =>
        let (more, rest) ← listItems value n rest
        return (d :: more, rest)
      | ']' :: rest => return ([d], rest)
      | _ => none

/-- Entries of a table on one line, separated by commas, up to the closing brace. -/
def inlineEntries (value : Scanner Data) : Nat → Scanner (List (List Text × Data))
  | 0, _ => none
  | n + 1, s => do
    let (path, rest) ← key s
    let (d, rest) ← value (skipSpace (← after? "=" rest))
    match skipSpace rest with
    | ',' :: rest =>
      let (more, rest) ← inlineEntries value n rest
      return ((path, d) :: more, rest)
    | '}' :: rest => return ([(path, d)], rest)
    | _ => none

/-- The table that entries make up. -/
def inlineTable (entries : List (List Text × Data)) : Option Data := do
  let (_, fields) ← entries.foldlM
    (fun (form, fields) (path, d) => insertKey path d form fields) (TableForm.closed, [])
  return .table .closed fields

/-- A value that is no list and no table. -/
def scalar : Scanner Data := fun s =>
  match s with
  | '"' :: _ | '\'' :: _ => (string s).map fun (t, rest) => (.text t, rest)
  | _ => bare s

/-- A value whose lists and tables nest at most `n` deep. -/
def value : Nat → Scanner Data
  | 0, s => scalar s
  | n + 1, s =>
    match s with
    | '[' :: rest =>
      (listItems (value n) (rest.length + 1) rest).map fun (ds, rest) => (.list .closed ds, rest)
    | '{' :: rest =>
      match skipSpace rest with
      | '}' :: rest => some (.table .closed [], rest)
      | rest => do
        let (entries, rest) ← inlineEntries (value n) (rest.length + 1) rest
        return (← inlineTable entries, rest)
    | _ => scalar s

/-! ## Documents -/

/-- What has been read so far: the fields of the document, and the table that keys belong to. -/
structure Reader where
  fields : List (Text × Data) := []
  header : List Text := []

/-- The document after an edit at its root. -/
def Reader.edit (reader : Reader) (edit : Edit) : Option Reader := do
  let (_, fields) ← edit .headed reader.fields
  return { reader with fields }

/-- A header in brackets, or in two pairs of brackets. -/
def header (reader : Reader) (s : Text) : Option (Reader × Text) :=
  match after? "[[" s with
  | some rest => do
    let (path, rest) ← key rest
    let rest ← lineEnd? (← after? "]]" rest)
    return ({ ← reader.edit (openHeader true path) with header := path }, rest)
  | none => do
    let (path, rest) ← key (← after? "[" s)
    let rest ← lineEnd? (← after? "]" rest)
    return ({ ← reader.edit (openHeader false path) with header := path }, rest)

/-- A key and its value. -/
def entry (reader : Reader) (s : Text) : Option (Reader × Text) := do
  let (path, rest) ← key s
  let (d, rest) ← value depthLimit (skipSpace (← after? "=" rest))
  let rest ← lineEnd? rest
  return (← reader.edit (descend .implied reader.header (insertKey path d)), rest)

/-- Reads the lines of a document; `n` bounds their number. -/
def lines : Nat → Reader → Text → Option Reader
  | _, reader, [] => some reader
  | 0, _, _ => none
  | n + 1, reader, s =>
    match skipSpace s with
    | '[' :: rest => do
      let (reader, rest) ← header reader ('[' :: rest)
      lines n reader rest
    | s =>
      match lineEnd? s with
      | some rest => lines n reader rest
      | none => do
        let (reader, rest) ← entry reader s
        lines n reader rest

/-- Reads a document, of which a byte order mark is no part. -/
def parse? (s : Text) : Option Data := do
  let reader ← lines (s.length + 1) {} (Text.skipOne (· = '\ufeff') s)
  return .table .headed reader.fields

end CommonChangelog.Toml
