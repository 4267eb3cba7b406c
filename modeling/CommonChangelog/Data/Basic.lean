import CommonChangelog.Text.Basic

/-!
# Structured data

The common form of what TOML documents and JSON texts hold. Numbers and timestamps are told apart
but keep no value, because no setting and no field of a release is one. Tables keep how they were
written: a TOML document may extend some of them later and others not.
-/

namespace CommonChangelog

/-- How a table came about. -/
inductive TableForm where
  /-- Written in one place, and complete. -/
  | closed
  /-- By a header of its own. -/
  | headed
  /-- As a parent of a table that has a header. -/
  | implied
  /-- As a parent of a dotted key. -/
  | dotted
  deriving DecidableEq, Repr

/-- How a list came about. -/
inductive ListForm where
  | closed
  /-- By the headers of its tables. -/
  | headed
  deriving DecidableEq, Repr

/-- A value of a document. -/
inductive Data where
  | null
  | bool (b : Bool)
  | number
  | timestamp
  | text (t : Text)
  /-- A string whose escapes denote no characters, or a table with such a name in it. -/
  | undecodable
  | list (form : ListForm) (items : List Data)
  | table (form : TableForm) (fields : List (Text × Data))
  deriving Inhabited

/-- The formats that data is read from, which differ in how lists stand for records and units. -/
inductive DataFormat where
  | json
  | toml
  deriving DecidableEq, Repr

namespace Data

/-- The text of a value that is one. -/
def text? : Data → Option Text
  | text t => some t
  | _ => none

def bool? : Data → Option Bool
  | bool b => some b
  | _ => none

def list? : Data → Option (List Data)
  | list _ items => some items
  | _ => none

def fields? : Data → Option (List (Text × Data))
  | table _ fields => some fields
  | _ => none

/-- The values of a list all of whose items are texts. -/
def texts? (d : Data) : Option (List Text) := d.list? >>= fun items => items.mapM text?

/--
The fields of a record. A record is a table, whose other entries are ignored, or a list of the
values in the order of the names; only a list of a TOML document may have more items than there
are names, which count for nothing. No name may be given twice.
-/
def record? (format : DataFormat) (names : List Text) : Data → Option (List (Text × Data))
  | table _ fields =>
    let known := fields.filter fun field => names.contains field.1
    if known.length = (known.map (·.1)).eraseDups.length then some known else none
  | list _ items =>
    if format = .toml ∨ items.length ≤ names.length then some (names.zip items) else none
  | timestamp => some []
  | _ => none

/-- Data that stands for nothing: null, and in a TOML document an empty list or table. -/
def isUnit (format : DataFormat) : Data → Bool
  | null => true
  | list _ [] | table _ [] => format = .toml
  | _ => false

/-- A field that is read if it is present and has a default otherwise. -/
def field? {α : Type} (fields : List (Text × Data)) (name : Text) (read : Data → Option α)
    (missing : α) : Option α :=
  match fields.lookup name with
  | some d => read d
  | none => some missing

/-- A value or null. -/
def optional? {α : Type} (read : Data → Option α) : Data → Option (Option α)
  | null => some none
  | d => (read d).map some

end Data

end CommonChangelog
