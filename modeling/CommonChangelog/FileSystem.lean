import CommonChangelog.Repository.Snapshot
import CommonChangelog.Text.Digit

/-!
# File systems

What is known of the files and directories around a working directory. A `Place` is a list of names
that leads down from the working directory, from a directory above it, or from the root; all of
these origins are directories. `FileSystem.place` resolves a path name by name: every name but the
last has to be that of a directory. What is not known to lie at a place counts as missing.
-/

namespace CommonChangelog

/-- Why a path cannot be read or written. -/
inductive FileFault where
  | missing
  | notDirectory
  | isDirectory
  | nameTooLong
  /-- No path holds the character that ends texts for the system. -/
  | nulCharacter
  deriving DecidableEq, Repr

namespace FileFault

/-- What is said about a fault. -/
def reason : FileFault → Text
  | missing => "No such file or directory"
  | notDirectory => "Not a directory"
  | isDirectory => "Is a directory"
  | nameTooLong => "File name too long"
  | nulCharacter => "file name contained an unexpected NUL byte"

/-- The number that the system gives a fault, if the system is asked at all. -/
def number? : FileFault → Option Nat
  | missing => some 2
  | notDirectory => some 20
  | isDirectory => some 21
  | nameTooLong => some 36
  | nulCharacter => none

def message (fault : FileFault) : Text :=
  match fault.number? with
  | some number => fault.reason ++ " (os error " ++ Text.ofNat number ++ ")"
  | none => fault.reason

end FileFault

/-! ## Places -/

namespace FileSystem

/-- Where the names of a place lead down from. -/
inductive Origin where
  /-- The directory so many levels above the working directory, which is the one at level zero. -/
  | above (levels : Nat)
  | root
  deriving DecidableEq, Repr

/-- Where a file or a directory may lie. -/
structure Place where
  origin : Origin := .above 0
  names : List Text := []
  deriving DecidableEq, Repr

namespace Place

/-- The shortest path of a place. -/
def path : Place → Text
  | ⟨.above levels, names⟩ => Text.join "/" (List.replicate levels ['.', '.'] ++ names)
  | ⟨.root, names⟩ => "/" ++ Text.join "/" names

/-- The place one level higher; the root lies in itself. -/
def up (place : Place) : Place :=
  match place.names, place.origin with
  | [], .above levels => { origin := .above (levels + 1) }
  | [], .root => place
  | _ :: _, _ => { place with names := place.names.dropLast }

/-- The place of a name in a directory. -/
def child (place : Place) (name : Text) : Place := { place with names := place.names ++ [name] }

end Place

end FileSystem

/-- What is known to lie around the working directory. -/
structure FileSystem where
  /-- The texts of files, by the paths of their places. -/
  texts : Snapshot := []
  /-- Directories besides the origins and those that a file lies in. -/
  directories : List FileSystem.Place := []
  deriving DecidableEq, Repr

namespace FileSystem

/-! ## What lies at a place -/

/-- What lies at a place. -/
inductive Node where
  | file (text : Text)
  | directory
  | nothing
  deriving DecidableEq, Repr

/-- The place is that of a directory. -/
def isDirectory (files : FileSystem) (place : Place) : Bool :=
  place.names.isEmpty || files.directories.contains place ||
    files.texts.any fun file => Snapshot.isBelow place.path file.1

/-- What lies at a place. -/
def nodeAt (files : FileSystem) (place : Place) : Node :=
  match files.texts.read? place.path with
  | some text => .file text
  | none => if files.isDirectory place then .directory else .nothing

/-- The file system in which this lies at the place. -/
def learn (files : FileSystem) (place : Place) : Node → FileSystem
  | .file text => { files with texts := files.texts.put place.path text }
  | .directory => { files with directories := place :: files.directories }
  | .nothing => files

/-- There is a directory at the place, or else the reason why not. -/
def requireDirectory (files : FileSystem) (place : Place) : Except FileFault Unit :=
  match files.nodeAt place with
  | .directory => .ok ()
  | .file _ => .error .notDirectory
  | .nothing => .error .missing

/-! ## Paths -/

/-- The path begins at the root of all files. -/
def isAbsolute (path : Text) : Bool := path.head? = some '/'

/-- The number of bytes that a text is stored in. -/
def byteCount (s : Text) : Nat := s.foldl (fun n c => n + c.utf8Size) 0

/-- How many bytes a path may have. -/
def pathLimit : Nat := 4095

/-- How many bytes a name may have. -/
def nameLimit : Nat := 255

/-- What is wrong with a path, wherever it leads. -/
def pathFault? (path : Text) : Option FileFault :=
  if '\x00' ∈ path then some .nulCharacter
  else if path.isEmpty then some .missing
  else if pathLimit < byteCount path then some .nameTooLong
  else none

/-- The place that names lead to from a place. -/
def walk (files : FileSystem) : Place → List Text → Except FileFault Place
  | place, [] => .ok place
  | place, name :: rest => do
    files.requireDirectory place
    if name.isEmpty || name = "." then walk files place rest
    else if name = ".." then walk files place.up rest
    else if nameLimit < byteCount name then .error .nameTooLong
    else walk files (place.child name) rest

/-- The place that some of the names of a path lead to from its origin. -/
def resolve (files : FileSystem) (path : Text) (names : List Text) : Except FileFault Place :=
  match pathFault? path with
  | some fault => .error fault
  | none => files.walk { origin := if isAbsolute path then .root else .above 0 } names

/-- The place of a path. -/
def place (files : FileSystem) (path : Text) : Except FileFault Place :=
  files.resolve path (Text.split '/' path)

/-- The place of a path at which something lies. -/
def find (files : FileSystem) (path : Text) : Except FileFault Place := do
  let place ← files.place path
  if files.nodeAt place = .nothing then .error .missing else .ok place

/-- Something lies at the path. -/
def isThere (files : FileSystem) (path : Text) : Bool := (files.find path).isOk

/-- The text of the file at a path. -/
def read (files : FileSystem) (path : Text) : Except FileFault Text := do
  match files.nodeAt (← files.place path) with
  | .file text => .ok text
  | .directory => .error .isDirectory
  | .nothing => .error .missing

/-- The names of a path without its last one, unless that one stands for a directory. -/
def directoryNames (path : Text) : List Text :=
  match (Text.split '/' path).reverse.dropWhile List.isEmpty with
  | [] => []
  | name :: parents => (if name = "." || name = ".." then name :: parents else parents).reverse

/--
The place of a file that can be written. Its directory exists, and it is no directory itself; a path
with a slash at its end is always that of a directory.
-/
def target (files : FileSystem) (path : Text) : Except FileFault Place :=
  if Text.endsWith "/" path then do
    files.requireDirectory (← files.resolve path (directoryNames path))
    .error .isDirectory
  else do
    let place ← files.place path
    if files.isDirectory place then .error .isDirectory else .ok place

/-- The path up to each of its names in turn. -/
def approaches (path : Text) : List Text :=
  let names := Text.split '/' path
  (List.range names.length).map fun n => Text.join "/" (names.take (n + 1))

/-- The path of a file below a directory; an absolute path stays as it is. -/
def below (directory path : Text) : Text :=
  if isAbsolute path || directory.isEmpty then path
  else if Text.endsWith "/" directory then directory ++ path
  else directory ++ "/" ++ path

end FileSystem

end CommonChangelog
