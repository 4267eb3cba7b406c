import CommonChangelog.Version.Bump

/-!
# Errors

An error belongs to an area, whose name opens the message. Where the library itself finds the
fault, the cause is kept; what other systems report is kept as their text.
-/

namespace CommonChangelog

/-- What an error is about. -/
inductive Area where
  | git | config | version | changelog | github | files | json
  deriving DecidableEq, Repr

namespace Area

/-- What a message of this area begins with. -/
def label : Area → Text
  | git => "Git operation failed"
  | config => "Configuration error"
  | version => "Invalid version"
  | changelog => "Changelog error"
  | github => "GitHub request failed"
  | files => "I/O error"
  | json => "JSON error"

/-- The message of an error of this area. -/
def describe (area : Area) (detail : Text) : Text := area.label ++ ": " ++ detail

end Area

/-- Why an operation has no result. -/
inductive Error where
  /-- The repository could not be opened. -/
  | repository (detail : Text)
  /-- The history has no beginning to read from. -/
  | history (detail : Text)
  /-- The changelog has no release with a version. -/
  | noRelease
  | version (error : Version.Error)
  /-- The configuration is not well formed. -/
  | config (detail : Text)
  /-- A file could not be read. -/
  | file (detail : Text)
  /-- The releases could not be fetched. -/
  | github (detail : Text)
  deriving DecidableEq, Repr

namespace Error

def area : Error → Area
  | repository _ => .git
  | history _ => .changelog
  | noRelease => .changelog
  | version _ => .version
  | config _ => .config
  | file _ => .files
  | github _ => .github

/-- The message without its area. -/
def detail : Error → Text
  | repository detail => detail
  | history detail => "Cannot read git history: " ++ detail
  | noRelease => "No released version found"
  | version error => error.message
  | config detail => detail
  | file detail => detail
  | github detail => detail

def message (error : Error) : Text := error.area.describe error.detail

end Error

end CommonChangelog
