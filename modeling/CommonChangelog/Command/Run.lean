import CommonChangelog.Command.Basic
import CommonChangelog.Console
import CommonChangelog.Data.Decode
import CommonChangelog.Document.Sections
import CommonChangelog.FileSystem
import CommonChangelog.NextVersion
import CommonChangelog.Retrofit

/-!
# Running commands

A command is a function of its environment: the files, the user's configuration, the repositories
and the answer of `gh`. Its `Outcome` says what is printed, the exit code, and at most one file that
is written. Nothing is written by a dry run or by a command that fails.
-/

namespace CommonChangelog

/-- What `gh` printed, and its exit code unless a signal ended it. -/
structure GhAnswer where
  output : Text
  errors : Text
  code : Option Nat
  deriving DecidableEq, Repr

/-- What a command finds. -/
structure Environment where
  files : FileSystem
  /-- The configuration of the user, which holds if the project has none. -/
  userConfig : Option Text := none
  /-- The repository that a file or a directory lies in, or why it cannot be opened. -/
  repositoryAt : FileSystem.Place → Option (Except Text Repository) := fun _ => none
  /-- What `gh` answers, if it is there. -/
  gh : Option GhAnswer := none
  today : Text := []

/-- A file to be written: its place and its text. -/
structure FileWrite where
  place : FileSystem.Place
  text : Text
  deriving DecidableEq, Repr

namespace Environment

/-- Why no repository is found from a path that leads nowhere. -/
def unresolved (path : Text) (fault : FileFault) : Text :=
  let failed := "failed to resolve path '" ++ path ++ "': " ++ fault.reason ++ "; class=Os (2)"
  match fault with
  | .missing | .notDirectory | .isDirectory => failed ++ "; code=NotFound (-3)"
  | .nameTooLong => failed
  | .nulCharacter => "data contained a nul byte that could not be represented as a string"

/-- Why no repository is found from a path that lies in none. -/
def notFound (path : Text) : Text :=
  "could not find repository at '" ++ path ++ "'; class=Repository (6); code=NotFound (-3)"

/-- The repository that the file or the directory at a path lies in, or why there is none. -/
def openRepository (environment : Environment) (path : Text) : Except Error Repository :=
  match environment.files.find path with
  | .error fault => .error (.repository (unresolved path fault))
  | .ok place =>
    match environment.repositoryAt place with
    | some (.ok repository) => .ok repository
    | some (.error reason) => .error (.repository reason)
    | none => .error (.repository (notFound path))

end Environment

/-- What a command does. -/
structure Outcome where
  pieces : List Piece := []
  code : Nat := 0
  write : Option FileWrite := none
  /-- The arguments that `gh` was started with. -/
  ghArguments : Option (List Text) := none
  deriving DecidableEq, Repr

/-- The files after an outcome. -/
def FileSystem.after (files : FileSystem) (outcome : Outcome) : FileSystem :=
  match outcome.write with
  | none => files
  | some w => files.learn w.place (.file w.text)

namespace Outcome

/-- Prints something first. -/
def after (pieces : List Piece) (outcome : Outcome) : Outcome :=
  { outcome with pieces := pieces ++ outcome.pieces }

/-- Prints, and ends well. -/
def done (pieces : List Piece) : Outcome := { pieces }

/-- Prints the result of a check, and ends accordingly. -/
def checked (passed : Bool) (pieces : List Piece) : Outcome :=
  { pieces, code := if passed then 0 else 1 }

/-- Prints an error, and ends with a code. -/
def failed (message : Text) (code : Nat) : Outcome := { pieces := [Console.error message], code }

end Outcome

/-- Why a command could not be carried out. -/
inductive Failure where
  | unreadable (path : Text) (fault : FileFault)
  | unwritable (path : Text) (fault : FileFault)
  | noRepository (root : Text) (error : Error)
  | noHistory (error : Error)
  | other (error : Error)
  deriving DecidableEq, Repr

/-- The message of an error, and once more what another system reported. -/
def Error.chain (error : Error) : Text :=
  match error.area with
  | .git | .files | .json => error.message ++ ": " ++ error.detail
  | _ => error.message

namespace Failure

def message : Failure → Text
  | unreadable path fault => "Failed to read " ++ path ++ ": " ++ fault.message
  | unwritable path fault => "Failed to write " ++ path ++ ": " ++ fault.message
  | noRepository root error => "Not a git repository: " ++ root ++ ": " ++ error.chain
  | noHistory error => "Failed to read git history: " ++ error.chain
  | other error => error.chain

/-- The outcome of a command that could not be carried out. -/
def outcome (failure : Failure) : Outcome := Outcome.failed failure.message 1

end Failure

/-- What a command works with: its environment, the root of its paths, and the configuration. -/
structure Session where
  environment : Environment
  root : Text
  config : Config

namespace Session

def rules (session : Session) : Rules := session.config.rules

/-- A path below the root. -/
def path (session : Session) (path : Text) : Text := FileSystem.below session.root path

/-- The path of the changelog, by default the configured one. -/
def changelogPath (session : Session) (file : Option Text) : Text :=
  session.path (file.getD session.config.changelogPath)

/-- Something lies at the path. -/
def isThere (session : Session) (path : Text) : Bool := session.environment.files.isThere path

/-- Goes on with the text of a file. -/
def withFile (session : Session) (path : Text) (next : Text → Outcome) : Outcome :=
  match session.environment.files.read path with
  | .ok text => next text
  | .error fault => (Failure.unreadable path fault).outcome

/-- The repository that the root lies in, or why there is none. -/
def openRepository (session : Session) : Except Error Repository :=
  session.environment.openRepository session.root

/-- Goes on with the repository. -/
def withRepository (session : Session) (next : Repository → Outcome) : Outcome :=
  match session.openRepository with
  | .ok repository => next repository
  | .error e => (Failure.noRepository session.root e).outcome

/-- Goes on with the history. -/
def withHistory (session : Session) (next : List Commit → Outcome) : Outcome :=
  session.withRepository fun repository =>
    match repository.history with
    | .ok log => next log
    | .error e => (Failure.noHistory e).outcome

/-- The history, or an empty one if there is none. -/
def historyOrEmpty (session : Session) : List Commit :=
  match session.openRepository with
  | .ok repository => repository.history.toOption.getD []
  | .error _ => []

/-- Writes a file, and says what is printed then. -/
def save (session : Session) (path text : Text) (success : Text) : Outcome :=
  match session.environment.files.target path with
  | .ok place => { pieces := [Console.success success], write := some ⟨place, text⟩ }
  | .error fault => (Failure.unwritable path fault).outcome

/-- What is printed if there is nowhere to write to. -/
def noOutput : Text := "--output is required (or use --dry-run)"

/-- Prints a document or writes it to the output. -/
def emit (session : Session) (markdown : Text) (output : Option Text) (dryRun : Bool) : Outcome :=
  if dryRun then .done (Console.dryRun markdown)
  else match output with
    | none => .failed noOutput 1
    | some output =>
      let path := session.path output
      session.save path markdown ("Output written to: " ++ path)

/-- The repository that links point to: the given one, else the configured one. -/
def repositoryUrl (session : Session) (given : Option Text) : Option Text :=
  given.or session.config.repository

/-! ## The commands -/

def validate (session : Session) (file : Option Text) : Outcome :=
  let path := session.changelogPath file
  if session.isThere path then
    session.withFile path fun content =>
      let report := CommonChangelog.validate session.rules content
      .checked report.passed report.display
  else .failed (path ++ " not found") 1

/-- What is being repaired by sorting. -/
def sortStatus (session : Session) (content : Text) : Text :=
  if releasesSorted session.rules content then "Moving Unreleased to the top"
  else "Reordering releases newest-first"

def sort (session : Session) (file : Option Text) (dryRun : Bool) : Outcome :=
  let path := session.changelogPath file
  session.withFile path fun content =>
    let sorted := sortReleases content
    if sorted = content then
      .done [Console.success
        "Releases are already in order (Unreleased first, then newest-first)"]
    else
      .after [Console.status (session.sortStatus content)] <|
        if dryRun then .done (Console.dryRun sorted)
        else session.save path sorted ("Sorted releases in " ++ path)

def checkUpdated (session : Session) (skipBranch : Bool) (staged : List Text) : Outcome :=
  session.withRepository fun repository =>
    let given := if staged.isEmpty then none else some staged
    let check := UpdateCheck.run repository session.config.exclusions given skipBranch
    .checked check.passed check.display

/-- The outcome of comparing the history with the numbers of a changelog. -/
def compareCoverage (session : Session) (log : List Commit) (written : List UInt64) : Outcome :=
  let coverage := Coverage.compare (Coverage.ofLog session.rules log) written
  .checked coverage.passed coverage.display

def coverage (session : Session) (file : Option Text) : Outcome :=
  session.withHistory fun log =>
    let path := session.changelogPath file
    if session.isThere path then
      session.withFile path fun content =>
        session.compareCoverage log (Coverage.ofChangelog content)
    else session.compareCoverage log []

def migrate (session : Session) (input : Text) (output repository : Option Text)
    (dryRun : Bool) : Outcome :=
  let path := session.path input
  if session.isThere path then
    .after [Console.status ("Migrating: " ++ path)] <|
      session.withFile path fun content =>
        match migrate? session.rules (session.repositoryUrl repository) content with
        | none => .done [Console.success "Already in Common Changelog format, skipping."]
        | some migration =>
          .after ([Console.status ("Original format: " ++ migration.dialect.name),
              Console.status ("Releases converted: " ++ Text.ofNat migration.releaseCount)] ++
              Console.todoHint migration.todoCount) <|
            session.emit migration.output (some (output.getD input)) dryRun
  else .failed ("Input file not found: " ++ path) 1

def retrofit (session : Session) (version : Text) (date repository output : Option Text)
    (dryRun : Bool) : Outcome :=
  session.withHistory fun log =>
    let result := Retrofit.ofLog session.rules version
      (date.getD session.environment.today) (session.repositoryUrl repository) log
    .after [Console.status ("PRs documented: " ++ Text.ofNat result.mergeCount)] <|
      session.emit result.markdown output dryRun

/-- What `gh` is asked for. -/
def ghEndpoint (repo : Text) : Text := "repos/" ++ repo ++ "/releases?per_page=100"

/-- The filter that writes each release on a line of its own. -/
def ghFilter : Text := ".[] | \x7btag_name, name, body, published_at, prerelease\x7d"

def ghArguments (repo : Text) : List Text := ["api", ghEndpoint repo, "--jq", ghFilter]

/-- The exit code as it is reported. -/
def exitText : Option Nat → Text
  | some code => Text.ofNat code
  | none => "-1"

/--
The answer of `gh`, or why `gh` cannot be started: its arguments cannot be handed over, or it is not
there.
-/
def askGh (session : Session) (repo : Text) : Except Text GhAnswer :=
  if '\x00' ∈ repo then .error "nul byte found in provided data"
  else match session.environment.gh with
    | some answer => .ok answer
    | none => .error FileFault.missing.message

/-- The releases that `gh` gives, or why it gives none. -/
def fetch (session : Session) (repo : Text) : Except Error (List PublishedRelease) :=
  match session.askGh repo with
  | .error reason => .error (.github ("Failed to run gh: " ++ reason))
  | .ok answer =>
    if answer.code = some 0 then .ok (PublishedRelease.ofOutput answer.output)
    else .error (.github ("gh api " ++ ghEndpoint repo ++ " failed with exit code " ++
      exitText answer.code ++ "\nStdout: " ++ Text.trim answer.output ++
      "\nStderr: " ++ Text.trim answer.errors))

/-- The address of a repository on GitHub. -/
def githubUrl (repo : Text) : Text := "https://github.com/" ++ repo

/-- Imports releases that were fetched. -/
def importFetched (session : Session) (repo : Text) (output : Option Text)
    (prereleases dryRun : Bool) (releases : List PublishedRelease) : Outcome :=
  let url := session.config.repository.getD (githubUrl repo)
  let result := Import.ofReleases (some url) prereleases releases
  .after ([Console.status ("Found " ++ Text.ofNat releases.length ++ " releases"),
      Console.status ("Releases imported: " ++ Text.ofNat result.releaseCount)] ++
      Console.todoHint result.todoCount) <|
    session.emit result.markdown output dryRun

def importReleases (session : Session) (repo : Text) (output : Option Text)
    (prereleases dryRun : Bool) : Outcome :=
  if output.isNone && !dryRun then .failed noOutput 1
  else
    let outcome := match session.fetch repo with
      | .ok releases => session.importFetched repo output prereleases dryRun releases
      | .error e => (Failure.other e).outcome
    { outcome.after [Console.status ("Fetching releases from " ++ repo ++ "...")] with
      ghArguments := (session.askGh repo).toOption.map fun _ => ghArguments repo }

def nextVersion (session : Session) (file : Option Text) : Outcome :=
  session.withFile (session.changelogPath file) fun content =>
    let changelog := Changelog.ofText session.rules content
    match NextVersion.suggest session.rules changelog session.historyOrEmpty with
    | .ok (some suggestion) =>
      .done [Console.status ("Latest release: " ++ suggestion.current),
        Console.success ("Suggested next version: " ++ suggestion.next.text ++ " (" ++
          suggestion.impact.bump.name ++ ")")]
    | .ok none => .done [Console.status "No unreleased changes"]
    | .error e => .failed e.message 1

end Session

/-- Prints a version after a bump. A faulty version is a fault of usage. -/
def bumpOutcome (version : Text) (kind : Bump) : Outcome :=
  match Version.bumpText version kind with
  | .ok next => .done [Console.result next.text]
  | .error e => .failed (Error.version e).message 2

/-- Runs a command in a session. -/
def Command.run (session : Session) : Command → Outcome
  | .validate file => session.validate file
  | .sort file dryRun => session.sort file dryRun
  | .checkUpdated skipBranch staged => session.checkUpdated skipBranch staged
  | .coverage file => session.coverage file
  | .migrate input output repository dryRun => session.migrate input output repository dryRun
  | .retrofit version date repository output dryRun =>
    session.retrofit version date repository output dryRun
  | .importReleases repo output prereleases dryRun =>
    session.importReleases repo output prereleases dryRun
  | .nextVersion file => session.nextVersion file
  | .bump version kind => bumpOutcome version kind

/-- The paths that a command reads or writes. -/
def Command.paths (session : Session) : Command → List Text
  | .validate file | .sort file _ | .coverage file | .nextVersion file =>
    [session.changelogPath file]
  | .migrate input output _ _ => (input :: output.toList).map session.path
  | .retrofit _ _ _ output _ | .importReleases _ output _ _ => output.toList.map session.path
  | .checkUpdated _ _ | .bump _ _ => []

namespace Invocation

/-- The name of the configuration file of a project. -/
def configFile : Text := "changelog-kit.toml"

/-- The configuration file of the project that the root belongs to. -/
def projectFile (invocation : Invocation) : Text := FileSystem.below invocation.root configFile

/-- The text of the configuration: of the given file, of the project, or of the user. -/
def configText (environment : Environment) (invocation : Invocation) :
    Except Error (Option Text) :=
  let readConfig (path : Text) : Except Error (Option Text) :=
    match environment.files.read path with
    | .ok text => .ok (some text)
    | .error fault => .error (.file fault.message)
  match invocation.config with
  | some path => readConfig path
  | none =>
    if environment.files.isThere invocation.projectFile then readConfig invocation.projectFile
    else .ok environment.userConfig

/-- The configuration that holds. -/
def loadConfig (environment : Environment) (invocation : Invocation) : Except Error Config := do
  match ← invocation.configText environment with
  | none => return {}
  | some text =>
    match Config.ofToml? text with
    | some config => return config
    | none => throw (.config "TOML parse error")

/-- What the command works with, or why the configuration does not hold. -/
def session (environment : Environment) (invocation : Invocation) : Except Error Session := do
  return { environment, root := invocation.root, config := ← invocation.loadConfig environment }

/-- The paths on which the configuration depends. -/
def configPaths (invocation : Invocation) : List Text :=
  invocation.config.toList ++ [invocation.projectFile]

/-- The paths on which the rest depends, once the configuration is known. -/
def commandPaths (environment : Environment) (invocation : Invocation) : List Text :=
  match invocation.session environment with
  | .ok session => invocation.command.paths session
  | .error _ => []

/-- Runs a command line. -/
def run (environment : Environment) (invocation : Invocation) : Outcome :=
  match invocation.session environment with
  | .ok session => invocation.command.run session
  | .error e => (Failure.other e).outcome

end Invocation

end CommonChangelog
