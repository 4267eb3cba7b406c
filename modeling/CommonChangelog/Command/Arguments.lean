import CommonChangelog.Command.Basic

/-!
# Command lines

A command line is read from left to right. The first fault wins, except that the values of the
last option or positional argument are only checked when the next option or the end is reached:
an unknown argument right after them is reported first. Options before the command are checked
after everything behind it.
-/

namespace CommonChangelog

/-- Why a command line is not carried out. -/
inductive UsageFault where
  | invalidValue
  | missingArgument
  | missingSubcommand
  | invalidSubcommand
  | unknownArgument
  /-- An option is given twice. -/
  | conflict
  | tooManyValues
  /-- Help was asked for. -/
  | help
  /-- The version of the program was asked for. -/
  | version
  /-- There were no arguments. -/
  | nothingGiven
  deriving DecidableEq, Repr

/-- The exit code for a command line that is not carried out. -/
def UsageFault.code : UsageFault → Nat
  | help | version => 0
  | _ => 2

namespace Arguments

/-- What an option takes. -/
inductive Arity where
  | flag
  | one
  /-- One value that is not empty. -/
  | path
  /-- One value or more. -/
  | many
  | help
  | version
  deriving DecidableEq, Repr

/-- An option of a level of the command line. -/
structure Spec where
  name : Text
  letter : Option Char := none
  arity : Arity
  deriving DecidableEq, Repr

/-- What a level accepts: options, positional arguments with a check, and names of commands. -/
structure Level where
  options : List Spec
  positionals : List (Text → Bool) := []
  commands : List Text := []

/-- Values that are not checked yet. -/
inductive Pending where
  | nothing
  /-- Values of an option; `waiting` tells whether more may follow. -/
  | option (spec : Spec) (values : List Text) (waiting : Bool)
  /-- The value of the positional argument of this number. -/
  | positional (n : Nat) (value : Text)
  deriving DecidableEq, Repr

/-- What has been read of a level. -/
structure Matches where
  options : List (Text × List Text) := []
  positionals : List Text := []
  pending : Pending := .nothing
  /-- How many positional arguments were given. -/
  count : Nat := 0
  deriving DecidableEq, Repr

namespace Matches

def isGiven (ms : Matches) (name : Text) : Bool := ms.options.any (·.1 = name)

/-- The values of an option, of all places where it is given. -/
def values (ms : Matches) (name : Text) : List Text :=
  (ms.options.filter (·.1 = name)).flatMap (·.2)

def value? (ms : Matches) (name : Text) : Option Text := (ms.values name).getLast?

end Matches

/-- Takes the values of an option. Only options of many values may be given twice. -/
def take (ms : Matches) (spec : Spec) (values : List Text) : Except UsageFault Matches :=
  if values.isEmpty && spec.arity ≠ .flag then .error .invalidValue
  else if ms.isGiven spec.name && spec.arity ≠ .many then .error .conflict
  else if spec.arity = .path && values.any List.isEmpty then .error .invalidValue
  else .ok { ms with options := ms.options ++ [(spec.name, values)] }

/-- Checks the values that are pending. -/
def settle (level : Level) (ms : Matches) : Except UsageFault Matches :=
  let settled := { ms with pending := .nothing }
  match ms.pending with
  | .nothing => .ok settled
  | .option spec values _ => take settled spec values
  | .positional n value =>
    if (level.positionals[n]?).any fun check => check value then
      .ok { settled with positionals := settled.positionals ++ [value] }
    else .error .invalidValue

/-- The option has a value after its name or starts waiting for one. -/
def beginOption (level : Level) (ms : Matches) (spec : Spec) (attached : Option Text) :
    Except UsageFault Matches :=
  match spec.arity, attached with
  | .flag, none => do take (← settle level ms) spec []
  | .help, none => do
    let _ ← settle level ms
    throw .help
  | .version, none => do
    let _ ← settle level ms
    throw .version
  | .flag, some _ | .help, some _ | .version, some _ => .error .tooManyValues
  | _, some value => do take (← settle level ms) spec [value]
  | _, none => do return { ← settle level ms with pending := .option spec [] true }

/-- A name, and the value after an equals sign. -/
def splitValue (s : Text) : Text × Option Text :=
  match Text.split '=' s with
  | [] => ([], none)
  | [name] => (name, none)
  | name :: rest => (name, some (Text.join "=" rest))

/-- An option by its name. -/
def long (level : Level) (ms : Matches) (s : Text) : Except UsageFault Matches :=
  let (name, attached) := splitValue s
  match level.options.find? (·.name = name) with
  | some spec => beginOption level ms spec attached
  | none => .error .unknownArgument

/-- The value that is written right after the letter of an option, without its equals sign. -/
def attachedValue : Text → Option Text
  | [] => none
  | '=' :: value => some value
  | value => some value

/-- Options by their letters. -/
def short (level : Level) (ms : Matches) : Text → Except UsageFault Matches
  | [] => .ok ms
  | c :: rest =>
    match level.options.find? (·.letter = some c) with
    | none => .error .unknownArgument
    | some spec =>
      if spec.arity = .flag then do short level (← beginOption level ms spec none) rest
      else if spec.arity = .help || spec.arity = .version then beginOption level ms spec none
      else beginOption level ms spec (attachedValue rest)

/-- A positional argument; `escaped` tells whether it stands after two hyphens. -/
def positional (level : Level) (ms : Matches) (escaped : Bool) (s : Text) :
    Except UsageFault Matches :=
  if ms.count < level.positionals.length then do
    let ms ← settle level ms
    return { ms with pending := .positional ms.count s, count := ms.count + 1 }
  else if level.commands.isEmpty then .error .unknownArgument
  else if escaped && level.commands.contains s then .error .unknownArgument
  else .error .invalidSubcommand

/-- The option that waits for a value takes one. -/
def feed (spec : Spec) (values : List Text) (s : Text) : Pending :=
  .option spec (values ++ [s]) (spec.arity = .many)

/-- Reads a level, up to a command if the level has commands. -/
def scan (level : Level) (escaped : Bool) (ms : Matches) :
    List Text → Except UsageFault (Matches × Option (Text × List Text))
  | [] => .ok (ms, none)
  | s :: rest =>
    if escaped then do scan level true (← positional level ms true s) rest
    else
      let waiting := match ms.pending with
        | .option _ _ waiting => waiting
        | _ => false
      if !waiting && level.commands.contains s then .ok (ms, some (s, rest))
      else if s = "--" then scan level true ms rest
      else match s with
        | '-' :: '-' :: body => do scan level false (← long level ms body) rest
        | '-' :: c :: body => do scan level false (← short level ms (c :: body)) rest
        | _ =>
          match ms.pending with
          | .option spec values true =>
            scan level false { ms with pending := feed spec values s } rest
          | _ => do scan level false (← positional level ms false s) rest

/-! ## The commands -/

def configSpec : Spec := { name := "config", letter := some 'c', arity := .one }
def rootSpec : Spec := { name := "root", arity := .path }
def helpSpec : Spec := { name := "help", letter := some 'h', arity := .help }
def versionSpec : Spec := { name := "version", letter := some 'V', arity := .version }
def dryRunSpec : Spec := { name := "dry-run", arity := .flag }
def fileSpec : Spec := { name := "file", arity := .one }
def outputSpec : Spec := { name := "output", arity := .one }
def repositorySpec : Spec := { name := "repo-url", arity := .one }

/-- The kind of bump that an argument names. -/
def bump? (s : Text) : Option Bump :=
  ([.major, .minor, .patch] : List Bump).find? fun kind => kind.name = s

/-- A command as the command line names it. -/
structure Entry where
  name : Text
  options : List Spec := []
  positionals : List (Text → Bool) := []
  /-- Options that have to be given. -/
  required : List Text := []
  command : Matches → Option Command

def entries : List Entry :=
  [{ name := "validate"
     options := [fileSpec]
     command := fun ms => some (.validate (ms.value? "file")) },
   { name := "sort"
     options := [fileSpec, dryRunSpec]
     command := fun ms => some (.sort (ms.value? "file") (ms.isGiven "dry-run")) },
   { name := "check-updated"
     options :=
       [{ name := "skip-branch-check", arity := .flag }, { name := "staged", arity := .many }]
     command := fun ms =>
       some (.checkUpdated (ms.isGiven "skip-branch-check") (ms.values "staged")) },
   { name := "coverage"
     options := [fileSpec]
     command := fun ms => some (.coverage (ms.value? "file")) },
   { name := "migrate"
     options := [{ name := "input", arity := .one }, outputSpec, repositorySpec, dryRunSpec]
     required := ["input"]
     command := fun ms => (ms.value? "input").map fun input =>
       .migrate input (ms.value? "output") (ms.value? "repo-url") (ms.isGiven "dry-run") },
   { name := "retrofit"
     options :=
       [{ name := "version", arity := .one }, { name := "date", arity := .one }, repositorySpec,
        outputSpec, dryRunSpec]
     command := fun ms =>
       some (.retrofit ((ms.value? "version").getD "1.0.0") (ms.value? "date")
         (ms.value? "repo-url") (ms.value? "output") (ms.isGiven "dry-run")) },
   { name := "import"
     options :=
       [{ name := "repo", arity := .one }, outputSpec,
        { name := "include-prerelease", arity := .flag }, dryRunSpec]
     required := ["repo"]
     command := fun ms => (ms.value? "repo").map fun repo =>
       .importReleases repo (ms.value? "output") (ms.isGiven "include-prerelease")
         (ms.isGiven "dry-run") },
   { name := "next-version"
     options := [fileSpec]
     command := fun ms => some (.nextVersion (ms.value? "file")) },
   { name := "bump"
     positionals := [fun _ => true, fun s => (bump? s).isSome]
     command := fun ms =>
       match ms.positionals with
       | [version, kind] => (bump? kind).map fun kind => .bump version kind
       | _ => none }]

/-- The options that stand before or after the command. -/
def globals : List Spec := [configSpec, rootSpec, helpSpec]

/-- The command that shows help. -/
def helpCommand : Text := "help"

/-- What stands before the command. -/
def top : Level where
  options := globals ++ [versionSpec]
  commands := helpCommand :: entries.map (·.name)

/-- What stands after a command. -/
def Entry.level (entry : Entry) : Level where
  options := entry.options ++ globals
  positionals := entry.positionals

/-- Reads what stands after a command. -/
def Entry.read (entry : Entry) (args : List Text) : Except UsageFault (Matches × Command) := do
  let (ms, _) ← scan entry.level false {} args
  let ms ← settle entry.level ms
  if entry.required.all ms.isGiven then
    match entry.command ms with
    | some command => return (ms, command)
    | none => throw .missingArgument
  else throw .missingArgument

/-- Help on commands: at most one name may follow. -/
def helpOn : List Text → UsageFault
  | [] => .help
  | [name] => if top.commands.contains name then .help else .invalidSubcommand
  | _ => .invalidSubcommand

/-- Reads a command line. An option after the command replaces the same option before it. -/
def read (args : List Text) : Except UsageFault Invocation := do
  let (outer, rest) ← scan top false {} args
  match rest with
  | none =>
    let outer ← settle top outer
    if outer.options.isEmpty then throw .nothingGiven else throw .missingSubcommand
  | some (name, rest) =>
    match entries.find? (·.name = name) with
    | none => throw (helpOn rest)
    | some entry =>
      let (inner, command) ← entry.read rest
      let outer ← settle top outer
      let value? (name : Text) := (inner.value? name).or (outer.value? name)
      return {
        config := value? "config"
        root := (value? "root").getD "."
        command }

end Arguments

end CommonChangelog
