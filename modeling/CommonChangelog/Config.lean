import CommonChangelog.Category
import CommonChangelog.Text.Blank
import CommonChangelog.Text.Case

/-!
# Configuration and rules

A `Config` says where the changelog lives, which repository it documents, and which vocabulary it
uses. `Config.rules` prepares from it the `Rules` that parsing, validation and conversion consult:
aliases and verbs in lower case, so that both are found in any case.
-/

namespace CommonChangelog

/-- The verbs that may open an entry unless the configuration lists others. -/
def defaultVerbs : List Text :=
  List.map String.toList
    ["Add", "Remove", "Fix", "Update", "Change", "Refactor", "Improve", "Implement",
     "Support", "Enable", "Disable", "Create", "Delete", "Rename", "Move", "Merge", "Split",
     "Deprecate", "Drop", "Bump", "Document", "Clarify", "Simplify", "Optimize", "Migrate",
     "Convert", "Introduce", "Extract", "Inline", "Replace", "Revert", "Restore", "Enhance",
     "Extend", "Reduce", "Increase", "Decrease", "Allow", "Prevent", "Ensure", "Validate",
     "Normalize", "Standardize", "Use", "Set", "Get", "Make", "Handle", "Process", "Parse",
     "Generate", "Build", "Run", "Execute", "Load", "Save", "Read", "Write", "Show", "Hide",
     "Display", "Render", "Format", "Transform", "Include", "Exclude", "Filter", "Sort",
     "Group", "Aggregate", "Initialize", "Configure", "Setup", "Install", "Uninstall",
     "Upgrade", "Downgrade", "Pin", "Unpin", "Lock", "Unlock", "Expose", "Protect", "Secure",
     "Encrypt", "Decrypt", "Sign", "Verify", "Authenticate", "Authorize", "Grant", "Revoke",
     "Start", "Stop", "Pause", "Resume", "Restart", "Reset", "Clean", "Clear", "Flush",
     "Purge", "Prune", "Trim", "Check", "Test", "Assert", "Confirm", "Reject", "Accept",
     "Apply", "Reapply", "Undo", "Redo", "Cancel", "Abort", "Skip", "Ignore", "Override",
     "Bypass", "Force", "Require", "Recommend", "Suggest", "Prefer", "Default", "Fallback"]

/-- Paths that need no changelog entry, grouped by purpose, in the order of the group names. -/
abbrev Exclusions := List (Text × List Text)

/-- Every pattern of every group. -/
def Exclusions.patterns (exclusions : Exclusions) : List Text := exclusions.flatMap (·.2)

/-- The exclusions that hold unless the configuration lists others. -/
def defaultExclusions : Exclusions :=
  [("config", [".c8rc.json", ".coderabbit.yaml", ".doclinterrc.yml", "vitest.config.js",
      "eslint.config.js"]),
   ("generated", [".tmp/", ".stryker-tmp/", "coverage/", "reports/", "output/",
      ".claude/skills/", ".cursor/"]),
   ("infrastructure", [".github/", ".gitignore", ".nvmrc", "pnpm-lock.yaml"]),
   ("tests", ["tests/"])]

/-- The settings of a project. -/
structure Config where
  /-- The changelog, relative to the root of the project. -/
  changelogPath : Text := "CHANGELOG.md"
  /-- The repository that links of references and releases point to, as configured. -/
  repoUrl : Option Text := none
  /-- Names of categories in other vocabularies, in the order of the names. -/
  aliases : List (Text × Category) := Category.defaultAliases
  /-- The verbs that may open an entry. -/
  verbs : List Text := defaultVerbs
  /-- Authors whose commits produce no entries. -/
  automation : List Text := ["estate-catalog[bot]"]
  exclusions : Exclusions := defaultExclusions

/-- What parsing, validation and conversion need to know of a configuration. -/
structure Rules where
  /-- Aliases in lower case; of several entries for one name the last one counts. -/
  aliases : List (Text × Category)
  /-- Verbs in lower case. -/
  verbs : List Text
  automation : List Text

namespace Config

/-- Names and verbs in lower case. -/
def rules (config : Config) : Rules where
  aliases := config.aliases.map fun (name, category) => (Text.lower name, category)
  verbs := config.verbs.map Text.lower
  automation := config.automation

/-- The repository without slashes at its end, unless nothing remains. -/
def repository (config : Config) : Option Text :=
  match config.repoUrl with
  | none => none
  | some url =>
    match (url.reverse.dropWhile (· = '/')).reverse with
    | [] => none
    | trimmed => some trimmed

end Config

namespace Rules

/-- The rules of the default configuration. -/
def default : Rules := Config.rules {}

/-- The category that a name stands for, in any case and whatever blanks surround it. -/
def category? (rules : Rules) (name : Text) : Option Category :=
  rules.aliases.reverse.lookup (Text.lower (Text.trim name))

/-- The category that a name stands for; names that the table does not know mean a change. -/
def category (rules : Rules) (name : Text) : Category := (rules.category? name).getD .changed

theorem category_default (c : Category) : default.category c.name = c := by
  cases c <;> rfl

/-- The first word of a text, words being separated by blanks. -/
def firstWord (s : Text) : Text := (Text.trimStart s).takeWhile fun c => !Text.isBlank c

/-- The text opens with one of the verbs. -/
def isImperative (rules : Rules) (s : Text) : Bool :=
  match firstWord s with
  | [] => false
  | word => rules.verbs.contains (Text.lower word)

/-- The author is an automation account. -/
def isAutomation (rules : Rules) (author : Text) : Bool := rules.automation.contains author

end Rules

end CommonChangelog
