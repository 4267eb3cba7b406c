import CommonChangelog.Config
import CommonChangelog.Data.Toml
import CommonChangelog.ReleaseNotes

/-!
# Settings and releases from data

How a `Config` is read from a TOML document and a `PublishedRelease` from a JSON text. Every setting
has a default; a table that is given replaces the default table. Of a release only the tag is
required.
-/

namespace CommonChangelog

namespace Category

/-- The canonical name of a category, or a table with that name alone and nothing under it. -/
def ofData? (format : DataFormat) : Data → Option Category
  | .text t => ofName? t
  | .table _ [(name, d)] => if d.isUnit format then ofName? name else none
  | _ => none

end Category

namespace Config

/-- Entries in the order of their names; of several entries for one name the last one counts. -/
def sortNames {α : Type} (entries : List (Text × α)) : List (Text × α) :=
  let names := (entries.map (·.1)).eraseDups.mergeSort fun a b => (Text.order a b).isLE
  names.filterMap fun name => (entries.reverse.lookup name).map (name, ·)

/-- A table whose values are all read in the same way. -/
def mapOfData? {α : Type} (read : Data → Option α) (d : Data) : Option (List (Text × α)) := do
  let fields ← d.fields?
  let entries ← fields.mapM fun (name, d) => (read d).map (name, ·)
  return sortNames entries

/-- A section with one setting. -/
def sectionOfData? {α : Type} (format : DataFormat) (setting : Text) (read : Data → Option α)
    (missing : α) (d : Data) : Option α := do
  Data.field? (← d.record? format [setting]) setting read missing

/-- The names of the settings, in order. -/
def settingNames : List Text :=
  ["changelog_path", "repo_url", "categories", "style", "automation", "exclusions"]

/-- Reads a configuration. A section and the setting in it may both be missing. -/
def ofData? (format : DataFormat) (d : Data) : Option Config := do
  let fields ← d.record? format settingNames
  let config : Config := {}
  let setting? {α : Type} (name setting : Text) (read : Data → Option α) (missing : α) :=
    Data.field? fields name (sectionOfData? format setting read missing) missing
  let categories := mapOfData? (Category.ofData? format)
  return {
    changelogPath := ← Data.field? fields "changelog_path" Data.text? config.changelogPath
    repoUrl := ← Data.field? fields "repo_url" (Data.optional? Data.text?) config.repoUrl
    aliases := ← setting? "categories" "aliases" categories config.aliases
    verbs := ← setting? "style" "imperative_verbs" Data.texts? config.verbs
    automation := ← setting? "automation" "authors" Data.texts? config.automation
    exclusions := ← setting? "exclusions" "patterns" (mapOfData? Data.texts?) config.exclusions }

/-- Reads a configuration from a TOML document. -/
def ofToml? (s : Text) : Option Config := Toml.parse? s >>= ofData? .toml

end Config

namespace PublishedRelease

/-- The names of the fields, in order. -/
def fieldNames : List Text := ["tag_name", "name", "body", "published_at", "prerelease"]

/-- The text under a name, which has to be there. -/
def requiredText? (fields : List (Text × Data)) (name : Text) : Option Text :=
  fields.lookup name >>= Data.text?

/-- The text under a name, if it is there and not null. -/
def optionalText? (fields : List (Text × Data)) (name : Text) : Option (Option Text) :=
  Data.field? fields name (Data.optional? Data.text?) none

/-- Reads a release. -/
def ofData? (d : Data) : Option PublishedRelease := do
  let fields ← d.record? .json fieldNames
  return {
    tag := ← requiredText? fields "tag_name"
    name := ← optionalText? fields "name"
    body := ← optionalText? fields "body"
    publishedAt := ← optionalText? fields "published_at"
    prerelease := ← Data.field? fields "prerelease" Data.bool? false }

/-- The releases of an output with one JSON text a line; lines that hold none are skipped. -/
def ofOutput (output : Text) : List PublishedRelease :=
  (ReleaseNotes.trimmedLines output).filterMap fun line => Json.parse? line >>= ofData?

end PublishedRelease

end CommonChangelog
