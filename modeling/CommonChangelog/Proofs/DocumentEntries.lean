import CommonChangelog.Migration
import CommonChangelog.Proofs.AddedChanges
import CommonChangelog.Proofs.Outline

/-!
# The entries of a document

There are two readers of changelogs, a strict one and a lenient one for older changelogs. They tell
lines apart in ways of their own, but what they do with the lines is the same: the heading of a
release opens a release, the heading of a category opens a category in it, and an entry is taken if
it stands in a category. So the entries that a reader takes are a function of the landmarks that it
sees (`entriesFrom`), and the changes of the document that it builds are made of these entries.

Main results: `Changelog.changes_ofText` and `Legacy.changes_parse`.
-/

namespace CommonChangelog

/-- What a line means for the place that a reader has reached. -/
inductive Landmark where
  /-- A release begins. -/
  | release
  /-- The release ends, and no other one begins. -/
  | stop
  | category
  | entry (text : Text)
  | none
  deriving DecidableEq, Repr

/-- How deep in a document a place is. -/
inductive Depth where
  | outside | release | category
  deriving DecidableEq, Repr

namespace Depth

def rank : Depth → Nat
  | outside => 0
  | release => 1
  | category => 2

instance : LE Depth := ⟨fun a b => a.rank ≤ b.rank⟩
instance (a b : Depth) : Decidable (a ≤ b) := inferInstanceAs (Decidable (a.rank ≤ b.rank))

/-- The depth behind a landmark. -/
def after : Depth → Landmark → Depth
  | _, .release => release
  | _, .stop => outside
  | outside, .category => outside
  | _, .category => category
  | depth, _ => depth

theorem after_entry (depth : Depth) (text : Text) : depth.after (.entry text) = depth := by
  cases depth <;> rfl

theorem after_none (depth : Depth) : depth.after .none = depth := by
  cases depth <;> rfl

/-- The entry that is taken at a landmark, if one is. -/
def taken : Depth → Landmark → List Text
  | category, .entry text => [text]
  | _, _ => []

/-- The entries that are taken from a place of this depth on. -/
def entriesFrom (depth : Depth) : List Landmark → List Text
  | [] => []
  | mark :: marks => depth.taken mark ++ (depth.after mark).entriesFrom marks

end Depth

/-- All changes of a document. -/
def Changelog.changes (changelog : Changelog) : List Change :=
  changelog.releases.flatMap Release.changes

/-! ## The strict reader -/

def Line.landmark : Line → Landmark
  | version _ _ => .release
  | malformed _ => .stop
  | category _ => .category
  | entry text => .entry text
  | _ => .none

/-- The entries that the strict reader takes. -/
def Changelog.entries (content : Text) : List Text :=
  Depth.outside.entriesFrom
    ((Text.split '\n' content).map fun line => (Line.classify line).landmark)

def Place.depth : Place → Depth
  | header | skipped => .outside
  | release _ _ => .release
  | group _ _ => .category

/-- The changes that the open release has so far. -/
def Place.changes (place : Place) : List Change := place.close.flatMap Release.changes

namespace Reader

/-- The changes that have been read so far. -/
def changes (reader : Reader) : List Change :=
  reader.releases.flatMap Release.changes ++ reader.place.changes

variable {rules : Rules}

theorem changes_withNotices (r : Release) (texts : List Text) :
    (Place.withNotices r texts).changes = r.changes := by
  rw [Outline.withNotices_eq]
  rfl

theorem changes_withGroup (r : Release) (g : Group) :
    (Place.withGroup r g).changes = r.changes ++ g.changes := by
  unfold Place.withGroup
  split
  · rename_i h
    rw [List.isEmpty_iff.1 h, List.append_nil]
  · simp [Release.changes]

theorem changes_moveTo (reader : Reader) (place : Place) :
    (reader.moveTo place).changes = reader.changes ++ place.changes := by
  simp [moveTo, changes, Place.changes]

theorem depth_step (rules : Rules) (reader : Reader) (line : Line) :
    (reader.step rules line).place.depth = reader.place.depth.after line.landmark := by
  obtain ⟨title, releases, place⟩ := reader
  cases line <;> cases place <;> rfl

/-- One line adds the entry that is taken, and nothing is lost. -/
theorem changes_step (reader : Reader) (line : Line) :
    (reader.step rules line).changes =
      reader.changes ++ (reader.place.depth.taken line.landmark).map Change.ofEntry := by
  obtain ⟨title, releases, place⟩ := reader
  cases line with
  | version label date =>
    rw [step, changes_moveTo]
    cases place <;> rfl
  | malformed text =>
    rw [step, changes_moveTo]
    cases place <;> rfl
  | category heading =>
    cases place <;>
      simp [step, changes, Place.changes, Place.close, openGroup, changes_withNotices,
        changes_withGroup, Depth.taken, Line.landmark, Place.depth]
  | entry text =>
    cases place <;>
      simp [step, changes, Place.changes, Place.close, changes_withGroup, Depth.taken,
        Line.landmark, Place.depth]
  | notice text =>
    cases place <;>
      simp [step, changes, Place.changes, Place.close, changes_withNotices, Depth.taken,
        Line.landmark, Place.depth]
  | title text =>
    cases place <;> simp [step, changes, Depth.taken, Line.landmark, Place.depth]
  | blank => simp [step, Depth.taken, Line.landmark]
  | other text => simp [step, Depth.taken, Line.landmark]

theorem changes_foldl (rules : Rules) (reader : Reader) (lines : List Line) :
    (lines.foldl (step rules) reader).changes = reader.changes ++
      (reader.place.depth.entriesFrom (lines.map Line.landmark)).map Change.ofEntry := by
  induction lines generalizing reader with
  | nil => simp [Depth.entriesFrom]
  | cons line lines ih =>
    rw [List.foldl_cons, ih, changes_step, depth_step, List.map_cons, Depth.entriesFrom,
      List.map_append, List.append_assoc]

end Reader

/-- **The changes of a document are read from the entries that the reader takes.** -/
theorem Changelog.changes_ofText (rules : Rules) (content : Text) :
    (ofText rules content).changes = (entries content).map Change.ofEntry := by
  have hread := Reader.changes_foldl rules {}
    ((Text.split '\n' content).map Line.classify)
  rw [List.map_map] at hread
  have hfinish : ∀ reader : Reader, reader.finish.changes = reader.changes := by
    intro reader
    rw [Reader.finish, changes, List.flatMap_append]
    rfl
  rw [ofText_eq, ofLines, hfinish]
  exact hread

/-! ## The reader for older changelogs -/

def LegacyLine.landmark : LegacyLine → Landmark
  | version _ _ => .release
  | category _ => .category
  | entry text => .entry text
  | other => .none

namespace Legacy

/-- The entries that the reader for older changelogs takes. -/
def entries (content : Text) : List Text :=
  Depth.outside.entriesFrom
    ((Text.split '\n' content).map fun line => (LegacyLine.classify line).landmark)

namespace Reader

variable {rules : Rules}

def depth (reader : Reader) : Depth :=
  match reader.current, reader.category with
  | none, _ => .outside
  | some _, none => .release
  | some _, some _ => .category

/-- The changes that have been read so far. -/
def changes (reader : Reader) : List Change :=
  (reader.closed ++ reader.current.toList).flatMap Release.changes

theorem depth_step (rules : Rules) (reader : Reader) (line : LegacyLine) :
    (reader.step rules line).depth = reader.depth.after line.landmark := by
  obtain ⟨closed, current, category, todos⟩ := reader
  cases line <;> cases current <;> cases category <;> rfl

theorem changes_step (reader : Reader) (line : LegacyLine) :
    (reader.step rules line).changes.Perm
      (reader.changes ++ (reader.depth.taken line.landmark).map change) := by
  have hsame : reader.changes.Perm (reader.changes ++ ([] : List Text).map change) := by
    rw [List.map_nil, List.append_nil]
  obtain ⟨closed, current, category, todos⟩ := reader
  cases line with
  | version label date =>
    have hempty : Release.changes { label := normalizeLabel label, date } = [] := rfl
    have hstep : (Reader.step rules ⟨closed, current, category, todos⟩
        (.version label date)).changes = Reader.changes ⟨closed, current, category, todos⟩ := by
      simp [step, changes, hempty]
    rw [hstep]
    cases current <;> cases category <;> exact hsame
  | category word => cases current <;> cases category <;> exact hsame
  | entry raw =>
    cases current with
    | none => exact hsame
    | some release =>
      cases category with
      | none => exact hsame
      | some category =>
        simp only [step, changes, Option.toList_some, List.flatMap_append, List.flatMap_singleton,
          depth, Depth.taken, LegacyLine.landmark, List.map_singleton, List.append_assoc]
        exact (Release.add_changes release category (change raw)).append_left _
  | other => cases current <;> cases category <;> exact hsame

theorem changes_foldl (rules : Rules) (reader : Reader) (lines : List LegacyLine) :
    (lines.foldl (step rules) reader).changes.Perm (reader.changes ++
      (reader.depth.entriesFrom (lines.map LegacyLine.landmark)).map change) := by
  induction lines generalizing reader with
  | nil => simp [Depth.entriesFrom]
  | cons line lines ih =>
    rw [List.foldl_cons, List.map_cons, Depth.entriesFrom, List.map_append, ← List.append_assoc,
      ← depth_step rules]
    exact (ih (reader.step rules line)).trans ((changes_step reader line).append_right _)

end Reader

/-- **The changes of an older changelog stand for the entries that the reader takes.** -/
theorem changes_parse (rules : Rules) (content : Text) :
    (parse rules content).changes.Perm ((entries content).map change) := by
  have hread := Reader.changes_foldl rules {}
    ((Text.split '\n' content).map LegacyLine.classify)
  rw [List.map_map] at hread
  exact hread

end Legacy

end CommonChangelog
