import CommonChangelog.Proofs.Outline
import Mathlib.Data.List.DropRight
import Mathlib.Data.List.Infix

/-!
# A document is its segments

The outline goes through the lines of a document from the front. Here each part of the document is
read off the place at which it begins, a place being the line there with all lines behind it. A
release begins at each version heading, and a group at each category heading of a block with entries
under it; nothing begins at any other line.

A line that has no part in this has no influence either. Whether it has one can be told from the
lines in front of it (`Outline.counts`): those say at which place the reader stands
(`Outline.standsAt_foldl`), and a line that does not count leaves the reader as it is.

Main result: `Outline.ofText_segmented`.
-/

namespace CommonChangelog.Outline

variable {rules : Rules}

/-! ## What begins at a place -/

/-- The group that begins at a category heading, if an entry stands before the next one. -/
def groupAt? (rules : Rules) : List Line → Option Group
  | .category heading :: rest =>
    match changes rest with
    | [] => none
    | changes => some ⟨rules.category heading, heading, changes⟩
  | _ => none

/-- The release that begins at a version heading. -/
def releaseAt? (rules : Rules) : List Line → Option Release
  | .version label date :: rest =>
    some { label, date,
           notice := notice? (notices (block rest)),
           groups := (block rest).tails.filterMap (groupAt? rules) }
  | _ => none

theorem nonempty_eq (heading : Text) (rest : List Line) :
    nonempty ⟨rules.category heading, heading, changes rest⟩ =
      (groupAt? rules (.category heading :: rest)).toList := by
  rw [groupAt?, nonempty]
  cases changes rest <;> rfl

theorem groups_eq_filterMap (lines : List Line) :
    groups rules lines = lines.tails.filterMap (groupAt? rules) := by
  induction lines with
  | nil => rfl
  | cons line rest ih =>
    rw [List.tails_cons, List.filterMap_cons, ← ih]
    cases line with
    | category heading =>
      rw [groups, nonempty_eq]
      cases groupAt? rules (.category heading :: rest) <;> rfl
    | _ => rfl

theorem releases_eq_filterMap (lines : List Line) :
    releases rules lines = lines.tails.filterMap (releaseAt? rules) := by
  induction lines with
  | nil => rfl
  | cons line rest ih =>
    rw [List.tails_cons, List.filterMap_cons, ← ih]
    cases line with
    | version label date => rw [releases, release, groups_eq_filterMap, releaseAt?]
    | _ => rfl

/-! ## Lines that count -/

/-- The lines since the last heading of a release. -/
def since (before : List Line) : List Line := before.rtakeWhile (!·.isHeading)

/-- A release is open behind these lines: the last heading of a release is well formed. -/
def isOpen (before : List Line) : Bool :=
  (before.filter (·.isHeading)).getLast?.any (·.isVersion)

/--
The line has a part in the document behind these lines. A title has one before the first heading of
a release, a category in an open release, a notice there before the first category, an entry there
behind a category, and a heading of a release everywhere.
-/
def counts (before : List Line) : Line → Bool
  | .title _ => before.all (!·.isHeading)
  | .version _ _ | .malformed _ => true
  | .category _ => isOpen before
  | .notice _ => isOpen before && (since before).all (!·.isCategory)
  | .entry _ => isOpen before && (since before).any (·.isCategory)
  | .blank | .other _ => false

/-- What the lines in front say about the place at which the reader stands. -/
def StandsAt (before : List Line) : Place → Prop
  | .header => before.all (!·.isHeading)
  | .release _ _ => isOpen before ∧ (since before).all (!·.isCategory)
  | .group _ _ => isOpen before ∧ (since before).any (·.isCategory)
  | .skipped => isOpen before = false

variable {before : List Line} {line : Line} {reader : Reader}

theorem since_concat_heading (h : line.isHeading) : since (before ++ [line]) = [] :=
  List.rtakeWhile_concat_neg _ _ _ (by simp [h])

theorem since_concat (h : line.isHeading = false) :
    since (before ++ [line]) = since before ++ [line] :=
  List.rtakeWhile_concat_pos _ _ _ (by simp [h])

theorem isOpen_concat_heading (h : line.isHeading) :
    isOpen (before ++ [line]) = line.isVersion := by
  simp [isOpen, h]

theorem isOpen_concat (h : line.isHeading = false) :
    isOpen (before ++ [line]) = isOpen before := by
  simp [isOpen, h]

/-- A line that is no heading of any level moves the reader to no other place. -/
theorem StandsAt.concat {place : Place} (h : StandsAt before place)
    (hheading : line.isHeading = false) (hcategory : line.isCategory = false) :
    StandsAt (before ++ [line]) place := by
  cases place with
  | header => simpa [StandsAt, hheading] using h
  | skipped => simpa [StandsAt, isOpen_concat hheading] using h
  | release | group =>
    simpa [StandsAt, isOpen_concat hheading, since_concat hheading, hcategory] using h

theorem StandsAt.step (h : StandsAt before reader.place) :
    StandsAt (before ++ [line]) (reader.step rules line).place := by
  obtain ⟨title, releases, place⟩ := reader
  cases hl : line with
  | version label date =>
    exact ⟨isOpen_concat_heading rfl, by rw [since_concat_heading rfl]; rfl⟩
  | malformed text => exact isOpen_concat_heading rfl
  | category heading =>
    cases place with
    | header =>
      show (before ++ [Line.category heading]).all (!·.isHeading)
      rw [List.all_append, show before.all (!·.isHeading) from h]
      rfl
    | skipped => exact (isOpen_concat rfl).trans h
    | release | group =>
      refine ⟨?_, ?_⟩
      · rw [isOpen_concat rfl]
        exact h.1
      · rw [since_concat rfl]
        simp [Line.isCategory]
  | title _ | notice _ | entry _ | blank | other _ =>
    have hplace : StandsAt (before ++ [line]) place :=
      h.concat (by rw [hl]; rfl) (by rw [hl]; rfl)
    rw [hl] at hplace
    cases place <;> exact hplace

theorem standsAt_foldl (rules : Rules) (before : List Line) :
    StandsAt before (before.foldl (Reader.step rules) {}).place := by
  induction before using List.reverseRecOn with
  | nil => rfl
  | append_singleton before line ih =>
    rw [List.foldl_append]
    exact ih.step

/-- A line that does not count leaves the reader as it is. -/
theorem StandsAt.step_eq (h : StandsAt before reader.place) (hcounts : counts before line = false) :
    reader.step rules line = reader := by
  obtain ⟨title, releases, place⟩ := reader
  cases line with
  | version | malformed => exact absurd hcounts Bool.noConfusion
  | blank | other => rfl
  | title text =>
    cases place with
    | header => exact absurd (h.symm.trans hcounts) Bool.noConfusion
    | _ => rfl
  | category heading =>
    cases place with
    | header | skipped => rfl
    | release | group => exact absurd (h.1.symm.trans hcounts) Bool.noConfusion
  | notice text =>
    cases place with
    | release => simp [counts, h.1, h.2] at hcounts
    | _ => rfl
  | entry text =>
    cases place with
    | group => simp [counts, h.1, h.2] at hcounts
    | _ => rfl

/-- **A line that does not count may be left out.** -/
theorem ofLines_of_not_counts (rules : Rules) (after : List Line)
    (hcounts : counts before line = false) :
    Changelog.ofLines rules (before ++ line :: after) =
      Changelog.ofLines rules (before ++ after) := by
  rw [Changelog.ofLines, List.foldl_append, List.foldl_cons,
    (standsAt_foldl rules before).step_eq hcounts, ← List.foldl_append, ← Changelog.ofLines]

/--
**A document is its segments.** The title is the last one before the first heading of a release.
There is one release for each version heading, in order: with its label and date, with the notices
of its block before the first category, joined by spaces and trimmed, unless nothing is left, and
with one group for each category heading of the block under which there are entries before the next
one. A group has the heading as it is written, the category that the rules give it, and the changes
of exactly these entries. A line that does not count may be left out.
-/
theorem ofText_segmented (rules : Rules) (content : Text) :
    let lines := (Text.lines content).map Line.classify
    Changelog.ofText rules content =
      { title := ((block lines).filterMap Line.title?).getLastD defaultTitle,
        releases := lines.tails.filterMap (releaseAt? rules) } ∧
    ∀ before line after, lines = before ++ line :: after → counts before line = false →
      Changelog.ofLines rules (before ++ after) = Changelog.ofText rules content := by
  intro lines
  refine ⟨?_, fun before line after hlines hcounts => ?_⟩
  · rw [Changelog.ofText, ofLines_eq, releases_eq_filterMap, title, titleOr]
  · rw [← ofLines_of_not_counts rules after hcounts, ← hlines, Changelog.ofText]

end CommonChangelog.Outline
