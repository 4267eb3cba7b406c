import CommonChangelog.Migration
import CommonChangelog.Proofs.GroupedChanges
import Mathlib.Data.List.Forall2
import Mathlib.Data.List.Infix
import Mathlib.Data.List.ModifyLast

/-!
# An older changelog is its segments

The reader of an older changelog goes through the lines once and keeps the release and the category
that it is in. Here the document is read off the lines themselves. A release begins at each version
heading and has the lines up to the next one as its block (`Legacy.segments`). An entry of a block
belongs to the nearest category heading in front of it in the block, and to nothing if there is none
(`Legacy.Segment.entries`).

A line behind others begins a segment or makes the last one longer (`segments_concat`). So after any
lines the reader holds the releases of their segments, the category of the nearest heading, and the
number of entries with a marker (`foldl_step_eq`).

Main result: `Legacy.parse_segmented`.
-/

namespace CommonChangelog

namespace LegacyLine

def isVersion : LegacyLine → Bool
  | version _ _ => true
  | _ => false

/-- The word of a category heading. -/
def word? : LegacyLine → Option Text
  | category word => some word
  | _ => none

end LegacyLine

namespace Legacy

/-! ## Segments -/

/-- A version heading and the lines up to the next one. -/
structure Segment where
  label : Text
  date : Option Text
  block : List LegacyLine
  deriving DecidableEq, Repr

/-- The segment that begins at this place of a document. -/
def segmentAt? : List LegacyLine → Option Segment
  | .version label date :: rest => some ⟨label, date, rest.takeWhile (!·.isVersion)⟩
  | _ => none

/-- The segments of a document: one for each version heading. -/
def segments (lines : List LegacyLine) : List Segment := lines.tails.filterMap segmentAt?

/-- The segment with a line more. -/
def Segment.extend (line : LegacyLine) (segment : Segment) : Segment :=
  { segment with block := segment.block ++ [line] }

variable {rules : Rules} {line : LegacyLine} {lines : List LegacyLine}

theorem segments_version (label : Text) (date : Option Text) (lines : List LegacyLine) :
    segments (.version label date :: lines) =
      ⟨label, date, lines.takeWhile (!·.isVersion)⟩ :: segments lines := by
  rw [segments, List.tails_cons, List.filterMap_cons, segments, segmentAt?]

theorem segments_cons (h : line.isVersion = false) (lines : List LegacyLine) :
    segments (line :: lines) = segments lines := by
  rw [segments, List.tails_cons, List.filterMap_cons, segments]
  cases line <;> first | rfl | exact absurd h Bool.noConfusion

/-- What stands before the first version heading are all lines if there is no segment. -/
theorem segments_eq_nil_iff :
    segments lines = [] ↔ lines.takeWhile (!·.isVersion) = lines := by
  induction lines with
  | nil => exact iff_of_true rfl rfl
  | cons line lines ih =>
    cases h : line.isVersion with
    | true =>
      cases line with
      | version label date => simp [segments_version, LegacyLine.isVersion]
      | _ => exact absurd h Bool.noConfusion
    | false => rw [segments_cons h, ih, List.takeWhile_cons, h, Bool.not_false, if_pos rfl,
        List.cons_inj_right]

/-- A version heading ends the last segment and begins the next one. -/
theorem segments_concat_version (label' : Text) (date' : Option Text) (lines : List LegacyLine) :
    segments (lines ++ [.version label' date']) = segments lines ++ [⟨label', date', []⟩] := by
  induction lines with
  | nil => exact segments_version label' date' []
  | cons first lines ih =>
    cases first with
    | version label date =>
      have hblock : (lines ++ [LegacyLine.version label' date']).takeWhile (!·.isVersion) =
          lines.takeWhile (!·.isVersion) := by
        rw [List.takeWhile_append, List.takeWhile_cons_of_neg Bool.false_ne_true, List.append_nil]
        split
        · rename_i hlength
          exact ((List.takeWhile_prefix _).eq_of_length hlength).symm
        · rfl
      rw [List.cons_append, segments_version, segments_version, ih, hblock, List.cons_append]
    | _ => exact ih

/-- A line that is no version heading belongs to the last segment. -/
theorem segments_concat (h : line.isVersion = false) :
    segments (lines ++ [line]) = (segments lines).modifyLast (Segment.extend line) := by
  induction lines with
  | nil => exact segments_cons h []
  | cons first lines ih =>
    cases first with
    | version label date =>
      rw [List.cons_append, segments_version, segments_version, ih, List.takeWhile_append]
      by_cases hnil : segments lines = []
      · have hall := segments_eq_nil_iff.1 hnil
        rw [hnil, hall, if_pos rfl, List.takeWhile_cons, h]
        rfl
      · have hsome : ¬(lines.takeWhile (!·.isVersion)).length = lines.length := fun hlength =>
          hnil (segments_eq_nil_iff.2 ((List.takeWhile_prefix _).eq_of_length hlength))
        rw [if_neg hsome]
        exact (List.modifyLast_append_of_right_ne_nil _ [_] _ hnil).symm
    | _ => exact ih

/-! ## The entries of a block -/

/-- The last category heading among these lines. -/
def nearest? (before : List LegacyLine) : Option Text :=
  (before.filterMap LegacyLine.word?).getLast?

/-- The category and the text of an entry that stands behind these lines. -/
def entryBehind? (rules : Rules) (before : List LegacyLine) :
    LegacyLine → Option (Category × Text)
  | .entry raw => (nearest? before).map fun word => (rules.category word, raw)
  | _ => none

/-- The entries of the block that have a category heading in front of them. -/
def Segment.entries (rules : Rules) (segment : Segment) : List (Category × Text) :=
  segment.block.zipIdx.filterMap fun p => entryBehind? rules (segment.block.take p.2) p.1

theorem nearest?_concat (block : List LegacyLine) (line : LegacyLine) :
    nearest? (block ++ [line]) = line.word?.or (nearest? block) := by
  rw [nearest?, nearest?, List.filterMap_append, List.filterMap_cons, List.filterMap_nil]
  cases line.word? <;> simp

theorem entries_extend (segment : Segment) (line : LegacyLine) :
    (segment.extend line).entries rules =
      segment.entries rules ++ (entryBehind? rules segment.block line).toList := by
  obtain ⟨label, date, block⟩ := segment
  have hbefore : ∀ p ∈ block.zipIdx, (block ++ [line]).take p.2 = block.take p.2 := by
    intro p hp
    exact List.take_append_of_le_length (Nat.le_of_lt (List.snd_lt_of_mem_zipIdx hp))
  rw [Segment.extend, Segment.entries, Segment.entries, List.zipIdx_append, List.filterMap_append]
  congr 1
  · exact List.filterMap_congr fun p hp => by rw [hbefore p hp]
  · simp only [List.zipIdx_singleton, Nat.zero_add, List.filterMap_cons, List.filterMap_nil,
      List.take_left]
    cases entryBehind? rules block line <;> rfl

/-! ## The reader -/

/-- The release that a segment stands for. -/
def releaseOf (rules : Rules) (segment : Segment) : Release :=
  Release.addAll { label := normalizeLabel segment.label, date := segment.date }
    ((segment.entries rules).map fun e => (e.1, change e.2))

/-- Number of markers in the segments. -/
def markers (rules : Rules) (segments : List Segment) : Nat :=
  (segments.flatMap (Segment.entries rules)).countP fun e => needsReference e.2

/-- The reader behind the lines of these segments. -/
def readerOf (rules : Rules) (segments : List Segment) : Reader where
  closed := segments.dropLast.map (releaseOf rules)
  current := segments.getLast?.map (releaseOf rules)
  category := segments.getLast?.bind fun segment => (nearest? segment.block).map rules.category
  todos := markers rules segments

theorem readerOf_concat (segments : List Segment) (segment : Segment) :
    readerOf rules (segments ++ [segment]) =
      { closed := segments.map (releaseOf rules)
        current := some (releaseOf rules segment)
        category := (nearest? segment.block).map rules.category
        todos := markers rules (segments ++ [segment]) } := by
  rw [readerOf, List.dropLast_concat, List.getLast?_concat]
  rfl

theorem releaseOf_extend (segment : Segment) (line : LegacyLine) :
    releaseOf rules (segment.extend line) =
      (releaseOf rules segment).addAll
        ((entryBehind? rules segment.block line).toList.map fun e => (e.1, change e.2)) := by
  rw [releaseOf, releaseOf, entries_extend, List.map_append]
  exact List.foldl_append

theorem markers_extend (segments : List Segment) (segment : Segment) (line : LegacyLine) :
    markers rules (segments ++ [segment.extend line]) =
      markers rules (segments ++ [segment]) +
        (entryBehind? rules segment.block line).toList.countP fun e => needsReference e.2 := by
  simp only [markers, List.flatMap_append, List.flatMap_singleton, List.countP_append,
    entries_extend, Nat.add_assoc]

theorem step_version (label : Text) (date : Option Text) (segments : List Segment) :
    (readerOf rules segments).step rules (.version label date) =
      readerOf rules (segments ++ [⟨label, date, []⟩]) := by
  have hmarkers : markers rules (segments ++ [⟨label, date, []⟩]) = markers rules segments := by
    simp [markers, Segment.entries]
  rw [readerOf_concat, hmarkers]
  rcases List.eq_nil_or_concat' segments with rfl | ⟨segments, segment, rfl⟩
  · rfl
  · rw [readerOf_concat, List.map_append]
    rfl

/-- Any other line makes the last segment longer. -/
theorem step_extend (h : line.isVersion = false) (segments : List Segment) :
    (readerOf rules segments).step rules line =
      readerOf rules (segments.modifyLast (Segment.extend line)) := by
  rcases List.eq_nil_or_concat' segments with rfl | ⟨segments, segment, rfl⟩
  · -- Nothing counts before the first version heading.
    cases line with
    | version => exact absurd h Bool.noConfusion
    | _ => rfl
  · rw [List.modifyLast_concat, readerOf_concat, readerOf_concat, releaseOf_extend, markers_extend,
      Segment.extend, nearest?_concat]
    cases line with
    | version => exact absurd h Bool.noConfusion
    | category word => rfl
    | other => rfl
    | entry raw =>
      cases hnearest : nearest? segment.block with
      | none => simp [Reader.step, entryBehind?, LegacyLine.word?, hnearest, Release.addAll]
      | some word =>
        simp [Reader.step, entryBehind?, LegacyLine.word?, hnearest, Release.addAll,
          List.countP_cons]

/-- **The reader behind any lines.** -/
theorem foldl_step_eq (rules : Rules) (lines : List LegacyLine) :
    lines.foldl (Reader.step rules) {} = readerOf rules (segments lines) := by
  induction lines using List.reverseRecOn with
  | nil => rfl
  | append_singleton lines line ih =>
    rw [List.foldl_append, ih, List.foldl_cons, List.foldl_nil]
    cases h : line.isVersion with
    | false => rw [segments_concat h, step_extend h]
    | true =>
      cases line with
      | version label date => rw [segments_concat_version, step_version]
      | _ => exact absurd h Bool.noConfusion

/-! ## The document -/

/-- The release has the label and the date of the segment, and its entries by category. -/
structure IsReleaseOf (rules : Rules) (segment : Segment) (release : Release) : Prop where
  label : release.label = normalizeLabel segment.label
  date : release.date = segment.date
  notice : release.notice = none
  groups : GroupedBy release.groups fun category =>
    ((segment.entries rules).filter (·.1 = category)).map fun e => change e.2

theorem isReleaseOf_releaseOf (rules : Rules) (segment : Segment) :
    IsReleaseOf rules segment (releaseOf rules segment) := by
  obtain ⟨groups, hrelease, hgroups⟩ : ∃ groups, releaseOf rules segment = _ ∧ _ :=
    GroupedBy.exists_addAll_eq rfl _
  rw [hrelease]
  exact ⟨rfl, rfl, rfl, by simpa only [GroupedBy.select_map] using hgroups⟩

/-- The text of the change ends in the marker, which was put behind the text of the entry. -/
def Marked (raw : Text) : Prop :=
  (change raw).text = Reference.strip (reword raw) ++ " " ++ todoMarker

theorem needsReference_iff {raw : Text} : needsReference raw ↔ Marked raw := by
  have htext : (change raw).text =
      Reference.strip (reword raw) ++ if needsReference raw then " " ++ todoMarker else [] := rfl
  rw [Marked, htext, List.append_assoc, List.append_cancel_left_eq]
  cases needsReference raw with
  | true => exact iff_of_true rfl rfl
  | false => exact iff_of_false Bool.false_ne_true (List.cons_ne_nil _ _).symm

instance (raw : Text) : Decidable (Marked raw) := decidable_of_iff _ needsReference_iff

/--
**An older changelog is its segments.** The document has one release for each version heading, in
order, with its normalised label and its date. Under each category stand the changes of exactly
those entries of the block whose nearest category heading in front of them in the block means that
category, in the order of the document. Entries without such a heading are left out. As many markers
are counted as there are entries whose change got one.
-/
theorem parse_segmented (rules : Rules) (content : Text) :
    let found := segments ((Text.split '\n' content).map LegacyLine.classify)
    (parse rules content).title = defaultTitle ∧
      List.Forall₂ (IsReleaseOf rules) found (parse rules content).releases ∧
      todoCount rules content =
        (found.flatMap (Segment.entries rules)).countP fun e => Marked e.2 := by
  intro found
  have hread : read rules content = readerOf rules found := foldl_step_eq rules _
  have hreleases : (parse rules content).releases = found.map (releaseOf rules) := by
    show (read rules content).closed ++ (read rules content).current.toList = _
    rw [hread]
    rcases List.eq_nil_or_concat' found with hnil | ⟨before, segment, hconcat⟩
    · rw [hnil]
      rfl
    · rw [hconcat, readerOf_concat, List.map_append]
      rfl
  refine ⟨rfl, ?_, ?_⟩
  · rw [hreleases, List.forall₂_map_right_iff, List.forall₂_same]
    exact fun segment _ => isReleaseOf_releaseOf rules segment
  · rw [todoCount, hread]
    refine List.countP_congr fun e _ => ?_
    rw [needsReference_iff, decide_eq_true_iff]

end Legacy

end CommonChangelog
