import CommonChangelog.Proofs.HeaderGrammar
import CommonChangelog.Proofs.ImportedNumbers
import CommonChangelog.Proofs.VersionHeadings
import Mathlib.Data.List.Infix

/-!
# The headings of release notes

Release notes are read line by line, and the reader keeps the category of the last heading that it
knows. Here the category of an entry is read off the lines above it. By the nearest heading
(`ReleaseNotes.nearest`) an item under an unknown heading stands under no category, and is
categorised by its own text. By the last known heading (`ReleaseNotes.lastKnown`) it still belongs
to the category of a heading further up.

The reader follows the second rule (`ReleaseNotes.entriesUnder_map_roleOf`). The two give the same
category wherever the nearest heading is known (`ReleaseNotes.lastKnown_of_nearest`).

Main result: `ReleaseNotes.entries_scoped_iff`.
-/

namespace CommonChangelog

namespace ReleaseNotes

open Text (isBlank isWord trimStart)

variable {line word text : Text} {lines above : List Text}

/-! ## The roles of lines -/

/-- One to three number signs, perhaps blanks, and a word. -/
def IsHeading (line word : Text) : Prop :=
  ∃ marks blanks rest, line = marks ++ (blanks ++ (word ++ rest)) ∧
    marks ≠ [] ∧ marks.length ≤ 3 ∧ (∀ c ∈ marks, c = '#') ∧ (∀ c ∈ blanks, isBlank c) ∧
    word ≠ [] ∧ (∀ c ∈ word, isWord c) ∧ ∀ c ∈ rest.head?, isWord c = false

/-- A bullet, blanks, and the text of the item. -/
def IsItem (line text : Text) : Prop :=
  ∃ bullet blanks, line = bullet :: (blanks ++ text) ∧ isBullet bullet ∧
    blanks ≠ [] ∧ (∀ c ∈ blanks, isBlank c) ∧ text ≠ [] ∧ ∀ c ∈ text.head?, isBlank c = false

/-- More than twenty characters that are no item and do not begin with a number sign. -/
def IsProse (line : Text) : Prop :=
  (∀ text, ¬IsItem line text) ∧ 20 < line.length ∧ line.head? ≠ some '#'

theorem IsHeading.head (h : IsHeading line word) : line.head? = some '#' := by
  obtain ⟨marks, blanks, rest, rfl, hne, -, hmarks, -⟩ := h
  obtain ⟨c, cs, rfl⟩ := List.exists_cons_of_ne_nil hne
  rw [hmarks c List.mem_cons_self]
  rfl

theorem IsItem.not_isHeading (h : IsItem line text) : ¬IsHeading line word := by
  intro hheading
  obtain ⟨bullet, blanks, rfl, hbullet, -⟩ := h
  obtain rfl := Option.some.inj hheading.head
  exact absurd hbullet (by decide)

theorem headingWord?_eq_some : headingWord? line = some word ↔ IsHeading line word := by
  simp only [headingWord?, Option.bind_eq_bind, Option.bind_eq_some_iff, Option.pure_def,
    Option.some.injEq, Prod.exists, Dialect.headingMark_eq_some, Text.run?_eq_some]
  constructor
  · intro h
    obtain ⟨_, ⟨marks, after, rfl, hne, hmarks, -, hlength, rfl⟩, _, rest,
      ⟨hafter, hword, hall, hrest⟩, rfl⟩ := h
    refine ⟨marks, after.takeWhile isBlank, rest, ?_, hne, hlength, hmarks,
      List.all_eq_true.1 List.all_takeWhile, hword, hall, hrest⟩
    rw [← hafter, trimStart, List.takeWhile_append_dropWhile]
  · intro h
    obtain ⟨marks, blanks, rest, rfl, hne, hlength, hmarks, hblanks, hword, hall, hrest⟩ := h
    obtain ⟨w, ws, rfl⟩ := List.exists_cons_of_ne_nil hword
    have hw : isWord w := hall w List.mem_cons_self
    have hafter : ∀ c ∈ (blanks ++ (w :: ws ++ rest)).head?, c ≠ '#' := by
      cases blanks with
      | nil => exact Text.forall_head_cons (fun heq => absurd (heq ▸ hw) (by decide)) _
      | cons b bs =>
        have hb : isBlank b := hblanks b List.mem_cons_self
        exact Text.forall_head_cons (fun heq => absurd (heq ▸ hb) (by decide)) _
    have htrim : trimStart (blanks ++ (w :: ws ++ rest)) = w :: ws ++ rest := by
      rw [Text.trimStart_append_of_allBlank (List.all_eq_true.2 hblanks)]
      exact Text.trimStart_of_head (Text.forall_head_cons (Text.isBlank_of_isWord hw) _)
    exact ⟨_, ⟨marks, _, rfl, hne, hmarks, hafter, hlength, htrim⟩, _, rest,
      ⟨rfl, hword, hall, hrest⟩, rfl⟩

theorem itemText?_eq_some : itemText? line = some text ↔ IsItem line text := by
  cases line with
  | nil =>
    refine iff_of_false (fun h => by cases h) fun h => ?_
    obtain ⟨bullet, blanks, hnil, -⟩ := h
    cases hnil
  | cons bullet rest =>
    simp only [itemText?, Text.afterOne?, Option.bind_eq_bind, Option.bind_eq_some_iff,
      Option.ite_none_right_eq_some, Option.some.injEq, Text.afterBlanks?_eq_some]
    constructor
    · intro h
      obtain ⟨_, ⟨hbullet, rfl⟩, t, ⟨blanks, rfl, hne, hblanks, hhead⟩, ht⟩ := h
      cases t with
      | nil => cases ht
      | cons c cs =>
        cases ht
        exact ⟨bullet, blanks, rfl, hbullet, hne, hblanks, List.cons_ne_nil c cs, hhead⟩
    · intro h
      obtain ⟨_, blanks, heq, hbullet, hne, hblanks, htext, hhead⟩ := h
      obtain ⟨rfl, rfl⟩ := List.cons.inj heq
      refine ⟨_, ⟨hbullet, rfl⟩, text, ⟨blanks, rfl, hne, hblanks, hhead⟩, ?_⟩
      cases text with
      | nil => exact absurd rfl htext
      | cons c cs => rfl

theorem headingWord?_eq_none : headingWord? line = none ↔ ∀ word, ¬IsHeading line word := by
  simp only [← headingWord?_eq_some, ← ne_eq, Option.eq_none_iff_forall_ne_some]

theorem itemText?_eq_none : itemText? line = none ↔ ∀ text, ¬IsItem line text := by
  simp only [← itemText?_eq_some, ← ne_eq, Option.eq_none_iff_forall_ne_some]

theorem roleOf_eq_heading_iff : roleOf line = .heading word ↔ IsHeading line word := by
  rw [← headingWord?_eq_some]
  unfold roleOf
  cases headingWord? line with
  | some found => simp
  | none => cases itemText? line <;> grind

theorem roleOf_eq_item_iff : roleOf line = .item text ↔ IsItem line text := by
  constructor
  · intro h
    rw [← itemText?_eq_some]
    unfold roleOf at h
    split at h <;> grind
  · intro h
    have hheading : headingWord? line = none := headingWord?_eq_none.2 fun _ => h.not_isHeading
    rw [roleOf, hheading, itemText?_eq_some.2 h]

theorem roleOf_eq_prose_iff : roleOf line = .prose text ↔ text = line ∧ IsProse line := by
  have hmark : Text.startsWith "#" line ↔ line.head? = some '#' := by
    rw [Text.startsWith_iff]
    cases line with
    | nil => exact iff_of_false (by decide) (by decide)
    | cons c cs =>
      show '#' :: [] <+: c :: cs ↔ some c = some '#'
      rw [List.cons_prefix_cons, Option.some.injEq, eq_comm, and_iff_left List.nil_prefix]
  constructor
  · intro h
    unfold roleOf at h
    split at h
    · cases h
    · cases h
    · rename_i hnone
      split at h
      · rename_i hlong
        cases h
        rw [Bool.and_eq_true, decide_eq_true_eq, Bool.not_eq_true', ← Bool.not_eq_true,
          hmark] at hlong
        exact ⟨rfl, itemText?_eq_none.1 hnone, hlong⟩
      · cases h
  · rintro ⟨rfl, hnone, hlong, hhead⟩
    have hword : headingWord? text = none := headingWord?_eq_none.2 fun _ h => hhead h.head
    rw [roleOf, hword, itemText?_eq_none.2 hnone]
    refine if_pos ?_
    rw [Bool.and_eq_true, decide_eq_true_eq, Bool.not_eq_true', ← Bool.not_eq_true, hmark]
    exact ⟨hlong, hhead⟩

theorem headingWord?_of_roleOf (h : ∀ word, roleOf line ≠ .heading word) :
    headingWord? line = none :=
  headingWord?_eq_none.2 fun word hword => h word (roleOf_eq_heading_iff.2 hword)

/-! ## Entries and the headings above them -/

/-- A line with the lines above it. -/
structure PlacedLine where
  above : List Text
  line : Text
  deriving DecidableEq, Repr

/-- Items and prose are entries. -/
def Role.isEntry : Role → Bool
  | item _ | prose _ => true
  | heading _ | skipped => false

/-- The lines that are entries, each with the lines above it. -/
def entryLines (lines : List Text) : List PlacedLine :=
  (List.zipWith PlacedLine.mk lines.inits lines).filter fun placed => (roleOf placed.line).isEntry

/-- The words of the headings among these lines. -/
def headingWords (above : List Text) : List Text := above.filterMap headingWord?

/-- The category of the nearest heading, if there is one and its word is known. -/
def nearest (above : List Text) : Option Category :=
  (headingWords above).getLast?.bind categoryOfHeading?

/-- The category of the nearest of the headings with a known word. -/
def lastKnown (above : List Text) : Option Category :=
  ((headingWords above).filterMap categoryOfHeading?).getLast?

/-- The entry of a line. Items take the category that their place gives them, if it gives one. -/
def entryOf (repository : Option Text) (scope : List Text → Option Category)
    (placed : PlacedLine) : Category × Change :=
  match roleOf placed.line with
  | .item text => ((scope placed.above).getD (categoryOfEntry text), item repository text)
  | _ => (categoryOfEntry placed.line, prose placed.line)

/-- The same place with one more line at the top. -/
def PlacedLine.under (line : Text) (placed : PlacedLine) : PlacedLine :=
  { placed with above := line :: placed.above }

theorem entryLines_cons (line : Text) (lines : List Text) :
    entryLines (line :: lines) =
      (if (roleOf line).isEntry then [⟨[], line⟩] else []) ++
        (entryLines lines).map (PlacedLine.under line) := by
  have htail : List.zipWith PlacedLine.mk (lines.inits.map (line :: ·)) lines =
      (List.zipWith PlacedLine.mk lines.inits lines).map (PlacedLine.under line) := by
    rw [List.zipWith_map_left, List.map_zipWith]
    rfl
  rw [entryLines, List.inits_cons, List.zipWith_cons_cons, List.filter_cons, htail,
    List.filter_map, entryLines]
  split <;> rfl

theorem lastKnown_cons (line : Text) (above : List Text) :
    lastKnown (line :: above) =
      (lastKnown above).or ((headingWord? line).bind categoryOfHeading?) := by
  rw [lastKnown, headingWords, List.filterMap_filterMap, List.filterMap_cons, lastKnown,
    headingWords, List.filterMap_filterMap]
  cases (headingWord? line).bind categoryOfHeading? with
  | none => rw [Option.or_none]
  | some category => rw [List.getLast?_cons, Option.or_some]

/-- Where the nearest heading is known, it is the last known one. -/
theorem lastKnown_of_nearest {category : Category} (h : nearest above = some category) :
    lastKnown above = some category := by
  obtain ⟨word, hword, hcategory⟩ := Option.bind_eq_some_iff.1 h
  obtain ⟨words, hwords⟩ := List.getLast?_eq_some_iff.1 hword
  rw [lastKnown, hwords, List.filterMap_append, List.filterMap_cons_some hcategory,
    List.filterMap_nil, List.getLast?_concat]

/-- **The reader goes by the last known heading.** -/
theorem entriesUnder_map_roleOf (repository : Option Text) (current : Option Category)
    (lines : List Text) :
    entriesUnder repository current (lines.map roleOf) =
      (entryLines lines).map
        (entryOf repository fun above => (lastKnown above).or current) := by
  induction lines generalizing current with
  | nil => rfl
  | cons line lines ih =>
    have hunder : ∀ placed : PlacedLine,
        entryOf repository (fun above => (lastKnown above).or current) (placed.under line) =
          entryOf repository (fun above => (lastKnown above).or
            (((headingWord? line).bind categoryOfHeading?).or current)) placed := by
      intro placed
      simp only [entryOf, PlacedLine.under, lastKnown_cons, Option.or_assoc]
    rw [List.map_cons, entryLines_cons, List.map_append, List.map_map]
    simp only [Function.comp_def, hunder]
    rw [← ih]
    cases hrole : roleOf line with
    | heading word =>
      rw [headingWord?_eq_some.2 (roleOf_eq_heading_iff.1 hrole)]
      rfl
    | item text =>
      rw [headingWord?_of_roleOf (by simp [hrole])]
      simp [entriesUnder, Role.isEntry, entryOf, hrole, lastKnown, headingWords]
    | prose text =>
      rw [headingWord?_of_roleOf (by simp [hrole]), (roleOf_eq_prose_iff.1 hrole).1]
      simp [entriesUnder, Role.isEntry, entryOf, hrole]
    | skipped =>
      rw [headingWord?_of_roleOf (by simp [hrole])]
      rfl

/-- Which of the two rules is taken shows only at items without a known heading just above. -/
theorem entryOf_lastKnown_eq_iff (repository : Option Text) (placed : PlacedLine) :
    entryOf repository lastKnown placed = entryOf repository nearest placed ↔
      ∀ text, IsItem placed.line text → nearest placed.above = none →
        ∀ category ∈ lastKnown placed.above, category = categoryOfEntry text := by
  cases hrole : roleOf placed.line with
  | item text =>
    have hitem : ∀ other, IsItem placed.line other ↔ text = other := fun other => by
      rw [← roleOf_eq_item_iff, hrole, Role.item.injEq]
    simp only [entryOf, hrole, hitem, forall_eq', Prod.mk.injEq, and_true]
    cases hnearest : nearest placed.above with
    | some category => simp [lastKnown_of_nearest hnearest]
    | none => cases lastKnown placed.above <;> simp
  | _ =>
    have hitem : ∀ other, ¬IsItem placed.line other := fun other hother => by
      rw [roleOf_eq_item_iff.2 hother] at hrole
      cases hrole
    simp [entryOf, hrole, hitem]

/--
**Headings scope the items under them, as far as their words are known.** The entries of release
notes are the list items and the longer lines of prose, in order. An item has the category of the
last heading above it whose word is known, and every other entry that of its own text. This is the
category of the nearest heading, or of the item itself if there is none or its word is unknown,
exactly if no item under an unknown heading is recategorised by a known one further up.
-/
theorem entries_scoped_iff (repository : Option Text) (body : Text) :
    (∀ line : Text,
      (∀ word, roleOf line = .heading word ↔ IsHeading line word) ∧
      (∀ text, roleOf line = .item text ↔ IsItem line text) ∧
      ∀ text, roleOf line = .prose text ↔ text = line ∧ IsProse line) ∧
    entries repository body =
      (entryLines (trimmedLines body)).map (entryOf repository lastKnown) ∧
    (entries repository body =
        (entryLines (trimmedLines body)).map (entryOf repository nearest) ↔
      ∀ placed ∈ entryLines (trimmedLines body), ∀ text, IsItem placed.line text →
        nearest placed.above = none →
        ∀ category ∈ lastKnown placed.above, category = categoryOfEntry text) := by
  have hentries : entries repository body =
      (entryLines (trimmedLines body)).map (entryOf repository lastKnown) := by
    rw [entries, entriesUnder_map_roleOf]
    simp only [Option.or_none]
  refine ⟨fun line => ⟨fun word => roleOf_eq_heading_iff, fun text => roleOf_eq_item_iff,
    fun text => roleOf_eq_prose_iff⟩, hentries, ?_⟩
  rw [hentries, List.map_inj_left]
  exact forall₂_congr fun placed _ => entryOf_lastKnown_eq_iff repository placed

/-- An item under a heading that no category is known for, below one of another category. -/
def guideSample : Text :=
  "## Fixes\n- Fix crash (#1)\n\n## Documentation\n- Add guide (#2)\n"

theorem entries_carries_known_heading_on :
    entries none guideSample =
        [(.fixed, { text := "Fix crash", references := [.pullRequest 1 []] }),
          (.fixed, { text := "Add guide", references := [.pullRequest 2 []] })] ∧
      (entryLines (trimmedLines guideSample)).map (entryOf none nearest) =
        [(.fixed, { text := "Fix crash", references := [.pullRequest 1 []] }),
          (.added, { text := "Add guide", references := [.pullRequest 2 []] })] := by
  decide +kernel

end ReleaseNotes

end CommonChangelog
