import CommonChangelog.Proofs.DocumentEntries
import CommonChangelog.Proofs.ReadNumbers
import CommonChangelog.Proofs.WrittenLines
import Mathlib.Data.List.TakeWhile

/-!
# Entries that migration carries over

An older changelog may be readable for the strict reader as well. Migration reads it with the other
reader, and overwrites it; so what the strict reader finds in it had better not get lost. The two
readers differ in what they make of a line: the strict one ignores blanks around it and takes any
text for the name of a category, the other one wants the mark of the line at its front and a name
that begins with a word character, but accepts headings of releases in more forms.

On a line where these differences do not show (`LegacyLine.isRegular`), whatever opens a release or
a category for the strict reader does so for the other one, and the other one begins no release
where the strict one stays within its own. So, line by line, it is at least as deep in the document
as the strict reader.

**Theorem (`Legacy.parse_carries_entries`).** If all lines of a text are regular, then the entries
that the strict reader takes are among those that migration carries over, in the same order.
-/

namespace CommonChangelog

open Text (isBlank trim trimStart trimEnd allBlank after? run?)

/-! ## Landmarks -/

/-- What one reader sees in a line keeps up with what another one sees in it. -/
structure Landmark.KeepsUp (mark other : Landmark) : Prop where
  release : other = .release → mark = .release
  category : other = .category → mark = .category
  entry : ∀ text, other = .entry text → ∃ raw, mark = .entry raw ∧ trim raw = text
  begins : mark = .release → other = .release ∨ other = .stop
  goesOn : mark ≠ .stop

namespace Depth

variable {mark other : Landmark} {a b : Depth}

theorem after_category_le (h : a ≤ b) : a.after .category ≤ b.after .category := by
  revert h
  cases a <;> cases b <;> decide

theorem le_after_category (depth : Depth) : depth ≤ depth.after .category := by
  cases depth <;> decide

theorem eq_category_of_le (h : category ≤ a) : a = category := by
  revert h
  cases a <;> decide

theorem after_le (h : mark.KeepsUp other) (hle : a ≤ b) : a.after other ≤ b.after mark := by
  cases other with
  | release =>
    rw [h.release rfl]
    exact Nat.le_refl 1
  | stop => exact Nat.zero_le _
  | category =>
    rw [h.category rfl]
    exact after_category_le hle
  | entry text =>
    obtain ⟨raw, rfl, -⟩ := h.entry text rfl
    rw [after_entry, after_entry]
    exact hle
  | none =>
    rw [after_none]
    cases mark with
    | release => rcases h.begins rfl with h | h <;> cases h
    | stop => exact absurd rfl h.goesOn
    | category => exact Nat.le_trans hle (le_after_category b)
    | entry text =>
      rw [after_entry]
      exact hle
    | none =>
      rw [after_none]
      exact hle

theorem taken_sublist (h : mark.KeepsUp other) (hle : a ≤ b) :
    (a.taken other).Sublist ((b.taken mark).map trim) := by
  cases other with
  | entry text =>
    obtain ⟨raw, rfl, rfl⟩ := h.entry text rfl
    cases a with
    | category =>
      rw [eq_category_of_le hle]
      exact List.Sublist.refl [trim raw]
    | _ => exact List.nil_sublist _
  | _ => cases a <;> exact List.nil_sublist _

/-- **A reader that keeps up in each line misses no entry.** -/
theorem entriesFrom_sublist {α : Type} {f g : α → Landmark} {lines : List α}
    (h : ∀ line ∈ lines, (f line).KeepsUp (g line)) (hle : a ≤ b) :
    (a.entriesFrom (lines.map g)).Sublist ((b.entriesFrom (lines.map f)).map trim) := by
  induction lines generalizing a b with
  | nil => exact List.nil_sublist _
  | cons line lines ih =>
    rw [List.forall_mem_cons] at h
    rw [List.map_cons, entriesFrom, List.map_cons, entriesFrom, List.map_append]
    exact (taken_sublist h.1 hle).append (ih h.2 (after_le h.1 hle))

end Depth

/-! ## Lines -/

namespace LegacyLine

variable {line : Text}

/-- A heading of the strict reader is a heading of a release, whatever follows. -/
theorem version?_of_bracketed {blanks name : Text} (hblanks : allBlank blanks) (hne : name ≠ [])
    (hname : ']' ∉ name) (rest : Text) :
    (version? ('#' :: '#' :: (blanks ++ '[' :: (name ++ ']' :: rest)))).isSome := by
  obtain ⟨c, cs, rfl⟩ := List.exists_cons_of_ne_nil hne
  have hcs : ∀ d ∈ cs, decide (d ≠ ']') := fun d hd =>
    decide_eq_true fun heq => hname (heq ▸ List.mem_cons_of_mem c hd)
  have hstart : trimStart (blanks ++ '[' :: (c :: cs ++ ']' :: rest)) =
      '[' :: (c :: cs ++ ']' :: rest) := by
    rw [Text.trimStart_append_of_allBlank hblanks]
    exact Text.trimStart_of_head (Text.forall_head_cons (by rfl) _)
  have hspan : Text.spanOf (· ≠ ']') (cs ++ ']' :: rest) = (cs, ']' :: rest) :=
    Text.spanOf_append hcs (Text.forall_head_cons (by decide) rest)
  have hlabel : bracketedLabel ('[' :: (c :: cs ++ ']' :: rest)) = some (c :: cs, rest) := by
    have hopen : after? "[".toList ('[' :: (c :: cs ++ ']' :: rest)) =
        some (c :: (cs ++ ']' :: rest)) := rfl
    have hclose : after? "]".toList (']' :: rest) = some rest := rfl
    rw [bracketedLabel, hopen, Option.bind_eq_bind, Option.bind_some]
    dsimp only
    rw [hspan]
    dsimp only
    rw [hclose]
    rfl
  have hmark : after? "##".toList ('#' :: '#' :: (blanks ++ '[' :: (c :: cs ++ ']' :: rest))) =
      some (blanks ++ '[' :: (c :: cs ++ ']' :: rest)) := rfl
  rw [version?, hmark, Option.bind_eq_bind, Option.bind_some, hstart]
  dsimp only
  rw [hlabel]
  rfl

theorem version?_category (rest : Text) : version? ('#' :: '#' :: '#' :: rest) = none := rfl

theorem landmark_of_isSome_version? (h : (version? line).isSome) :
    (classify line).landmark = .release := by
  obtain ⟨found, hfound⟩ := Option.isSome_iff_exists.1 h
  rw [classify, hfound]
  rfl

theorem landmark_of_version {label : Text} {date : Option Text}
    (h : Line.classify line = .version label date) (hhead : ∀ c ∈ line.head?, isBlank c = false) :
    (classify line).landmark = .release := by
  obtain ⟨b, -, hline⟩ := Text.exists_eq_trim_append hhead
  obtain ⟨blanks, name, rest, htrim, hblanks, hne, hname⟩ :=
    Line.exists_of_heading? (Line.shows_of_classify h).2
  have hversion : (version? line).isSome := by
    rw [hline, htrim]
    simpa using version?_of_bracketed hblanks hne hname (rest ++ b)
  exact landmark_of_isSome_version? hversion

/-- A category whose name begins with a word character. -/
theorem landmark_category {rest : Text} (h : ∃ c ∈ (trim rest).head?, Text.isWord c) {b : Text} :
    (classify ("### ".toList ++ rest ++ b)).landmark = .category := by
  obtain ⟨c, hc, hword⟩ := h
  obtain ⟨b', -, hrest⟩ := Text.exists_trimEnd_append (trimStart rest)
  have hne : allBlank rest = false := by
    rw [Bool.eq_false_iff]
    intro hblank
    rw [Text.trim_of_allBlank hblank] at hc
    cases hc
  obtain ⟨cs, hcs⟩ : ∃ cs, trim rest = c :: cs := List.head?_eq_some_iff.1 hc
  have hstart : trimStart (' ' :: rest ++ b) = c :: (cs ++ b' ++ b) := by
    have hspace : trimStart (' ' :: (rest ++ b)) = trimStart (rest ++ b) :=
      List.dropWhile_cons_of_pos (by rfl)
    rw [List.cons_append, hspace, Text.trimStart_append hne, hrest, ← trim, hcs]
    simp
  have hcategory : category? ("### ".toList ++ rest ++ b) =
      some (c :: (cs ++ b' ++ b).takeWhile Text.isWord) := by
    show (run? Text.isWord (trimStart (' ' :: rest ++ b))).bind _ = _
    rw [hstart, run?, List.takeWhile_cons_of_pos hword]
    rfl
  have hversion : version? ("### ".toList ++ rest ++ b) = none := version?_category _
  rw [classify, hversion, hcategory]
  rfl

theorem landmark_of_category {heading : Text} (h : Line.classify line = .category heading)
    (hhead : ∀ c ∈ line.head?, isBlank c = false) (hword : heading.head?.any Text.isWord) :
    (classify line).landmark = .category := by
  obtain ⟨b, -, hline⟩ := Text.exists_eq_trim_append hhead
  obtain ⟨rest, htrim, rfl⟩ := Line.shows_of_classify h
  rw [hline, htrim]
  exact landmark_category ((Option.any_eq_true _ _).1 hword)

/-- The text of a list item that is not blank. -/
theorem classify_item {bullet : Char} (hbullet : bullet = '-' ∨ bullet = '*') {rest : Text}
    (h : allBlank rest = false) :
    classify (bullet :: ' ' :: rest) = .entry (trimStart rest) := by
  have hne : trimStart rest ≠ [] := by
    intro hnil
    have hall := List.dropWhile_eq_nil_iff.1 hnil
    rw [allBlank, List.all_eq_true.2 hall] at h
    exact Bool.noConfusion h
  obtain ⟨c, cs, hcs⟩ := List.exists_cons_of_ne_nil hne
  have hentry : entry? (bullet :: ' ' :: rest) = some (trimStart rest) := by
    have hone : Text.afterOne? (fun c => c = '-' || c = '*') (bullet :: ' ' :: rest) =
        some (' ' :: rest) := if_pos (by simpa using hbullet)
    rw [ entry?, hone, Option.bind_eq_bind, Option.bind_some,
      Text.afterBlanks?_cons (by rfl), Option.bind_some, hcs]
  have hheading : version? (bullet :: ' ' :: rest) = none ∧
      category? (bullet :: ' ' :: rest) = none := by
    rcases hbullet with rfl | rfl
    · exact ⟨rfl, rfl⟩
    · exact ⟨rfl, rfl⟩
  rw [classify, hheading.1, hheading.2, hentry]

theorem exists_of_entry {text : Text} (h : Line.classify line = .entry text)
    (hhead : ∀ c ∈ line.head?, isBlank c = false) :
    ∃ raw, classify line = .entry raw ∧ trim raw = text := by
  obtain ⟨b, hb, hline⟩ := Text.exists_eq_trim_append hhead
  obtain ⟨bullet, rest, hbullet, htrim, rfl⟩ := Line.shows_of_classify h
  -- Trimmed as it is, the line does not end with the space after the bullet.
  have hrest : allBlank rest = false := by
    have hlast : ∀ c ∈ (bullet :: ' ' :: rest).getLast?, isBlank c = false :=
      htrim ▸ Text.last_trimEnd (trimStart line)
    rw [List.getLast?_cons_cons, List.getLast?_eq_some_getLast (List.cons_ne_nil ' ' rest)] at hlast
    rw [Bool.eq_false_iff]
    intro hblank
    have hall : allBlank (' ' :: rest) := hblank
    have hspace := List.all_eq_true.1 hall _ (List.getLast_mem (List.cons_ne_nil ' ' rest))
    rw [hlast _ rfl] at hspace
    exact Bool.noConfusion hspace
  have hitem : allBlank (rest ++ b) = false := by
    rw [allBlank, List.all_append, ← allBlank, hrest, Bool.false_and]
  refine ⟨trimStart (rest ++ b), ?_, ?_⟩
  · rw [hline, htrim]
    exact classify_item hbullet hitem
  · rw [Text.trim_trimStart, Text.trim_append_of_allBlank hb]

/-- The heading of a release with a space after its number signs is one for the strict reader. -/
theorem isHeading_of_version? (h : (version? line).isSome)
    (hspace : Text.startsWith "## " line) : (Line.classify line).isHeading := by
  obtain ⟨rest, rfl⟩ := Text.startsWith_iff.1 hspace
  have hrest : allBlank rest = false := by
    rw [Bool.eq_false_iff]
    intro hblank
    have hnil : trimStart (' ' :: rest) = [] := Text.trimStart_of_allBlank hblank
    have hnone : version? ('#' :: '#' :: ' ' :: rest) = none := by
      simp [version?, after?, hnil, bracketedLabel, bareLabel, Text.skipOne, Text.afterOne?, run?]
    exact absurd h (by simpa using hnone)
  have htrim : trim ('#' :: '#' :: ' ' :: rest) = '#' :: '#' :: ' ' :: trimEnd rest :=
    Text.trim_append (p := ['#', '#', ' ']) (by simp) (Text.forall_head_cons (by rfl) _) hrest
  show (Line.ofTrimmed (trim ('#' :: '#' :: ' ' :: rest))).isHeading
  rw [htrim]
  exact Line.isHeading_ofTrimmed _

/-- The heading of a release is one for the strict reader, or ends its release. -/
theorem landmark_of_release (h : (classify line).landmark = .release)
    (hspace : (version? line).isNone ∨ Text.startsWith "## " line) :
    (Line.classify line).landmark = .release ∨ (Line.classify line).landmark = .stop := by
  have hversion : (version? line).isSome := by
    unfold classify at h
    split at h
    · rename_i hfound
      rw [hfound]
      rfl
    all_goals cases h
  have hheading : (Line.classify line).isHeading := by
    refine isHeading_of_version? hversion (hspace.resolve_left fun hnone => ?_)
    rw [Option.isNone_iff_eq_none.1 hnone] at hversion
    exact Bool.noConfusion hversion
  cases hline : Line.classify line with
  | version label date => exact .inl rfl
  | malformed text => exact .inr rfl
  | _ =>
    rw [hline] at hheading
    exact absurd hheading Bool.noConfusion

/--
Both readers see the same in the line: its mark stands at its front if the strict reader knows it,
the name of a category begins with a word character, and the heading of a release has a space after
its number signs.
-/
def isRegular (line : Text) : Bool :=
  let unindented := !line.head?.any isBlank
  let spaced := (version? line).isNone || Text.startsWith "## " line
  spaced && match Line.classify line with
    | .version _ _ | .entry _ => unindented
    | .category heading => unindented && heading.head?.any Text.isWord
    | _ => true

theorem head_of_unindented (h : (!line.head?.any isBlank) = true) :
    ∀ c ∈ line.head?, isBlank c = false := by
  intro c hc
  rw [Option.mem_def.1 hc] at h
  simpa using h

/-- On a regular line the reader for older changelogs keeps up with the strict one. -/
theorem keepsUp_of_isRegular (h : isRegular line) :
    (classify line).landmark.KeepsUp (Line.classify line).landmark := by
  simp only [isRegular, Bool.and_eq_true, Bool.or_eq_true] at h
  obtain ⟨hspace, hrole⟩ := h
  refine ⟨?_, ?_, ?_, fun hrelease => landmark_of_release hrelease hspace, ?_⟩
  · cases hline : Line.classify line with
    | version label date =>
      rw [hline] at hrole
      exact fun _ => landmark_of_version hline (head_of_unindented hrole)
    | _ => exact fun hother => Landmark.noConfusion hother
  · cases hline : Line.classify line with
    | category heading =>
      simp only [hline, Bool.and_eq_true] at hrole
      exact fun _ => landmark_of_category hline (head_of_unindented hrole.1) hrole.2
    | _ => exact fun hother => Landmark.noConfusion hother
  · cases hline : Line.classify line with
    | entry text =>
      rw [hline] at hrole
      intro other hother
      cases hother
      obtain ⟨raw, hraw, htrim⟩ := exists_of_entry hline (head_of_unindented hrole)
      exact ⟨raw, congrArg landmark hraw, htrim⟩
    | _ => exact fun _ hother => Landmark.noConfusion hother
  · cases classify line <;> exact Landmark.noConfusion

end LegacyLine

/-! ## Documents -/

/--
**Migration carries over what the strict reader finds.** If the lines of a text are regular, then
the entries that the strict reader takes are, up to blanks at their ends, some of those that the
reader for older changelogs takes, in the same order. The changes of the two documents are made of
these entries, so the migrated document has at least as many.
-/
theorem Legacy.parse_carries_entries (rules : Rules) (content : Text)
    (h : ∀ line ∈ Text.split '\n' content, LegacyLine.isRegular line) :
    (Changelog.ofText rules content).changes =
      (Changelog.entries content).map Change.ofEntry ∧
    (Legacy.parse rules content).changes.Perm ((Legacy.entries content).map Legacy.change) ∧
    (Changelog.entries content).Sublist ((Legacy.entries content).map trim) ∧
    (Changelog.ofText rules content).changes.length ≤
      (Legacy.parse rules content).changes.length := by
  have hsublist : (Changelog.entries content).Sublist ((Legacy.entries content).map trim) :=
    Depth.entriesFrom_sublist (fun line hline => LegacyLine.keepsUp_of_isRegular (h line hline))
      (Nat.le_refl 0)
  have hstrict := Changelog.changes_ofText rules content
  have hlenient := Legacy.changes_parse rules content
  refine ⟨hstrict, hlenient, hsublist, ?_⟩
  rw [hstrict, hlenient.length_eq, List.length_map, List.length_map]
  exact hsublist.length_le.trans_eq (List.length_map _)

/-- Headings in several forms, lines ended by a carriage return as well, and an entry in a note. -/
def regularSample : Text :=
  "# History\n\nSee keepachangelog.com.\n\n## 2.0.0\n\n### Security\n\n- Close hole\n\n" ++
    "## [1.1.0] - 2024-02-01\r\n\r\n### Added\r\n\r\n- Add search (#1)\r\n" ++
    "  with filters\r\n*  Add   colours \r\n\n##  [1.0.0]\n\n- Note\n\n### Fixed\n- ### crash"

theorem Legacy.parse_carries_entries_regularSample :
    (∀ line ∈ Text.split '\n' regularSample, LegacyLine.isRegular line) ∧
    (Changelog.ofText Rules.default regularSample).changes.length ≤
      (Legacy.parse Rules.default regularSample).changes.length ∧
    (Changelog.ofText Rules.default regularSample).changes.length = 3 := by
  have hregular : ∀ line ∈ Text.split '\n' regularSample, LegacyLine.isRegular line := by
    decide +kernel
  obtain ⟨-, -, -, hcount⟩ := Legacy.parse_carries_entries Rules.default regularSample hregular
  exact ⟨hregular, hcount, by decide +kernel⟩

/-- A nested item, and a category whose name begins with a picture. -/
def nestedSample : Text :=
  "# Changelog\n\n## [1.1.0] - 2024-02-01\n\n### Added\n\n- Add search (#1)\n" ++
    "  - Add filters (#2)\n\n## [1.0.0] - 2024-01-01\n\n### ✨ Fixed\n\n- Fix crash (#3)\n"

/-- Two of three entries of an older changelog are lost. -/
theorem Legacy.parse_loses_nested_entries :
    Dialect.detect nestedSample ≠ .commonChangelog ∧
    (Changelog.ofText Rules.default nestedSample).changes.map (·.text) =
      (["Add search", "Add filters", "Fix crash"] : List Text) ∧
    (Legacy.parse Rules.default nestedSample).changes.map (·.text) =
      (["Add search"] : List Text) := by
  decide +kernel

end CommonChangelog
