import CommonChangelog.Proofs.AddedChanges
import CommonChangelog.Proofs.SingleLines
import CommonChangelog.Proofs.Validity
import CommonChangelog.Retrofit

/-!
# Generated documents

A changelog is generated from an older changelog, from a history, or from published releases. All
three go through their source once and add changes one after the other. What each addition keeps
is that the release is tidy: its texts are single lines and its groups stand in canonical order.
For the older changelog this is the invariant of a reader that goes from line to line.

Main results: `Legacy.tidy_of_mem_parse`, `Retrofit.tidy_of_mem_changelogOf` and
`Import.tidy_of_mem_changelogOf`.
-/

namespace CommonChangelog

/-! ## Tidy releases -/

/-- The texts of the release are single lines, and its groups stand in canonical order. -/
structure Release.Tidy (release : Release) : Prop where
  oneLine : release.OneLine
  ordered : release.Ordered

namespace Release

theorem tidy_of_heading {label : Text} {date notice : Option Text} (hlabel : '\n' ∉ label)
    (hdate : ∀ text ∈ date, '\n' ∉ text) (hnotice : ∀ text ∈ notice, '\n' ∉ text) :
    Tidy { label, date, notice } where
  oneLine := ⟨hlabel, hdate, hnotice, fun _ hchange => absurd hchange List.not_mem_nil⟩
  ordered := List.Pairwise.nil

theorem tidy_unreleased : unreleased.Tidy :=
  tidy_of_heading (by decide) (fun _ h => absurd h (Option.not_mem_none _))
    (fun _ h => absurd h (Option.not_mem_none _))

theorem Tidy.add {release : Release} (h : release.Tidy) (category : Category) {change : Change}
    (hchange : change.OneLine) : (release.add category change).Tidy where
  oneLine :=
    { label := h.oneLine.label
      date := h.oneLine.date
      notice := h.oneLine.notice
      changes := by
        intro other hother
        rw [(add_changes release category change).mem_iff, List.mem_append,
          List.mem_singleton] at hother
        rcases hother with hother | rfl
        · exact h.oneLine.changes other hother
        · exact hchange }
  ordered := h.ordered.add category change

theorem Tidy.addAll {release : Release} (h : release.Tidy) {entries : List (Category × Change)}
    (hentries : ∀ entry ∈ entries, entry.2.OneLine) : (release.addAll entries).Tidy := by
  induction entries generalizing release with
  | nil => exact h
  | cons entry entries ih =>
    rw [List.forall_mem_cons] at hentries
    exact ih (h.add entry.1 hentries.1) hentries.2

end Release

/-! ## Older changelogs -/

namespace LegacyLine

/-- The texts that the line gives are one line. -/
def OneLine : LegacyLine → Prop
  | version label date => '\n' ∉ label ∧ ∀ text ∈ date, '\n' ∉ text
  | entry text => '\n' ∉ text
  | category _ | other => True

theorem taken_subset (s rest : Text) : taken s rest ⊆ s := List.take_subset _ s

theorem bracketedLabel_subset {s label rest : Text} (h : bracketedLabel s = some (label, rest)) :
    label ⊆ s ∧ rest ⊆ s := by
  obtain ⟨t, ht, h⟩ := Option.bind_eq_some_iff.1 h
  have hsuffix := Text.suffix_of_after? ht
  cases t with
  | nil => cases h
  | cons c t =>
    obtain ⟨u, hu, h⟩ := Option.bind_eq_some_iff.1 h
    cases h
    have hlabel : c :: t.takeWhile (· ≠ ']') ⊆ c :: t := List.cons_subset_cons c
      (List.takeWhile_subset _)
    have hrest : rest <:+ c :: t :=
      ((Text.suffix_of_after? hu).trans (List.dropWhile_suffix _)).trans (List.suffix_cons c t)
    exact ⟨List.Subset.trans hlabel hsuffix.subset, (hrest.trans hsuffix).subset⟩

theorem suffix_of_dotNumber {s rest : Text} (h : dotNumber s = some rest) : rest <:+ s := by
  obtain ⟨t, ht, h⟩ := Option.bind_eq_some_iff.1 h
  obtain ⟨⟨digits, u⟩, hu, h⟩ := Option.bind_eq_some_iff.1 h
  cases h
  exact (Text.suffix_of_run? hu).trans (Text.suffix_of_after? ht)

theorem suffix_of_hyphenated {s rest : Text} (h : hyphenated s = some rest) : rest <:+ s := by
  obtain ⟨t, ht, h⟩ := Option.bind_eq_some_iff.1 h
  obtain ⟨⟨run, u⟩, hu, h⟩ := Option.bind_eq_some_iff.1 h
  cases h
  exact (Text.suffix_of_run? hu).trans (Text.suffix_of_after? ht)

theorem getD_suffix {rest : Option Text} {s : Text} (h : ∀ t ∈ rest, t <:+ s) :
    rest.getD s <:+ s := by
  cases rest with
  | none => exact List.suffix_rfl
  | some t => exact h t rfl

theorem bareLabel_subset {s label rest : Text} (h : bareLabel s = some (label, rest)) :
    label ⊆ s ∧ rest ⊆ s := by
  obtain ⟨⟨digits, t⟩, ht, h⟩ := Option.bind_eq_some_iff.1 h
  obtain ⟨u, hu, h⟩ := Option.bind_eq_some_iff.1 h
  cases h
  have hnumber : u <:+ s := ((suffix_of_dotNumber hu).trans (Text.suffix_of_run? ht)).trans
    (Text.skipOne_suffix _ s)
  have hpatch : (dotNumber u).getD u <:+ u := getD_suffix fun _ h => suffix_of_dotNumber h
  have hrest : ∀ t : Text, (hyphenated t).getD t <:+ t :=
    fun t => getD_suffix fun _ h => suffix_of_hyphenated h
  exact ⟨taken_subset s _, ((hrest _).trans (hpatch.trans hnumber)).subset⟩

theorem date?_subset {s date : Text} (h : date? s = some date) : date ⊆ s := by
  obtain ⟨t, ht, h⟩ := Option.bind_eq_some_iff.1 h
  obtain ⟨⟨found, u⟩, hu, h⟩ := Option.bind_eq_some_iff.1 h
  cases h
  have hdate : date ⊆ Text.trimStart t := by
    rw [(isoDate_eq_some.1 hu).1]
    exact List.subset_append_left date u
  have hsuffix : Text.trimStart t <:+ s :=
    ((Text.trimStart_suffix t).trans (Text.suffix_of_after? ht)).trans (Text.trimStart_suffix s)
  exact List.Subset.trans hdate hsuffix.subset

theorem version?_subset {line label : Text} {date : Option Text}
    (h : version? line = some (label, date)) : label ⊆ line ∧ ∀ text ∈ date, text ⊆ line := by
  obtain ⟨t, ht, h⟩ := Option.bind_eq_some_iff.1 h
  obtain ⟨⟨found, rest⟩, hfound, h⟩ := Option.bind_eq_some_iff.1 h
  cases h
  have hline : Text.trimStart t ⊆ line :=
    ((Text.trimStart_suffix t).trans (Text.suffix_of_after? ht)).subset
  have hparts : label ⊆ Text.trimStart t ∧ rest ⊆ Text.trimStart t := by
    rcases Option.or_eq_some_iff.1 hfound with hfound | ⟨-, hfound⟩
    · exact bracketedLabel_subset hfound
    · exact bareLabel_subset hfound
  refine ⟨List.Subset.trans hparts.1 hline, fun text htext => ?_⟩
  exact List.Subset.trans (List.Subset.trans (date?_subset htext) hparts.2) hline

theorem entry?_subset {line text : Text} (h : entry? line = some text) : text ⊆ line := by
  obtain ⟨rest, hrest, h⟩ := Option.bind_eq_some_iff.1 h
  obtain ⟨t, ht, h⟩ := Option.bind_eq_some_iff.1 h
  have hsuffix := Text.suffix_of_afterOne? hrest
  cases t with
  | nil =>
    -- Of an item of blanks the last one is the text.
    rw [Option.ite_none_right_eq_some, Option.map_eq_some_iff] at h
    obtain ⟨-, c, hc, rfl⟩ := h
    exact List.cons_subset.2
      ⟨hsuffix.subset (List.mem_of_getLast? hc), List.nil_subset line⟩
  | cons c t =>
    cases h
    exact ((Text.suffix_of_afterBlanks? ht).trans hsuffix).subset

theorem oneLine_classify {line : Text} (h : '\n' ∉ line) : (classify line).OneLine := by
  unfold classify
  split
  · rename_i hversion
    obtain ⟨hlabel, hdate⟩ := version?_subset hversion
    exact ⟨fun hmem => h (hlabel hmem), fun text htext hmem => h (hdate text htext hmem)⟩
  · trivial
  · rename_i hentry
    exact fun hmem => h (entry?_subset hentry hmem)
  · trivial

end LegacyLine

namespace Legacy

theorem oneLine_normalizeLabel {label : Text} (h : '\n' ∉ label) :
    '\n' ∉ normalizeLabel label := by
  have htrim := Text.oneLine_trim h
  dsimp only [normalizeLabel]
  split
  · decide
  · split
    · rename_i rest heq
      split
      · rw [heq, List.mem_cons, not_or] at htrim
        exact htrim.2
      · exact htrim
    · exact htrim

theorem oneLine_reword {raw : Text} (h : '\n' ∉ raw) : '\n' ∉ reword raw := by
  have hopen : '\n' ∉ openWithDeprecate raw := by
    dsimp only [openWithDeprecate]
    split
    · rw [List.mem_append, not_or]
      have hsuffix := leaves_deprecation.removeStart_suffix raw
      exact ⟨by decide, fun hmem => h (hsuffix.subset hmem)⟩
    · exact h
  refine Title.oneLine_toImperative ?_
  split
  · have hsublist := leaves_breakingWord.removeFirst_sublist (openWithDeprecate raw)
    exact fun hmem => hopen (hsublist.subset hmem)
  · exact hopen

theorem oneLine_change {raw : Text} (h : '\n' ∉ raw) : (change raw).OneLine where
  text := by
    have hreword := oneLine_reword h
    have hstrip : '\n' ∉ Reference.strip (reword raw) :=
      fun hmem => hreword ((Reference.strip_sublist _).subset hmem)
    rw [change, List.mem_append, not_or]
    refine ⟨hstrip, ?_⟩
    split
    · decide
    · exact List.not_mem_nil
  references := Reference.oneLine_of_mem_extract (oneLine_reword h)

/-- Every release that has been read is tidy. -/
structure Reader.Tidy (reader : Reader) : Prop where
  closed : ∀ release ∈ reader.closed, release.Tidy
  current : ∀ release ∈ reader.current, release.Tidy

variable {rules : Rules}

theorem Reader.Tidy.step {reader : Reader} (h : reader.Tidy) {line : LegacyLine}
    (hline : line.OneLine) : (reader.step rules line).Tidy := by
  cases line with
  | version label date =>
    refine ⟨?_, ?_⟩
    · show ∀ release ∈ reader.closed ++ reader.current.toList, release.Tidy
      rw [List.forall_mem_append]
      exact ⟨h.closed, fun release hmem => h.current release (Option.mem_toList.1 hmem)⟩
    · intro release hmem
      cases hmem
      exact Release.tidy_of_heading (oneLine_normalizeLabel hline.1) hline.2
        fun _ hnotice => absurd hnotice (Option.not_mem_none _)
  | category word =>
    rw [Reader.step]
    split
    · exact ⟨h.closed, h.current⟩
    · exact h
  | entry raw =>
    rw [Reader.step]
    split
    · rename_i release category hrelease _
      refine ⟨h.closed, fun other hmem => ?_⟩
      cases hmem
      exact (h.current release hrelease).add category (oneLine_change hline)
    · exact h
  | other => exact h

theorem Reader.Tidy.foldl {lines : List LegacyLine} (hlines : ∀ line ∈ lines, line.OneLine)
    {reader : Reader} (h : reader.Tidy) : (lines.foldl (Reader.step rules) reader).Tidy := by
  induction lines generalizing reader with
  | nil => exact h
  | cons line lines ih =>
    rw [List.forall_mem_cons] at hlines
    exact ih hlines.2 (h.step hlines.1)

theorem tidy_of_mem_parse (rules : Rules) (content : Text) :
    ∀ release ∈ (parse rules content).releases, release.Tidy := by
  have hlines : ∀ line ∈ (Text.split '\n' content).map LegacyLine.classify, line.OneLine := by
    rw [List.forall_mem_map]
    exact fun line hline => LegacyLine.oneLine_classify (Text.not_mem_of_mem_split hline)
  have hempty : Reader.Tidy {} :=
    ⟨fun _ h => absurd h List.not_mem_nil, fun _ h => absurd h (Option.not_mem_none _)⟩
  have hread : (read rules content).Tidy := hempty.foldl hlines
  rw [parse, List.forall_mem_append]
  exact ⟨hread.closed, fun release hmem => hread.current release (Option.mem_toList.1 hmem)⟩

end Legacy

/-! ## Published releases -/

/-- What becomes the heading of the section, or its only entry, is one line. -/
structure PublishedRelease.OneLine (release : PublishedRelease) : Prop where
  tag : '\n' ∉ release.tag
  name : ∀ name ∈ release.name, '\n' ∉ name
  publishedAt : ∀ timestamp ∈ release.publishedAt, '\n' ∉ timestamp

namespace ReleaseNotes

theorem labelOfTag_suffix (tag : Text) : labelOfTag tag <:+ tag :=
  (Text.skipOne_suffix _ _).trans (leaves_versionWord.removeStart_suffix tag)

theorem exists_of_dateOfTimestamp {timestamp : Option Text} {date : Text}
    (h : date ∈ dateOfTimestamp timestamp) : ∃ text ∈ timestamp, date ⊆ text := by
  unfold dateOfTimestamp at h
  split at h
  · cases h
  · rename_i text
    split at h
    · cases h
    · cases h
      exact ⟨text, rfl, List.takeWhile_subset _⟩

theorem not_mem_pullRequestUrl {d : Char} (hdigit : Text.isAsciiDigit d = false)
    (hpath : d ∉ ("/pull/" : Text)) {repository : Option Text} (h : ∀ url ∈ repository, d ∉ url)
    (n : UInt64) : d ∉ pullRequestUrl repository n := by
  cases repository with
  | none => exact List.not_mem_nil
  | some url =>
    rw [pullRequestUrl, List.mem_append, not_or, List.mem_append, not_or]
    exact ⟨⟨h url rfl, hpath⟩, Reference.not_mem_ofWord hdigit⟩

/-- Cleaning drops characters, and then the first one gets its upper case. -/
theorem exists_sublist_itemText (text : Text) :
    ∃ clean : Text, clean.Sublist text ∧ itemText text = Text.capitalize clean := by
  have h₁ := readsToEnd_pullRequestSuffix.leaves.removeFirst_sublist text
  have h₂ := (readsToEnd_trailingNumber.leaves.removeFirst_sublist _).trans h₁
  have h₃ := (readsToEnd_authorSuffix.leaves.removeFirst_sublist _).trans h₂
  have h₄ := (leaves_commitHeader.removeStart_suffix _).sublist.trans h₃
  have h₅ := (Text.trim_sublist _).trans h₄
  exact ⟨_, (Reference.strip_sublist _).trans h₅, rfl⟩

theorem not_mem_itemText {d : Char} (hd : d.toNat < 'A'.toNat) (hzero : d ≠ Char.ofNat 0)
    {text : Text} (h : d ∉ text) : d ∉ itemText text := by
  obtain ⟨clean, hclean, heq⟩ := exists_sublist_itemText text
  rw [heq]
  exact Text.not_mem_capitalize hd hzero fun hmem => h (hclean.subset hmem)

theorem oneLine_marked {text : Text} (h : '\n' ∉ text) : '\n' ∉ text ++ " " ++ todoMarker := by
  rw [List.mem_append, not_or, List.mem_append, not_or]
  exact ⟨⟨h, by decide⟩, by decide⟩

variable {repository : Option Text} {roles : List Role} {entry : Category × Change}

theorem oneLine_item (hrepository : ∀ url ∈ repository, '\n' ∉ url) {text : Text}
    (h : '\n' ∉ text) : (item repository text).OneLine := by
  have htext : '\n' ∉ itemText text := not_mem_itemText (by decide) (by decide) h
  unfold item
  split
  · rename_i n _
    have hurl : '\n' ∉ pullRequestUrl repository n :=
      not_mem_pullRequestUrl (by decide) (by decide) hrepository n
    exact ⟨htext, List.forall_mem_singleton.2 hurl⟩
  · exact ⟨oneLine_marked htext, fun _ hmem => absurd hmem List.not_mem_nil⟩

theorem oneLine_prose {line : Text} (h : '\n' ∉ line) : (prose line).OneLine :=
  ⟨oneLine_marked (Text.oneLine_truncate h _), fun _ hmem => absurd hmem List.not_mem_nil⟩

theorem oneLine_placeholder {release : PublishedRelease} (h : release.OneLine) :
    (placeholder release).2.OneLine := by
  have hname : '\n' ∉ release.name.getD release.tag := by
    cases hn : release.name with
    | none => exact h.tag
    | some name => exact h.name name hn
  refine ⟨?_, fun _ hmem => absurd hmem List.not_mem_nil⟩
  rw [placeholder, List.mem_append, not_or, List.mem_append, not_or]
  exact ⟨⟨by decide, hname⟩, by decide⟩

/-- What the role of a line gives is the end of the line. -/
def Role.EndOf (line : Text) : Role → Prop
  | item text | prose text => text <:+ line
  | heading _ | skipped => True

theorem endOf_roleOf (line : Text) : (roleOf line).EndOf line := by
  unfold roleOf
  split
  · trivial
  · rename_i text _ htext
    obtain ⟨t, ht, htext⟩ := Option.bind_eq_some_iff.1 htext
    obtain ⟨u, hu, htext⟩ := Option.bind_eq_some_iff.1 htext
    have hsuffix := (Text.suffix_of_afterBlanks? hu).trans (Text.suffix_of_afterOne? ht)
    cases u with
    | nil => cases htext
    | cons c u =>
      cases htext
      exact hsuffix
  · split
    · exact List.suffix_rfl
    · trivial

theorem cases_of_mem_entriesUnder {current : Option Category}
    (h : entry ∈ entriesUnder repository current roles) :
    (∃ text, .item text ∈ roles ∧ entry.2 = item repository text) ∨
      ∃ text, .prose text ∈ roles ∧ entry.2 = prose text := by
  induction roles generalizing current with
  | nil => exact absurd h List.not_mem_nil
  | cons role roles ih =>
    have hlater : ∀ current, entry ∈ entriesUnder repository current roles →
        (∃ text, .item text ∈ role :: roles ∧ entry.2 = item repository text) ∨
          ∃ text, .prose text ∈ role :: roles ∧ entry.2 = prose text :=
      fun current hmem => (ih hmem).imp
        (fun ⟨text, htext, heq⟩ => ⟨text, List.mem_cons_of_mem role htext, heq⟩)
        (fun ⟨text, htext, heq⟩ => ⟨text, List.mem_cons_of_mem role htext, heq⟩)
    cases role with
    | heading word => exact hlater _ h
    | skipped => exact hlater _ h
    | item text =>
      rcases List.mem_cons.1 h with rfl | h
      · exact .inl ⟨text, List.mem_cons_self, rfl⟩
      · exact hlater _ h
    | prose text =>
      rcases List.mem_cons.1 h with rfl | h
      · exact .inr ⟨text, List.mem_cons_self, rfl⟩
      · exact hlater _ h

/-- What a change in the section of a release is made from: a part of a line, or nothing. -/
inductive Source (repository : Option Text) (release : PublishedRelease) : Change → Prop
  | item {line text : Text} (hline : line ∈ Text.lines (release.body.getD []))
      (htext : text ⊆ line) : Source repository release (item repository text)
  | prose {line text : Text} (hline : line ∈ Text.lines (release.body.getD []))
      (htext : text ⊆ line) : Source repository release (prose text)
  | placeholder : Source repository release (placeholder release).2

variable {release : PublishedRelease}

theorem source_of_mem_entries (h : entry ∈ entries repository (release.body.getD [])) :
    Source repository release entry.2 := by
  have hrole : ∀ role ∈ (trimmedLines (release.body.getD [])).map roleOf,
      ∃ line ∈ Text.lines (release.body.getD []), role.EndOf (Text.trim line) := by
    rw [List.forall_mem_map]
    intro trimmed htrimmed
    obtain ⟨line, hline, rfl⟩ := List.mem_map.1 (List.mem_filter.1 htrimmed).1
    exact ⟨line, hline, endOf_roleOf _⟩
  have hsubset : ∀ {text line : Text}, text <:+ Text.trim line → text ⊆ line :=
    fun hend => (hend.sublist.trans (Text.trim_sublist _)).subset
  rcases cases_of_mem_entriesUnder h with ⟨text, hmem, heq⟩ | ⟨text, hmem, heq⟩
  · obtain ⟨line, hline, hend⟩ := hrole _ hmem
    exact heq ▸ .item hline (hsubset hend)
  · obtain ⟨line, hline, hend⟩ := hrole _ hmem
    exact heq ▸ .prose hline (hsubset hend)

/-- The entries of a section: those of the notes, or the placeholder. -/
def sectionEntries (repository : Option Text) (release : PublishedRelease) :
    List (Category × Change) :=
  match entries repository (release.body.getD []) with
  | [] => [placeholder release]
  | found => found

theorem sectionOf_eq (repository : Option Text) (release : PublishedRelease) :
    sectionOf repository release = Release.addAll
      { label := labelOfTag release.tag, date := dateOfTimestamp release.publishedAt }
      (sectionEntries repository release) := by
  unfold sectionOf sectionEntries
  cases entries repository (release.body.getD []) <;> rfl

theorem source_of_mem_sectionEntries (h : entry ∈ sectionEntries repository release) :
    Source repository release entry.2 := by
  unfold sectionEntries at h
  split at h
  · rw [List.mem_singleton.1 h]
    exact .placeholder
  · exact source_of_mem_entries h

theorem Source.oneLine (hrepository : ∀ url ∈ repository, '\n' ∉ url) (h : release.OneLine)
    {change : Change} (hsource : Source repository release change) : change.OneLine := by
  cases hsource with
  | item hline htext =>
    exact oneLine_item hrepository fun hmem => Text.oneLine_of_mem_lines hline (htext hmem)
  | prose hline htext =>
    exact oneLine_prose fun hmem => Text.oneLine_of_mem_lines hline (htext hmem)
  | placeholder => exact oneLine_placeholder h

theorem tidy_sectionOf (hrepository : ∀ url ∈ repository, '\n' ∉ url) (h : release.OneLine) :
    (sectionOf repository release).Tidy := by
  have hempty : Release.Tidy
      { label := labelOfTag release.tag
        date := dateOfTimestamp release.publishedAt } :=
    Release.tidy_of_heading (fun hmem => h.tag ((labelOfTag_suffix release.tag).subset hmem))
      (fun date hdate hmem => by
        obtain ⟨text, htext, hsub⟩ := exists_of_dateOfTimestamp hdate
        exact h.publishedAt text htext (hsub hmem))
      fun _ hnotice => absurd hnotice (Option.not_mem_none _)
  rw [sectionOf_eq]
  exact hempty.addAll fun entry hentry =>
    (source_of_mem_sectionEntries hentry).oneLine hrepository h

end ReleaseNotes

theorem Import.tidy_of_mem_changelogOf {repository : Option Text}
    (hrepository : ∀ url ∈ repository, '\n' ∉ url) {releases : List PublishedRelease}
    (h : ∀ release ∈ releases, release.OneLine) :
    ∀ release ∈ (changelogOf repository releases).releases, release.Tidy := by
  rw [changelogOf, List.forall_mem_cons, List.forall_mem_map]
  exact ⟨Release.tidy_unreleased, fun release hmem =>
    ReleaseNotes.tidy_sectionOf hrepository (h release hmem)⟩

/-! ## Histories -/

namespace Retrofit

variable {rules : Rules} {repository : Option Text}

theorem oneLine_categorize {subject : Text} (h : '\n' ∉ subject) :
    '\n' ∉ (categorize rules subject).text := by
  dsimp only [categorize]
  split
  · rename_i commit hcommit
    exact Title.oneLine_clean (Conventional.oneLine_description hcommit)
  · exact Title.oneLine_clean h

theorem oneLine_entry (hrepository : ∀ url ∈ repository, '\n' ∉ url) {commit : Commit}
    (h : '\n' ∉ commit.subject) : (entry rules repository commit).change.OneLine where
  text := by
    have hcategorize : '\n' ∉ (categorize rules commit.subject).text := oneLine_categorize h
    rw [entry]
    generalize categorize rules commit.subject = categorized at hcategorize ⊢
    have htext := ReleaseNotes.readsToEnd_trailingNumber.leaves.removeFirst_sublist categorized.text
    exact Text.oneLine_trim fun hmem => hcategorize (htext.subset hmem)
  references := by
    intro reference hmem
    obtain ⟨n, -, rfl⟩ := List.mem_map.1 hmem
    show '\n' ∉ ReleaseNotes.pullRequestUrl repository n
    exact ReleaseNotes.not_mem_pullRequestUrl (by decide) (by decide) hrepository n

theorem tidy_of_mem_changelogOf {version date : Text} (hversion : '\n' ∉ version)
    (hdate : '\n' ∉ date) (hrepository : ∀ url ∈ repository, '\n' ∉ url) {log : List Commit}
    (h : ∀ commit ∈ log, '\n' ∉ commit.subject) :
    ∀ release ∈ (changelogOf rules version date repository log).releases, release.Tidy := by
  have hempty : Release.Tidy { label := version, date := some date, notice := some notice } := by
    refine Release.tidy_of_heading hversion ?_ ?_
    · intro text htext
      cases htext
      exact hdate
    · intro text htext
      cases htext
      decide
  rw [changelogOf, List.forall_mem_cons, List.forall_mem_singleton]
  refine ⟨Release.tidy_unreleased, hempty.addAll ?_⟩
  rw [List.forall_mem_map]
  intro found hfound
  obtain ⟨commit, hcommit, rfl⟩ := List.mem_map.1 (List.mem_mergeSort.1 hfound)
  exact oneLine_entry hrepository (h commit (List.mem_filter.1 (List.mem_filter.1 hcommit).1).1)

end Retrofit

end CommonChangelog
