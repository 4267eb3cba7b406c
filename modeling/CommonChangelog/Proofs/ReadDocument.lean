import CommonChangelog.Proofs.ReadNumbers
import CommonChangelog.Proofs.SingleLines
import CommonChangelog.Proofs.Skeleton
import CommonChangelog.Proofs.Validity

/-!
# What a document is read as

Reading accepts every text, and so a document that was read need not be one that anybody would
write. But it has some form: titles, labels and notices are trimmed, a label has no closing bracket
in it and a date no blank, no group is empty, every change stands for an entry, and no text has a
line break in it. A label can still be empty, if nothing but blanks stood between the brackets.

Main result: `Changelog.asRead_ofText`.
-/

namespace CommonChangelog

open Text (isBlank trim after? run?)

/-! ## Lines -/

/-- A text without blanks, as it stands in the place of a date. -/
def Text.IsWord (s : Text) : Prop := s ≠ [] ∧ ∀ c ∈ s, isBlank c = false

theorem Text.IsWord.oneLine {s : Text} (h : s.IsWord) : '\n' ∉ s :=
  fun hmem => absurd (h.2 _ hmem) (by decide)

theorem Text.allBlank_of_trim_eq_nil {s : Text} (h : trim s = []) : allBlank s := by
  obtain ⟨b, hb, hs⟩ := exists_trimEnd_append (trimStart s)
  rw [← trim, h, List.nil_append] at hs
  have hfront : s = s.takeWhile isBlank ++ b := by
    rw [← hs]
    exact List.takeWhile_append_dropWhile.symm
  rw [hfront, allBlank, List.all_append, List.all_takeWhile, Bool.true_and]
  exact hb

theorem Text.oneLine_join {ps : List Text} (h : ∀ p ∈ ps, '\n' ∉ p) : '\n' ∉ join " " ps := by
  intro hmem
  have hjoined : '\n' ∈ join [' '] ps := hmem
  rcases eq_or_mem_of_mem_join hjoined with hspace | ⟨p, hp, hbreak⟩
  · exact absurd hspace (by decide)
  · exact h p hp hbreak

namespace Line

/-- What lines are read as. -/
def AsRead : Line → Prop
  | title text => text ≠ [] ∧ trim text = text ∧ '\n' ∉ text
  | version label date =>
    trim label = label ∧ ']' ∉ label ∧ '\n' ∉ label ∧ ∀ word ∈ date, word.IsWord
  | notice text | entry text => '\n' ∉ text
  | _ => True

theorem isWord_of_dashed? {s word : Text} (h : dashed? s = some word) : word.IsWord := by
  simp only [dashed?, Option.bind_eq_bind, Option.bind_eq_some_iff] at h
  obtain ⟨_, -, _, -, _, -, ⟨word, _⟩, hrun, heq⟩ := h
  cases heq
  obtain ⟨-, hne, hword, -⟩ := Text.run?_eq_some.1 hrun
  exact ⟨hne, fun c hc => by simpa using hword c hc⟩

theorem asRead_of_heading? {line label : Text} {date : Option Text} (hline : '\n' ∉ line)
    (h : heading? line = some (label, date)) : (version label date).AsRead := by
  simp only [heading?, Option.bind_eq_bind, Option.bind_eq_some_iff, Text.after?_eq_some] at h
  obtain ⟨s, rfl, t, ht, u, rfl, ⟨name, v⟩, hrun, w, -, heq⟩ := h
  cases heq
  obtain ⟨rfl, -, hname, -⟩ := Text.run?_eq_some.1 hrun
  have hsuffix := Text.suffix_of_afterBlanks? ht
  have hmem : ∀ c ∈ trim name, c ∈ name := fun c hc => (Text.trim_sublist name).subset hc
  refine ⟨Text.trim_trim name, fun hclose => ?_, fun hbreak => ?_, fun word hword => ?_⟩
  · exact absurd (hname _ (hmem _ hclose)) (by decide)
  · refine hline (List.mem_append_right _ (hsuffix.subset ?_))
    exact List.mem_append_right _ (List.mem_append_left _ (hmem _ hbreak))
  · exact isWord_of_dashed? hword

/-- A title is not empty, since the line was trimmed before its number sign was read. -/
theorem asRead_title {line text : Text} (hline : '\n' ∉ line) (htrim : trim line = line)
    (h : Shows line (title text)) : (title text).AsRead := by
  obtain ⟨rest, rfl, rfl⟩ := h
  have hrest : '\n' ∉ rest := fun hmem => hline (by simp [hmem])
  refine ⟨fun hnil => ?_, Text.trim_trim rest, Text.oneLine_trim hrest⟩
  have hblank : Text.allBlank (' ' :: rest) := by
    rw [Text.allBlank, List.all_cons, ← Text.allBlank, Text.allBlank_of_trim_eq_nil hnil]
    rfl
  have hmark : trim ('#' :: ' ' :: rest) = ['#'] := Text.trim_append_of_allBlank hblank ['#']
  rw [htrim] at hmark
  cases hmark

theorem subset_of_noticeText? {line text : Text} (h : noticeText? line = some text) :
    text ⊆ line := by
  unfold noticeText? at h
  repeat' split at h
  all_goals try cases h
  exact fun c hc => List.mem_cons_of_mem _
    ((List.dropLast_sublist _).subset ((Text.trim_sublist _).subset hc))

/-- The form of what a line is read as. -/
theorem asRead_classify {line : Text} (hline : '\n' ∉ line) : (classify line).AsRead := by
  have hone : '\n' ∉ trim line := Text.oneLine_trim hline
  cases h : classify line with
  | title text => exact asRead_title hone (Text.trim_trim line) (shows_of_classify h)
  | version label date => exact asRead_of_heading? hone (shows_of_classify h).2
  | notice text => exact fun hmem => hone (subset_of_noticeText? (shows_of_classify h) hmem)
  | entry text =>
    obtain ⟨before, after, heq, -⟩ := within_of_classify h
    exact fun hmem => hline (by simp [heq, hmem])
  | _ => trivial

end Line

/-! ## Documents -/

/-- What a release is read as. -/
structure Release.AsRead (release : Release) : Prop where
  trimmed : trim release.label = release.label
  closed : ']' ∉ release.label
  date : ∀ date ∈ release.date, date.IsWord
  notice : ∀ notice ∈ release.notice, notice ≠ [] ∧ trim notice = notice
  oneLine : release.OneLine
  groups : ∀ group ∈ release.groups, group.changes ≠ []
  changes : ∀ change ∈ release.changes, ∃ text, '\n' ∉ text ∧ change = Change.ofEntry text

/-- What a document is read as. -/
structure Changelog.AsRead (changelog : Changelog) : Prop where
  titled : changelog.title ≠ []
  trimmed : trim changelog.title = changelog.title
  oneLine : changelog.OneLine
  releases : ∀ release ∈ changelog.releases, release.AsRead

theorem Change.oneLine_ofEntry {text : Text} (h : '\n' ∉ text) : (ofEntry text).OneLine where
  text := by
    have hfirst := begins_breakingMarker.leaves.removeFirst_sublist text
    exact fun hmem => h (((Reference.strip_sublist _).trans hfirst).subset hmem)
  references := Reference.oneLine_of_mem_extract h

namespace Outline

variable {rules : Rules} {lines : List Line}

theorem notice?_eq_some {texts : List Text} {text : Text} (h : notice? texts = some text) :
    text ≠ [] ∧ text = trim (Text.join " " texts) := by
  unfold notice? at h
  split at h
  · cases h
  · rename_i hne
    cases h
    exact ⟨hne, rfl⟩

theorem oneLine_of_mem_notices (h : ∀ line ∈ lines, line.AsRead) :
    ∀ text ∈ notices lines, '\n' ∉ text := by
  intro text htext
  obtain ⟨line, hline, hnotice⟩ := List.mem_filterMap.1 htext
  have hread := h line ((List.takeWhile_sublist _).subset hline)
  cases line <;> cases hnotice
  exact hread

theorem asRead_release {label : Text} {date : Option Text} {block : List Line}
    (hheading : (Line.version label date).AsRead) (hblock : ∀ line ∈ block, line.AsRead) :
    (release rules label date block).AsRead := by
  obtain ⟨htrim, hclosed, hone, hdate⟩ := hheading
  have hnotice : ∀ notice ∈ notice? (notices block),
      notice ≠ [] ∧ trim notice = notice ∧ '\n' ∉ notice := by
    intro notice hnotice
    obtain ⟨hne, rfl⟩ := notice?_eq_some hnotice
    exact ⟨hne, Text.trim_trim _,
      Text.oneLine_trim (Text.oneLine_join (oneLine_of_mem_notices hblock))⟩
  have hchanges : ∀ change ∈ (release rules label date block).changes,
      ∃ text, '\n' ∉ text ∧ change = Change.ofEntry text := by
    intro change hchange
    obtain ⟨group, hgroup, hchange⟩ := List.mem_flatMap.1 hchange
    obtain ⟨text, htext, rfl⟩ := exists_of_mem_groups hgroup hchange
    exact ⟨text, hblock _ htext, rfl⟩
  exact {
    trimmed := htrim
    closed := hclosed
    date := hdate
    notice := fun notice h => ⟨(hnotice notice h).1, (hnotice notice h).2.1⟩
    oneLine :=
      { label := hone
        date := fun word hword => (hdate word hword).oneLine
        notice := fun notice h => (hnotice notice h).2.2
        changes := by
          intro change hchange
          obtain ⟨text, htext, rfl⟩ := hchanges change hchange
          exact Change.oneLine_ofEntry htext }
    groups := fun group hgroup => (category_of_mem_groups hgroup).2
    changes := hchanges }

theorem asRead_of_mem_releases (h : ∀ line ∈ lines, line.AsRead) :
    ∀ r ∈ releases rules lines, r.AsRead := by
  induction lines with
  | nil => exact fun _ hr => absurd hr List.not_mem_nil
  | cons line lines ih =>
    rw [List.forall_mem_cons] at h
    rcases line.version_or with ⟨label, date, rfl⟩ | hl
    · rw [releases, List.forall_mem_cons]
      refine ⟨asRead_release h.1 fun line hline => ?_, ih h.2⟩
      exact h.2 line ((List.takeWhile_sublist _).subset hline)
    · rw [releases_cons hl]
      exact ih h.2

theorem asRead_title (h : ∀ line ∈ lines, line.AsRead) : (Line.title (title lines)).AsRead := by
  rw [title, titleOr]
  rcases List.eq_nil_or_concat' ((block lines).filterMap Line.title?) with hnil | ⟨texts, text, heq⟩
  · rw [hnil]
    exact ⟨by decide, by decide, by decide⟩
  · have htext : text ∈ (block lines).filterMap Line.title? := by rw [heq]; simp
    obtain ⟨line, hline, htitle⟩ := List.mem_filterMap.1 htext
    have hread := h line ((List.takeWhile_sublist _).subset hline)
    rw [heq, List.getLastD_concat]
    cases line <;> cases htitle
    exact hread

end Outline

/-- **The form of what is read.** -/
theorem Changelog.asRead_ofText (rules : Rules) (content : Text) :
    (ofText rules content).AsRead := by
  have hlines : ∀ line ∈ (Text.split '\n' content).map Line.classify, line.AsRead := by
    rw [List.forall_mem_map]
    exact fun line hline => Line.asRead_classify (Text.not_mem_of_mem_split hline)
  rw [ofText_eq, Outline.ofLines_eq]
  obtain ⟨hne, htrim, hone⟩ := Outline.asRead_title hlines
  have hreleases : ∀ release ∈ Outline.releases rules _, release.AsRead :=
    Outline.asRead_of_mem_releases hlines
  exact ⟨hne, htrim, ⟨hone, fun release hr => (hreleases release hr).oneLine⟩, hreleases⟩

end CommonChangelog
