import CommonChangelog.Proofs.DocumentEntries
import CommonChangelog.Proofs.GeneratedDocuments
import Mathlib.Algebra.Order.BigOperators.Group.List
import Mathlib.Algebra.Order.Ring.Nat

/-!
# Markers of imported entries

An import counts the places of its document at which a marker begins. Markers come from three
sources: list items without a number, lines of prose, and releases without notes. A marker begins
with a character that does not come again in its beginning, so of two texts each is counted by
itself where they stand one behind the other (`Text.count_append_le`), and no text counts for more
than it has of this character (`Text.count_le_count`).

A document consists of its frame and of the items of its changes (`Changelog.lines_perm`). The
first bound, summed up over the items, says that no marker is lost, and the second one, summed up
over all lines, that none is made up.

Main result: `Import.ofReleases_counts_markers`.
-/

namespace CommonChangelog

/-! ## Counting a part -/

namespace Text

variable {x : Char} {rest s t : Text}

/-- Reads this part. -/
def literal (part : Text) : Scanner Unit := fun s => (after? part s).map ((), ·)

theorem literal_eq_some {part after : Text} :
    literal part s = some ((), after) ↔ s = part ++ after := by
  rw [literal, Option.map_eq_some_iff]
  simp only [Prod.mk.injEq, true_and, exists_eq_right, after?_eq_some]

theorem opens_literal (hx : x ∉ rest) : Scanner.Opens (literal (x :: rest)) x :=
  fun _ _ _ h => ⟨rest, literal_eq_some.1 h, hx⟩

theorem count_nil (part : Text) : count part [] = 0 := by
  rw [count, Scanner.all_nil, List.length_nil]

/-- A part whose first character does not come again in it is counted wherever it stands. -/
theorem count_cons (hx : x ∉ rest) (c : Char) (s : Text) :
    count (x :: rest) (c :: s) =
      (if x :: rest <+: c :: s then 1 else 0) + count (x :: rest) s := by
  show (Scanner.all (literal (x :: rest)) (c :: s)).length =
    _ + (Scanner.all (literal (x :: rest)) s).length
  split
  · rename_i hprefix
    obtain ⟨after, hafter⟩ := hprefix
    obtain ⟨rfl, hs⟩ := List.cons.inj hafter
    have hread : Scanner.find (literal (x :: rest)) (x :: s) = some ((), after) := by
      rw [(opens_literal hx).find_eq, literal_eq_some, hafter]
    have hsilent : Scanner.Silent (literal (x :: rest)) rest after :=
      (opens_literal hx).begins.silent_of_not_mem hx after
    have hall : Scanner.all (literal (x :: rest)) s = Scanner.all (literal (x :: rest)) after := by
      rw [← hs]
      exact Scanner.all_of_silent hsilent
    rw [Scanner.all_of_find hread, hall, List.length_cons, Nat.add_comm]
  · rename_i hprefix
    have hread : literal (x :: rest) (c :: s) = none := by
      refine Option.eq_none_iff_forall_ne_some.2 fun ⟨_, after⟩ h => hprefix ⟨after, ?_⟩
      exact (literal_eq_some.1 h).symm
    rw [Scanner.all_cons_of_none (Scanner.find_of_none hread), Nat.zero_add]

/-- What is counted in two texts is counted when they stand one behind the other. -/
theorem count_append_le (hx : x ∉ rest) (s t : Text) :
    count (x :: rest) s + count (x :: rest) t ≤ count (x :: rest) (s ++ t) := by
  induction s with
  | nil => rw [count_nil, Nat.zero_add, List.nil_append]
  | cons c s ih =>
    have hprefix : (if x :: rest <+: c :: s then 1 else 0) ≤
        if x :: rest <+: c :: (s ++ t) then 1 else 0 := by
      split
      · rename_i h
        exact (if_pos (h.trans (List.prefix_append (c :: s) t))).ge
      · exact Nat.zero_le _
    rw [List.cons_append, count_cons hx, count_cons hx]
    omega

/-- A part is not counted more often than its first character. -/
theorem count_le_count (hx : x ∉ rest) (s : Text) : count (x :: rest) s ≤ List.count x s := by
  induction s with
  | nil => rw [count_nil, List.count_nil]
  | cons c s ih =>
    rw [count_cons hx, List.count_cons, Nat.add_comm]
    refine Nat.add_le_add ih ?_
    split
    · rename_i hprefix
      rw [(List.cons_prefix_cons.1 hprefix).1, beq_self_eq_true, if_pos rfl]
    · exact Nat.zero_le _

theorem one_le_count (hx : x ∉ rest) (h : x :: rest <:+: s) : 1 ≤ count (x :: rest) s := by
  obtain ⟨before, after, rfl⟩ := h
  have hpart : 1 ≤ count (x :: rest) (x :: rest) := by
    rw [count_cons hx, if_pos List.prefix_rfl]
    exact Nat.le_add_right 1 _
  calc 1 ≤ count (x :: rest) (x :: rest) := hpart
    _ ≤ count (x :: rest) (before ++ x :: rest) :=
      (Nat.le_add_left _ _).trans (count_append_le hx before (x :: rest))
    _ ≤ count (x :: rest) (before ++ x :: rest ++ after) :=
      (Nat.le_add_right _ _).trans (count_append_le hx _ after)

theorem sum_count_le_join (hx : x ∉ rest) (sep : Char) (lines : List Text) :
    (lines.map (count (x :: rest))).sum ≤ count (x :: rest) (join [sep] lines) := by
  induction lines with
  | nil => exact Nat.zero_le _
  | cons line lines ih =>
    cases lines with
    | nil => rw [join_singleton, List.map_singleton, List.sum_singleton]
    | cons next lines =>
      rw [join_cons_cons, List.map_cons, List.sum_cons]
      calc count (x :: rest) line + ((next :: lines).map (count (x :: rest))).sum
          ≤ count (x :: rest) line + count (x :: rest) (join [sep] (next :: lines)) :=
            Nat.add_le_add_left ih _
        _ ≤ count (x :: rest) line + count (x :: rest) (sep :: join [sep] (next :: lines)) := by
            rw [count_cons hx sep]
            exact Nat.add_le_add_left (Nat.le_add_left _ _) _
        _ ≤ _ := count_append_le hx _ _

theorem count_join {sep : Char} (hx : x ≠ sep) (lines : List Text) :
    List.count x (join [sep] lines) = (lines.map (List.count x)).sum := by
  induction lines with
  | nil => rfl
  | cons line lines ih =>
    cases lines with
    | nil => rw [join_singleton, List.map_singleton, List.sum_singleton]
    | cons next lines =>
      simp only [join_cons_cons, List.count_append, List.count_cons_of_ne hx.symm, ih,
        List.map_cons, List.sum_cons]

end Text

theorem sum_map_ite {α : Type} (p : α → Bool) (l : List α) :
    (l.map fun a => if p a then 1 else 0).sum = l.countP p := by
  induction l with
  | nil => rfl
  | cons a l ih => rw [List.map_cons, List.sum_cons, ih, List.countP_cons, Nat.add_comm]

/-! ## Lines of documents -/

/-- The lines of a group around its items. -/
def Group.frame (group : Group) : List Text := ["### " ++ group.category.name, [], []]

/-- The lines of a release around the items of its groups. -/
def Release.frame (release : Release) : List Text :=
  [release.heading, []] ++ noticeLines release.notice ++ release.groups.flatMap Group.frame

/-- The lines of a document around its items. -/
def Changelog.frame (changelog : Changelog) (layout : Layout) : List Text :=
  ["# " ++ changelog.title, []] ++ introLines layout.intro ++
    (match layout.preface with
      | none => []
      | some preface => [preface, []]) ++
    changelog.releases.flatMap Release.frame ++
    (match layout.repository with
      | none => []
      | some repository => changelog.linkLines repository)

/-- If every part of a list is written as its frame and its items, so is the whole list. -/
theorem perm_flatMap_items {α : Type} {written frame : α → List Text} {items : α → List Change}
    (h : ∀ a, (written a).Perm (frame a ++ (items a).map Change.render)) (parts : List α) :
    (parts.flatMap written).Perm
      (parts.flatMap frame ++ (parts.flatMap items).map Change.render) := by
  rw [List.map_flatMap]
  exact (List.Perm.flatMap_left parts fun a _ => h a).trans
    (List.flatMap_append_perm parts _ _).symm

theorem Group.lines_perm (group : Group) :
    group.lines.Perm (group.frame ++ group.changes.map Change.render) :=
  List.Perm.append_left ["### " ++ group.category.name, []] List.perm_append_comm

theorem Release.lines_perm (release : Release) :
    release.lines.Perm (release.frame ++ release.changes.map Change.render) := by
  rw [lines, frame, List.append_assoc _ _ (release.changes.map _)]
  exact (perm_flatMap_items Group.lines_perm release.groups).append_left _

/-- **A document consists of its frame and of the items of its changes.** -/
theorem Changelog.lines_perm (changelog : Changelog) (layout : Layout) :
    (changelog.lines layout).Perm
      (changelog.frame layout ++ changelog.changes.map Change.render) := by
  have hreleases : (changelog.releases.flatMap Release.lines).Perm
      (changelog.releases.flatMap Release.frame ++ changelog.changes.map Change.render) :=
    perm_flatMap_items Release.lines_perm changelog.releases
  simp only [lines, frame, List.append_assoc]
  refine .append_left _ (.append_left _ (.append_left _ ((hreleases.append_right _).trans ?_)))
  rw [List.append_assoc]
  exact List.perm_append_comm.append_left _

namespace Changelog

variable {changelog : Changelog} {layout : Layout}

/-- The empty lines that are dropped at the end count for nothing. -/
theorem sum_map_dropEmptyEnd {w : Text → Nat} (hw : w [] = 0) (lines : List Text) :
    ((dropEmptyEnd lines).map w).sum = (lines.map w).sum := by
  obtain ⟨ends, hends, hlines⟩ := exists_dropEmptyEnd_append lines
  have hsum : (ends.map w).sum = 0 := by
    rw [List.sum_eq_zero_iff, List.forall_mem_map]
    exact fun line hline => hends line hline ▸ hw
  conv => rhs; rw [hlines, List.map_append, List.sum_append, hsum, Nat.add_zero]

variable {x : Char} {rest : Text}

theorem sum_count_le_render (hx : x ∉ rest) (changelog : Changelog) (layout : Layout) :
    ((changelog.lines layout).map (Text.count (x :: rest))).sum ≤
      Text.count (x :: rest) (changelog.render layout) := by
  rw [← sum_map_dropEmptyEnd (Text.count_nil _)]
  exact ((Text.sum_count_le_join hx '\n' _).trans (Nat.le_add_right _ _)).trans
    (Text.count_append_le hx _ _)

theorem count_render (hx : x ≠ '\n') (changelog : Changelog) (layout : Layout) :
    List.count x (changelog.render layout) =
      ((changelog.lines layout).map (List.count x)).sum := by
  have hend : List.count x ("\n" : Text) = 0 :=
    List.count_eq_zero.2 fun h => hx (List.mem_singleton.1 h)
  rw [← sum_map_dropEmptyEnd List.count_nil, render, List.count_append, hend, Nat.add_zero]
  exact Text.count_join hx _

/-- What the lines amount to is what the frame and the items do. -/
theorem sum_map_lines (w : Text → Nat) (changelog : Changelog) (layout : Layout) :
    ((changelog.lines layout).map w).sum =
      ((changelog.frame layout).map w).sum +
        (changelog.changes.map fun change => w change.render).sum := by
  rw [((changelog.lines_perm layout).map w).sum_eq, List.map_append, List.sum_append,
    List.map_map]
  rfl

/-- All items that contain the part are counted. -/
theorem countP_le_count (hx : x ∉ rest) {p : Change → Bool}
    (h : ∀ change ∈ changelog.changes, p change → x :: rest <:+: change.render)
    (layout : Layout) :
    changelog.changes.countP p ≤ Text.count (x :: rest) (changelog.render layout) := by
  calc changelog.changes.countP p
      = (changelog.changes.map fun change => if p change then 1 else 0).sum := by
        rw [sum_map_ite]
    _ ≤ (changelog.changes.map fun change => Text.count (x :: rest) change.render).sum := by
        refine List.sum_le_sum fun change hchange => ?_
        split
        · rename_i hp
          exact Text.one_le_count hx (h change hchange hp)
        · exact Nat.zero_le _
    _ ≤ ((changelog.lines layout).map (Text.count (x :: rest))).sum := by
        rw [sum_map_lines]
        exact Nat.le_add_left _ _
    _ ≤ Text.count (x :: rest) (changelog.render layout) :=
        sum_count_le_render hx changelog layout

/-- Nothing else is counted if the part can begin only in these items, at one place in each. -/
theorem count_le_countP (hx : x ∉ rest) (hend : x ≠ '\n') {p : Change → Bool}
    (hframe : ∀ line ∈ changelog.frame layout, x ∉ line)
    (h : ∀ change ∈ changelog.changes,
      List.count x change.render = if p change then 1 else 0) :
    Text.count (x :: rest) (changelog.render layout) ≤ changelog.changes.countP p := by
  have hsum : ((changelog.frame layout).map (List.count x)).sum = 0 := by
    rw [List.sum_eq_zero_iff, List.forall_mem_map]
    exact fun line hline => List.count_eq_zero.2 (hframe line hline)
  calc Text.count (x :: rest) (changelog.render layout)
      ≤ List.count x (changelog.render layout) := Text.count_le_count hx _
    _ = (changelog.changes.map fun change => List.count x change.render).sum := by
        rw [count_render hend, sum_map_lines, hsum, Nat.zero_add]
    _ = (changelog.changes.map fun change => if p change then 1 else 0).sum :=
        congrArg List.sum (List.map_congr_left h)
    _ = changelog.changes.countP p := sum_map_ite p _

end Changelog

/-! ## Imported changes -/

/-- No text that the release was published with has the character. -/
structure PublishedRelease.Lacks (x : Char) (release : PublishedRelease) : Prop where
  tag : x ∉ release.tag
  name : ∀ name ∈ release.name, x ∉ name
  body : ∀ body ∈ release.body, x ∉ body
  publishedAt : ∀ timestamp ∈ release.publishedAt, x ∉ timestamp

theorem Change.text_infix_render (change : Change) : change.text <:+: change.render :=
  ⟨_, _, rfl⟩

theorem Change.count_render_marked {text marker : Text} (htext : '<' ∉ text)
    (hmarker : List.count '<' marker = 1) :
    List.count '<' (render { text := text ++ marker }) = 1 := by
  have hitem : render { text := text ++ marker } = "- " ++ (text ++ marker) := by
    simp [render]
  have hdash : List.count '<' ("- " : Text) = 0 := by decide
  rw [hitem, List.count_append, List.count_append, hdash, List.count_eq_zero.2 htext, hmarker]

theorem Change.not_mem_render_pullRequest {text url : Text} (htext : '<' ∉ text) (hurl : '<' ∉ url)
    (n : UInt64) : '<' ∉ render { text, references := [.pullRequest n url] } := by
  have hnumber : '<' ∉ Text.ofWord n := Reference.not_mem_ofWord (by decide)
  have hreference : '<' ∉ (Reference.pullRequest n url).render := by
    simp only [Reference.render]
    split <;> simp [hnumber, hurl]
  simp [render, htext, hreference]

namespace ReleaseNotes

variable {repository : Option Text} {release : PublishedRelease} {change : Change}

theorem sectionEntries_ne_nil : sectionEntries repository release ≠ [] := by
  unfold sectionEntries
  split
  · exact List.cons_ne_nil _ _
  · assumption

theorem changes_sectionOf_perm (repository : Option Text) (release : PublishedRelease) :
    (sectionOf repository release).changes.Perm
      ((sectionEntries repository release).map (·.2)) := by
  rw [sectionOf_eq]
  exact Release.addAll_changes _ _

/-- **Every section has a change.** -/
theorem changes_sectionOf_ne_nil : (sectionOf repository release).changes ≠ [] := by
  intro h
  have hperm := changes_sectionOf_perm repository release
  rw [h, List.nil_perm, List.map_eq_nil_iff] at hperm
  exact sectionEntries_ne_nil hperm

theorem source_of_mem_sectionOf (h : change ∈ (sectionOf repository release).changes) :
    Source repository release change := by
  rw [(changes_sectionOf_perm repository release).mem_iff, List.mem_map] at h
  obtain ⟨entry, hentry, rfl⟩ := h
  exact source_of_mem_sectionEntries hentry

/-- **A change without a reference has the beginning of a marker.** -/
theorem Source.isMarked (h : Source repository release change) :
    change.references ≠ [] ∨ Import.todoStart <:+: change.text := by
  have hmarker : Import.todoStart <+: todoMarker := by decide
  cases h with
  | item =>
    unfold ReleaseNotes.item
    split
    · exact .inl (List.cons_ne_nil _ _)
    · exact .inr (hmarker.isInfix.trans (List.suffix_append _ _).isInfix)
  | prose => exact .inr (hmarker.isInfix.trans (List.suffix_append _ _).isInfix)
  | placeholder =>
    have hdetails : Import.todoStart <:+: (" <!-- TODO: Add details from git history -->" : Text) :=
      ⟨" ", " Add details from git history -->", rfl⟩
    exact .inr (hdetails.trans (List.suffix_append _ _).isInfix)

/-- A marker is the only place at which the item of a change has an opening angle bracket. -/
theorem Source.count_render (h : Source repository release change)
    (hrepository : ∀ url ∈ repository, '<' ∉ url) (hrelease : release.Lacks '<') :
    List.count '<' change.render = if change.references.isEmpty then 1 else 0 := by
  have hbody : '<' ∉ release.body.getD [] := by
    cases hb : release.body with
    | none => exact List.not_mem_nil
    | some body => exact hrelease.body body hb
  have hpart : ∀ {line text : Text}, line ∈ Text.lines (release.body.getD []) → text ⊆ line →
      '<' ∉ text :=
    fun hline htext hmem => hbody (Text.subset_of_mem_lines hline (htext hmem))
  have hmarked : ∀ text : Text, '<' ∉ text →
      List.count '<' (Change.render { text := text ++ " " ++ todoMarker }) = 1 := by
    intro text htext
    have hmarker : List.count '<' todoMarker = 1 := by decide
    refine Change.count_render_marked ?_ hmarker
    rw [List.mem_append, not_or]
    exact ⟨htext, by decide⟩
  cases h with
  | @item line text hline htext =>
    have hclean : '<' ∉ itemText text :=
      not_mem_itemText (by decide) (by decide) (hpart hline htext)
    unfold ReleaseNotes.item
    split
    · rename_i n _
      have hurl : '<' ∉ pullRequestUrl repository n :=
        not_mem_pullRequestUrl (by decide) (by decide) hrepository n
      exact List.count_eq_zero.2 (Change.not_mem_render_pullRequest hclean hurl n)
    · exact hmarked _ hclean
  | @prose line text hline htext =>
    have hshort : '<' ∉ Text.truncate text proseLimit :=
      Text.not_mem_truncate (by decide) (hpart hline htext) proseLimit
    exact hmarked _ hshort
  | placeholder =>
    have hname : '<' ∉ release.name.getD release.tag := by
      cases hn : release.name with
      | none => exact hrelease.tag
      | some name => exact hrelease.name name hn
    have hdetails :
        List.count '<' (" <!-- TODO: Add details from git history -->" : Text) = 1 := by decide
    refine Change.count_render_marked ?_ hdetails
    rw [List.mem_append, not_or]
    exact ⟨by decide, hname⟩

end ReleaseNotes

/-! ## The frame of an imported document -/

/-- The parts of the heading do not have the character, and there is no notice. -/
structure Release.HeadingLacks (x : Char) (release : Release) : Prop where
  label : x ∉ release.label
  date : ∀ date ∈ release.date, x ∉ date
  notice : release.notice = none

theorem Category.not_mem_name (category : Category) : '<' ∉ category.name := by
  cases category <;> decide

theorem Release.HeadingLacks.frame {release : Release} (h : release.HeadingLacks '<') :
    ∀ line ∈ release.frame, '<' ∉ line := by
  have hheading : '<' ∉ release.heading := by
    cases hd : release.date with
    | none => simp [heading, hd, h.label]
    | some date =>
      have hdate := h.date date hd
      cases hu : release.isUnreleased <;> simp [heading, hd, hu, h.label, hdate]
  have hgroups : ∀ line ∈ release.groups.flatMap Group.frame, '<' ∉ line := by
    rw [List.forall_mem_flatMap]
    intro group _
    simp [Group.frame, group.category.not_mem_name]
  rw [Release.frame, h.notice, List.forall_mem_append]
  exact ⟨by simp [hheading, noticeLines], hgroups⟩

theorem Changelog.not_mem_linkLines {changelog : Changelog}
    (h : ∀ release ∈ changelog.releases, release.HeadingLacks '<') {repository : Text}
    (hrepository : '<' ∉ repository) : ∀ line ∈ changelog.linkLines repository, '<' ∉ line := by
  intro line hline
  obtain ⟨release, hrelease, hline⟩ := List.mem_filterMap.1 hline
  rw [linkOf] at hline
  split at hline
  · obtain ⟨latest, hlatest, rfl⟩ := Option.map_eq_some_iff.1 hline
    have hlabel := (h latest (List.mem_of_find?_eq_some hlatest)).label
    simp [hrepository, hlabel]
  · cases hline
    simp [hrepository, (h release hrelease).label]

namespace Import

open ReleaseNotes (sectionOf labelOfTag dateOfTimestamp)

variable {repository : Option Text} {releases : List PublishedRelease}

theorem headingLacks_sectionOf {release : PublishedRelease} (h : release.Lacks '<') :
    (sectionOf repository release).HeadingLacks '<' := by
  obtain ⟨groups, hgroups⟩ := Release.exists_addAll_eq
    { label := labelOfTag release.tag, date := dateOfTimestamp release.publishedAt }
    (ReleaseNotes.sectionEntries repository release)
  rw [ReleaseNotes.sectionOf_eq, hgroups]
  refine ⟨fun hmem => h.tag ((ReleaseNotes.labelOfTag_suffix release.tag).subset hmem), ?_, rfl⟩
  intro date hdate hmem
  obtain ⟨text, htext, hsub⟩ := ReleaseNotes.exists_of_dateOfTimestamp hdate
  exact h.publishedAt text htext (hsub hmem)

theorem headingLacks_of_mem_changelogOf (h : ∀ release ∈ releases, release.Lacks '<') :
    ∀ release ∈ (changelogOf repository releases).releases, release.HeadingLacks '<' := by
  rw [changelogOf, List.forall_mem_cons, List.forall_mem_map]
  exact ⟨⟨by decide, fun _ hdate => absurd hdate (Option.not_mem_none _), rfl⟩,
    fun release hrelease => headingLacks_sectionOf (h release hrelease)⟩

/-- Around the items, an imported document has no opening angle bracket of its own. -/
theorem not_mem_frame (hrepository : ∀ url ∈ repository, '<' ∉ url)
    (h : ∀ release ∈ releases, release.Lacks '<') :
    ∀ line ∈ (changelogOf repository releases).frame
      { intro := commonIntro, preface := some preface, repository }, '<' ∉ line := by
  have hheadings : ∀ release ∈ (changelogOf repository releases).releases,
      release.HeadingLacks '<' := headingLacks_of_mem_changelogOf h
  have hreleases : ∀ line ∈ (changelogOf repository releases).releases.flatMap Release.frame,
      '<' ∉ line := by
    rw [List.forall_mem_flatMap]
    exact fun release hrelease => (hheadings release hrelease).frame
  rw [Changelog.frame, List.forall_mem_append, List.forall_mem_append, List.forall_mem_append,
    List.forall_mem_append]
  refine ⟨⟨⟨⟨?_, ?_⟩, ?_⟩, hreleases⟩, ?_⟩
  · show ∀ line ∈ ["# " ++ defaultTitle, []], '<' ∉ line
    decide
  · show ∀ line ∈ Changelog.introLines commonIntro, '<' ∉ line
    decide
  · show ∀ line ∈ [preface, []], '<' ∉ line
    decide
  · cases repository with
    | none => exact fun _ hline => absurd hline List.not_mem_nil
    | some url => exact Changelog.not_mem_linkLines hheadings (hrepository url rfl)

/-! ## The count -/

theorem exists_source_of_mem_changes {change : Change}
    (h : change ∈ (changelogOf repository releases).changes) :
    ∃ release ∈ releases, ReleaseNotes.Source repository release change := by
  obtain ⟨part, hpart, hchange⟩ := List.mem_flatMap.1 h
  rcases List.mem_cons.1 hpart with rfl | hpart
  · exact absurd hchange List.not_mem_nil
  · obtain ⟨release, hrelease, rfl⟩ := List.mem_map.1 hpart
    exact ⟨release, hrelease, ReleaseNotes.source_of_mem_sectionOf hchange⟩

theorem subset_of_selected (includePrereleases : Bool) (releases : List PublishedRelease) :
    selected includePrereleases releases ⊆ releases :=
  fun _ h => (List.mem_filter.1 (List.mem_mergeSort.1 h)).1

/--
**The count of an import accounts for every change without a reference.** Each change has a
reference or a marker. Behind the section for unreleased changes every section has a change. The
count is at least the number of changes without a reference, and exactly this number if no text of
the releases and not the address of the repository has an opening angle bracket.
-/
theorem ofReleases_counts_markers (repository : Option Text) (includePrereleases : Bool)
    (releases : List PublishedRelease) :
    let imported := ofReleases repository includePrereleases releases
    let unreferenced := imported.changelog.changes.countP (·.references.isEmpty)
    (∀ change ∈ imported.changelog.changes,
      change.references ≠ [] ∨ ("<!-- TODO:" : Text) <:+: change.text) ∧
    (∃ sections, imported.changelog.releases = .unreleased :: sections ∧
      ∀ release ∈ sections, release.changes ≠ []) ∧
    unreferenced ≤ imported.todoCount ∧
    ((∀ url ∈ repository, '<' ∉ url) → (∀ release ∈ releases, release.Lacks '<') →
      imported.todoCount = unreferenced) := by
  intro imported unreferenced
  have hsource : ∀ change ∈ imported.changelog.changes, ∃ release ∈ releases,
      ReleaseNotes.Source repository release change := by
    intro change hchange
    obtain ⟨release, hrelease, hsource⟩ := exists_source_of_mem_changes hchange
    exact ⟨release, subset_of_selected includePrereleases releases hrelease, hsource⟩
  have hmarked : ∀ change ∈ imported.changelog.changes,
      change.references ≠ [] ∨ todoStart <:+: change.text := by
    intro change hchange
    obtain ⟨release, -, hsource⟩ := hsource change hchange
    exact hsource.isMarked
  have hopen : '<' ∉ ("!-- TODO:" : Text) := by decide
  have hleast : unreferenced ≤ imported.todoCount := by
    refine Changelog.countP_le_count hopen (fun change hchange hnone => ?_) _
    have hnil : change.references = [] := List.isEmpty_iff.1 hnone
    exact ((hmarked change hchange).resolve_left fun hne => hne hnil).trans
      change.text_infix_render
  refine ⟨hmarked, ⟨_, rfl, ?_⟩, hleast, fun hrepository hreleases => ?_⟩
  · rw [List.forall_mem_map]
    exact fun release _ => ReleaseNotes.changes_sectionOf_ne_nil
  · refine Nat.le_antisymm ?_ hleast
    refine Changelog.count_le_countP hopen (by decide) ?_ fun change hchange => ?_
    · exact not_mem_frame hrepository fun release hrelease =>
        hreleases release (subset_of_selected includePrereleases releases hrelease)
    · obtain ⟨release, hrelease, hsource⟩ := hsource change hchange
      exact hsource.count_render hrepository (hreleases release hrelease)

/-- A release with an item that has a number, one that has none, and prose. -/
def notedSample : PublishedRelease where
  tag := "v1.1.0"
  body := some "## Fixes\n- Fix crash (#1)\n- Fix leak\n\nThe search is twice as fast.\n"
  publishedAt := some "2024-02-01T12:00:00Z"

/-- A release without notes. -/
def silentSample : PublishedRelease where
  tag := "v1.0.0"
  publishedAt := some "2024-01-01T12:00:00Z"

theorem ofReleases_counts_markers_samples :
    let imported := ofReleases (some "https://github.com/o/r") false [notedSample, silentSample]
    (∀ url ∈ some "https://github.com/o/r".toList, '<' ∉ url) ∧
      (∀ release ∈ [notedSample, silentSample], release.Lacks '<') ∧
      imported.changelog.changes.countP (·.references.isEmpty) = 3 ∧ imported.todoCount = 3 := by
  intro imported
  have hurl : ∀ url ∈ some "https://github.com/o/r".toList, '<' ∉ url := by decide
  have hlacks : ∀ release ∈ [notedSample, silentSample], release.Lacks '<' := by
    rw [List.forall_mem_cons, List.forall_mem_singleton]
    exact ⟨⟨by decide, by decide, by decide, by decide⟩,
      ⟨by decide, by decide, by decide, by decide⟩⟩
  have hselected : selected false [notedSample, silentSample] = [notedSample, silentSample] :=
    List.mergeSort_of_pairwise (by decide)
  have hcount : imported.changelog.changes.countP (·.references.isEmpty) = 3 := by
    show (changelogOf _ (selected _ _)).changes.countP _ = 3
    rw [hselected]
    decide +kernel
  obtain ⟨-, -, -, hexact⟩ := ofReleases_counts_markers (some "https://github.com/o/r") false
    [notedSample, silentSample]
  exact ⟨hurl, hlacks, hcount, (hexact hurl hlacks).trans hcount⟩

end Import

end CommonChangelog
