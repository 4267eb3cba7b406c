import CommonChangelog.Proofs.DocumentEntries
import CommonChangelog.Proofs.ReadDocument
import CommonChangelog.Proofs.RoundTrip

/-!
# Formatting

To format a text is to read it and to write what was read. The documents that come out need not stay
as they are when they are formatted again: a heading without a label is written but not read, an
entry of which nothing is left is written as a dash alone, and what is left of an entry can look
like a reference or like the mark of a breaking change although the entry did not.

**Theorem (`Changelog.format_format`).** A second pass changes nothing exactly if every release of
the first one has a label and every change, formatted as the only one, stays as it is. It does so
if something is left of the entry and nothing that is left, in its text or in an address, looks
like the beginning of a reference or like a mark.
-/

namespace CommonChangelog

open Text (isBlank trim)

/-! ## Entries that are plain -/

namespace Reference

/-- The address of a reference, which is empty if only the number was given. -/
def url : Reference → Text
  | pullRequest _ url | issue _ url | commit _ url => url

/-- Nothing in the address looks like the beginning of a reference or like a mark. -/
structure Plain (reference : Reference) : Prop where
  noNumber : reference.url.head? ≠ some '#'
  markless : Markless reference.url

instance (reference : Reference) : Decidable reference.Plain :=
  decidable_of_iff (reference.url.head? ≠ some '#' ∧ Markless reference.url)
    ⟨fun h => ⟨h.1, h.2⟩, fun h => ⟨h.noNumber, h.markless⟩⟩

variable {s : Text} {r : Reference} {references : List Reference}

theorem url_ofLink (n : UInt64) (url : Text) : (ofLink n url).url = url := by
  unfold ofLink
  split <;> rfl

theorem canonical_of_mem_links (hs : '\n' ∉ s) (h : r ∈ links s) :
    r.form = .link ∧ (r.Plain → r.Canonical) := by
  obtain ⟨⟨⟨digits, url⟩, rest⟩, hfound, hnumber⟩ := List.mem_filterMap.1 h
  obtain ⟨n, -, rfl⟩ := Option.map_eq_some_iff.1 hnumber
  obtain ⟨before, t, rfl, hread⟩ := begins_numberLink.exists_of_mem_all hfound
  obtain ⟨rfl, -, -, hne, hclosed⟩ := numberLink_eq_some.1 hread
  refine ⟨form_ofLink hne, fun hplain => .link n ?_⟩
  obtain ⟨hnumber, hmarks⟩ := hplain
  rw [url_ofLink] at hnumber hmarks
  exact ⟨hne, fun hmem => hs (by simp [hmem]), hclosed, hnumber, hmarks⟩

theorem canonical_of_mem_commits (hs : '\n' ∉ s) (h : r ∈ commits s) :
    r.form = .commit ∧ (r.Plain → r.Canonical) := by
  obtain ⟨⟨⟨hash, url⟩, rest⟩, hfound, rfl⟩ := List.mem_map.1 h
  obtain ⟨before, t, rfl, hread⟩ := begins_commitLink.exists_of_mem_all hfound
  obtain ⟨rfl, hlength, hdigits, hne, hclosed⟩ := commitLink_eq_some.1 hread
  refine ⟨rfl, fun hplain => .commit hlength hdigits ?_⟩
  exact ⟨hne, fun hmem => hs (by simp [hmem]), hclosed, hplain.noNumber, hplain.markless⟩

theorem mem_foldl_addBare {bare : List UInt64} (h : r ∈ bare.foldl addBare references) :
    r ∈ references ∨ ∃ n, r = .pullRequest n [] := by
  induction bare generalizing references with
  | nil => exact .inl h
  | cons n bare ih =>
    refine (ih h).elim (fun hr => ?_) .inr
    unfold addBare at hr
    split at hr
    · exact .inl hr
    · rw [List.mem_append, List.mem_singleton] at hr
      exact hr.imp_right fun hr => ⟨n, hr⟩

theorem InOrder.of_form {f : Form} (h : ∀ r ∈ references, r.form = f) (hf : f ≠ .bare) :
    InOrder references where
  sorted := List.pairwise_of_forall_mem_list fun a ha b hb =>
    Nat.le_of_eq (congrArg Form.rank ((h a ha).trans (h b hb).symm))
  fresh := List.pairwise_of_forall_mem_list fun _ _ b hb hform =>
    absurd ((h b hb).symm.trans hform) hf

/-- A bare number comes behind the links, and repeats no number. -/
theorem InOrder.addBare (h : InOrder references) (hform : ∀ r ∈ references, r.form ≠ .commit)
    (n : UInt64) : InOrder (addBare references n) := by
  unfold Reference.addBare
  split
  · exact h
  · rename_i hnew
    have hrank : ∀ r ∈ references, r.form.rank ≤ Form.bare.rank := by
      intro r hr
      cases hf : r.form with
      | commit => exact absurd hf (hform r hr)
      | _ => decide
    have hfresh : ∀ r ∈ references, r.number? ≠ some n := by
      intro r hr heq
      exact hnew (List.any_eq_true.2 ⟨r, hr, decide_eq_true heq⟩)
    refine ⟨List.pairwise_append.2 ⟨h.sorted, List.pairwise_singleton _ _, ?_⟩,
      List.pairwise_append.2 ⟨h.fresh, List.pairwise_singleton _ _, ?_⟩⟩
    · exact fun r hr b hb => List.mem_singleton.1 hb ▸ hrank r hr
    · exact fun r hr b hb _ => List.mem_singleton.1 hb ▸ hfresh r hr

theorem InOrder.foldl_addBare (h : InOrder references)
    (hform : ∀ r ∈ references, r.form ≠ .commit) (bare : List UInt64) :
    InOrder (bare.foldl Reference.addBare references) := by
  induction bare generalizing references with
  | nil => exact h
  | cons n bare ih =>
    refine ih (h.addBare hform n) fun r hr => ?_
    have hone : r ∈ [n].foldl Reference.addBare references := hr
    rcases mem_foldl_addBare hone with hr | ⟨m, rfl⟩
    · exact hform r hr
    · exact Form.noConfusion

theorem inOrder_extract (hs : '\n' ∉ s) : InOrder (extract s) := by
  have hlinks : ∀ r ∈ links s, r.form = .link := fun r hr => (canonical_of_mem_links hs hr).1
  have hcommits : ∀ r ∈ commits s, r.form = .commit :=
    fun r hr => (canonical_of_mem_commits hs hr).1
  have hbare : InOrder ((bareNumbers s).foldl Reference.addBare (links s)) :=
    (InOrder.of_form hlinks (by decide)).foldl_addBare (fun r hr => by rw [hlinks r hr]; decide) _
  have hcommit : InOrder (commits s) := .of_form hcommits (by decide)
  refine ⟨List.pairwise_append.2 ⟨hbare.sorted, hcommit.sorted, fun a _ b hb => ?_⟩,
    List.pairwise_append.2 ⟨hbare.fresh, hcommit.fresh, fun a _ b hb hform => ?_⟩⟩
  · rw [hcommits b hb]
    cases a.form <;> decide
  · rw [hcommits b hb] at hform
    cases hform

theorem canonical_of_mem_extract (hs : '\n' ∉ s) (h : r ∈ extract s) (hplain : r.Plain) :
    r.Canonical := by
  rw [extract, List.mem_append] at h
  rcases h with h | h
  · rcases mem_foldl_addBare h with h | ⟨n, rfl⟩
    · exact (canonical_of_mem_links hs h).2 hplain
    · exact .bare n
  · exact (canonical_of_mem_commits hs h).2 hplain

end Reference

namespace Change

/-- Something is left of the entry, and nothing in it looks like a reference or like a mark. -/
structure Plain (change : Change) : Prop where
  nonempty : change.text ≠ [] ∨ change.references ≠ [] ∨ change.breaking
  markless : Reference.Markless change.text
  references : ∀ reference ∈ change.references, reference.Plain

instance (change : Change) : Decidable change.Plain :=
  decidable_of_iff ((change.text ≠ [] ∨ change.references ≠ [] ∨ change.breaking) ∧
      Reference.Markless change.text ∧ ∀ reference ∈ change.references, reference.Plain)
    ⟨fun h => ⟨h.1, h.2.1, h.2.2⟩, fun h => ⟨h.nonempty, h.markless, h.references⟩⟩

/-- The change of an entry is determined by its list item if it is plain. -/
theorem Plain.canonical {text : Text} (htext : '\n' ∉ text) (h : (ofEntry text).Plain) :
    (ofEntry text).Canonical where
  nonempty := h.nonempty
  trimmed := Text.trim_trim _
  oneLine := (oneLine_ofEntry htext).text
  markless := h.markless
  references := fun r hr => Reference.canonical_of_mem_extract htext hr (h.references r hr)
  inOrder := Reference.inOrder_extract htext

end Change

/-! ## What stays as it is -/

/-- Formatted as the only one, the change stays as it is: its list item is an entry, and what is
read of it is written in the same way. -/
def Change.Settled (change : Change) : Prop :=
  change.isLegible ∧ change.reread.render = change.render

instance (change : Change) : Decidable change.Settled :=
  inferInstanceAs (Decidable (_ ∧ _))

/-- Each release has a label, and each change stays as it is. -/
def Changelog.Settled (changelog : Changelog) : Prop :=
  ∀ release ∈ changelog.releases,
    release.label ≠ [] ∧ ∀ change ∈ release.changes, change.Settled

instance (changelog : Changelog) : Decidable changelog.Settled :=
  inferInstanceAs (Decidable (∀ release ∈ changelog.releases,
    release.label ≠ [] ∧ ∀ change ∈ release.changes, change.Settled))

theorem Change.Canonical.settled {change : Change} (h : change.Canonical) : change.Settled :=
  ⟨h.isLegible, by rw [h.reread_eq]⟩

variable {rules : Rules} {changelog : Changelog}

theorem Group.lines_reread (hrules : ∀ c : Category, rules.category c.name = c) {group : Group}
    (h : ∀ change ∈ group.changes, change.Settled) : (group.reread rules).lines = group.lines := by
  have hrender : (group.changes.map Change.reread).map Change.render =
      group.changes.map Change.render := by
    rw [List.map_map]
    exact List.map_congr_left fun change hchange => (h change hchange).2
  have hname : (group.reread rules).category = group.category := hrules group.category
  rw [lines, changes_reread fun change hchange => (h change hchange).1, hrender, hname, lines]

namespace Release.AsRead

variable {release : Release}

theorem legible (h : release.AsRead) (hlabel : release.label ≠ [])
    (hchanges : ∀ change ∈ release.changes, change.isLegible) : release.Legible where
  labelled := hlabel
  trimmed := h.trimmed
  closed := h.closed
  date := h.date
  notice := h.notice
  changes := fun change hchange => Change.isLegible_iff.1 (hchanges change hchange)

/-- A release with a label and with settled changes is read, and written as before. -/
theorem exists_reread? (hrules : ∀ c : Category, rules.category c.name = c) (h : release.AsRead)
    (hlabel : release.label ≠ []) (hchanges : ∀ change ∈ release.changes, change.Settled) :
    ∃ again, release.reread? rules = some again ∧ again.lines = release.lines := by
  have hlegible := h.legible hlabel fun change hchange => (hchanges change hchange).1
  have hsettled : ∀ group ∈ release.groups, ∀ change ∈ group.changes, change.Settled :=
    fun group hgroup change hchange => hchanges change (List.mem_flatMap.2 ⟨group, hgroup, hchange⟩)
  have hgroups : (release.groups.map (Group.reread rules)).filter (!·.changes.isEmpty) =
      release.groups.map (Group.reread rules) := by
    refine List.filter_eq_self.2 (List.forall_mem_map.2 fun group hgroup => ?_)
    rw [Group.changes_reread fun change hchange => (hsettled group hgroup change hchange).1,
      List.isEmpty_map]
    simpa using h.groups group hgroup
  have hlines : (release.groups.map (Group.reread rules)).flatMap Group.lines =
      release.groups.flatMap Group.lines := by
    rw [List.flatMap_map]
    exact List.flatMap_congr fun group hgroup => Group.lines_reread hrules (hsettled group hgroup)
  rw [reread?, hlegible.classify_heading]
  refine ⟨_, rfl, ?_⟩
  rw [lines, hgroups, Outline.notice?_written h.notice, hlines, lines]
  exact congrArg (fun heading => [heading, []] ++ noticeLines release.notice ++ _)
    release.shown_heading

end Release.AsRead

theorem Changelog.lines_default (changelog : Changelog) :
    changelog.lines {} = ["# " ++ changelog.title, []] ++
      changelog.releases.flatMap Release.lines := by
  simp [lines, introLines]

/-- A settled document is written in the same way when it has been read again. -/
theorem Changelog.AsRead.render_reread (hrules : ∀ c : Category, rules.category c.name = c)
    (h : changelog.AsRead) (hsettled : changelog.Settled) :
    (changelog.reread rules).render {} = changelog.render {} := by
  have hreleases : ∀ releases ⊆ changelog.releases,
      (releases.filterMap (Release.reread? rules)).flatMap Release.lines =
        releases.flatMap Release.lines := by
    intro releases hsub
    induction releases with
    | nil => rfl
    | cons release releases ih =>
      rw [List.cons_subset] at hsub
      obtain ⟨hlabel, hchanges⟩ := hsettled release hsub.1
      obtain ⟨again, hagain, hlines⟩ :=
        (h.releases release hsub.1).exists_reread? hrules hlabel hchanges
      rw [List.filterMap_cons_some hagain, List.flatMap_cons, List.flatMap_cons, hlines, ih hsub.2]
  have hlines : (changelog.reread rules).lines {} = changelog.lines {} := by
    rw [lines_default, lines_default, reread, hreleases _ (List.Subset.refl _)]
  rw [render, hlines, render]

/-! ## What does not stay -/

theorem Release.reread?_of_label_nil {release : Release} (h : release.label = []) :
    release.reread? rules = none := by
  obtain ⟨rest, hrest⟩ : ∃ rest, release.heading = ['#', '#', ' ', '[', ']'] ++ rest := by
    rw [heading, h]
    exact ⟨_, rfl⟩
  have htrim : trim release.heading = ['#', '#', ' ', '[', ']'] ++ Text.trimEnd rest := by
    rw [hrest]
    exact Text.trimEnd_append_of_last
      (Text.forall_last_concat (by decide : isBlank ']' = false) ['#', '#', ' ', '[']) rest
  have hheading : Line.classify release.heading =
      .malformed (['#', '#', ' ', '[', ']'] ++ Text.trimEnd rest) := by
    rw [Line.classify, htrim]
    rfl
  rw [reread?, hheading]

theorem Group.flatMap_changes_filter (groups : List Group) :
    (groups.filter (!·.changes.isEmpty)).flatMap (·.changes) = groups.flatMap (·.changes) := by
  induction groups with
  | nil => rfl
  | cons group groups ih =>
    rw [List.filter_cons, List.flatMap_cons, ← ih]
    cases hchanges : group.changes with
    | nil => rfl
    | cons change changes => rw [List.isEmpty_cons, if_pos (by rfl), List.flatMap_cons, hchanges]

theorem Release.changes_of_reread? {release again : Release}
    (h : release.reread? rules = some again) :
    again.changes = (release.changes.filter Change.isLegible).map Change.reread := by
  unfold reread? at h
  split at h
  · cases h
    rw [changes, Group.flatMap_changes_filter, List.flatMap_map, changes, List.filter_flatMap,
      List.map_flatMap]
    rfl
  · cases h

/-- Of a document whose releases are all read, the changes are read whose list items are entries. -/
theorem Changelog.changes_reread
    (h : ∀ release ∈ changelog.releases, (release.reread? rules).isSome) :
    (changelog.reread rules).changes =
      (changelog.changes.filter Change.isLegible).map Change.reread := by
  obtain ⟨title, releases⟩ := changelog
  show (releases.filterMap (Release.reread? rules)).flatMap Release.changes =
    ((releases.flatMap Release.changes).filter Change.isLegible).map Change.reread
  induction releases with
  | nil => rfl
  | cons release releases ih =>
    rw [List.forall_mem_cons] at h
    obtain ⟨again, hagain⟩ := Option.isSome_iff_exists.1 h.1
    rw [List.filterMap_cons_some hagain, List.flatMap_cons, List.flatMap_cons, List.filter_append,
      List.map_append, Release.changes_of_reread? hagain, ih h.2]

theorem Layout.plain_default : Layout.Plain {} where
  intro := fun _ h => absurd h List.not_mem_nil
  preface := fun _ h => absurd h (Option.not_mem_none _)
  repository := fun _ h => absurd h (Option.not_mem_none _)

/-- The lines of a text that begin in a certain way. -/
def linesWith (start : Text) (s : Text) : List Text :=
  (Text.split '\n' s).filter (Text.startsWith start)

/-- A beginning that only headings of releases and list items have. -/
structure Marks (start : Text) : Prop where
  empty : Text.startsWith start [] = false
  title : ∀ s, Text.startsWith start ('#' :: ' ' :: s) = false
  notice : ∀ s, Text.startsWith start ('_' :: s) = false
  category : ∀ s, Text.startsWith start ('#' :: '#' :: '#' :: s) = false

theorem marks_items : Marks "- " := ⟨rfl, fun _ => rfl, fun _ => rfl, fun _ => rfl⟩

theorem marks_headings : Marks "## " := ⟨rfl, fun _ => rfl, fun _ => rfl, fun _ => rfl⟩

namespace Marks

variable {start : Text}

theorem filter_empty (h : Marks start) {ends : List Text} (hends : ∀ line ∈ ends, line = []) :
    ends.filter (Text.startsWith start) = [] := by
  refine List.filter_eq_nil_iff.2 fun line hline => ?_
  rw [hends line hline, h.empty]
  exact Bool.false_ne_true

theorem filter_group (h : Marks start) (group : Group) :
    group.lines.filter (Text.startsWith start) =
      (group.changes.map Change.render).filter (Text.startsWith start) := by
  simp [Group.lines, h.empty, h.category]

theorem filter_notice (h : Marks start) (notice : Option Text) :
    (Release.noticeLines notice).filter (Text.startsWith start) = [] := by
  cases notice with
  | none => rfl
  | some notice => simp [Release.noticeLines, h.empty, h.notice]

theorem filter_release (h : Marks start) (release : Release) :
    release.lines.filter (Text.startsWith start) =
      (release.heading :: release.changes.map Change.render).filter (Text.startsWith start) := by
  have hheading : [release.heading, []].filter (Text.startsWith start) =
      [release.heading].filter (Text.startsWith start) := by
    simp [List.filter_cons, h.empty]
  rw [Release.lines, List.filter_append, List.filter_append, hheading, h.filter_notice,
    List.append_nil, List.filter_flatMap, List.flatMap_congr fun group _ => h.filter_group group,
    ← List.filter_flatMap, Release.changes, List.map_flatMap, ← List.filter_append,
    List.singleton_append]

/-- The marked lines of a written document are those of its releases, in their order. -/
theorem linesWith_render (h : Marks start) (hone : changelog.OneLine) :
    linesWith start (changelog.render {}) = changelog.releases.flatMap fun release =>
      (release.heading :: release.changes.map Change.render).filter (Text.startsWith start) := by
  obtain ⟨ends, hends, hls⟩ := exists_dropEmptyEnd_append (changelog.lines {})
  have htitle : ["# " ++ changelog.title, []].filter (Text.startsWith start) = [] := by
    simp [h.empty, h.title]
  calc linesWith start (changelog.render {})
      = (Changelog.dropEmptyEnd (changelog.lines {})).filter (Text.startsWith start) := by
        rw [linesWith, Changelog.split_render (hone.lines Layout.plain_default),
          List.filter_append, h.filter_empty (by simp : ∀ line ∈ [([] : Text)], line = []),
          List.append_nil]
    _ = (changelog.lines {}).filter (Text.startsWith start) := by
        conv => rhs; rw [hls, List.filter_append, h.filter_empty hends, List.append_nil]
    _ = changelog.releases.flatMap fun release => release.lines.filter (Text.startsWith start) := by
        rw [Changelog.lines_default, List.filter_append, htitle, List.nil_append,
          List.filter_flatMap]
    _ = _ := List.flatMap_congr fun release _ => h.filter_release release

end Marks

theorem Changelog.OneLine.linesWith_items (h : changelog.OneLine) :
    linesWith "- " (changelog.render {}) = changelog.changes.map Change.render := by
  rw [marks_items.linesWith_render h, Changelog.changes, List.map_flatMap]
  refine List.flatMap_congr fun release _ => ?_
  have hheading : Text.startsWith "- " release.heading = false := rfl
  have hitems : ∀ line ∈ release.changes.map Change.render, Text.startsWith "- " line := by
    rw [List.forall_mem_map]
    exact fun change _ => by rw [Change.render_eq]; rfl
  rw [List.filter_cons, hheading, List.filter_eq_self.2 hitems]
  rfl

theorem Changelog.OneLine.linesWith_headings (h : changelog.OneLine) :
    linesWith "## " (changelog.render {}) = changelog.releases.map Release.heading := by
  rw [marks_headings.linesWith_render h, List.map_eq_flatMap]
  refine List.flatMap_congr fun release _ => ?_
  have hheading : Text.startsWith "## " release.heading := rfl
  have hitems : (release.changes.map Change.render).filter (Text.startsWith "## ") = [] := by
    refine List.filter_eq_nil_iff.2 (List.forall_mem_map.2 fun change _ => ?_)
    rw [Change.render_eq]
    exact Bool.false_ne_true
  rw [List.filter_cons, if_pos hheading, hitems]

/-- A document that is written in the same way when it has been read again is settled. -/
theorem Changelog.AsRead.settled_of_render_reread (h : changelog.AsRead)
    (hone : (changelog.reread rules).OneLine)
    (hrender : (changelog.reread rules).render {} = changelog.render {}) :
    changelog.Settled := by
  have hheadings : (changelog.reread rules).releases.map Release.heading =
      changelog.releases.map Release.heading := by
    rw [← hone.linesWith_headings, hrender, h.oneLine.linesWith_headings]
  have hitems : (changelog.reread rules).changes.map Change.render =
      changelog.changes.map Change.render := by
    rw [← hone.linesWith_items, hrender, h.oneLine.linesWith_items]
  -- As many releases were read as were written, and so all of them were.
  have hread : ∀ release ∈ changelog.releases, (release.reread? rules).isSome := by
    have hlength := congrArg List.length hheadings
    rw [List.length_map, List.length_map, reread, List.length_filterMap_eq_countP] at hlength
    exact List.countP_eq_length.1 hlength
  rw [changes_reread hread] at hitems
  have hlegible : ∀ change ∈ changelog.changes, change.isLegible := by
    have hlength := congrArg List.length hitems
    rw [List.length_map, List.length_map, List.length_map] at hlength
    exact List.length_filter_eq_length_iff.1 hlength
  rw [List.filter_eq_self.2 hlegible, List.map_map, List.map_inj_left] at hitems
  intro release hrelease
  refine ⟨fun hnil => ?_, fun change hchange => ?_⟩
  · have hsome := hread release hrelease
    rw [Release.reread?_of_label_nil hnil] at hsome
    cases hsome
  · have hmem : change ∈ changelog.changes := List.mem_flatMap.2 ⟨release, hrelease, hchange⟩
    exact ⟨hlegible change hmem, hitems change hmem⟩

/-! ## Formatting twice -/

/-- A text is formatted by reading it and writing what was read. -/
def Changelog.format (rules : Rules) (content : Text) : Text := (ofText rules content).render {}

/-- The second pass writes what is reread of the document that the first pass wrote. -/
theorem Changelog.format_format_eq (content : Text) :
    format rules (format rules content) = ((ofText rules content).reread rules).render {} := by
  have h := asRead_ofText rules content
  rw [format, format, ofText_render_reread h.oneLine h.titled h.trimmed Layout.plain_default]

theorem Changelog.format_format_iff (hrules : ∀ c : Category, rules.category c.name = c)
    (content : Text) :
    format rules (format rules content) = format rules content ↔
      (ofText rules content).Settled := by
  have h := asRead_ofText rules content
  have hone : ((ofText rules content).reread rules).OneLine := by
    rw [← ofText_render_reread h.oneLine h.titled h.trimmed Layout.plain_default]
    exact (asRead_ofText rules _).oneLine
  rw [format_format_eq, format]
  exact ⟨h.settled_of_render_reread hone, h.render_reread hrules⟩

/--
**What stays as it is when it is formatted again.** Formatted twice, a text is as formatted once
exactly if each release that was read has a label and each change stays as it is. So it is if each
release has a label and each change is plain.
-/
theorem Changelog.format_format (content : Text) :
    (format Rules.default (format Rules.default content) = format Rules.default content ↔
      (ofText Rules.default content).Settled) ∧
    ((∀ release ∈ (ofText Rules.default content).releases,
        release.label ≠ [] ∧ ∀ change ∈ release.changes, change.Plain) →
      format Rules.default (format Rules.default content) = format Rules.default content) := by
  have hiff := format_format_iff Rules.category_default content
  refine ⟨hiff, fun h => hiff.2 fun release hrelease => ?_⟩
  obtain ⟨hlabel, hplain⟩ := h release hrelease
  refine ⟨hlabel, fun change hchange => ?_⟩
  obtain ⟨text, htext, rfl⟩ :=
    ((asRead_ofText Rules.default content).releases release hrelease).changes change hchange
  exact ((hplain _ hchange).canonical htext).settled

/-- Headings and items in forms that are not written, and a link that is no reference. -/
def looseSample : Text :=
  "# History\n##  [1.1.0]  -  soon\n_First._\n_Second._\n###Fixed\n### New\n" ++
    "* Add [colours](x.org) ([#7](x.org/7)), **Breaking:**  `abcdef0` (#8)\n- (#9)\n\n## Notes\n"

theorem Changelog.format_format_looseSample :
    Changelog.format Rules.default (Changelog.format Rules.default looseSample) =
        Changelog.format Rules.default looseSample ∧
      Changelog.format Rules.default looseSample ≠ looseSample := by
  have hplain : ∀ release ∈ (Changelog.ofText Rules.default looseSample).releases,
      release.label ≠ [] ∧ ∀ change ∈ release.changes, change.Plain := by
    decide +kernel
  exact ⟨(Changelog.format_format looseSample).2 hplain, by decide +kernel⟩

/-- A heading with nothing but a blank for its label. -/
def unlabelledSample : Text := "## [ ]\n"

/-- The first pass writes a heading without a label, which the second one does not read. -/
theorem Changelog.format_loses_heading :
    Changelog.format Rules.default unlabelledSample = "# Changelog\n\n## []\n" ∧
      Changelog.format Rules.default (Changelog.format Rules.default unlabelledSample) =
        "# Changelog\n" := by
  decide +kernel

end CommonChangelog
