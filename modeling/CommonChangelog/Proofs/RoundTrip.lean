import Mathlib.Data.List.Basic
import CommonChangelog.Proofs.WrittenDocument

/-!
# Writing a changelog and reading it again

A canonical document is one that its written form determines: no line breaks inside a line, no
blanks around a text, no empty groups, nothing that looks like a mark in a text or an address.
Such a document is read as it was written, whatever stands around the releases.

What is read of a written document is known for every document (`Release.reread?`). A canonical
change is read from its list item, and so each canonical part is reread as it is.
-/

namespace CommonChangelog

open Text (isBlank trim)

/-! ## Canonical documents -/

/-- A group with changes under the name of its category. -/
structure Group.Canonical (group : Group) : Prop where
  nonempty : group.changes ≠ []
  heading : group.heading = group.category.name
  changes : ∀ change ∈ group.changes, change.Canonical

/-- A release that its lines determine. -/
structure Release.Canonical (release : Release) : Prop where
  labelled : release.label ≠ []
  trimmed : trim release.label = release.label
  oneLine : '\n' ∉ release.label
  closed : ']' ∉ release.label
  undated : release.isUnreleased → release.date = none
  date : ∀ date ∈ release.date, date ≠ [] ∧ ∀ c ∈ date, isBlank c = false
  notice : ∀ notice ∈ release.notice, notice ≠ [] ∧ trim notice = notice ∧ '\n' ∉ notice
  groups : ∀ group ∈ release.groups, group.Canonical

/-- A document that its written form determines. -/
structure Changelog.Canonical (changelog : Changelog) : Prop where
  titled : changelog.title ≠ []
  trimmed : trim changelog.title = changelog.title
  oneLine : '\n' ∉ changelog.title
  releases : ∀ release ∈ changelog.releases, release.Canonical

/-! ## Canonical parts are reread as they are -/

namespace Reference

theorem Canonical.oneLine {r : Reference} (h : r.Canonical) : r.OneLine := by
  cases h with
  | link n h => exact oneLine_ofLink h.oneLine n
  | bare n => exact List.not_mem_nil
  | commit hlen hdigits h => exact ⟨not_mem_hash hdigits rfl, h.oneLine⟩

end Reference

namespace Change

variable {change : Change}

theorem Canonical.oneLine_parts (h : change.Canonical) : change.OneLine :=
  ⟨h.oneLine, fun r hr => (h.references r hr).oneLine⟩

theorem Canonical.isLegible (h : change.Canonical) : change.isLegible := by
  refine isLegible_iff.2 (h.nonempty.imp_left fun htext => ?_)
  rw [Text.allBlank, List.all_eq_false]
  refine ⟨change.text.getLast htext, List.getLast_mem htext, ?_⟩
  rw [Text.last_of_trim h.trimmed _ (List.getLast?_eq_some_getLast htext)]
  exact Bool.false_ne_true

theorem Canonical.reread_eq (h : change.Canonical) : change.reread = change := ofEntry_trim h

end Change

variable {rules : Rules}

namespace Group.Canonical

variable {group : Group}

theorem filter_isLegible (h : group.Canonical) :
    group.changes.filter Change.isLegible = group.changes :=
  List.filter_eq_self.2 fun change hchange => (h.changes change hchange).isLegible

theorem reread_eq (hrules : ∀ c : Category, rules.category c.name = c) (h : group.Canonical) :
    group.reread rules = group := by
  have hchanges : group.changes.map Change.reread = group.changes :=
    (List.map_congr_left fun change hchange => (h.changes change hchange).reread_eq).trans
      (List.map_id _)
  rw [Group.reread, h.filter_isLegible, hchanges, hrules, ← h.heading]

end Group.Canonical

namespace Release.Canonical

variable {release : Release}

theorem oneLine_parts (h : release.Canonical) : release.OneLine where
  label := h.oneLine
  date := by
    intro date hdate hmem
    exact absurd ((h.date date hdate).2 _ hmem) (by decide)
  notice := fun notice hnotice => (h.notice notice hnotice).2.2
  changes := by
    intro change hchange
    obtain ⟨group, hgroup, hchange⟩ := List.mem_flatMap.1 hchange
    exact ((h.groups group hgroup).changes change hchange).oneLine_parts

theorem classify_heading (h : release.Canonical) :
    Line.classify release.heading = .version release.label release.date :=
  Line.classify_heading h.labelled h.trimmed h.closed h.date h.undated

theorem notice_eq (h : release.Canonical) :
    Outline.notice? (release.notice.map trim).toList = release.notice :=
  Outline.notice?_written fun notice hnotice =>
    ⟨(h.notice notice hnotice).1, (h.notice notice hnotice).2.1⟩

theorem reread?_eq (hrules : ∀ c : Category, rules.category c.name = c) (h : release.Canonical) :
    release.reread? rules = some release := by
  have hgroups : release.groups.map (Group.reread rules) = release.groups :=
    (List.map_congr_left fun group hgroup => (h.groups group hgroup).reread_eq hrules).trans
      (List.map_id _)
  have hnonempty : release.groups.filter (!·.changes.isEmpty) = release.groups :=
    List.filter_eq_self.2 fun group hgroup => by
      simpa using (h.groups group hgroup).nonempty
  rw [reread?, h.classify_heading, h.notice_eq, hgroups, hnonempty]

end Release.Canonical

namespace Changelog.Canonical

variable {changelog : Changelog}

theorem oneLine_parts (h : changelog.Canonical) : changelog.OneLine :=
  ⟨h.oneLine, fun release hrelease => (h.releases release hrelease).oneLine_parts⟩

theorem reread_eq (hrules : ∀ c : Category, rules.category c.name = c) (h : changelog.Canonical) :
    changelog.reread rules = changelog := by
  have hreleases : changelog.releases.filterMap (Release.reread? rules) = changelog.releases :=
    (List.filterMap_congr fun release hrelease =>
      (h.releases release hrelease).reread?_eq hrules).trans List.filterMap_some
  rw [reread, hreleases]

end Changelog.Canonical

/-- **Reading undoes writing.** A canonical document is read as it was written, whatever plain
layout stands around its releases. -/
theorem ofText_render_canonical (rules : Rules) (hrules : ∀ c : Category, rules.category c.name = c)
    (layout : Layout) (hl : layout.Plain) (changelog : Changelog) (h : changelog.Canonical) :
    Changelog.ofText rules (changelog.render layout) = changelog := by
  rw [Changelog.ofText_render_reread h.oneLine_parts h.titled h.trimmed hl]
  exact h.reread_eq hrules

/-- A document with a reference in each form. -/
def canonicalSample : Changelog where
  releases :=
    [{ label := "Unreleased", notice := some "Soon." },
     { label := "1.0.0", date := some "2024-01-02", groups :=
        [⟨.added, "Added",
          [{ text := "Read notes", breaking := true, references :=
              [.issue 12 "https://x.org/issues/12", .pullRequest 7 [],
               .commit "abcdef0" "https://x.org/abcdef0"] }]⟩] }]

/-- A layout with an intro, a preface and a repository. -/
def plainSample : Layout where
  intro := ["Notes."]
  preface := some "- first"
  repository := some "https://x.org"

theorem plainSample_plain : plainSample.Plain where
  intro := by decide
  preface := by
    intro text htext
    cases htext
    decide
  repository := by
    intro text htext
    cases htext
    decide

theorem canonicalSample_canonical : canonicalSample.Canonical where
  titled := by decide
  trimmed := by decide
  oneLine := by decide
  releases := by
    have hissue : Reference.Address "https://x.org/issues/12" := by decide
    have hcommit : Reference.Address "https://x.org/abcdef0" := by decide
    have hlink : Reference.ofLink 12 "https://x.org/issues/12" =
        .issue 12 "https://x.org/issues/12" := by decide
    have hhash : ∀ c ∈ ("abcdef0" : Text), Reference.isHashDigit c :=
      List.all_eq_true.1 (by decide)
    have hdate : ∀ c ∈ ("2024-01-02" : Text), isBlank c = false := by
      intro c hc
      have hdigit : ("2024-01-02" : Text).all (!isBlank ·) := by decide
      simpa using List.all_eq_true.1 hdigit c hc
    have hreferences : ∀ r ∈ [Reference.issue 12 "https://x.org/issues/12", .pullRequest 7 [],
        .commit "abcdef0" "https://x.org/abcdef0"], r.Canonical := by
      rw [List.forall_mem_cons, List.forall_mem_cons, List.forall_mem_singleton]
      exact ⟨hlink ▸ .link 12 hissue, .bare 7, .commit (by decide) hhash hcommit⟩
    rw [canonicalSample, List.forall_mem_cons, List.forall_mem_singleton]
    refine ⟨⟨by decide, by decide, by decide, by decide, by decide, ?_, ?_, ?_⟩,
      ⟨by decide, by decide, by decide, by decide, by decide, ?_, ?_, ?_⟩⟩
    · intro text htext
      cases htext
    · intro text htext
      cases htext
      decide
    · exact fun group hgroup => absurd hgroup List.not_mem_nil
    · intro text htext
      cases htext
      exact ⟨by decide, hdate⟩
    · intro text htext
      cases htext
    · rw [List.forall_mem_singleton]
      refine ⟨by decide, by decide, ?_⟩
      rw [List.forall_mem_singleton]
      exact ⟨.inl (by decide), by decide, by decide, by decide, hreferences,
        ⟨by decide, by decide⟩⟩

theorem ofText_render_canonicalSample :
    (∀ c : Category, Rules.default.category c.name = c) ∧ plainSample.Plain ∧
      canonicalSample.Canonical ∧
      Changelog.ofText Rules.default (canonicalSample.render plainSample) = canonicalSample := by
  have hrules : ∀ c : Category, Rules.default.category c.name = c := by
    intro c
    cases c <;> rfl
  exact ⟨hrules, plainSample_plain, canonicalSample_canonical,
    ofText_render_canonical Rules.default hrules plainSample plainSample_plain canonicalSample
      canonicalSample_canonical⟩

end CommonChangelog
