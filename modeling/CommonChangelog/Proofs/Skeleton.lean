import CommonChangelog.Proofs.WrittenDocument
import Mathlib.Data.List.Basic

/-!
# The skeleton of a written document

The texts of changes are free: they may look like headings, notices or references. Still a written
document is read with the releases, notices and groups that it was written with, and each group has
as many changes, since a list item is read as an entry whatever it says. What may differ is what is
read in the entries.

**Theorem (`Changelog.skeleton_ofText_render`).** A legible document is read with the skeleton it
shows. It shows no date of an unreleased section and no group without changes.
-/

namespace CommonChangelog

open Text (isBlank trim allBlank)

/-! ## Skeletons -/

/-- A release apart from what its changes say. -/
structure Release.Skeleton where
  label : Text
  date : Option Text
  notice : Option Text
  /-- The category of each group, and how many changes it has. -/
  groups : List (Category × Nat)
  deriving DecidableEq, Repr

namespace Release

def skeleton (release : Release) : Skeleton where
  label := release.label
  date := release.date
  notice := release.notice
  groups := release.groups.map fun group => (group.category, group.changes.length)

/-- The release as its lines show it: unreleased changes have no date, and no group is empty. -/
def shown (release : Release) : Release :=
  { release with
    date := if release.isUnreleased then none else release.date
    groups := release.groups.filter (!·.changes.isEmpty) }

/-- A release with a heading and a notice that can be read, and without blank list items. -/
structure Legible (release : Release) : Prop where
  labelled : release.label ≠ []
  trimmed : trim release.label = release.label
  closed : ']' ∉ release.label
  date : ∀ date ∈ release.date, date ≠ [] ∧ ∀ c ∈ date, isBlank c = false
  notice : ∀ notice ∈ release.notice, notice ≠ [] ∧ trim notice = notice
  changes : ∀ change ∈ release.changes,
    allBlank change.text = false ∨ change.references ≠ [] ∨ change.breaking

end Release

/-- A document with a title, and with releases that can be read. -/
structure Changelog.Legible (changelog : Changelog) : Prop where
  titled : changelog.title ≠ []
  trimmed : trim changelog.title = changelog.title
  releases : ∀ release ∈ changelog.releases, release.Legible

/-! ## Legible parts keep their skeleton -/

variable {rules : Rules}

theorem Group.changes_reread {group : Group} (h : ∀ change ∈ group.changes, change.isLegible) :
    (group.reread rules).changes = group.changes.map Change.reread := by
  rw [reread, List.filter_eq_self.2 h]

namespace Release

variable {release : Release}

theorem shown_heading (release : Release) : release.shown.heading = release.heading := by
  have hlabel : release.shown.isUnreleased = release.isUnreleased := rfl
  unfold heading
  rw [hlabel, shown]
  cases release.isUnreleased <;> cases release.date <;> rfl

namespace Legible

theorem classify_heading (h : release.Legible) :
    Line.classify release.heading = .version release.label release.shown.date := by
  have hdate : ∀ date ∈ release.shown.date, date ≠ [] ∧ ∀ c ∈ date, isBlank c = false := by
    intro date hdate
    refine h.date date ?_
    rw [shown] at hdate
    split at hdate
    · cases hdate
    · exact hdate
  have hundated : release.shown.isUnreleased → release.shown.date = none := fun hu => if_pos hu
  rw [← shown_heading]
  exact Line.classify_heading h.labelled h.trimmed h.closed hdate hundated

theorem isLegible (h : release.Legible) {group : Group} (hgroup : group ∈ release.groups) :
    ∀ change ∈ group.changes, change.isLegible := by
  intro change hchange
  exact Change.isLegible_iff.2 (h.changes change (List.mem_flatMap.2 ⟨group, hgroup, hchange⟩))

/-- The groups that are read are those with changes, each with as many as before. -/
theorem map_groups (hrules : ∀ c : Category, rules.category c.name = c) (h : release.Legible) :
    ((release.groups.map (Group.reread rules)).filter (!·.changes.isEmpty)).map
        (fun group => (group.category, group.changes.length)) =
      release.shown.skeleton.groups := by
  have hchanges : ∀ group ∈ release.groups,
      (group.reread rules).changes = group.changes.map Change.reread :=
    fun group hgroup => Group.changes_reread (h.isLegible hgroup)
  have hempty : ∀ group ∈ release.groups,
      ((!·.changes.isEmpty) ∘ Group.reread rules) group = !group.changes.isEmpty := by
    intro group hgroup
    rw [Function.comp_apply, hchanges group hgroup, List.isEmpty_map]
  rw [List.filter_map, List.map_map, List.filter_congr hempty, skeleton, shown]
  refine List.map_congr_left fun group hgroup => Prod.ext (hrules group.category) ?_
  show (group.reread rules).changes.length = group.changes.length
  rw [hchanges group (List.mem_filter.1 hgroup).1, List.length_map]

/-- A legible release is read, with the skeleton it shows. -/
theorem skeleton_reread? (hrules : ∀ c : Category, rules.category c.name = c)
    (h : release.Legible) :
    (release.reread? rules).map skeleton = some release.shown.skeleton := by
  rw [reread?, h.classify_heading, Outline.notice?_written h.notice, Option.map_some, skeleton,
    h.map_groups hrules]
  rfl

end Legible

end Release

/--
**What the changes say does not alter the document.** If the rules map the name of each category to
that category, then a legible document of single lines, written in a plain layout, is read with its
title and with the skeletons that its releases show.
-/
theorem Changelog.skeleton_ofText_render (rules : Rules)
    (hrules : ∀ c : Category, rules.category c.name = c) (layout : Layout) (hl : layout.Plain)
    (changelog : Changelog) (hlines : changelog.OneLine) (h : changelog.Legible) :
    (ofText rules (changelog.render layout)).title = changelog.title ∧
      (ofText rules (changelog.render layout)).releases.map Release.skeleton =
        changelog.releases.map fun release => release.shown.skeleton := by
  rw [ofText_render_reread hlines h.titled h.trimmed hl]
  refine ⟨rfl, ?_⟩
  have hread : ∀ release ∈ changelog.releases,
      (release.reread? rules).map Release.skeleton = some release.shown.skeleton :=
    fun release hrelease => (h.releases release hrelease).skeleton_reread? hrules
  rw [reread, List.map_filterMap, List.filterMap_congr hread, List.filterMap_eq_map']

/-- A dated section of unreleased changes, an empty group, and texts that look like other lines. -/
def disguisedSample : Changelog where
  releases :=
    [{ label := "Unreleased", date := some "soon", groups :=
        [⟨.changed, "Changed", []⟩,
         ⟨.added, "New", [{ text := "### Removed" }, { text := [], breaking := true }]⟩] },
     { label := "1.0.0", notice := some "First.", groups :=
        [⟨.fixed, "Fixed", [{ text := "_(#1", references := [.commit "x" "]("] }]⟩] }]

/-- A layout with nothing but a preface. -/
def prefacedSample : Layout where
  preface := some "- 2.0.0"

theorem prefacedSample_plain : prefacedSample.Plain where
  intro := fun line hline => absurd hline List.not_mem_nil
  preface := by
    intro text htext
    cases htext
    decide
  repository := fun text htext => absurd htext (Option.not_mem_none text)

theorem disguisedSample_oneLine : disguisedSample.OneLine where
  title := by decide
  releases := by
    rw [disguisedSample, List.forall_mem_cons, List.forall_mem_singleton]
    refine ⟨⟨by decide, ?_, fun _ h => absurd h (Option.not_mem_none _), ?_⟩,
      ⟨by decide, fun _ h => absurd h (Option.not_mem_none _), ?_, ?_⟩⟩
    · intro date hdate
      cases hdate
      decide
    · show ∀ change ∈ [({ text := "### Removed" } : Change), { text := [], breaking := true }],
        change.OneLine
      rw [List.forall_mem_cons, List.forall_mem_singleton]
      exact ⟨⟨by decide, fun _ h => absurd h List.not_mem_nil⟩,
        ⟨by decide, fun _ h => absurd h List.not_mem_nil⟩⟩
    · intro notice hnotice
      cases hnotice
      decide
    · show ∀ change ∈ [({ text := "_(#1", references := [.commit "x" "]("] } : Change)],
        change.OneLine
      rw [List.forall_mem_singleton]
      refine ⟨by decide, List.forall_mem_singleton.2 ⟨by decide, by decide⟩⟩

theorem disguisedSample_legible : disguisedSample.Legible where
  titled := by decide
  trimmed := by decide
  releases := by
    rw [disguisedSample, List.forall_mem_cons, List.forall_mem_singleton]
    refine ⟨⟨by decide, by decide, by decide, ?_, fun _ h => absurd h (Option.not_mem_none _),
        by decide⟩,
      ⟨by decide, by decide, by decide, fun _ h => absurd h (Option.not_mem_none _), ?_,
        by decide⟩⟩
    · intro date hdate
      cases hdate
      have hshown : ("soon" : Text).all (!isBlank ·) := by decide
      exact ⟨by decide, fun c hc => by simpa using List.all_eq_true.1 hshown c hc⟩
    · intro notice hnotice
      cases hnotice
      decide

theorem skeleton_disguisedSample :
    (∀ c : Category, Rules.default.category c.name = c) ∧ prefacedSample.Plain ∧
      disguisedSample.OneLine ∧ disguisedSample.Legible ∧
      (Changelog.ofText Rules.default (disguisedSample.render prefacedSample)).releases.map
          Release.skeleton =
        [⟨"Unreleased", none, none, [(.added, 2)]⟩,
         ⟨"1.0.0", none, some "First.", [(.fixed, 1)]⟩] := by
  have hread := Changelog.skeleton_ofText_render Rules.default Rules.category_default
    prefacedSample prefacedSample_plain disguisedSample disguisedSample_oneLine
    disguisedSample_legible
  exact ⟨Rules.category_default, prefacedSample_plain, disguisedSample_oneLine,
    disguisedSample_legible, hread.2.trans (by decide)⟩

end CommonChangelog
