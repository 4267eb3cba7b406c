import CommonChangelog.Document.Render
import CommonChangelog.NextVersion
import CommonChangelog.Proofs.Validity

/-!
# The categories of canonical headings

The reader takes the category of a heading from the alias table of the configuration, whatever the
heading says. A table that is configured replaces the built-in one, and a name that it does not
have means a change. So a group under the name of a category may come out in another category: the
validation, which reads the name itself, accepts the group where it stands, but it is written under
another heading, and additions are not counted as features.

**Theorem (`heading_kept_iff`).** In all documents the groups under the name of a category are kept
in this category exactly if the last alias for the name, in any case, stands for it. For `Changed`
there may also be no alias.
-/

namespace CommonChangelog

namespace Config

/-- What the alias table has for a name in any case; of several entries the last one counts. -/
def alias? (config : Config) (name : Text) : Option Category :=
  (config.aliases.filterMap fun entry =>
    if Text.lower name = Text.lower entry.1 then some entry.2 else none).getLast?

/-- The table leaves the name of a category to that category. -/
def Keeps (config : Config) (c : Category) : Prop := (config.alias? c.name).getD .changed = c

instance (config : Config) (c : Category) : Decidable (config.Keeps c) :=
  inferInstanceAs (Decidable (_ = _))

theorem category?_rules (config : Config) (name : Text) :
    config.rules.category? name = config.alias? (Text.trim name) := by
  have hentry : ∀ entry : Text × Category,
      (if Text.lower (Text.trim name) == Text.lower entry.1 then some entry.2 else none) =
        if Text.lower (Text.trim name) = Text.lower entry.1 then some entry.2 else none := by
    intro entry
    simp only [beq_iff_eq]
  rw [Rules.category?, rules, alias?, ← List.map_reverse, List.lookup_eq_findSome?,
    List.findSome?_map, ← List.head?_filterMap, List.filterMap_reverse, List.head?_reverse]
  simp only [Function.comp_def, hentry]

theorem category_rules_name (config : Config) (c : Category) :
    config.rules.category c.name = (config.alias? c.name).getD .changed := by
  have htrim : Text.trim c.name = c.name := by cases c <;> decide
  rw [Rules.category, category?_rules, htrim]

end Config

/-! ## What follows from the category -/

/-- A group in the category of its heading is written under this heading. -/
theorem Group.lines_of_named {group : Group} (h : group.Named) :
    group.lines = ["### " ++ group.heading, []] ++ group.changes.map Change.render ++ [[]] := by
  rw [lines, ← show group.heading = group.category.name from h]

theorem Impact.features_ofRelease {release : Release} {group : Group}
    (hg : group ∈ release.groups) (hadded : group.category = .added) (hne : group.changes ≠ []) :
    (ofRelease release).features := by
  have hgroup : (ofGroup group).features := by
    rw [ofGroup, List.isEmpty_eq_false_iff.2 hne, if_neg Bool.false_ne_true, hadded]
    rfl
  have hany : (release.groups.map ofGroup).any features :=
    List.any_eq_true.2 ⟨_, List.mem_map_of_mem hg, hgroup⟩
  rw [ofRelease, foldl_union features (fun _ _ => rfl), hany, Bool.or_true]

/-! ## Documents with one group -/

/-- A release with one entry, under a heading. -/
def entryUnder (heading : Text) : Text :=
  "## [1.0.0] - 2024-01-01\n\n### " ++ heading ++ "\n\n- Add search (#1)\n"

/-- The group of the entry, as it is read. -/
def groupUnder (rules : Rules) (heading : Text) : Group :=
  ⟨rules.category heading, heading, [Change.ofEntry "Add search (#1)"]⟩

theorem releases_entryUnder (rules : Rules) (c : Category) :
    (Changelog.ofText rules (entryUnder c.name)).releases =
      [{ label := "1.0.0", date := some "2024-01-01", groups := [groupUnder rules c.name] }] := by
  have hlines : (Text.lines (entryUnder c.name)).map Line.classify =
      [.version "1.0.0" (some "2024-01-01"), .blank, .category c.name, .blank,
        .entry "Add search (#1)"] := by
    cases c <;> decide +kernel
  rw [Changelog.ofText, hlines, Outline.ofLines_eq]
  rfl

/--
**Which alias tables keep the headings of a category.** For each configuration and each category,
the following holds for all texts exactly if the table leaves the name of the category to it: every
group that is read under this name has this category, so it is written under the same heading
again, and additions among the changes of a release count as features.
-/
theorem heading_kept_iff (config : Config) (c : Category) :
    (∀ content, ∀ release ∈ (Changelog.ofText config.rules content).releases,
      ∀ group ∈ release.groups, Category.ofName? group.heading = some c →
        group.category = c ∧
        group.lines =
          ["### " ++ group.heading, []] ++ group.changes.map Change.render ++ [[]] ∧
        (c = .added → (Impact.ofRelease release).features)) ↔
      config.Keeps c := by
  constructor
  · intro h
    have hrelease := h (entryUnder c.name) _ (releases_entryUnder _ c ▸ List.mem_singleton_self _)
    have hgroup := hrelease _ (List.mem_singleton_self _) (Category.ofName?_name c)
    rw [Config.Keeps, ← Config.category_rules_name]
    exact hgroup.1
  · intro h content release hr group hg hheading
    obtain ⟨hcategory, hne⟩ := Changelog.category_of_mem_ofText hr hg
    have hname : c.name = group.heading := Category.name_of_ofName? hheading
    rw [← hname, Config.category_rules_name, show _ = c from h] at hcategory
    have hnamed : group.Named := by rw [Group.Named, hcategory, hname]
    refine ⟨hcategory, Group.lines_of_named hnamed, fun hadded => ?_⟩
    exact Impact.features_ofRelease hg (hcategory.trans hadded) hne

/-- The built-in table keeps the headings of all categories. -/
example (c : Category) : Config.Keeps {} c := by cases c <;> decide

/-- The configuration of a table with two aliases. -/
def shortTable : Config := { aliases := [("feat", .added), ("perf", .fixed)] }

/-- The table does not have `Added`: such a group is read and written as one of changes. -/
theorem heading_lost_shortTable :
    ∃ release ∈ (Changelog.ofText shortTable.rules (entryUnder Category.added.name)).releases,
      ∃ group ∈ release.groups, Category.ofName? group.heading = some .added ∧
        group.category = .changed ∧ group.lines.head? = some ("### Changed" : Text) ∧
        (Impact.ofRelease release).features = false := by
  decide +kernel

end CommonChangelog
