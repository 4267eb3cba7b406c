import CommonChangelog.Proofs.LowerCase
import CommonChangelog.Proofs.WellCategorised

/-!
# Generated documents are in the common dialect

The intro of a generated document names the site of Common Changelog. Whatever stands around it, the
name is in the lower case of the text, and names decide before headings do. So migration has nothing
to do on a document that it wrote itself, and neither on one made from a history or from published
releases, whatever characters, line breaks included, their parts have.

**Theorem (`isMigrated_generated`).** Generated texts are in the common dialect, and migration
leaves them alone.
-/

namespace CommonChangelog

/-- The site that documents in the common dialect name. -/
def commonSite : Text := "common-changelog.org"

theorem Dialect.detect_of_site {content : Text} (h : commonSite <:+: content) :
    detect content = .commonChangelog := by
  have hascii : commonSite.all (·.toNat < 0x80) := by decide
  have hlower : Text.contains commonSite (Text.lower content) :=
    Text.contains_lower_ascii (w := commonSite)
      (fun c hc => of_decide_eq_true (List.all_eq_true.1 hascii c hc)) h
  have hsite := Text.contains_iff.1 hlower
  have hnames : namesCommonChangelog (Text.lower content) := by
    rw [namesCommonChangelog, Bool.and_eq_true, Text.contains_iff, Text.contains_iff]
    exact ⟨List.IsInfix.trans ⟨[], ".org", rfl⟩ hsite,
      List.IsInfix.trans ⟨"common-changelog", [], rfl⟩ hsite⟩
  rw [detect]
  exact if_pos hnames

namespace Changelog

variable {changelog : Changelog} {layout : Layout}

theorem infix_render_of_mem_lines {line : Text} (h : line ∈ changelog.lines layout)
    (hne : line ≠ []) : line <:+: changelog.render layout := by
  obtain ⟨ends, hends, hlines⟩ := exists_dropEmptyEnd_append (changelog.lines layout)
  rw [hlines, List.mem_append] at h
  have hkept : line ∈ dropEmptyEnd (changelog.lines layout) :=
    h.resolve_right fun hend => hne (hends line hend)
  obtain ⟨before, after, heq⟩ :
      ∃ before after, changelog.render layout = before ++ line ++ '\n' :: after :=
    Text.exists_join_append_of_mem hkept
  exact ⟨before, '\n' :: after, heq.symm⟩

/-- A document under the common intro is in the common dialect. -/
theorem detect_render (h : layout.intro = commonIntro) :
    Dialect.detect (changelog.render layout) = .commonChangelog := by
  obtain ⟨line, hline, hcontains⟩ :
      ∃ line ∈ introLines commonIntro, Text.contains commonSite line := by decide +kernel
  have hsite : commonSite <:+: line := Text.contains_iff.1 hcontains
  have hmem : line ∈ changelog.lines layout := by
    rw [lines, h]
    simp [hline]
  have hne : line ≠ [] := by
    rintro rfl
    exact absurd (List.infix_nil.1 hsite) (by decide)
  exact Dialect.detect_of_site (hsite.trans (infix_render_of_mem_lines hmem hne))

end Changelog

/-- The text is in the common dialect, and migration leaves it alone. -/
def IsMigrated (text : Text) : Prop :=
  Dialect.detect text = .commonChangelog ∧
    ∀ (rules : Rules) (repository : Option Text), migrate? rules repository text = none

/-- Only the dialect decides whether there is something to migrate. -/
theorem migrate?_eq_none_iff {rules : Rules} {repository : Option Text} {content : Text} :
    migrate? rules repository content = none ↔ Dialect.detect content = .commonChangelog := by
  unfold migrate?
  cases Dialect.detect content <;> simp

theorem isMigrated_render {changelog : Changelog} {layout : Layout}
    (h : layout.intro = commonIntro) : IsMigrated (changelog.render layout) :=
  ⟨Changelog.detect_render h, fun _ _ => migrate?_eq_none_iff.2 (Changelog.detect_render h)⟩

/--
**Migration happens once.** A text that migration wrote is in the common dialect, so that migrating
it again, under whatever rules and for whatever repository, changes nothing. The same holds for a
changelog made from any history, and for one made from any list of published releases.
-/
theorem isMigrated_generated :
    (∀ (rules : Rules) (repository : Option Text) (content : Text) (migration : Migration),
      migrate? rules repository content = some migration → IsMigrated migration.output) ∧
    (∀ (rules : Rules) (version date : Text) (repository : Option Text) (log : List Commit),
      IsMigrated (Retrofit.ofLog rules version date repository log).markdown) ∧
    ∀ (repository : Option Text) (includePrereleases : Bool) (releases : List PublishedRelease),
      IsMigrated (Import.ofReleases repository includePrereleases releases).markdown := by
  refine ⟨fun rules repository content migration h => ?_, fun _ _ _ _ _ => isMigrated_render rfl,
    fun _ _ _ => isMigrated_render rfl⟩
  rw [output_of_migrate? h]
  exact isMigrated_render rfl

/-- A text in another dialect, for a repository whose address has a line break in it. -/
def brokenAddressSample : Option Text := some "https://keepachangelog.com\n## feat: x"

theorem isMigrated_brokenAddressSample :
    ∃ migration, migrate? Rules.default brokenAddressSample "# KEEP A CHANGELOG\n## v1.0.0\n" =
        some migration ∧
      migration.dialect = .keepAChangelog ∧ IsMigrated migration.output := by
  obtain ⟨migration, hmigrate, hdialect⟩ := Option.map_eq_some_iff.1
    (show (migrate? Rules.default brokenAddressSample "# KEEP A CHANGELOG\n## v1.0.0\n").map
      Migration.dialect = some .keepAChangelog by decide +kernel)
  exact ⟨migration, hmigrate, hdialect, isMigrated_generated.1 _ _ _ _ hmigrate⟩

end CommonChangelog
