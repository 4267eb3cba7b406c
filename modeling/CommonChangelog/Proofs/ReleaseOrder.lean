import CommonChangelog.Proofs.Validity
import CommonChangelog.Proofs.VersionText

/-!
# The order of releases in a document without findings

The checks on the whole document leave two gaps. Versions are compared by rank and counted by text,
so two versions that differ in their build alone have the same rank and are no duplicates. And of
the unreleased sections only the first release is looked at, so further ones may stand anywhere
behind it.

Apart from these gaps the order is what the checks suggest: each version is newer than those after
it (`validate_orders_versions`), and unreleased changes come first
(`validate_places_unreleased`). That the second gap is all there is to the place of unreleased
sections is `Changelog.findings_insert_unreleased`.
-/

namespace CommonChangelog

variable {rules : Rules}

/-! ## Versions of the same rank -/

namespace Version

/-- The labels are versions with the same numbers and prerelease, and with different builds. -/
def DifferInBuild (a b : Text) : Prop :=
  ∃ v w, read? a = some v ∧ read? b = some w ∧ v.major = w.major ∧ v.minor = w.minor ∧
    v.patch = w.patch ∧ v.prerelease = w.prerelease ∧ v.build ≠ w.build

/-- Different versions of the same rank differ in their build. -/
theorem differInBuild_of_newestFirst {a b : Text} (ha : isVersion a) (hne : a ≠ b)
    (h : newestFirst a b = .eq) : DifferInBuild a b := by
  rcases newestFirst_eq_eq.1 h with ⟨hnone, -⟩ | ⟨v, w, hv, hw, h₁, h₂, h₃, h₄⟩
  · rw [isVersion, hnone] at ha
    cases ha
  · refine ⟨v, w, hv, hw, h₁, h₂, h₃, h₄, fun h₅ => hne ?_⟩
    rw [← (text_of_read? hv).1, ← (text_of_read? hw).1]
    exact text_congr h₁ h₂ h₃ h₄ h₅

end Version

theorem Release.isVersion_of_noErrors {release : Release} (hu : release.isUnreleased = false)
    (h : NoErrors (release.findings rules)) : Version.isVersion release.label := by
  rw [findings, hu, if_neg Bool.false_ne_true, NoErrors.append, NoErrors.append] at h
  exact noErrors_labelFindings.1 h.1.1

namespace Changelog

theorem versions_of_noErrors {changelog : Changelog} (h : NoErrors (changelog.findings rules)) :
    (∀ label ∈ changelog.versions, Version.isVersion label) ∧
      changelog.versions.Pairwise fun a b => Version.newestFirst b a ≠ .lt ∧ a ≠ b := by
  rw [findings, NoErrors.append, NoErrors.append, NoErrors.append, NoErrors.append,
    NoErrors.flatMap, noErrors_orderFindings, noErrors_duplicateFindings] at h
  obtain ⟨⟨⟨⟨-, hreleases⟩, horder⟩, hduplicates⟩, -⟩ := h
  refine ⟨fun label hl => ?_, horder.and hduplicates⟩
  obtain ⟨release, hr, rfl⟩ := List.mem_map.1 hl
  obtain ⟨hr, hu⟩ := List.mem_filter.1 hr
  exact Release.isVersion_of_noErrors (Bool.not_eq_true' _ ▸ hu) (hreleases release hr)

end Changelog

/--
**Valid changelogs have the newest version first.** If a text passes validation, each version of
the document is newer than every version after it, unless the two differ in their build alone.
-/
theorem validate_orders_versions (rules : Rules) (content : Text)
    (hpassed : (validate rules content).passed) :
    (Changelog.ofText rules content).versions.Pairwise fun a b =>
      Version.newestFirst a b = .lt ∨ Version.DifferInBuild a b := by
  rw [validate, Report.passed_ofList, NoErrors.append] at hpassed
  obtain ⟨hversions, horder⟩ := Changelog.versions_of_noErrors hpassed.2
  refine horder.imp_of_mem fun {a b} ha _ h => ?_
  obtain ⟨hnewer, hne⟩ := h
  have hswap : Version.newestFirst b a = (Version.newestFirst a b).swap :=
    Std.OrientedCmp.eq_swap
  cases hab : Version.newestFirst a b with
  | lt => exact .inl rfl
  | eq => exact .inr (Version.differInBuild_of_newestFirst (hversions a ha) hne hab)
  | gt =>
    rw [hab] at hswap
    exact absurd hswap hnewer

/-- Two builds of one version, after a newer one. -/
def rebuiltSample : Text :=
  "# Changelog\n\n## [1.1.0] - 2024-02-01\n\n## [1.0.0+b] - 2024-01-02\n\n" ++
    "## [1.0.0+a] - 2024-01-01\n"

theorem validate_orders_versions_rebuiltSample :
    (validate Rules.default rebuiltSample).passed ∧
      ["1.1.0".toList, "1.0.0+b".toList, "1.0.0+a".toList].Pairwise fun a b =>
        Version.newestFirst a b = .lt ∨ Version.DifferInBuild a b := by
  have hpassed : (validate Rules.default rebuiltSample).passed := by decide +kernel
  have hversions : (Changelog.ofText Rules.default rebuiltSample).versions =
      ["1.1.0".toList, "1.0.0+b".toList, "1.0.0+a".toList] := by decide +kernel
  exact ⟨hpassed, hversions ▸ validate_orders_versions Rules.default rebuiltSample hpassed⟩

/-- The two builds rank equal, and the text passes all the same. -/
theorem validate_passes_equal_ranks :
    (validate Rules.default rebuiltSample).passed ∧
      ¬(Changelog.ofText Rules.default rebuiltSample).versions.Pairwise fun a b =>
        Version.newestFirst a b = .lt := by
  decide +kernel

/-! ## Unreleased sections -/

namespace Changelog

variable {changelog : Changelog}

/-- Unreleased changes are misplaced if there are any and a version comes first. -/
theorem unreleasedMisplaced_eq_false :
    changelog.unreleasedMisplaced = false ↔
      ∀ release ∈ changelog.releases, release.isUnreleased →
        ∃ first ∈ changelog.releases.head?, first.isUnreleased := by
  unfold unreleasedMisplaced unreleased?
  cases hhead : changelog.releases.head?.any (·.isUnreleased) with
  | true =>
    obtain ⟨first, hfirst, hu⟩ := (Option.any_eq_true _ _).1 hhead
    exact ⟨fun _ _ _ _ => ⟨first, hfirst, hu⟩, fun _ => rfl⟩
  | false =>
    have hnot : ¬∃ first ∈ changelog.releases.head?, first.isUnreleased := by
      intro h
      rw [(Option.any_eq_true _ _).2 h] at hhead
      cases hhead
    simp only [hnot, imp_false, Bool.not_false, Bool.true_and, Option.isSome_eq_false_iff,
      Option.isNone_iff_eq_none, List.find?_eq_none]

/-- Of all findings on a document only one is about the place of unreleased changes. -/
theorem unreleasedNotFirst_mem_findings :
    .unreleasedNotFirst ∈ changelog.findings rules ↔ changelog.unreleasedMisplaced := by
  have hempty : .unreleasedNotFirst ∉
      (if changelog.releases.isEmpty then [Diagnostic.noReleases] else []) := by
    split <;> simp
  have hreleases : .unreleasedNotFirst ∉ changelog.releases.flatMap (Release.findings rules) := by
    intro h
    obtain ⟨release, -, h⟩ := List.mem_flatMap.1 h
    exact absurd (Release.findings_isUnordered _ h) Bool.false_ne_true
  have horder : .unreleasedNotFirst ∉ changelog.orderFindings := by
    unfold orderFindings
    split <;> simp
  have hduplicates : .unreleasedNotFirst ∉ changelog.duplicateFindings := by
    unfold duplicateFindings
    split <;> simp
  simp only [findings, List.mem_append, hempty, hreleases, horder, hduplicates, false_or]
  cases changelog.unreleasedMisplaced <;> simp

/-- The unreleased section and the versions after it, if there is one section and it comes first. -/
theorem releases_eq_of_unreleased_first
    (hfirst : ∀ release ∈ changelog.releases, release.isUnreleased →
      ∃ first ∈ changelog.releases.head?, first.isUnreleased)
    (hone : changelog.releases.countP (·.isUnreleased) ≤ 1) :
    changelog.releases = changelog.unreleased?.toList ++ changelog.versioned := by
  unfold unreleased? versioned
  cases hreleases : changelog.releases with
  | nil => rfl
  | cons first rest =>
    rw [hreleases] at hfirst hone
    by_cases hu : first.isUnreleased
    · have hrest : ∀ release ∈ rest, release.isUnreleased = false := by
        rw [List.countP_cons_of_pos hu] at hone
        have hnone : rest.countP Release.isUnreleased = 0 := by omega
        simpa [List.countP_eq_zero] using hnone
      have hversions : rest.filter (!·.isUnreleased) = rest :=
        List.filter_eq_self.2 fun release hr => by rw [hrest release hr]; rfl
      rw [List.find?_cons_of_pos hu, List.filter_cons_of_neg (by simp [hu]), hversions]
      rfl
    · have hall : ∀ release ∈ first :: rest, release.isUnreleased = false := by
        intro release hr
        by_contra hrelease
        obtain ⟨r, hhead, hr⟩ := hfirst release hr (Bool.not_eq_false _ ▸ hrelease)
        cases hhead
        exact hu hr
      have hnone : (first :: rest).find? (·.isUnreleased) = none := by
        simpa [List.find?_eq_none] using hall
      have hversions : (first :: rest).filter (!·.isUnreleased) = first :: rest :=
        List.filter_eq_self.2 fun release hr => by rw [hall release hr]; rfl
      rw [hnone, hversions]
      rfl

/--
**Further unreleased sections are not noticed.** If a document begins with unreleased changes, one
more section of them that is in order itself changes no finding, wherever it is put.
-/
theorem findings_insert_unreleased (title : Text) {before after : List Release}
    {release : Release} (hfirst : ∃ first ∈ before.head?, first.isUnreleased)
    (hu : release.isUnreleased) (hclean : release.findings rules = []) :
    findings rules ⟨title, before ++ release :: after⟩ =
      findings rules ⟨title, before ++ after⟩ := by
  obtain ⟨first, hhead, hfirst⟩ := hfirst
  obtain ⟨rest, rfl⟩ := List.head?_eq_some_iff.1 hhead
  have hversions : versions ⟨title, first :: rest ++ release :: after⟩ =
      versions ⟨title, first :: rest ++ after⟩ := by
    simp [versions, versioned, hfirst, hu]
  have hplace : ∀ releases, unreleasedMisplaced ⟨title, first :: releases⟩ = false := by
    simp [unreleasedMisplaced, hfirst]
  have hreleases : (first :: rest ++ release :: after).flatMap (Release.findings rules) =
      (first :: rest ++ after).flatMap (Release.findings rules) := by
    simp [hclean]
  unfold findings orderFindings duplicateFindings
  rw [hversions, hreleases, List.cons_append, List.cons_append, hplace, hplace]
  rfl

end Changelog

/--
**Where unreleased changes stand.** A report has no finding on their place exactly if a document
with unreleased changes begins with them. If there is one section of them at most, the releases are
then this section and the versions after it.
-/
theorem validate_places_unreleased (rules : Rules) (content : Text) :
    let document := Changelog.ofText rules content
    (.unreleasedNotFirst ∉ (validate rules content).warnings ↔
      ∀ release ∈ document.releases, release.isUnreleased →
        ∃ first ∈ document.releases.head?, first.isUnreleased) ∧
    (.unreleasedNotFirst ∉ (validate rules content).warnings →
      document.releases.countP (·.isUnreleased) ≤ 1 →
        document.releases = document.unreleased?.toList ++ document.versioned) := by
  intro document
  have hfindings : .unreleasedNotFirst ∈ document.findings rules ↔ document.unreleasedMisplaced :=
    Changelog.unreleasedNotFirst_mem_findings
  have hmem : .unreleasedNotFirst ∈ (validate rules content).warnings ↔
      document.unreleasedMisplaced := by
    rw [← hfindings]
    have hheader : .unreleasedNotFirst ∉
        (if hasHeader content then [] else [Diagnostic.missingHeader]) := by
      split <;> simp
    simp [validate, Report.ofList, hheader, Diagnostic.severity, document]
  have hplace : .unreleasedNotFirst ∉ (validate rules content).warnings ↔
      ∀ release ∈ document.releases, release.isUnreleased →
        ∃ first ∈ document.releases.head?, first.isUnreleased := by
    rw [hmem, Bool.not_eq_true, Changelog.unreleasedMisplaced_eq_false]
  exact ⟨hplace, fun h hone => Changelog.releases_eq_of_unreleased_first (hplace.1 h) hone⟩

theorem validate_places_unreleased_validSample :
    let document := Changelog.ofText Rules.default validSample
    .unreleasedNotFirst ∉ (validate Rules.default validSample).warnings ∧
      document.releases.countP (·.isUnreleased) = 1 ∧
      document.releases = document.unreleased?.toList ++ document.versioned := by
  intro document
  have hclean : .unreleasedNotFirst ∉ (validate Rules.default validSample).warnings := by
    decide +kernel
  have hone : document.releases.countP (·.isUnreleased) = 1 := by decide +kernel
  exact ⟨hclean, hone,
    (validate_places_unreleased Rules.default validSample).2 hclean (Nat.le_of_eq hone)⟩

/-- A second unreleased section, behind a version. -/
def reopenedSample : Text :=
  "# Changelog\n\n## [Unreleased]\n\n## [1.0.0] - 2024-01-01\n\n### Added\n\n" ++
    "- Add search (#1)\n\n## [Unreleased]\n"

/-- The second section is behind a version, and nothing is reported. -/
theorem validate_passes_reopened :
    validate Rules.default reopenedSample = {} ∧
      (Changelog.ofText Rules.default reopenedSample).releases.map (·.isUnreleased) =
        [true, false, true] := by
  let document := Changelog.ofText Rules.default reopenedSample
  -- Without the second section the document is in order, so it is with it.
  have hdocument : document =
      ⟨document.title, document.releases.take 2 ++ Release.unreleased :: []⟩ := by decide +kernel
  have hfirst : ∃ first ∈ (document.releases.take 2).head?, first.isUnreleased := by
    decide +kernel
  have hfindings : document.findings Rules.default = [] := by
    rw [hdocument, Changelog.findings_insert_unreleased _ hfirst rfl (by decide)]
    decide +kernel
  have hheader : hasHeader reopenedSample := by decide +kernel
  refine ⟨?_, by decide +kernel⟩
  rw [validate, if_pos hheader, hfindings]
  rfl

end CommonChangelog
