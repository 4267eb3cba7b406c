import CommonChangelog.NextVersion
import CommonChangelog.Proofs.VersionOrder
import CommonChangelog.Proofs.VersionText
import Mathlib.Algebra.Group.Nat.Defs

/-!
# The suggested version is new

A bump raises the precedence of a version, whichever number it increments and whether or not the
version was a prerelease. The suggestion is a bump of the first version of the document. If the
document is sorted no other label is newer than that one, so the suggestion is newer than all.

Main result: `NextVersion.suggest_newer`.
-/

namespace CommonChangelog

namespace Version

/-! ## A bump raises the precedence -/

theorem successor?_eq_some_iff {n m : UInt64} :
    successor? n = some m ↔ m.toNat = n.toNat + 1 := by
  have hm : m.toNat < UInt64.size := m.toNat_lt
  rw [successor?, Text.word64?, Option.ite_none_right_eq_some, Option.some.injEq]
  constructor
  · rintro ⟨hlt, rfl⟩
    exact UInt64.toNat_ofNat_of_lt' hlt
  · intro h
    rw [← h]
    exact ⟨hm, UInt64.ofNat_toNat⟩

theorem successor?_eq_none_iff {n : UInt64} : successor? n = none ↔ n.toNat = 2 ^ 64 - 1 := by
  have hn : n.toNat < 2 ^ 64 := n.toNat_lt
  rw [successor?, Text.word64?, ite_eq_right_iff, UInt64.size]
  simp only [reduceCtorEq, imp_false]
  omega

theorem successor?_eq_some {n m : UInt64} (h : successor? n = some m) : n < m := by
  rw [UInt64.lt_iff_toNat_lt, successor?_eq_some_iff.1 h]
  exact Nat.lt_succ_self _

theorem precedence_of_major {v w : Version} (h : v.major < w.major) : precedence v w = .lt := by
  rw [precedence, Std.compare_eq_lt.2 h]
  rfl

theorem precedence_of_minor {v w : Version} (h₁ : v.major = w.major) (h₂ : v.minor < w.minor) :
    precedence v w = .lt := by
  rw [precedence, Std.compare_eq_iff_eq.2 h₁, Std.compare_eq_lt.2 h₂]
  rfl

theorem precedence_of_patch {v w : Version} (h₁ : v.major = w.major) (h₂ : v.minor = w.minor)
    (h₃ : v.patch < w.patch) : precedence v w = .lt := by
  rw [precedence, Std.compare_eq_iff_eq.2 h₁, Std.compare_eq_iff_eq.2 h₂, Std.compare_eq_lt.2 h₃]
  rfl

theorem bump?_precedence {v w : Version} {kind : Bump} (h : bump? v kind = some w) :
    precedence v w = .lt ∧ w = plain w.major w.minor w.patch := by
  cases kind with
  | major =>
    obtain ⟨n, hn, rfl⟩ := Option.map_eq_some_iff.1 h
    exact ⟨precedence_of_major (successor?_eq_some hn), rfl⟩
  | minor =>
    obtain ⟨n, hn, rfl⟩ := Option.map_eq_some_iff.1 h
    exact ⟨precedence_of_minor rfl (successor?_eq_some hn), rfl⟩
  | patch =>
    obtain ⟨n, hn, rfl⟩ := Option.map_eq_some_iff.1 h
    exact ⟨precedence_of_patch rfl rfl (successor?_eq_some hn), rfl⟩

theorem newestFirst_of_precedence {a b : Text} {v w : Version} (ha : read? a = some v)
    (hb : read? b = some w) (h : precedence v w = .lt) : newestFirst b a = .lt := by
  rw [newestFirst, ha, hb]
  exact h

theorem following_newer {label : Text} {impact : Impact} {next : Version}
    (h : following label impact = .ok next) :
    read? next.text = some next ∧ newestFirst next.text label = .lt := by
  unfold following bumpText ofText at h
  rcases hread : read label with fault | v
  · rw [hread] at h
    cases h
  · rw [hread] at h
    replace h : bump v impact.bump = .ok next := h
    unfold bump at h
    split at h
    · rename_i w hw
      cases h
      obtain ⟨hlt, hplain⟩ := bump?_precedence hw
      have hnext : read? next.text = some next := by
        rw [hplain, read?, read_plain]
        rfl
      have hlabel : read? label = some v := by
        rw [read?, hread]
        rfl
      exact ⟨hnext, newestFirst_of_precedence hlabel hnext hlt⟩
    · cases h

/-- What is newer than the first of sorted labels is newer than all. -/
theorem newer_than_sorted {label : Text} {labels : List Text} {text : Text}
    (hsorted : labelsSorted (label :: labels)) (h : newestFirst text label = .lt) :
    ∀ other ∈ label :: labels, newestFirst text other = .lt := by
  intro other hmem
  rcases List.mem_cons.1 hmem with rfl | hmem
  · exact h
  · have hle := List.rel_of_pairwise_cons ((labelsSorted_iff _).1 hsorted) hmem
    exact Std.TransCmp.lt_of_lt_of_isLE h hle

end Version

namespace Changelog

/-- The first versioned release carries the first version. -/
theorem versions_of_latest? {changelog : Changelog} {latest : Release}
    (h : changelog.latest? = some latest) :
    ∃ labels, changelog.versions = latest.label :: labels := by
  have hhead : changelog.versioned.head? = some latest := by
    rw [versioned, List.head?_filter]
    exact h
  obtain ⟨rest, hrest⟩ := List.head?_eq_some_iff.1 hhead
  exact ⟨rest.map (·.label), by rw [versions, hrest, List.map_cons]⟩

/-- A release put among the unreleased sections at the front comes before all versions. -/
theorem versions_insert {changelog : Changelog} {before after : List Release} {release : Release}
    (hsplit : changelog.releases = before ++ after) (hbefore : ∀ r ∈ before, r.isUnreleased)
    (hrelease : release.isUnreleased = false) :
    { changelog with releases := before ++ release :: after }.versions =
      release.label :: changelog.versions := by
  have hnone : before.filter (!·.isUnreleased) = [] := by
    rw [List.filter_eq_nil_iff]
    intro r hr
    simp [hbefore r hr]
  simp [versions, versioned, hsplit, hnone, hrelease]

end Changelog

namespace NextVersion

theorem suggest_eq_some {rules : Rules} {changelog : Changelog} {history : List Commit}
    {suggested : NextVersion} (h : suggest rules changelog history = .ok (some suggested)) :
    ∃ latest, changelog.latest? = some latest ∧ suggested.current = latest.label ∧
      Version.following latest.label suggested.impact = .ok suggested.next := by
  unfold suggest at h
  split at h
  · cases h
  · rename_i latest hlatest
    dsimp only at h
    split at h
    · cases h
    · split at h
      · cases h
      · rename_i next hnext
        cases h
        exact ⟨latest, hlatest, rfl, hnext⟩

/--
**The suggested version is newer than everything released.** If the versions of a document are
sorted, a suggestion for it names the first of them as the current one. Its text is newer than
every version of the document, which therefore has none with the same numbers and prerelease, and
the versions remain sorted when a release with this label is put before the first versioned one.
-/
theorem suggest_newer (rules : Rules) (changelog : Changelog) (history : List Commit)
    (suggested : NextVersion) (hsorted : Version.labelsSorted changelog.versions)
    (hs : suggest rules changelog history = .ok (some suggested)) :
    changelog.versions.head? = some suggested.current ∧
    (∀ label ∈ changelog.versions, Version.newestFirst suggested.next.text label = .lt) ∧
    (∀ label ∈ changelog.versions, ∀ v, Version.read? label = some v →
      ¬(v.major = suggested.next.major ∧ v.minor = suggested.next.minor ∧
        v.patch = suggested.next.patch ∧ v.prerelease = suggested.next.prerelease)) ∧
    (∀ before after release, changelog.releases = before ++ after →
      (∀ r ∈ before, r.isUnreleased) → release.label = suggested.next.text →
      Version.labelsSorted { changelog with releases := before ++ release :: after }.versions) := by
  obtain ⟨latest, hlatest, hcurrent, hnext⟩ := suggest_eq_some hs
  obtain ⟨labels, hlabels⟩ := Changelog.versions_of_latest? hlatest
  obtain ⟨hread, hlt⟩ := Version.following_newer hnext
  have hnewer : ∀ label ∈ changelog.versions,
      Version.newestFirst suggested.next.text label = .lt := by
    rw [hlabels] at hsorted ⊢
    exact Version.newer_than_sorted hsorted hlt
  refine ⟨by rw [hlabels, hcurrent]; rfl, hnewer, ?_, ?_⟩
  · intro label hmem v hv hsame
    have heq : Version.newestFirst suggested.next.text label = .eq := by
      rw [Version.newestFirst_eq_eq]
      obtain ⟨h₁, h₂, h₃, h₄⟩ := hsame
      exact .inr ⟨_, v, hread, hv, h₁.symm, h₂.symm, h₃.symm, h₄.symm⟩
    rw [hnewer label hmem] at heq
    cases heq
  · intro before after release hsplit hbefore hlabel
    have hversioned : release.isUnreleased = false := by
      rw [Release.isUnreleased, hlabel, decide_eq_false_iff_not]
      intro heq
      rw [heq] at hread
      cases hread
    rw [Changelog.versions_insert hsplit hbefore hversioned, Version.labelsSorted_iff, hlabel,
      List.pairwise_cons, ← Version.labelsSorted_iff]
    refine ⟨fun label hmem => ?_, hsorted⟩
    rw [Version.mayPrecede, hnewer label hmem]
    rfl

/-- Pending additions after a prerelease, with a label further down that is no version. -/
def pendingSample : Changelog where
  releases :=
    [{ label := unreleasedLabel,
       groups := [⟨.added, "Added", [{ text := "Add search" }]⟩] },
     { label := "1.2.0-rc.1", date := some "2024-02-01" },
     { label := "1.1.9+build.5", date := some "2024-01-01" },
     { label := "first" }]

theorem suggest_pendingSample :
    ∃ suggested, suggest Rules.default pendingSample [] = .ok (some suggested) ∧
      Version.labelsSorted pendingSample.versions ∧ suggested.next.text = "1.3.0" ∧
      ∀ label ∈ pendingSample.versions,
        Version.newestFirst suggested.next.text label = .lt := by
  have hs : suggest Rules.default pendingSample [] =
      .ok (some ⟨"1.2.0-rc.1", ⟨false, true, false⟩, .plain 1 3 0⟩) := rfl
  have hsorted : Version.labelsSorted pendingSample.versions := by decide +kernel
  exact ⟨_, hs, hsorted, by decide, (suggest_newer _ _ _ _ hsorted hs).2.1⟩

end NextVersion

end CommonChangelog
