import CommonChangelog.Proofs.SortedFindings
import CommonChangelog.Proofs.VersionOrder
import Mathlib.Data.List.Nodup

/-!
# What a valid changelog is

Validation looks at neighbours, counts labels and carries the categories it has seen. `Valid` says
the same without any of this: a property of each release, and one of each pair of versions.

**Theorem (`validate_passed_iff`).** A text passes validation exactly if it begins with the header
and the document read from it is valid.

The proof goes through the levels of a document. At each level, findings without an error among
them are described by a property of the part: changes, groups, groups after others (the induction,
with the categories before them as its parameter), releases, documents.
-/

namespace CommonChangelog

/-! ## Dates -/

/-- So many decimal digits and nothing else. -/
def IsDigits (n : Nat) (s : Text) : Prop := s.length = n ∧ ∀ c ∈ s, Text.isDigit c

/-- A date in the form `YYYY-MM-DD`. -/
def IsDate (s : Text) : Prop :=
  ∃ year month day : Text, s = year ++ '-' :: month ++ '-' :: day ∧
    IsDigits 4 year ∧ IsDigits 2 month ∧ IsDigits 2 day

theorem exactly?_eq_some {n : Nat} {s digits rest : Text} :
    Text.exactly? n Text.isDigit s = some (digits, rest) ↔
      s = digits ++ rest ∧ IsDigits n digits := by
  unfold Text.exactly? IsDigits
  rw [Option.ite_none_right_eq_some]
  constructor
  · intro h
    obtain ⟨⟨hlen, hall⟩, h⟩ := h
    cases h
    exact ⟨(List.take_append_drop n s).symm, hlen, List.all_eq_true.1 hall⟩
  · intro h
    obtain ⟨rfl, rfl, hall⟩ := h
    simpa using hall

theorem isoDate_eq_some {s date rest : Text} :
    isoDate s = some (date, rest) ↔ s = date ++ rest ∧ IsDate date := by
  simp only [isoDate, IsDate, Option.bind_eq_bind, Option.bind_eq_some_iff, Option.pure_def,
    Option.some.injEq, Prod.mk.injEq, Prod.exists, exactly?_eq_some, Text.after?_eq_some]
  constructor
  · intro h
    obtain ⟨year, _, ⟨rfl, hy⟩, _, rfl, month, _, ⟨rfl, hm⟩, _, rfl, day, _, ⟨rfl, hd⟩, rfl,
      rfl⟩ := h
    exact ⟨by simp, year, month, day, by simp, hy, hm, hd⟩
  · intro h
    obtain ⟨rfl, year, month, day, rfl, hy, hm, hd⟩ := h
    exact ⟨year, _, ⟨by simp, hy⟩, _, rfl, month, _, ⟨rfl, hm⟩, _, rfl, day, rest, ⟨rfl, hd⟩,
      by simp⟩

theorem isIsoDate_iff {s : Text} : isIsoDate s ↔ IsDate s := by
  simp only [isIsoDate, Option.any_eq_true, Prod.exists, isoDate_eq_some, List.isEmpty_iff]
  constructor
  · intro h
    obtain ⟨date, _, ⟨rfl, hdate⟩, rfl⟩ := h
    rwa [List.append_nil]
  · intro h
    exact ⟨s, [], ⟨(List.append_nil s).symm, h⟩, rfl⟩

/-! ## Valid documents -/

/-- A release that follows the rules on headings, categories, references, labels and dates. -/
structure Release.Valid (release : Release) : Prop where
  version : !release.isUnreleased → Version.isVersion release.label
  date : !release.isUnreleased → ∃ date, release.date = some date ∧ IsDate date
  headings : ∀ group ∈ release.groups, ∃ category : Category, group.heading = category.name
  categories : release.groups.Pairwise fun a b => a.category ≤ b.category
  references : !release.isUnreleased → ∀ change ∈ release.changes, change.references ≠ []

/-- A document of valid releases in which no version is newer than one before it, or repeats it. -/
structure Changelog.Valid (changelog : Changelog) : Prop where
  nonempty : changelog.releases ≠ []
  releases : ∀ release ∈ changelog.releases, release.Valid
  versions : changelog.versions.Pairwise fun a b => Version.newestFirst b a ≠ .lt ∧ a ≠ b

/-! ## Findings without errors -/

/-- None of the findings makes a changelog invalid. -/
def NoErrors (ds : List Diagnostic) : Prop := ∀ d ∈ ds, d.severity ≠ .error

namespace NoErrors

@[simp] theorem nil : NoErrors [] := fun _ hd => absurd hd List.not_mem_nil

@[simp] theorem append {as bs : List Diagnostic} :
    NoErrors (as ++ bs) ↔ NoErrors as ∧ NoErrors bs := List.forall_mem_append

@[simp] theorem singleton {d : Diagnostic} : NoErrors [d] ↔ d.severity ≠ .error :=
  List.forall_mem_singleton

@[simp] theorem flatMap {α : Type} {f : α → List Diagnostic} {xs : List α} :
    NoErrors (xs.flatMap f) ↔ ∀ x ∈ xs, NoErrors (f x) := by
  simp only [NoErrors, List.mem_flatMap]
  constructor
  · intro h x hx d hd
    exact h d ⟨x, hx, hd⟩
  · intro h d hd
    obtain ⟨x, hx, hd⟩ := hd
    exact h x hx d hd

variable {p : Prop} [Decidable p] {d : Diagnostic}

/-- An error that is found unless `p` holds. -/
theorem unless_iff (hd : d.severity = .error) : NoErrors (if p then [] else [d]) ↔ p := by
  by_cases h : p <;> simp [h, hd]

/-- An error that is found where `p` holds. -/
theorem when_iff (hd : d.severity = .error) : NoErrors (if p then [d] else []) ↔ ¬p := by
  by_cases h : p <;> simp [h, hd]

/-- Advice, whenever it is given. -/
theorem advice (hd : d.severity ≠ .error) : NoErrors (if p then [d] else []) := by
  by_cases h : p <;> simp [h, hd]

end NoErrors

theorem Report.passed_ofList {ds : List Diagnostic} : (ofList ds).passed ↔ NoErrors ds := by
  simp [passed, ofList, NoErrors]

variable {rules : Rules} {unreleased : Bool}

/-! ## Changes and groups -/

/-- The mood of an entry is advice only. -/
theorem Change.noErrors_findings {change : Change} :
    NoErrors (change.findings rules unreleased) ↔ (!unreleased → change.references ≠ []) := by
  rw [findings, NoErrors.append, and_iff_left (NoErrors.advice Severity.noConfusion),
    NoErrors.when_iff rfl]
  cases unreleased <;> simp

theorem Category.not_lt {a b : Category} : ¬a < b ↔ b ≤ a := Nat.not_lt

namespace Group

/-- The heading is the name of the category. -/
def Named (group : Group) : Prop := group.heading = group.category.name

/-- The heading is not the name of another category. -/
def Faithful (group : Group) : Prop :=
  ∀ category : Category, group.heading = category.name → group.Named

theorem noErrors_findings {previous : List Category} {group : Group} (hname : group.Faithful) :
    NoErrors (group.findings rules unreleased previous) ↔
      group.Named ∧ (∀ category ∈ previous, category ≤ group.category) ∧
        (!unreleased → ∀ change ∈ group.changes, change.references ≠ []) := by
  rcases hc : Category.ofName? group.heading with _ | category
  · have hnot : ¬group.Named := by
      intro h
      rw [h, Category.ofName?_name] at hc
      cases hc
    simp [findings, hc, hnot, Diagnostic.severity]
  · have hnamed : group.Named := hname category (Category.name_of_ofName? hc).symm
    obtain rfl : group.category = category := by
      rw [hnamed, Category.ofName?_name] at hc
      exact Option.some.inj hc
    have horder : NoErrors (if previous.any (group.category < ·) then
        [.categoryOutOfOrder group.category] else []) ↔
          ∀ category ∈ previous, category ≤ group.category := by
      rw [NoErrors.when_iff rfl]
      simp [← Category.not_lt]
    simp only [findings, hc, NoErrors.append, NoErrors.flatMap, Change.noErrors_findings, horder,
      hnamed, true_and]
    refine and_congr_right fun _ => ⟨fun h hu change hm => h change hm hu, fun h change hm hu => ?_⟩
    exact h hu change hm

/-- Groups after others: the categories before them bound theirs from below. -/
theorem noErrors_allFindings {groups : List Group} (hname : ∀ group ∈ groups, group.Faithful)
    (previous : List Category) :
    NoErrors (allFindings rules unreleased previous groups) ↔
      (∀ group ∈ groups, group.Named) ∧
      (∀ category ∈ previous, ∀ group ∈ groups, category ≤ group.category) ∧
      groups.Pairwise (fun a b => a.category ≤ b.category) ∧
      (!unreleased → ∀ group ∈ groups, ∀ change ∈ group.changes, change.references ≠ []) := by
  induction groups generalizing previous with
  | nil => simp [allFindings]
  | cons group groups ih =>
    rw [List.forall_mem_cons] at hname
    rw [allFindings, NoErrors.append, noErrors_findings hname.1, ih hname.2]
    simp only [List.forall_mem_cons, List.forall_mem_append, List.pairwise_cons,
      List.not_mem_nil, false_implies, implies_true, and_true]
    constructor
    · rintro ⟨⟨hn, hp, hr⟩, hns, ⟨hps, hgs⟩, hord, hrs⟩
      exact ⟨⟨hn, hns⟩, fun c hc => ⟨hp c hc, hps c hc⟩, ⟨hgs, hord⟩, fun hu => ⟨hr hu, hrs hu⟩⟩
    · rintro ⟨⟨hn, hns⟩, hp, ⟨hgs, hord⟩, hr⟩
      exact ⟨⟨hn, fun c hc => (hp c hc).1, fun hu => (hr hu).1⟩, hns,
        ⟨fun c hc => (hp c hc).2, hgs⟩, hord, fun hu => (hr hu).2⟩

end Group

/-! ## Releases -/

namespace Release

theorem noErrors_labelFindings {release : Release} :
    NoErrors release.labelFindings ↔ Version.isVersion release.label :=
  NoErrors.unless_iff rfl

theorem noErrors_dateFindings {release : Release} :
    NoErrors release.dateFindings ↔ ∃ date, release.date = some date ∧ IsDate date := by
  unfold dateFindings
  rcases release.date with _ | date
  · simp [Diagnostic.severity]
  · have hdate : NoErrors (if isIsoDate date then [] else [.invalidDate release.label date]) ↔
        IsDate date := by
      rw [NoErrors.unless_iff rfl, isIsoDate_iff]
    simpa using hdate

theorem noErrors_findings {release : Release} (hname : ∀ group ∈ release.groups, group.Faithful) :
    NoErrors (release.findings rules) ↔ release.Valid := by
  have hchanges : (∀ change ∈ release.changes, change.references ≠ []) ↔
      ∀ group ∈ release.groups, ∀ change ∈ group.changes, change.references ≠ [] :=
    List.forall_mem_flatMap
  have hheadings : (∀ group ∈ release.groups, group.Named) ↔
      ∀ group ∈ release.groups, ∃ category : Category, group.heading = category.name :=
    forall₂_congr fun group hg => ⟨fun h => ⟨_, h⟩, fun h => h.elim (hname group hg)⟩
  unfold findings
  cases hu : release.isUnreleased
  · rw [if_neg Bool.false_ne_true, NoErrors.append, NoErrors.append, noErrors_labelFindings,
      noErrors_dateFindings, Group.noErrors_allFindings hname, hheadings]
    constructor
    · rintro ⟨⟨hl, hd⟩, hh, -, hord, hr⟩
      exact ⟨fun _ => hl, fun _ => hd, hh, hord, fun _ => hchanges.2 (hr rfl)⟩
    · rintro ⟨hl, hd, hh, hord, hr⟩
      rw [hu] at hl hd hr
      exact ⟨⟨hl rfl, hd rfl⟩, hh, by simp, hord, fun _ => hchanges.1 (hr rfl)⟩
  · rw [if_pos rfl, Group.noErrors_allFindings hname, hheadings]
    constructor
    · rintro ⟨hh, -, hord, -⟩
      exact ⟨by simp [hu], by simp [hu], hh, hord, by simp [hu]⟩
    · rintro ⟨-, -, hh, hord, -⟩
      exact ⟨hh, by simp, hord, by simp⟩

end Release

/-! ## Groups that were read -/

namespace Outline

theorem category_of_mem_groups {lines : List Line} {group : Group}
    (h : group ∈ groups rules lines) :
    group.category = rules.category group.heading ∧ group.changes ≠ [] := by
  induction lines with
  | nil => exact absurd h List.not_mem_nil
  | cons line lines ih =>
    cases line with
    | category heading =>
      rcases List.mem_append.1 h with h | h
      · unfold nonempty at h
        split at h
        · exact absurd h List.not_mem_nil
        · rename_i hne
          obtain rfl := List.mem_singleton.1 h
          exact ⟨rfl, fun hnil => hne (List.isEmpty_iff.2 hnil)⟩
      · exact ih h
    | _ => exact ih h

end Outline

/-- A group that was read has the category that the rules give its heading, and has changes. -/
theorem Changelog.category_of_mem_ofText {content : Text} {release : Release} {group : Group}
    (hr : release ∈ (ofText rules content).releases) (hg : group ∈ release.groups) :
    group.category = rules.category group.heading ∧ group.changes ≠ [] := by
  rw [ofText, Outline.ofLines_eq] at hr
  obtain ⟨label, date, block, -, rfl⟩ := Outline.exists_of_mem_releases hr
  exact Outline.category_of_mem_groups hg

/-! ## Documents -/

theorem repeated_eq_nil {xs : List Text} : repeated xs = [] ↔ xs.Nodup := by
  simp only [repeated, List.eq_nil_iff_forall_not_mem, List.mem_eraseDups, List.mem_filter,
    decide_eq_true_eq, List.nodup_iff_count_le_one]
  constructor
  · intro h x
    by_contra hx
    exact h x ⟨List.count_pos_iff.1 (by omega), by omega⟩
  · intro h x hx
    have := h x
    omega

namespace Changelog

theorem noErrors_orderFindings {changelog : Changelog} :
    NoErrors changelog.orderFindings ↔
      changelog.versions.Pairwise fun a b => Version.newestFirst b a ≠ .lt := by
  have hrel : ∀ a b : Text, Version.mayPrecede a b ↔ Version.newestFirst b a ≠ .lt := by
    intro a b
    have hswap : Version.newestFirst a b = (Version.newestFirst b a).swap :=
      Std.OrientedCmp.eq_swap
    rw [Version.mayPrecede, hswap]
    cases Version.newestFirst b a <;> simp
  simp only [← hrel, ← Version.labelsSorted_iff]
  exact NoErrors.unless_iff rfl

theorem noErrors_duplicateFindings {changelog : Changelog} :
    NoErrors changelog.duplicateFindings ↔ changelog.versions.Nodup := by
  rw [← repeated_eq_nil, duplicateFindings]
  cases repeated changelog.versions <;> simp [Diagnostic.severity]

/-- A misplaced unreleased section is only warned of. -/
theorem noErrors_findings {changelog : Changelog}
    (hname : ∀ release ∈ changelog.releases, ∀ group ∈ release.groups, group.Faithful) :
    NoErrors (changelog.findings rules) ↔ changelog.Valid := by
  have hempty : NoErrors (if changelog.releases.isEmpty then [.noReleases] else []) ↔
      changelog.releases ≠ [] := by
    rw [NoErrors.when_iff rfl, List.isEmpty_iff]
  have hplace : NoErrors (if changelog.unreleasedMisplaced then [.unreleasedNotFirst] else []) :=
    NoErrors.advice Severity.noConfusion
  have hreleases : (∀ release ∈ changelog.releases, NoErrors (release.findings rules)) ↔
      ∀ release ∈ changelog.releases, release.Valid :=
    forall₂_congr fun release hr => Release.noErrors_findings (hname release hr)
  rw [findings, NoErrors.append, NoErrors.append, NoErrors.append, NoErrors.append,
    NoErrors.flatMap, hempty, hreleases, noErrors_orderFindings, noErrors_duplicateFindings,
    and_iff_left hplace]
  constructor
  · rintro ⟨⟨⟨hne, hr⟩, hord⟩, hdup⟩
    exact ⟨hne, hr, hord.and hdup⟩
  · rintro ⟨hne, hr, hv⟩
    exact ⟨⟨⟨hne, hr⟩, hv.imp And.left⟩, hv.imp And.right⟩

end Changelog

/--
**Validation accepts exactly the valid changelogs.** If the rules map the name of each category to
that category, then a text passes exactly if it begins with the header, apart from blanks, and the
document read from it is valid.
-/
theorem validate_passed_iff (rules : Rules) (hrules : ∀ c : Category, rules.category c.name = c)
    (content : Text) :
    (validate rules content).passed ↔
      headerText <+: Text.trim content ∧ (Changelog.ofText rules content).Valid := by
  have hname : ∀ release ∈ (Changelog.ofText rules content).releases, ∀ group ∈ release.groups,
      group.Faithful := by
    intro release hr group hg category hc
    have h := (Changelog.category_of_mem_ofText hr hg).1
    rw [hc, hrules] at h
    rw [Group.Named, h, hc]
  have hheader : NoErrors (if hasHeader content then [] else [.missingHeader]) ↔
      headerText <+: Text.trim content := by
    rw [NoErrors.unless_iff rfl, hasHeader, Text.startsWith_iff]
  rw [validate, Report.passed_ofList, NoErrors.append, hheader, Changelog.noErrors_findings hname]

/-- An unreleased section and a release with two groups. -/
def validSample : Text :=
  "# Changelog\n\n## [Unreleased]\n\n## [1.1.0] - 2024-02-01\n\n### Added\n\n" ++
    "- Add search (#2)\n\n### Fixed\n\n- Fix typo (#1)\n"

theorem validate_validSample :
    (∀ c : Category, Rules.default.category c.name = c) ∧
      (validate Rules.default validSample).passed ∧
      (Changelog.ofText Rules.default validSample).Valid := by
  have hrules : ∀ c : Category, Rules.default.category c.name = c := by
    intro c
    cases c <;> rfl
  have hpassed : (validate Rules.default validSample).passed := by decide +kernel
  exact ⟨hrules, hpassed, ((validate_passed_iff Rules.default hrules validSample).1 hpassed).2⟩

end CommonChangelog
