import CommonChangelog.Proofs.GroupedChanges
import CommonChangelog.Proofs.Occurrences
import CommonChangelog.Proofs.VersionOrder
import CommonChangelog.Retrofit

/-!
# The order of a retrofitted release

The merges of a history are sorted once, all together, and then go one by one to the groups of their
categories. As the sort is stable and a group keeps the order in which changes are added to it,
each group has the merges of its category, sorted stably by the same comparison.

Which commits are merges, and which number a merge refers to, is said of the subject as it is
written: a number stands in parentheses at some place of it (`Retrofit.Merged`), and the first such
number is the one that counts (`Reference.FirstBareNumber`).

Main result: `Retrofit.ofLog_places_merges`.
-/

namespace CommonChangelog.Retrofit

open Std

variable {rules : Rules}

/-! ## Merges -/

/-- The commit is not of an automation account and has a number in parentheses in its subject. -/
def Merged (rules : Rules) (commit : Commit) : Prop :=
  rules.isAutomation commit.author = false ∧
    ∃ before digits after, commit.subject = before ++ ("(#" ++ digits ++ ")" ++ after) ∧
      digits ≠ [] ∧ ∀ c ∈ digits, Text.isDigit c

theorem numberText?_eq_some_iff {subject digits : Text} :
    numberText? subject = some digits ↔ Reference.FirstBareNumber subject digits := by
  rw [← Reference.first?_bareNumber_iff, numberText?, Option.map_eq_some_iff]
  constructor
  · intro h
    obtain ⟨⟨before, _, rest⟩, hfirst, rfl⟩ := h
    exact ⟨before, rest, hfirst⟩
  · intro h
    obtain ⟨before, rest, hfirst⟩ := h
    exact ⟨_, hfirst, rfl⟩

theorem isMerge_iff {commit : Commit} :
    isMerge commit ↔ ∃ before digits after,
      commit.subject = before ++ ("(#" ++ digits ++ ")" ++ after) ∧
        digits ≠ [] ∧ ∀ c ∈ digits, Text.isDigit c := by
  constructor
  · intro h
    obtain ⟨digits, hdigits⟩ := Option.isSome_iff_exists.1 h
    obtain ⟨before, after, hsplit, hok, -⟩ := numberText?_eq_some_iff.1 hdigits
    exact ⟨before, digits, after, hsplit, hok⟩
  · intro h
    obtain ⟨before, digits, after, hsplit, hok⟩ := h
    have hread : Reference.bareNumber ("(#" ++ digits ++ ")" ++ after) = some (digits, after) :=
      Reference.bareNumber_eq_some.2 ⟨by simp, hok⟩
    obtain ⟨found, hfound⟩ := Scanner.exists_first?_of_find
      ((Reference.opens_bareNumber.find_eq _).trans hread) before
    rw [isMerge, numberText?, hsplit, hfound]
    rfl

theorem merged_iff {commit : Commit} :
    Merged rules commit ↔ (!rules.isAutomation commit.author && isMerge commit) := by
  rw [Bool.and_eq_true, Bool.not_eq_true', isMerge_iff, Merged]

instance (commit : Commit) : Decidable (Merged rules commit) := decidable_of_iff' _ merged_iff

theorem merges_eq (rules : Rules) (log : List Commit) :
    merges rules log = log.filter fun commit => Merged rules commit := by
  rw [merges, List.filter_filter]
  refine List.filter_congr fun commit _ => ?_
  rw [← Bool.coe_iff_coe, decide_eq_true_eq, merged_iff, Bool.and_comm]

/-! ## The order of merges -/

/-- The category that the subject of the commit implies. -/
def categoryOf (rules : Rules) (commit : Commit) : Category :=
  (categorize rules commit.subject).category

/-- The change that the commit becomes. -/
def changeOf (rules : Rules) (repository : Option Text) (commit : Commit) : Change :=
  (entry rules repository commit).change

/-- Later dates come before earlier ones, and every date before none. -/
def latestFirst : Option Text → Option Text → Ordering
  | some s, some t => Text.order t s
  | some _, none => .lt
  | none, some _ => .gt
  | none, none => .eq

instance : TransCmp latestFirst where
  eq_swap {a b} := by
    have hswap : ∀ s t, Text.order s t = (Text.order t s).swap := fun _ _ => OrientedCmp.eq_swap
    cases a <;> cases b <;> first | rfl | exact hswap _ _
  isLE_trans {a b c} hab hbc := by
    have htrans : ∀ s t u, (Text.order s t).isLE → (Text.order t u).isLE →
        (Text.order s u).isLE := fun _ _ _ => TransCmp.isLE_trans
    cases a <;> cases b <;> cases c
    all_goals first
      | exact htrans _ _ _ hbc hab
      | rfl
      | exact absurd hab Bool.false_ne_true
      | exact absurd hbc Bool.false_ne_true

/-- Breaking changes come before others, and within either kind the date decides. -/
def placing (rules : Rules) : Commit → Commit → Ordering :=
  compareLex (compareOn fun commit => !(categorize rules commit.subject).breaking)
    fun a b => latestFirst a.date b.date

instance : TransCmp (placing rules) := by
  have : TransCmp fun a b : Commit => latestFirst a.date b.date := transCmp_comap Commit.date
  unfold placing
  infer_instance

theorem mayPrecede_entry (repository : Option Text) (a b : Commit) :
    mayPrecede (entry rules repository a) (entry rules repository b) =
      (placing rules a b).isLE := by
  simp only [mayPrecede, placing, compareLex, compareOn, entry]
  cases (categorize rules a.subject).breaking <;> cases (categorize rules b.subject).breaking
  · cases a.date <;> cases b.date <;> rfl
  · rfl
  · rfl
  · cases a.date <;> cases b.date <;> rfl

theorem mergeSort_map_entry (repository : Option Text) (commits : List Commit) :
    (commits.map (entry rules repository)).mergeSort mayPrecede =
      (commits.mergeSort fun a b => (placing rules a b).isLE).map (entry rules repository) :=
  (List.map_mergeSort fun a _ b _ => (mayPrecede_entry repository a b).symm).symm

theorem select_map_entry (repository : Option Text) (commits : List Commit) (category : Category) :
    GroupedBy.select ((commits.map (entry rules repository)).map fun e => (e.category, e.change))
        category =
      (commits.filter fun commit => categoryOf rules commit = category).map
        (changeOf rules repository) := by
  have hcategory (commit : Commit) :
      (entry rules repository commit).category = categoryOf rules commit := by
    simp only [entry, categoryOf]
  have hchange : (fun commit => (entry rules repository commit).change) =
      changeOf rules repository := rfl
  rw [List.map_map, ← hchange]
  simp only [Function.comp_def, GroupedBy.select_map, hcategory]

/-- A merge refers to the first number in parentheses, if that has 64 bits, and to nothing else. -/
theorem exists_references_changeOf {commit : Commit} (repository : Option Text)
    (h : Merged rules commit) :
    ∃ digits, Reference.FirstBareNumber commit.subject digits ∧
      (changeOf rules repository commit).references =
        (Text.number? digits).toList.map fun n =>
          .pullRequest n (ReleaseNotes.pullRequestUrl repository n) := by
  obtain ⟨digits, hdigits⟩ := Option.isSome_iff_exists.1 (isMerge_iff.2 h.2)
  have hnumber : pullRequest? commit.subject = Text.number? digits := by
    rw [pullRequest?, hdigits]
    rfl
  refine ⟨digits, numberText?_eq_some_iff.1 hdigits, ?_⟩
  show (pullRequest? commit.subject).toList.map _ = _
  rw [hnumber]

/-- The merges of one category, sorted. -/
def placed (rules : Rules) (log : List Commit) (category : Category) : List Commit :=
  ((log.filter fun commit => Merged rules commit).filter
    fun commit => categoryOf rules commit = category).mergeSort fun a b => (placing rules a b).isLE

/-- Sorting all merges and adding one after the other sorts the merges of each category. -/
theorem exists_groups_ofLog (rules : Rules) (version date : Text) (repository : Option Text)
    (log : List Commit) :
    ∃ groups, (ofLog rules version date repository log).changelog.releases =
        [.unreleased, { label := version, date := some date, notice := some notice, groups }] ∧
      GroupedBy groups fun category =>
        (placed rules log category).map (changeOf rules repository) := by
  let merged := log.filter fun commit => Merged rules commit
  let sorted := merged.mergeSort fun a b => (placing rules a b).isLE
  let release : Release := { label := version, date := some date, notice := some notice }
  let entries := (sorted.map (entry rules repository)).map fun e => (e.category, e.change)
  have hplaced : ∀ category,
      (sorted.filter fun commit => categoryOf rules commit = category) =
        placed rules log category := by
    intro category
    have hstable : StableSort (placing rules) merged sorted := stableSort_mergeSort merged
    exact stableSort_iff.1 (hstable.filter _)
  obtain ⟨groups, hrelease, hgroups⟩ : ∃ groups, release.addAll entries = _ ∧ _ :=
    GroupedBy.exists_addAll_eq rfl entries
  refine ⟨groups, ?_, by simpa only [entries, select_map_entry, hplaced] using hgroups⟩
  show (changelogOf rules version date repository log).releases = _
  rw [changelogOf, merges_eq, mergeSort_map_entry]
  exact congrArg (fun r => [Release.unreleased, r]) hrelease

/--
**A retrofitted release has every merge once, in order.** The document has an empty unreleased
section and one release. Each category of the release has the changes of the merges that belong to
it, sorted stably: breaking ones first, then later dates before earlier ones, and those without a
date last. The groups stand in canonical order and none of them is empty. Each merge refers to the
first number in parentheses of its subject, unless that does not fit 64 bits.
-/
theorem ofLog_places_merges (rules : Rules) (version date : Text) (repository : Option Text)
    (log : List Commit) :
    let merged := log.filter fun commit => Merged rules commit
    let made := ofLog rules version date repository log
    made.mergeCount = merged.length ∧
    (∃ (groups : List Group) (placed : Category → List Commit),
      made.changelog.releases =
        [.unreleased, { label := version, date := some date, notice := some notice, groups }] ∧
      (∀ category, StableSort (placing rules)
        (merged.filter fun commit => categoryOf rules commit = category) (placed category)) ∧
      GroupedBy groups fun category => (placed category).map (changeOf rules repository)) ∧
    ∀ commit ∈ merged, ∃ digits, Reference.FirstBareNumber commit.subject digits ∧
      (changeOf rules repository commit).references =
        (Text.number? digits).toList.map fun n =>
          .pullRequest n (ReleaseNotes.pullRequestUrl repository n) := by
  intro merged made
  have hcount : made.mergeCount = (merges rules log).length := rfl
  obtain ⟨groups, hreleases, hgroups⟩ := exists_groups_ofLog rules version date repository log
  refine ⟨by rw [hcount, merges_eq], ⟨groups, placed rules log, hreleases,
    fun category => stableSort_mergeSort _, hgroups⟩, fun commit hcommit => ?_⟩
  exact exists_references_changeOf repository (of_decide_eq_true (List.mem_filter.1 hcommit).2)

end CommonChangelog.Retrofit
