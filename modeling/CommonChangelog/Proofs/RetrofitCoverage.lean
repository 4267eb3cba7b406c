import CommonChangelog.Proofs.AddedChanges
import CommonChangelog.Proofs.CoveredNumbers
import CommonChangelog.Proofs.WrittenDocument
import CommonChangelog.Retrofit
import Mathlib.Data.List.Pairwise

/-!
# A retrofitted changelog covers its history

Every merge becomes an entry, and every reference of an entry is seen in the written changelog,
whatever the text of the entry is. The entry of a merge refers to the first number in parentheses
of the subject. So this number is covered; a further number of the same subject is removed from
the title with the first one, and covered only if another commit brings it.

Main results: `Retrofit.missing_not_first`, for every history, and `Retrofit.passed_compare` for
histories in which no subject has two numbers.
-/

namespace CommonChangelog

/-! ## References are seen where they are written -/

namespace Coverage

variable {n : UInt64}

/-- A reference with a number is seen in front of anything that does not close a bracket. -/
theorem mem_ofChangelog_render {reference : Reference} (hn : reference.number? = some n)
    (before : Text) {after : Text} (hafter : after.head? ≠ some ']') :
    n ∈ ofChangelog (before ++ reference.render ++ after) := by
  have hbare : n ∈ ofChangelog (before ++ ("(#" ++ Text.ofWord n ++ ")") ++ after) := by
    refine mem_ofChangelog.2 (Or.inr (Reference.mem_bareNumbers_iff.2 ?_))
    exact ⟨before, Text.ofWord n, after, by simp, Text.number?_ofWord n, hafter⟩
  have hlink : ∀ url : Text,
      n ∈ ofChangelog (before ++ ("([#" ++ Text.ofWord n ++ "](" ++ url ++ "))") ++ after) := by
    intro url
    refine mem_ofChangelog.2 (Or.inl ?_)
    exact ⟨before ++ ['('], Text.ofWord n, "(" ++ url ++ "))" ++ after, by simp,
      Text.number?_ofWord n⟩
  cases reference with
  | pullRequest m url | issue m url =>
    cases hn
    by_cases hurl : url.isEmpty
    · simpa only [Reference.render, if_pos hurl] using hbare
    · simpa only [Reference.render, if_neg hurl] using hlink url
  | commit hash url => cases hn

end Coverage

namespace Changelog

variable {changelog : Changelog} {release : Release} {change : Change}

theorem render_mem_lines (hr : release ∈ changelog.releases) (hc : change ∈ release.changes)
    (layout : Layout) : change.render ∈ changelog.lines layout := by
  obtain ⟨group, hg, hc⟩ := List.mem_flatMap.1 hc
  have hgroup : change.render ∈ group.lines := by
    rw [Group.lines, List.mem_append, List.mem_append]
    exact .inl (.inr (List.mem_map_of_mem hc))
  have hrelease : change.render ∈ release.lines := by
    rw [Release.lines, List.mem_append]
    exact .inr (List.mem_flatMap.2 ⟨group, hg, hgroup⟩)
  unfold lines
  refine List.mem_append_left _ (List.mem_append_right _ ?_)
  exact List.mem_flatMap.2 ⟨release, hr, hrelease⟩

/-- The item of a change stands in the written document, at the end of a line. -/
theorem exists_render_change (hr : release ∈ changelog.releases) (hc : change ∈ release.changes)
    (layout : Layout) :
    ∃ before after, changelog.render layout = before ++ change.render ++ '\n' :: after := by
  obtain ⟨ends, hends, hlines⟩ := exists_dropEmptyEnd_append (changelog.lines layout)
  have hmem := render_mem_lines hr hc layout
  rw [hlines, List.mem_append] at hmem
  rcases hmem with hmem | hmem
  · exact Text.exists_join_append_of_mem hmem
  · exact absurd (hends _ hmem) (List.cons_ne_nil '-' _)

/-- **Every number that a change refers to is seen in the written document.** -/
theorem mem_ofChangelog_render {reference : Reference} {n : UInt64}
    (hr : release ∈ changelog.releases) (hc : change ∈ release.changes)
    (href : reference ∈ change.references) (hn : reference.number? = some n) (layout : Layout) :
    n ∈ Coverage.ofChangelog (changelog.render layout) := by
  obtain ⟨before, after, hrender⟩ := exists_render_change hr hc layout
  obtain ⟨earlier, later, hsplit⟩ := List.append_of_mem href
  -- What follows is a blank before the next reference, or the end of the line.
  have hafter : (Reference.written later ++ '\n' :: after).head? ≠ some ']' := by
    cases later with
    | nil => simp [Reference.written]
    | cons r rs => simp [Reference.written_cons]
  obtain ⟨front, hfront⟩ : ∃ front, change.render =
      front ++ Reference.written (earlier ++ reference :: later) := by
    rw [← hsplit]
    exact ⟨_, rfl⟩
  have hwhole : changelog.render layout =
      (before ++ front ++ Reference.written earlier ++ [' ']) ++ reference.render ++
        (Reference.written later ++ '\n' :: after) := by
    rw [hrender, hfront, Reference.written_append, Reference.written_cons]
    simp only [List.append_assoc, List.cons_append, List.nil_append]
  rw [hwhole]
  exact Coverage.mem_ofChangelog_render hn _ hafter

end Changelog

namespace Retrofit

variable {rules : Rules} {log : List Commit} {n : UInt64}

/-! ## The first number of each subject -/

/-- Each merge becomes a change that refers to the number of its subject. -/
theorem exists_change_of_merge (version date : Text) (repository : Option Text) {commit : Commit}
    (hmem : commit ∈ log) (hauthor : rules.isAutomation commit.author = false)
    (hn : pullRequest? commit.subject = some n) :
    ∃ release ∈ (changelogOf rules version date repository log).releases,
      ∃ change ∈ release.changes, ∃ reference ∈ change.references,
        reference.number? = some n := by
  have hmerge : commit ∈ merges rules log := by
    obtain ⟨digits, hdigits, -⟩ := Option.bind_eq_some_iff.1 hn
    simp [merges, hmem, hauthor, isMerge, hdigits]
  refine ⟨_, List.mem_cons_of_mem _ List.mem_cons_self, (entry rules repository commit).change, ?_,
    .pullRequest n (ReleaseNotes.pullRequestUrl repository n), by simp [entry, hn], rfl⟩
  rw [(Release.addAll_changes _ _).mem_iff, List.mem_append]
  right
  simp only [List.map_map, List.mem_map, List.mem_mergeSort]
  exact ⟨entry rules repository commit, ⟨commit, hmerge, rfl⟩, rfl⟩

theorem mem_ofChangelog_of_merge (version date : Text) (repository : Option Text)
    {commit : Commit} (hmem : commit ∈ log) (hauthor : rules.isAutomation commit.author = false)
    (hn : pullRequest? commit.subject = some n) :
    n ∈ Coverage.ofChangelog (ofLog rules version date repository log).markdown := by
  obtain ⟨release, hr, change, hc, reference, href, hnumber⟩ :=
    exists_change_of_merge version date repository hmem hauthor hn
  exact Changelog.mem_ofChangelog_render hr hc href hnumber _

/-- The first number of a subject is never missing, whatever else the history contains. -/
theorem missing_not_first (rules : Rules) (version date : Text) (repository : Option Text)
    (log : List Commit) :
    ∀ n ∈ (Coverage.compare (Coverage.ofLog rules log)
        (Coverage.ofChangelog (ofLog rules version date repository log).markdown)).missing,
      ∀ commit ∈ log, rules.isAutomation commit.author = false →
        pullRequest? commit.subject ≠ some n := by
  intro n hn commit hmem hauthor hfirst
  have hcovered := mem_ofChangelog_of_merge version date repository hmem hauthor hfirst
  exact (Coverage.mem_missing.1 hn).2 hcovered

/-! ## Subjects with one number -/

/-- Digits after a number sign stand in parentheses, and their number has 64 bits. -/
def NumbersInParentheses (subject : Text) : Prop :=
  ∀ before digits after, subject = before ++ ('#' :: digits ++ after) → digits ≠ [] →
    (∀ c ∈ digits, Text.isDigit c) → (∀ c ∈ after.head?, Text.isDigit c = false) →
    before.getLast? = some '(' ∧ after.head? = some ')' ∧ ∃ n, Text.number? digits = some n

theorem numbersInParentheses_iff {subject : Text} :
    NumbersInParentheses subject ↔
      ∀ i < subject.length, ∀ found ∈ Reference.hashNumber (subject.drop i),
        (subject.take i).getLast? = some '(' ∧ found.2.head? = some ')' ∧
          (Text.number? found.1).isSome := by
  simp only [Option.isSome_iff_exists]
  constructor
  · intro h i _ found hfound
    obtain ⟨hdrop, hne, hdigits, hafter⟩ := Reference.hashNumber_eq_some.1 hfound
    refine h (subject.take i) found.1 found.2 ?_ hne hdigits hafter
    rw [← hdrop, List.take_append_drop]
  · intro h before digits after hs hne hdigits hafter
    have hread : Reference.hashNumber (subject.drop before.length) = some (digits, after) := by
      rw [hs, List.drop_left]
      exact Reference.hashNumber_eq_some.2 ⟨rfl, hne, hdigits, hafter⟩
    have hplace := h before.length (by simp [hs]) (digits, after) hread
    rw [hs, List.take_left] at hplace
    exact hplace

instance (subject : Text) : Decidable (NumbersInParentheses subject) :=
  decidable_of_iff' _ numbersInParentheses_iff

/-- A subject that mentions numbers, all of them in parentheses, has a first one among them. -/
theorem exists_pullRequest? {subject : Text} (hforms : NumbersInParentheses subject)
    (hn : n ∈ Coverage.mentions subject) :
    ∃ m ∈ Coverage.mentions subject, pullRequest? subject = some m := by
  obtain ⟨before, digits, after, hs, hnumber, hafter⟩ := Coverage.mem_mentions.1 hn
  obtain ⟨hne, hdigits⟩ := Text.isDigit_of_number? hnumber
  obtain ⟨hlast, hhead, -⟩ := hforms before digits after hs hne hdigits hafter
  obtain ⟨front, rfl⟩ := List.getLast?_eq_some_iff.1 hlast
  obtain ⟨behind, rfl⟩ := List.head?_eq_some_iff.1 hhead
  have hfound : (digits, behind) ∈ Scanner.all Reference.bareNumber subject :=
    Reference.mem_all_bareNumber.2 ⟨front, by simp [hs], hne, hdigits⟩
  -- So there is a number in parentheses, and the first one is mentioned as well.
  rcases hfirst : Scanner.first? Reference.bareNumber subject with _ | ⟨start, found, rest⟩
  · rw [Scanner.first?_eq_none_iff.1 hfirst] at hfound
    exact absurd hfound List.not_mem_nil
  · obtain ⟨start, hsplit, hne, hdigits⟩ := Reference.exists_of_first?_bareNumber hfirst
    have hsubject : subject = (start ++ ['(']) ++ ('#' :: found ++ ')' :: rest) := by simp [hsplit]
    have hclosed : ∀ c ∈ (')' :: rest).head?, Text.isDigit c = false :=
      Text.forall_head_cons (by decide) rest
    obtain ⟨-, -, m, hm⟩ := hforms _ found _ hsubject hne hdigits hclosed
    refine ⟨m, Coverage.mem_mentions.2 ⟨_, found, _, hsubject, hm, hclosed⟩, ?_⟩
    rw [pullRequest?, numberText?, hfirst]
    exact hm

/--
**A retrofitted changelog covers its history if no subject has two numbers.** The numbers of each
subject are in parentheses, and they are all the same. Then nothing that the history mentions is
missing from the changelog made of it.
-/
theorem passed_compare (rules : Rules) (version date : Text) (repository : Option Text)
    (log : List Commit)
    (hforms : ∀ commit ∈ log, rules.isAutomation commit.author = false →
      NumbersInParentheses commit.subject)
    (hone : ∀ commit ∈ log, rules.isAutomation commit.author = false →
      ∀ n ∈ Coverage.mentions commit.subject, ∀ m ∈ Coverage.mentions commit.subject, n = m) :
    (Coverage.compare (Coverage.ofLog rules log)
      (Coverage.ofChangelog (ofLog rules version date repository log).markdown)).passed := by
  rw [Coverage.passed_compare_iff]
  intro n hn
  obtain ⟨commit, hmem, hauthor, hmention⟩ := Coverage.mem_ofLog.1 hn
  obtain ⟨m, hm, hfirst⟩ := exists_pullRequest? (hforms commit hmem hauthor) hmention
  rw [← hone commit hmem hauthor n hmention m hm] at hfirst
  by_contra hmissing
  exact missing_not_first rules version date repository log n
    (Coverage.mem_missing.2 ⟨hn, hmissing⟩) commit hmem hauthor hfirst

/-- Two merges, a commit without a number, and one of automation that mentions two. -/
def mergedSample : List Commit :=
  [⟨"c", "feat: Add search (#2)", "dev", some "2024-01-02T00:00:00+00:00"⟩,
   ⟨"d", "Bump #7 and #8", "estate-catalog[bot]", none⟩,
   ⟨"b", "Fix typo", "dev", none⟩,
   ⟨"a", "Fix crash (#1)", "dev", some "2024-01-01T00:00:00+00:00"⟩]

theorem passed_compare_mergedSample :
    (∀ commit ∈ mergedSample, Rules.default.isAutomation commit.author = false →
      NumbersInParentheses commit.subject) ∧
    (Coverage.compare (Coverage.ofLog Rules.default mergedSample)
      (Coverage.ofChangelog
        (ofLog Rules.default "1.0.0" "2024-01-03" none mergedSample).markdown)).passed := by
  have hforms : ∀ commit ∈ mergedSample, Rules.default.isAutomation commit.author = false →
      NumbersInParentheses commit.subject := by decide +kernel
  have hequal : ∀ commit ∈ mergedSample, Rules.default.isAutomation commit.author = false →
      (Coverage.mentions commit.subject).Pairwise (· = ·) := by decide +kernel
  have hone : ∀ commit ∈ mergedSample, Rules.default.isAutomation commit.author = false →
      ∀ n ∈ Coverage.mentions commit.subject, ∀ m ∈ Coverage.mentions commit.subject, n = m := by
    intro commit hmem hauthor n hn m hm
    exact (hequal commit hmem hauthor).forall_of_forall (fun _ _ => rfl) hn hm
  exact ⟨hforms, passed_compare _ _ _ _ _ hforms hone⟩

/-- The merge of a reverting pull request, whose subject quotes that of the reverted one. -/
def revertSample : List Commit := [⟨"a", "Revert \"Add search (#1)\" (#2)", "dev", none⟩]

/-- Only the quoted number becomes a reference, and the merged one is missing. -/
theorem not_passed_compare_revertSample :
    (∀ commit ∈ revertSample, Rules.default.isAutomation commit.author = false ∧
      NumbersInParentheses commit.subject) ∧
    ¬(Coverage.compare (Coverage.ofLog Rules.default revertSample)
      (Coverage.ofChangelog
        (ofLog Rules.default "1.0.0" "2024-01-01" none revertSample).markdown)).passed := by
  refine ⟨by decide +kernel, fun hpassed => ?_⟩
  have hmentioned : 2 ∈ Coverage.ofLog Rules.default revertSample :=
    Coverage.mem_ofLog.2 (by decide +kernel)
  have hcovered := Coverage.passed_compare_iff.1 hpassed 2 hmentioned
  rw [Coverage.ofChangelog, Coverage.mem_sortedSet] at hcovered
  exact absurd hcovered (by decide +kernel)

end Retrofit

end CommonChangelog
