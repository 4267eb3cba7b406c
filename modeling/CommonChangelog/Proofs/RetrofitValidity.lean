import CommonChangelog.Proofs.EntryNumbers
import CommonChangelog.Proofs.VersionText
import CommonChangelog.Proofs.WellCategorised

/-!
# A retrofitted changelog is valid

The only versioned release of a retrofitted changelog has the given version and date, and each of
its changes ends with the number of a pull request. A number in parentheses at the end of a list
item is read again whatever text stands before it: it begins where its parenthesis opens, and
nothing that closes a bracket follows. Version and date have neither blanks nor brackets in them,
so the heading is well formed.

**Theorem (`Retrofit.errors_validate_ofLog`).** Validation finds no errors in a retrofitted
changelog if the first number in each merged subject has 64 bits.
-/

namespace CommonChangelog

open Text (isBlank isDigit isAsciiDigit)

/-! ## Texts without blanks -/

namespace Text

variable {s : Text}

theorem trim_of_forall (h : ∀ c ∈ s, isBlank c = false) : trim s = s :=
  trim_of_ends (fun c hc => h c (List.mem_of_mem_head? hc))
    fun c hc => h c (List.mem_of_getLast? hc)

theorem oneLine_of_forall (h : ∀ c ∈ s, isBlank c = false) : '\n' ∉ s :=
  fun hmem => absurd (h '\n' hmem) (by decide)

end Text

theorem Version.isBlank_of_isVersionChar {c : Char} (h : isVersionChar c) :
    isBlank c = false ∧ c ≠ ']' := by
  have hascii : ∀ n < 0x80, isVersionChar (Char.ofNat n) →
      isBlank (Char.ofNat n) = false ∧ Char.ofNat n ≠ ']' := by decide
  exact Text.forall_ascii (p := fun c => isVersionChar c → isBlank c = false ∧ c ≠ ']') hascii
    (lt_of_isVersionChar h) h

theorem Version.ne_unreleasedLabel {s : Text} (h : isVersion s) : s ≠ unreleasedLabel := by
  obtain ⟨⟨c, hc, hdigit⟩, -⟩ := forall_mem_of_isVersion h
  rintro rfl
  cases hc
  exact absurd hdigit (by decide)

theorem IsDate.isBlank_eq_false {s : Text} (h : IsDate s) : ∀ c ∈ s, isBlank c = false := by
  obtain ⟨year, month, day, rfl, ⟨-, hy⟩, ⟨-, hm⟩, ⟨-, hd⟩⟩ := h
  have hdash : isBlank '-' = false := by decide
  simp only [List.forall_mem_append, List.forall_mem_cons]
  exact ⟨⟨fun c hc => Text.isBlank_of_isDigit (hy c hc), hdash,
      fun c hc => Text.isBlank_of_isDigit (hm c hc)⟩, hdash,
    fun c hc => Text.isBlank_of_isDigit (hd c hc)⟩

theorem IsDate.ne_nil {s : Text} (h : IsDate s) : s ≠ [] := by
  obtain ⟨year, month, day, rfl, -⟩ := h
  simp

/-! ## Bare numbers are read again -/

namespace Reference

variable {references : List Reference} {n : UInt64}

/-- A bare number is read where it is written, since no bracket follows a reference. -/
theorem mem_bareNumbers_written (h : .pullRequest n [] ∈ references) (s : Text) :
    n ∈ bareNumbers (s ++ written references) := by
  obtain ⟨earlier, later, rfl⟩ := List.append_of_mem h
  have hafter : (written later).head? ≠ some ']' :=
    fun hhead => absurd (atSpace_written later ']' hhead) (by decide)
  refine mem_bareNumbers_iff.2 ⟨s ++ written earlier ++ [' '], Text.ofWord n, written later, ?_,
    Text.number?_ofWord n, hafter⟩
  rw [written_append, written_cons, render_bare]
  simp only [List.append_assoc, List.cons_append, List.nil_append]

end Reference

/-- What the text of a change is does not matter for the bare numbers behind it. -/
theorem Change.mem_numbers_reread {change : Change} {n : UInt64}
    (h : .pullRequest n [] ∈ change.references) :
    n ∈ Reference.numbers change.reread.references := by
  have hbody : change.marking ++ change.body =
      change.marking ++ change.text ++ Reference.written change.references :=
    (List.append_assoc _ _ _).symm
  have hlast := Reference.last_written (List.ne_nil_of_mem h) (change.marking ++ change.text)
  have hread : change.reread.references =
      Reference.extract (change.marking ++ change.text ++ Reference.written change.references) := by
    show Reference.extract (Text.trim (change.marking ++ change.body)) = _
    rw [hbody, Text.trim_of_last hlast, Reference.extract_trimStart]
  rw [hread]
  exact Reference.mem_numbers_extract.2 (.inr (Reference.mem_bareNumbers_written h _))

/-! ## What is read of a valid release -/

namespace Release

variable {rules : Rules} {release read : Release} {date : Text}

/-- The heading of a dated version is read as it was written. -/
theorem classify_heading_of_isVersion (hversion : Version.isVersion release.label)
    (hdate : release.date = some date) (hiso : IsDate date) :
    Line.classify release.heading = .version release.label release.date := by
  obtain ⟨⟨c, hc, -⟩, hchars⟩ := Version.forall_mem_of_isVersion hversion
  refine Line.classify_heading ?_ ?_ ?_ ?_ ?_
  · exact List.ne_nil_of_mem (List.mem_of_mem_head? hc)
  · exact Text.trim_of_forall fun c hc => (Version.isBlank_of_isVersionChar (hchars c hc)).1
  · exact fun hmem => (Version.isBlank_of_isVersionChar (hchars _ hmem)).2 rfl
  · rw [hdate]
    intro text htext
    cases htext
    exact ⟨hiso.ne_nil, hiso.isBlank_eq_false⟩
  · exact fun hunreleased =>
      absurd (of_decide_eq_true hunreleased) (Version.ne_unreleasedLabel hversion)

/-- **A dated version whose changes have bare numbers is read as a valid release.** -/
theorem exists_valid_reread (hrules : ∀ c : Category, rules.category c.name = c)
    (hversion : Version.isVersion release.label) (hdate : release.date = some date)
    (hiso : IsDate date) (horder : release.Ordered)
    (hnumbers : ∀ change ∈ release.changes, ∃ n, .pullRequest n [] ∈ change.references) :
    ∃ read, release.reread? rules = some read ∧ read.label = release.label ∧ read.Valid := by
  have hheading := classify_heading_of_isVersion hversion hdate hiso
  obtain ⟨read, hread, hlabel, hshown⟩ : ∃ read, release.reread? rules = some read ∧
      read.label = release.label ∧ read.date = release.date := by
    rw [reread?, hheading]
    exact ⟨_, rfl, rfl, rfl⟩
  refine ⟨read, hread, hlabel, ?_⟩
  exact {
    version := fun _ => by rwa [hlabel]
    date := fun _ => ⟨date, hshown.trans hdate, hiso⟩
    headings := fun group hgroup => ⟨group.category, named_of_reread? hrules hread group hgroup⟩
    categories := horder.reread? hrules hread
    references := by
      intro _ change hchange hnone
      obtain ⟨written, hwritten, rfl⟩ := exists_of_mem_changes_reread? hread hchange
      obtain ⟨n, hn⟩ := hnumbers written hwritten
      have hmem := Change.mem_numbers_reread hn
      rw [hnone] at hmem
      exact absurd hmem List.not_mem_nil }

theorem unreleased_valid : unreleased.Valid where
  version := fun h => absurd h (by decide)
  date := fun h => absurd h (by decide)
  headings := fun _ hgroup => absurd hgroup List.not_mem_nil
  categories := List.Pairwise.nil
  references := fun _ _ hchange => absurd hchange List.not_mem_nil

end Release

/-- An empty unreleased section and a valid version make up a valid document. -/
theorem Changelog.valid_of_single {changelog : Changelog} {release : Release}
    (h : changelog.releases = [.unreleased, release]) (hversion : release.isUnreleased = false)
    (hvalid : release.Valid) : changelog.Valid where
  nonempty := by
    rw [h]
    exact List.cons_ne_nil _ _
  releases := by
    rw [h, List.forall_mem_cons, List.forall_mem_singleton]
    exact ⟨Release.unreleased_valid, hvalid⟩
  versions := by
    have hunreleased : Release.unreleased.isUnreleased := by decide
    have hversions : changelog.versions = [release.label] := by
      simp [versions, versioned, h, hversion, hunreleased]
    rw [hversions]
    exact List.pairwise_singleton _ _

/-! ## Histories -/

namespace Retrofit

variable {rules : Rules} {log : List Commit} {version date : Text}

/-- The first number in parentheses, if there is one, is an ASCII numeral of 64 bits. -/
def FirstNumberFits (subject : Text) : Prop :=
  ∀ digits ∈ numberText? subject,
    (∀ c ∈ digits, isAsciiDigit c) ∧ Text.digitsValue digits < UInt64.size

theorem firstNumberFits_iff {subject : Text} :
    FirstNumberFits subject ↔ (numberText? subject).all fun digits =>
      digits.all isAsciiDigit && Text.digitsValue digits < UInt64.size := by
  unfold FirstNumberFits
  cases numberText? subject <;> simp

instance (subject : Text) : Decidable (FirstNumberFits subject) :=
  decidable_of_iff' _ firstNumberFits_iff

theorem numberText?_ne_nil {subject digits : Text} (h : numberText? subject = some digits) :
    digits ≠ [] := by
  obtain ⟨⟨before, found, rest⟩, hfirst, rfl⟩ := Option.map_eq_some_iff.1 h
  obtain ⟨-, -, hne, -⟩ := Reference.exists_of_first?_bareNumber hfirst
  exact hne

theorem exists_pullRequest?_of_fits {commit : Commit} (hmerge : isMerge commit)
    (hfits : FirstNumberFits commit.subject) : ∃ n, pullRequest? commit.subject = some n := by
  obtain ⟨digits, hdigits⟩ := Option.isSome_iff_exists.1 hmerge
  obtain ⟨hascii, hlt⟩ := hfits digits hdigits
  have hne : digits.isEmpty = false := List.isEmpty_eq_false_iff.2 (numberText?_ne_nil hdigits)
  have hall : digits.all isAsciiDigit := List.all_eq_true.2 hascii
  refine ⟨UInt64.ofNat (Text.digitsValue digits), ?_⟩
  rw [pullRequest?, hdigits, Option.bind_eq_bind, Option.bind_some, Text.number?, hne, hall]
  exact if_pos hlt

/-- Every change of a retrofitted document has the number of the commit that it was made of. -/
theorem exists_number_of_mem_changes (version date : Text)
    (hfits : ∀ commit ∈ merges rules log, FirstNumberFits commit.subject) :
    ∀ release ∈ (changelogOf rules version date none log).releases,
      ∀ change ∈ release.changes, ∃ n, Reference.pullRequest n [] ∈ change.references := by
  rw [changelogOf, List.forall_mem_cons, List.forall_mem_singleton]
  refine ⟨fun _ hchange => absurd hchange List.not_mem_nil, fun change hchange => ?_⟩
  rw [(Release.addAll_changes _ _).mem_iff, List.map_map] at hchange
  obtain ⟨found, hfound, rfl⟩ := List.mem_map.1 hchange
  obtain ⟨commit, hcommit, rfl⟩ := List.mem_map.1 (List.mem_mergeSort.1 hfound)
  obtain ⟨n, hn⟩ := exists_pullRequest?_of_fits (List.mem_filter.1 hcommit).2 (hfits commit hcommit)
  refine ⟨n, ?_⟩
  show Reference.pullRequest n [] ∈ (pullRequest? commit.subject).toList.map _
  rw [hn]
  exact List.mem_singleton.2 rfl

theorem exists_releases_eq (rules : Rules) (version date : Text) (repository : Option Text)
    (log : List Commit) :
    ∃ release : Release, release.label = version ∧ release.date = some date ∧
      (changelogOf rules version date repository log).releases = [.unreleased, release] := by
  obtain ⟨groups, hgroups⟩ := Release.exists_addAll_eq
    { label := version, date := some date, notice := some notice }
    ((((merges rules log).map (entry rules repository)).mergeSort mayPrecede).map fun e =>
      (e.category, e.change))
  refine ⟨_, ?_, ?_, rfl⟩
  · exact congrArg Release.label hgroups
  · exact congrArg Release.date hgroups

/-- The document that is read of a retrofitted changelog is valid. -/
theorem valid_reread (hrules : ∀ c : Category, rules.category c.name = c)
    (htidy : ∀ release ∈ (changelogOf rules version date none log).releases, release.Tidy)
    (hfits : ∀ commit ∈ merges rules log, FirstNumberFits commit.subject)
    (hversion : Version.isVersion version) (hdate : IsDate date) :
    ((changelogOf rules version date none log).reread rules).Valid := by
  have hnumbers := exists_number_of_mem_changes version date hfits
  obtain ⟨release, rfl, hshown, hreleases⟩ := exists_releases_eq rules version date none log
  rw [hreleases, List.forall_mem_cons, List.forall_mem_singleton] at htidy hnumbers
  obtain ⟨read, hread, hlabel, hvalid⟩ :=
    Release.exists_valid_reread hrules hversion hshown hdate htidy.2.ordered hnumbers.2
  have hunreleased : read.isUnreleased = false := by
    rw [Release.isUnreleased, hlabel]
    exact decide_eq_false (Version.ne_unreleasedLabel hversion)
  refine Changelog.valid_of_single ?_ hunreleased hvalid
  have hempty : Release.reread? rules .unreleased = some .unreleased := rfl
  rw [Changelog.reread, hreleases, List.filterMap_cons_some hempty, List.filterMap_cons_some hread]
  rfl

/--
**A retrofitted changelog is valid.** The version is a semantic version, the date has the form
`YYYY-MM-DD`, the subjects are single lines, and the first number of each merge fits 64 bits. Then
validation finds no errors, whatever else stands in the subjects.
-/
theorem errors_validate_ofLog (version date : Text) (log : List Commit)
    (hversion : Version.isVersion version) (hdate : IsDate date)
    (hlog : ∀ commit ∈ log, '\n' ∉ commit.subject)
    (hfits : ∀ commit ∈ merges Rules.default log, FirstNumberFits commit.subject) :
    (validate Rules.default (ofLog Rules.default version date none log).markdown).errors = [] := by
  have hnone : ∀ url ∈ (none : Option Text), '\n' ∉ url :=
    fun url h => absurd h (Option.not_mem_none url)
  have htidy : ∀ release ∈ (changelogOf Rules.default version date none log).releases,
      release.Tidy := by
    refine tidy_of_mem_changelogOf (Text.oneLine_of_forall fun c hc => ?_)
      (Text.oneLine_of_forall hdate.isBlank_eq_false) hnone hlog
    exact (Version.isBlank_of_isVersionChar ((Version.forall_mem_of_isVersion hversion).2 c hc)).1
  have hnoErrors : NoErrors
      (((changelogOf Rules.default version date none log).reread Rules.default).findings
        Rules.default) := by
    refine (Changelog.noErrors_findings fun release hrelease group hgroup _ _ => ?_).2
      (valid_reread Rules.category_default htidy hfits hversion hdate)
    exact Changelog.named_of_mem_reread Rules.category_default release hrelease group hgroup
  have hreport : validate Rules.default (ofLog Rules.default version date none log).markdown =
      .ofList (((changelogOf Rules.default version date none log).reread Rules.default).findings
        Rules.default) :=
    Changelog.validate_render rfl (fun release hrelease => (htidy release hrelease).oneLine)
      (Layout.plain_common hnone)
  rw [hreport]
  exact List.isEmpty_iff.1 (Report.passed_ofList.2 hnoErrors)

/-- Subjects with nothing but a number, with half a link, and of automation with a huge number. -/
def oddSample : List Commit :=
  [⟨"c", "(#3)", "dev", some "2024-01-03T00:00:00+00:00"⟩,
   ⟨"b", "Bump (#99999999999999999999)", "estate-catalog[bot]", none⟩,
   ⟨"a", "feat!: - ### [docs](# (#2)]", "dev", some "2024-01-01T00:00:00+00:00"⟩]

theorem errors_validate_oddSample :
    Version.isVersion "1.0.0-rc.1+7" ∧ IsDate "2024-01-03" ∧
    (∀ commit ∈ oddSample, '\n' ∉ commit.subject) ∧
    (∀ commit ∈ merges Rules.default oddSample, FirstNumberFits commit.subject) ∧
    (validate Rules.default
      (ofLog Rules.default "1.0.0-rc.1+7" "2024-01-03" none oddSample).markdown).errors = [] := by
  have hversion : Version.isVersion "1.0.0-rc.1+7" := by decide +kernel
  have hdate : IsDate "2024-01-03" := isIsoDate_iff.1 (by decide)
  have hlog : ∀ commit ∈ oddSample, '\n' ∉ commit.subject := by decide
  have hfits : ∀ commit ∈ merges Rules.default oddSample, FirstNumberFits commit.subject := by
    decide +kernel
  exact ⟨hversion, hdate, hlog, hfits,
    errors_validate_ofLog "1.0.0-rc.1+7" "2024-01-03" oddSample hversion hdate hlog hfits⟩

/-- A number that does not fit leaves its entry without a reference. -/
example : (entry Rules.default none
    ⟨"a", "Add search (#99999999999999999999)", "dev", none⟩).change.references = [] := by
  decide +kernel

end Retrofit

end CommonChangelog
