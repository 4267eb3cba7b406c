import CommonChangelog.Proofs.GeneratedDocuments

/-!
# Generated documents are well categorised

A generated document begins with the header, its headings are names of categories, and in each
release they stand in canonical order. The texts it was generated from cannot change this: what is
read of a written document are its own groups, apart from those that are empty or stand under a
malformed heading.

**Theorem (`Generated.wellCategorised`).** Validation finds neither a missing header, nor an
unknown category, nor a category out of order in a generated text.
-/

namespace CommonChangelog

/-! ## Where findings come from -/

section

variable {rules : Rules} {d : Diagnostic}

/-- A change has findings on its references and on its mood. -/
theorem Change.cases_of_mem_findings {unreleased : Bool} {change : Change}
    (h : d ∈ change.findings rules unreleased) :
    d = .missingReference change.text ∧ change.references = [] ∨
      d = .imperativeMoodSuspect change.text := by
  rw [findings, List.mem_append, List.mem_ite_nil_right, List.mem_ite_nil_right,
    List.mem_singleton, List.mem_singleton, Bool.and_eq_true, List.isEmpty_iff] at h
  exact h.imp (fun h => ⟨h.2, h.1.1⟩) And.right

/-- A release has findings on its groups, its label and its date. -/
theorem Release.cases_of_mem_findings {release : Release} (h : d ∈ release.findings rules) :
    (∃ unreleased, d ∈ Group.allFindings rules unreleased [] release.groups) ∨
      d = .invalidVersion release.label ∨ d = .missingDate release.label ∨
      ∃ date, d = .invalidDate release.label date := by
  unfold findings at h
  split at h
  · exact .inl ⟨true, h⟩
  · rw [List.mem_append, List.mem_append] at h
    rcases h with (h | h) | h
    · rw [labelFindings, List.mem_ite_nil_left, List.mem_singleton] at h
      exact .inr (.inl h.2)
    · unfold dateFindings at h
      split at h
      · exact .inr (.inr (.inl (List.mem_singleton.1 h)))
      · rw [List.mem_ite_nil_left, List.mem_singleton] at h
        exact .inr (.inr (.inr ⟨_, h.2⟩))
    · exact .inl ⟨false, h⟩

/-- A document has the findings on its releases, and some on all of them together. -/
theorem Changelog.cases_of_mem_findings {changelog : Changelog}
    (h : d ∈ changelog.findings rules) :
    (∃ release ∈ changelog.releases, d ∈ release.findings rules) ∨
      d = .noReleases ∨ d = .releasesNotSorted changelog.versions ∨
      (∃ versions, d = .duplicateVersion versions) ∨ d = .unreleasedNotFirst := by
  rw [findings, List.mem_append, List.mem_append, List.mem_append, List.mem_append,
    List.mem_ite_nil_right, List.mem_ite_nil_right, orderFindings, List.mem_ite_nil_left,
    List.mem_singleton, List.mem_singleton, List.mem_singleton] at h
  rcases h with (((⟨-, rfl⟩ | h) | ⟨-, rfl⟩) | h) | ⟨-, rfl⟩
  · exact .inr (.inl rfl)
  · exact .inl (List.mem_flatMap.1 h)
  · exact .inr (.inr (.inl rfl))
  · unfold duplicateFindings at h
    split at h
    · exact absurd h List.not_mem_nil
    · exact .inr (.inr (.inr (.inl ⟨_, List.mem_singleton.1 h⟩)))
  · exact .inr (.inr (.inr (.inr rfl)))

end

/-! ## Findings about the form -/

/-- The finding says that the header is missing, or that a category is unknown or out of order. -/
def Diagnostic.concernsForm : Diagnostic → Bool
  | missingHeader | invalidCategory _ | categoryOutOfOrder _ => true
  | _ => false

variable {rules : Rules} {unreleased : Bool}

theorem Change.concernsForm_findings {change : Change} :
    ∀ d ∈ change.findings rules unreleased, d.concernsForm = false := by
  intro d hd
  rcases cases_of_mem_findings hd with ⟨rfl, -⟩ | rfl
  · rfl
  · rfl

/-- A named group behind the categories before it gives no finding about the form. -/
theorem Group.concernsForm_findings {previous : List Category} {group : Group}
    (hname : group.Named) (hprevious : ∀ category ∈ previous, category ≤ group.category) :
    ∀ d ∈ group.findings rules unreleased previous, d.concernsForm = false := by
  have horder : previous.any (group.category < ·) = false := by
    rw [List.any_eq_false]
    intro category hcategory hlt
    exact Category.not_lt.2 (hprevious category hcategory) (of_decide_eq_true hlt)
  intro d hd
  rw [findings, hname, Category.ofName?_name] at hd
  simp only [horder, Bool.false_eq_true, if_false, List.nil_append, List.mem_flatMap] at hd
  obtain ⟨change, -, hd⟩ := hd
  exact Change.concernsForm_findings d hd

theorem Group.concernsForm_allFindings {groups : List Group}
    (hname : ∀ group ∈ groups, group.Named)
    (horder : groups.Pairwise fun a b => a.category ≤ b.category) {previous : List Category}
    (hprevious : ∀ category ∈ previous, ∀ group ∈ groups, category ≤ group.category) :
    ∀ d ∈ allFindings rules unreleased previous groups, d.concernsForm = false := by
  induction groups generalizing previous with
  | nil => exact fun d hd => absurd hd List.not_mem_nil
  | cons group groups ih =>
    rw [List.forall_mem_cons] at hname
    rw [List.pairwise_cons] at horder
    have hfirst : ∀ category ∈ previous, category ≤ group.category :=
      fun category hc => hprevious category hc group List.mem_cons_self
    have hrest : ∀ category ∈ previous ++ [group.category], ∀ other ∈ groups,
        category ≤ other.category := by
      rw [List.forall_mem_append, List.forall_mem_singleton]
      exact ⟨fun category hc other hother =>
        hprevious category hc other (List.mem_cons_of_mem group hother), horder.1⟩
    rw [allFindings, List.forall_mem_append]
    exact ⟨Group.concernsForm_findings hname.1 hfirst, ih hname.2 horder.2 hrest⟩

theorem Release.concernsForm_findings {release : Release}
    (hname : ∀ group ∈ release.groups, group.Named) (horder : release.Ordered) :
    ∀ d ∈ release.findings rules, d.concernsForm = false := by
  intro d hd
  rcases cases_of_mem_findings hd with ⟨unreleased, hd⟩ | rfl | rfl | ⟨date, rfl⟩
  · exact Group.concernsForm_allFindings hname horder (fun _ hc => absurd hc List.not_mem_nil) d hd
  · rfl
  · rfl
  · rfl

/-- Findings on the whole document do not concern the form. -/
theorem Changelog.concernsForm_findings {changelog : Changelog}
    (hname : ∀ release ∈ changelog.releases, ∀ group ∈ release.groups, group.Named)
    (horder : ∀ release ∈ changelog.releases, release.Ordered) :
    ∀ d ∈ changelog.findings rules, d.concernsForm = false := by
  intro d hd
  rcases cases_of_mem_findings hd with ⟨release, hr, hd⟩ | rfl | rfl | ⟨versions, rfl⟩ | rfl
  · exact Release.concernsForm_findings (hname release hr) (horder release hr) d hd
  · rfl
  · rfl
  · rfl
  · rfl

/-! ## What is read of a tidy document -/

namespace Release

variable {release read : Release}

/-- What is read of a written release are changes of the release, each read again. -/
theorem exists_of_mem_changes_reread? {change : Change} (h : release.reread? rules = some read)
    (hc : change ∈ read.changes) : ∃ written ∈ release.changes, change = written.reread := by
  unfold reread? at h
  split at h
  · cases h
    obtain ⟨group, hgroup, hc⟩ := List.mem_flatMap.1 hc
    obtain ⟨source, hsource, rfl⟩ := List.mem_map.1 (List.mem_filter.1 hgroup).1
    obtain ⟨written, hwritten, rfl⟩ := List.mem_map.1 hc
    exact ⟨written, List.mem_flatMap.2 ⟨source, hsource, (List.mem_filter.1 hwritten).1⟩, rfl⟩
  · cases h

theorem named_of_reread? (hrules : ∀ c : Category, rules.category c.name = c)
    (h : release.reread? rules = some read) : ∀ group ∈ read.groups, group.Named := by
  unfold reread? at h
  split at h
  · cases h
    intro group hgroup
    obtain ⟨written, -, rfl⟩ := List.mem_map.1 (List.mem_filter.1 hgroup).1
    show written.category.name = (rules.category written.category.name).name
    rw [hrules]
  · cases h

theorem Ordered.reread? (hrules : ∀ c : Category, rules.category c.name = c)
    (horder : release.Ordered) (h : release.reread? rules = some read) : read.Ordered := by
  unfold Release.reread? at h
  split at h
  · cases h
    refine List.Pairwise.filter _ (List.pairwise_map.2 (horder.imp fun hle => ?_))
    show rules.category _ ≤ rules.category _
    rwa [hrules, hrules]
  · cases h

end Release

namespace Changelog

variable {changelog : Changelog} {layout : Layout}

theorem named_of_mem_reread (hrules : ∀ c : Category, rules.category c.name = c) :
    ∀ release ∈ (changelog.reread rules).releases, ∀ group ∈ release.groups, group.Named := by
  intro release hrelease
  obtain ⟨written, -, hread⟩ := List.mem_filterMap.1 hrelease
  exact Release.named_of_reread? hrules hread

theorem ordered_of_mem_reread (hrules : ∀ c : Category, rules.category c.name = c)
    (h : ∀ release ∈ changelog.releases, release.Ordered) :
    ∀ release ∈ (changelog.reread rules).releases, release.Ordered := by
  intro release hrelease
  obtain ⟨written, hwritten, hread⟩ := List.mem_filterMap.1 hrelease
  exact (h written hwritten).reread? hrules hread

theorem hasHeader_render (htitle : changelog.title = defaultTitle) (layout : Layout) :
    hasHeader (changelog.render layout) := by
  obtain ⟨rest, hrest⟩ := changelog.exists_dropEmptyEnd_lines layout
  have hheader : hasHeader ("# " ++ changelog.title) ∧
      Text.allBlank ("# " ++ changelog.title) = false := by
    rw [htitle]
    decide
  have hrender : changelog.render layout =
      Text.join ['\n'] (("# " ++ changelog.title) :: (rest ++ [[]])) := by
    rw [← List.cons_append, ← hrest]
    exact Text.join_append_sep (by rw [hrest]; exact List.cons_ne_nil _ _)
  rw [hrender, hasHeader_join, List.find?_cons_of_pos (by rw [hheader.2]; rfl)]
  exact hheader.1

/-- The findings on a written document with the usual title are those on the reread one. -/
theorem validate_render (htitle : changelog.title = defaultTitle)
    (h : ∀ release ∈ changelog.releases, release.OneLine) (hl : layout.Plain) :
    validate rules (changelog.render layout) =
      .ofList ((changelog.reread rules).findings rules) := by
  have hlines : changelog.OneLine := ⟨by rw [htitle]; decide, h⟩
  have htrim : Text.trim changelog.title = changelog.title := by
    rw [htitle]
    decide
  have hread : ofText rules (changelog.render layout) = changelog.reread rules :=
    ofText_render_reread hlines (by rw [htitle]; decide) htrim hl
  rw [validate, if_pos (hasHeader_render htitle layout), List.nil_append, hread]

/-- A tidy document with the usual title has no finding about its form once it is written. -/
theorem concernsForm_findings_render (htitle : changelog.title = defaultTitle)
    (h : ∀ release ∈ changelog.releases, release.Tidy) (hl : layout.Plain) :
    ∀ d ∈ (validate Rules.default (changelog.render layout)).findings, d.concernsForm = false := by
  have hfindings : ∀ d ∈ (changelog.reread Rules.default).findings Rules.default,
      d.concernsForm = false :=
    concernsForm_findings (named_of_mem_reread Rules.category_default)
      (ordered_of_mem_reread Rules.category_default fun release hrelease =>
        (h release hrelease).ordered)
  intro d hd
  rw [validate_render htitle (fun release hrelease => (h release hrelease).oneLine) hl] at hd
  exact hfindings d ((Report.findings_ofList_perm _).mem_iff.1 hd)

end Changelog

/-! ## Generated texts -/

/-- A text that one of the generators makes of parts that are single lines. -/
inductive Generated : Text → Prop
  /-- An older changelog carried over. -/
  | migrated {rules : Rules} {repository : Option Text} {content : Text} {migration : Migration} :
    (∀ url ∈ repository, '\n' ∉ url) →
    migrate? rules repository content = some migration → Generated migration.output
  /-- A first changelog from a history. -/
  | retrofitted {version date : Text} {repository : Option Text} {log : List Commit}
      (rules : Rules) : '\n' ∉ version → '\n' ∉ date → (∀ url ∈ repository, '\n' ∉ url) →
    (∀ commit ∈ log, '\n' ∉ commit.subject) →
    Generated (Retrofit.ofLog rules version date repository log).markdown
  /-- Imported releases. -/
  | imported {repository : Option Text} {releases : List PublishedRelease}
      (includePrereleases : Bool) : (∀ url ∈ repository, '\n' ∉ url) →
    (∀ release ∈ releases, release.OneLine) →
    Generated (Import.ofReleases repository includePrereleases releases).markdown

theorem oneLine_commonIntro : ∀ line ∈ commonIntro, '\n' ∉ line := by decide

theorem Layout.plain_common {repository : Option Text} (h : ∀ url ∈ repository, '\n' ∉ url) :
    Plain { intro := commonIntro, repository } where
  intro := oneLine_commonIntro
  preface := fun _ hpreface => absurd hpreface (Option.not_mem_none _)
  repository := h

theorem Layout.plain_imported {repository : Option Text} (h : ∀ url ∈ repository, '\n' ∉ url) :
    Plain { intro := commonIntro, preface := some Import.preface, repository } where
  intro := oneLine_commonIntro
  preface := by
    intro text htext
    cases htext
    decide
  repository := h

/-- What migration writes. -/
theorem output_of_migrate? {repository : Option Text} {content : Text} {migration : Migration}
    (h : migrate? rules repository content = some migration) :
    migration.output =
      (Legacy.parse rules content).render { intro := commonIntro, repository } := by
  unfold migrate? at h
  split at h
  · cases h
  · cases h
    rfl

/-- A generated text is a tidy document with the usual title, written in a plain layout. -/
theorem Generated.exists_tidy {text : Text} (h : Generated text) :
    ∃ (changelog : Changelog) (layout : Layout), changelog.title = defaultTitle ∧
      (∀ release ∈ changelog.releases, release.Tidy) ∧ layout.Plain ∧
      text = changelog.render layout := by
  cases h with
  | @migrated rules repository content migration hrepository hmigrate =>
    exact ⟨Legacy.parse rules content, _, rfl, Legacy.tidy_of_mem_parse rules content,
      Layout.plain_common hrepository, output_of_migrate? hmigrate⟩
  | retrofitted rules hversion hdate hrepository hlog =>
    exact ⟨_, _, rfl, Retrofit.tidy_of_mem_changelogOf hversion hdate hrepository hlog,
      Layout.plain_common hrepository, rfl⟩
  | imported includePrereleases hrepository hreleases =>
    refine ⟨_, _, rfl, Import.tidy_of_mem_changelogOf hrepository fun release hrelease => ?_,
      Layout.plain_imported hrepository, rfl⟩
    exact hreleases release (List.mem_filter.1 (List.mem_mergeSort.1 hrelease)).1

/--
**Every generated text is well categorised.** Validation finds neither a missing header, nor a
heading that is no category, nor a category out of order.
-/
theorem Generated.wellCategorised {text : Text} (h : Generated text) :
    ∀ d ∈ (validate Rules.default text).findings, d.concernsForm = false := by
  obtain ⟨changelog, layout, htitle, htidy, hplain, rfl⟩ := h.exists_tidy
  exact Changelog.concernsForm_findings_render htitle htidy hplain

/-- An older changelog with its categories in another order. -/
def olderSample : Text :=
  "# History (keepachangelog.com)\n\n## v1.0.0 - 2024-01-02\n\n### Security\n\n" ++
    "- fixed [#](x) crash\n\n### Added\n\n- ### Unknown\n"

/-- A fix before an addition. -/
def historySample : List Commit :=
  [⟨"b", "Fix ### crash (#2)", "dev", some "2024-01-02T00:00:00+00:00"⟩,
   ⟨"a", "feat: ## [2.0.0] (#1)", "dev", some "2024-01-01T00:00:00+00:00"⟩]

/-- A release with a heading of another vocabulary, and one without notes. -/
def publishedSample : List PublishedRelease :=
  [{ tag := "v1.0.0]", body := some "### Bugs\n* ### Fixed\n\nNew in this release: a search box" },
   { tag := "v0.9.0", publishedAt := some "2024-01-01T00:00:00Z" }]

theorem wellCategorised_samples :
    (∃ migration, migrate? Rules.default none olderSample = some migration ∧
      ∀ d ∈ (validate Rules.default migration.output).findings, d.concernsForm = false) ∧
    (∀ d ∈ (validate Rules.default
        (Retrofit.ofLog Rules.default "1.0.0" "2024-01-03" none historySample).markdown).findings,
      d.concernsForm = false) ∧
    ∀ d ∈ (validate Rules.default (Import.ofReleases none true publishedSample).markdown).findings,
      d.concernsForm = false := by
  have hnone : ∀ url ∈ (none : Option Text), '\n' ∉ url :=
    fun url h => absurd h (Option.not_mem_none url)
  have hreleases : ∀ release ∈ publishedSample, release.OneLine := by
    rw [publishedSample, List.forall_mem_cons, List.forall_mem_singleton]
    refine ⟨⟨by decide, hnone, hnone⟩, ⟨by decide, hnone, ?_⟩⟩
    intro timestamp htimestamp
    cases htimestamp
    decide
  obtain ⟨migration, hmigrate⟩ : ∃ migration, migrate? Rules.default none olderSample =
      some migration := Option.isSome_iff_exists.1 (by decide +kernel)
  exact ⟨⟨migration, hmigrate, Generated.wellCategorised (.migrated hnone hmigrate)⟩,
    Generated.wellCategorised
      (.retrofitted Rules.default (by decide) (by decide) hnone (by decide)),
    Generated.wellCategorised (.imported true hnone hreleases)⟩

end CommonChangelog
