import CommonChangelog.Document.Sections
import CommonChangelog.Proofs.Outline
import CommonChangelog.Proofs.VersionOrder

/-!
# Sorting a text sorts its document

Cutting a text into sections loses no line. A section begins with a version heading and has no
other, so it is read as one release, the same wherever the section stands (`releases_sections`).
Moving sections therefore moves releases, and the document of the sorted text is the sorted
document.

Main statement: `sortReleases_sorts_document`.
-/

namespace CommonChangelog

namespace Section

/-! ## Cutting a text into sections -/

/-- A version heading and lines without one. -/
def WellFormed (s : Section) : Prop :=
  ∃ heading date body, s.lines = heading :: body ∧
    Line.classify heading = .version s.label date ∧
      ∀ line ∈ body, (Line.classify line).isVersion = false

theorem cut_cons_version {line label : Text} {date : Option Text}
    (h : Line.classify line = .version label date) (rest : List Text) :
    cut (line :: rest) = ([], ⟨label, line :: (cut rest).1⟩ :: (cut rest).2) := by
  simp only [cut, h]

theorem cut_cons {line : Text} (h : (Line.classify line).isVersion = false) (rest : List Text) :
    cut (line :: rest) = (line :: (cut rest).1, (cut rest).2) := by
  rw [cut]
  cases hl : Line.classify line with
  | version label date => rw [hl] at h; exact absurd h Bool.noConfusion
  | _ => rfl

theorem cut_lines (ls : List Text) : (cut ls).1 ++ (cut ls).2.flatMap (·.lines) = ls := by
  induction ls with
  | nil => rfl
  | cons line rest ih =>
    rcases (Line.classify line).version_or with ⟨label, date, h⟩ | h
    · rw [cut_cons_version h, List.flatMap_cons, List.nil_append, List.cons_append, ih]
    · rw [cut_cons h, List.cons_append, ih]

theorem cut_header (ls : List Text) :
    ∀ line ∈ (cut ls).1, (Line.classify line).isVersion = false := by
  induction ls with
  | nil => intro line hl; exact absurd hl List.not_mem_nil
  | cons line rest ih =>
    rcases (Line.classify line).version_or with ⟨label, date, h⟩ | h
    · rw [cut_cons_version h]
      intro l hl
      exact absurd hl List.not_mem_nil
    · rw [cut_cons h]
      intro l hl
      rcases List.mem_cons.1 hl with rfl | hl
      · exact h
      · exact ih l hl

theorem cut_wellFormed (ls : List Text) : ∀ s ∈ (cut ls).2, s.WellFormed := by
  induction ls with
  | nil => intro s hs; exact absurd hs List.not_mem_nil
  | cons line rest ih =>
    rcases (Line.classify line).version_or with ⟨label, date, h⟩ | h
    · rw [cut_cons_version h]
      intro s hs
      rcases List.mem_cons.1 hs with rfl | hs
      · exact ⟨line, date, (cut rest).1, rfl, h, cut_header rest⟩
      · exact ih s hs
    · rw [cut_cons h]
      exact ih

/-! ## Sections are read one by one -/

/-- The roles of the lines of a section. -/
def roles (s : Section) : List Line := s.lines.map Line.classify

/-- The release that a section is read as. -/
def release (rules : Rules) (s : Section) : Release :=
  match s.roles with
  | .version label date :: rest => Outline.release rules label date (Outline.block rest)
  | _ => { label := s.label }

variable {rules : Rules}

theorem WellFormed.roles_eq {s : Section} (h : s.WellFormed) :
    ∃ date body, s.roles = .version s.label date :: body ∧
      ∀ line ∈ body, line.isVersion = false := by
  obtain ⟨heading, date, body, hlines, hheading, hbody⟩ := h
  refine ⟨date, body.map Line.classify, ?_, List.forall_mem_map.2 hbody⟩
  rw [roles, hlines, List.map_cons, hheading]

theorem WellFormed.release_label {s : Section} (h : s.WellFormed) :
    (s.release rules).label = s.label := by
  obtain ⟨date, body, hroles, -⟩ := h.roles_eq
  rw [release, hroles]; rfl

theorem WellFormed.releases_roles {s : Section} (h : s.WellFormed) :
    Outline.releases rules s.roles = [s.release rules] := by
  obtain ⟨date, body, hroles, hbody⟩ := h.roles_eq
  rw [release, hroles, Outline.releases, Outline.releases_of_no_version hbody]

theorem head_roles {sections : List Section} (h : ∀ s ∈ sections, s.WellFormed) :
    ∀ line ∈ (sections.flatMap roles).head?, line.isHeading := by
  cases sections with
  | nil => intro line hl; cases hl
  | cons s sections =>
    obtain ⟨date, body, hroles, -⟩ := (h s List.mem_cons_self).roles_eq
    rw [List.flatMap_cons, hroles]
    rintro line ⟨⟩
    rfl

/-- **Sections are read independently of each other.** -/
theorem releases_sections {sections : List Section} (h : ∀ s ∈ sections, s.WellFormed) :
    Outline.releases rules (sections.flatMap roles) = sections.map (release rules) := by
  induction sections with
  | nil => rfl
  | cons s sections ih =>
    have hrest : ∀ t ∈ sections, t.WellFormed := fun t ht => h t (List.mem_cons_of_mem s ht)
    rw [List.flatMap_cons, Outline.releases_append _ (head_roles hrest), ih hrest,
      (h s List.mem_cons_self).releases_roles, List.map_cons, List.singleton_append]

theorem ofLines_sections {header : List Text}
    (hh : ∀ line ∈ header, (Line.classify line).isVersion = false)
    {sections : List Section} (hs : ∀ s ∈ sections, s.WellFormed) :
    Changelog.ofLines rules ((header ++ sections.flatMap (·.lines)).map Line.classify) =
      ⟨Outline.title (header.map Line.classify), sections.map (release rules)⟩ := by
  have hroles : (sections.flatMap (·.lines)).map Line.classify = sections.flatMap roles :=
    List.map_flatMap
  have hhead := head_roles hs
  rw [List.map_append, hroles, Outline.ofLines_eq, Outline.releases_append _ hhead,
    Outline.releases_of_no_version (List.forall_mem_map.2 hh), releases_sections hs,
    List.nil_append, Outline.title, Outline.block_append_of_heading _ hhead, Outline.title]

end Section

/-! ## Moving sections -/

/-- Unreleased changes first, then versions newest first; equal ones keep their order. -/
def Release.arrange (releases : List Release) : List Release :=
  releases.filter isUnreleased ++
    (releases.filter (!·.isUnreleased)).mergeSort fun a b => Version.mayPrecede a.label b.label

/-- The document with its releases in order. -/
def Changelog.arrange (changelog : Changelog) : Changelog :=
  { changelog with releases := Release.arrange changelog.releases }

namespace Section

theorem arrange_perm (sections : List Section) : (arrange sections).Perm sections :=
  filter_append_mergeSort_perm _ _ _

variable {rules : Rules}

theorem WellFormed.isUnreleased_release {s : Section} (h : s.WellFormed) :
    (s.release rules).isUnreleased = s.isUnreleased := by
  rw [Release.isUnreleased, h.release_label, isUnreleased]

/-- Sections and the releases they are read as are arranged in the same way. -/
theorem map_arrange {sections : List Section} (h : ∀ s ∈ sections, s.WellFormed) :
    (arrange sections).map (release rules) = Release.arrange (sections.map (release rules)) := by
  have hfilter : ∀ p : Bool → Bool,
      (sections.filter fun s => p s.isUnreleased).map (release rules) =
        (sections.map (release rules)).filter fun r => p r.isUnreleased := by
    intro p
    rw [List.filter_map]
    congr 1
    refine List.filter_congr fun s hs => ?_
    rw [Function.comp, (h s hs).isUnreleased_release]
  have hsort : ((sections.filter (!·.isUnreleased)).mergeSort fun a b =>
      Version.mayPrecede a.label b.label).map (release rules) =
      ((sections.filter (!·.isUnreleased)).map (release rules)).mergeSort fun a b =>
        Version.mayPrecede a.label b.label := by
    refine List.map_mergeSort fun a ha b hb => ?_
    rw [(h a (List.mem_filter.1 ha).1).release_label,
      (h b (List.mem_filter.1 hb).1).release_label]
  have hunreleased := hfilter id
  have hversioned := hfilter not
  simp only [id] at hunreleased
  rw [arrange, List.map_append, hsort, Release.arrange, hunreleased, hversioned]

end Section

/-- The lines of the sorted text are those of the text, section by section. -/
theorem split_sortReleases (content : Text) :
    Text.split '\n' (sortReleases content) =
      (Section.cut (Text.split '\n' content)).1 ++
        (Section.arrange (Section.cut (Text.split '\n' content)).2).flatMap (·.lines) := by
  generalize hcut : Section.cut (Text.split '\n' content) = cut
  have hperm : (cut.1 ++ (Section.arrange cut.2).flatMap (·.lines)).Perm
      (Text.split '\n' content) := by
    rw [← Section.cut_lines (Text.split '\n' content), hcut]
    exact ((Section.arrange_perm cut.2).flatMap_right _).append_left _
  rw [sortReleases, hcut]
  refine Text.split_join ?_ fun p hp => Text.not_mem_of_mem_split (hperm.mem_iff.1 hp)
  intro hnil
  rw [hnil] at hperm
  exact Text.split_ne_nil '\n' content hperm.nil_eq.symm

theorem Changelog.ofText_sections (rules : Rules) (content : Text) :
    ofText rules content =
      ⟨Outline.title ((Section.cut (Text.split '\n' content)).1.map Line.classify),
        (Section.cut (Text.split '\n' content)).2.map (Section.release rules)⟩ := by
  rw [ofText_eq, ← Section.ofLines_sections (Section.cut_header _) (Section.cut_wellFormed _),
    Section.cut_lines]

/-- **The document of the sorted text is the sorted document.** -/
theorem Changelog.ofText_sortReleases (rules : Rules) (content : Text) :
    ofText rules (sortReleases content) = (ofText rules content).arrange := by
  have hwf := Section.cut_wellFormed (Text.split '\n' content)
  rw [ofText_eq, split_sortReleases, Section.ofLines_sections (Section.cut_header _)
    fun s hs => hwf s ((Section.arrange_perm _).mem_iff.1 hs), Section.map_arrange hwf,
    arrange, ofText_sections]

/-! ## The order of the sorted document -/

namespace Release

theorem arrange_perm (releases : List Release) : (arrange releases).Perm releases :=
  filter_append_mergeSort_perm _ _ _

/-- Arranging does not move unreleased changes and sorts the versions. -/
theorem versioned_arrange (releases : List Release) :
    (arrange releases).filter (!·.isUnreleased) =
      (releases.filter (!·.isUnreleased)).mergeSort fun a b =>
        Version.mayPrecede a.label b.label :=
  filter_not_filter_append_mergeSort isUnreleased _ releases

end Release

/-- The comparison of releases by their labels. -/
def Release.newestFirst (a b : Release) : Ordering := Version.newestFirst a.label b.label

instance : Std.TransCmp Release.newestFirst := transCmp_comap Release.label

theorem Changelog.labelsSorted_arrange (changelog : Changelog) :
    Version.labelsSorted changelog.arrange.versions := by
  rw [Version.labelsSorted_iff, versions, List.pairwise_map, versioned, arrange,
    Release.versioned_arrange]
  exact List.pairwise_mergeSort (fun a b c => Version.mayPrecede_trans a.label b.label c.label)
    (fun a b => Version.mayPrecede_total a.label b.label) _

/--
**Sorting the text sorts the document.** The title stays, and so does each release. Unreleased
changes come first, in the order they had; the versioned releases follow, sorted stably with the
newest first; and the order check passes.
-/
theorem sortReleases_sorts_document (rules : Rules) (content : Text) :
    let before := Changelog.ofText rules content
    let after := Changelog.ofText rules (sortReleases content)
    after.title = before.title ∧
    (∃ sorted, StableSort Release.newestFirst before.versioned sorted ∧
      after.releases = before.releases.filter (·.isUnreleased) ++ sorted) ∧
    releasesSorted rules (sortReleases content) := by
  intro before after
  have hafter : after = before.arrange := Changelog.ofText_sortReleases rules content
  refine ⟨by rw [hafter]; rfl, ⟨_, stableSort_mergeSort before.versioned, by rw [hafter]; rfl⟩, ?_⟩
  rw [releasesSorted, Changelog.ofText_sortReleases]
  exact Changelog.labelsSorted_arrange before

end CommonChangelog
