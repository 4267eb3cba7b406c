import CommonChangelog.Proofs.SortedSections
import CommonChangelog.Validation
import Mathlib.Data.List.Forall2

/-!
# Sorting repairs the order and nothing else

The header check looks at the first line that is not blank, which sorting leaves in place or finds
among the sections. The findings on single releases move with the releases. Of the findings on the
whole document, those about order disappear, and the one about repeated versions lists the same
versions, perhaps in another order.

Main statement: `validate_sortReleases`.
-/

namespace CommonChangelog

/-! ## The header -/

theorem hasHeader_eq (content : Text) :
    hasHeader content = Text.startsWith headerText (Text.trimStart content) :=
  Text.startsWith_trimEnd (by rintro c ⟨⟩; decide) _

theorem hasHeader_of_allBlank {s : Text} (h : Text.allBlank s) : hasHeader s = false := by
  rw [hasHeader, Text.trim_of_allBlank h]; rfl

/-- The header stands on the first line that is not blank. -/
theorem hasHeader_join (ls : List Text) :
    hasHeader (Text.join ['\n'] ls) = (ls.find? (!Text.allBlank ·)).any hasHeader := by
  induction ls with
  | nil => rfl
  | cons l ls ih =>
    cases hl : Text.allBlank l with
    | true =>
      rw [List.find?_cons_of_neg (by rw [hl]; decide), ← ih]
      cases ls with
      | nil => rw [Text.join_singleton, hasHeader_of_allBlank hl]; rfl
      | cons m ls =>
        have hnl : Text.allBlank (l ++ ['\n']) := by
          rw [Text.allBlank, List.all_append, ← Text.allBlank, hl]; decide
        rw [Text.join_cons_cons, List.append_cons, hasHeader_eq,
          Text.trimStart_append_of_allBlank hnl, ← hasHeader_eq]
    | false =>
      rw [List.find?_cons_of_pos (by rw [hl]; decide), Option.any_some]
      cases ls with
      | nil => rw [Text.join_singleton]
      | cons m ls =>
        rw [Text.join_cons_cons, hasHeader_eq, hasHeader_eq, Text.trimStart_append hl,
          Text.startsWith_append_sep (by decide)]

/-- A line with the header on it is a title. -/
theorem classify_of_hasHeader {line : Text} (h : hasHeader line) :
    (Line.classify line).isVersion = false := by
  obtain ⟨rest, hrest⟩ := Text.startsWith_iff.1 h
  rw [Line.classify, ← hrest]
  rfl

/-- Sections do not begin with the header. -/
theorem hasHeader_sections {sections : List Section} (h : ∀ s ∈ sections, s.WellFormed) :
    ((sections.flatMap (·.lines)).find? (!Text.allBlank ·)).any hasHeader = false := by
  cases sections with
  | nil => rfl
  | cons s sections =>
    obtain ⟨heading, date, body, hlines, hheading, -⟩ := h s List.mem_cons_self
    have hblank : Text.allBlank heading = false := by
      cases hb : Text.allBlank heading with
      | false => rfl
      | true => rw [Line.classify_of_allBlank hb] at hheading; cases hheading
    rw [List.flatMap_cons, hlines, List.cons_append,
      List.find?_cons_of_pos (by rw [hblank]; decide), Option.any_some]
    cases hh : hasHeader heading with
    | false => rfl
    | true =>
      have := classify_of_hasHeader hh
      rw [hheading] at this
      exact absurd this Bool.noConfusion

/-- The header of a document is found before its sections. -/
theorem hasHeader_sections_append {header : List Text} {sections : List Section}
    (h : ∀ s ∈ sections, s.WellFormed) :
    hasHeader (Text.join ['\n'] (header ++ sections.flatMap (·.lines))) =
      (header.find? (!Text.allBlank ·)).any hasHeader := by
  rw [hasHeader_join, List.find?_append]
  cases header.find? (!Text.allBlank ·) with
  | some line => rfl
  | none => rw [Option.none_or, hasHeader_sections h]; rfl

/-- **Sorting keeps the header.** -/
theorem hasHeader_sortReleases (content : Text) :
    hasHeader (sortReleases content) = hasHeader content := by
  have hwf := Section.cut_wellFormed (Text.split '\n' content)
  have hsorted : hasHeader (sortReleases content) = _ :=
    hasHeader_sections_append fun s hs => hwf s ((Section.arrange_perm _).mem_iff.1 hs)
  rw [hsorted, ← hasHeader_sections_append hwf, Section.cut_lines, Text.join_split]

/-! ## Findings on single releases -/

/-- The finding is about the order of the releases. -/
def Diagnostic.isOrder : Diagnostic → Bool
  | releasesNotSorted _ | unreleasedNotFirst => true
  | _ => false

/-- The versions that a finding reports as repeated. -/
def Diagnostic.repeated? : Diagnostic → Option (List Text)
  | duplicateVersion versions => some versions
  | _ => none

/-- The finding is neither about order nor about repeated versions. -/
def Diagnostic.isUnordered (d : Diagnostic) : Bool := !d.isOrder && d.repeated?.isNone

variable {rules : Rules}

theorem Change.findings_isUnordered {unreleased : Bool} {change : Change} :
    ∀ d ∈ change.findings rules unreleased, d.isUnordered := by
  intro d hd
  rw [Change.findings, List.mem_append] at hd
  rcases hd with hd | hd <;> split at hd <;>
    simp only [List.mem_singleton, List.not_mem_nil] at hd <;> rw [hd] <;> rfl

theorem Group.findings_isUnordered {unreleased : Bool} {previous : List Category} {group : Group} :
    ∀ d ∈ group.findings rules unreleased previous, d.isUnordered := by
  intro d hd
  unfold Group.findings at hd
  split at hd
  · rw [List.mem_singleton.1 hd]; rfl
  · rw [List.mem_append, List.mem_flatMap] at hd
    rcases hd with hd | ⟨change, -, hd⟩
    · split at hd
      · rw [List.mem_singleton.1 hd]; rfl
      · exact absurd hd List.not_mem_nil
    · exact Change.findings_isUnordered d hd

theorem Group.allFindings_isUnordered {unreleased : Bool} {groups : List Group} :
    ∀ previous, ∀ d ∈ Group.allFindings rules unreleased previous groups, d.isUnordered := by
  induction groups with
  | nil => intro previous d hd; exact absurd hd List.not_mem_nil
  | cons group groups ih =>
    intro previous d hd
    rcases List.mem_append.1 hd with hd | hd
    · exact Group.findings_isUnordered d hd
    · exact ih _ d hd

theorem Release.findings_isUnordered {release : Release} :
    ∀ d ∈ release.findings rules, d.isUnordered := by
  intro d hd
  unfold Release.findings at hd
  split at hd
  · exact Group.allFindings_isUnordered _ d hd
  · rw [List.mem_append, List.mem_append] at hd
    rcases hd with (hd | hd) | hd
    · unfold Release.labelFindings at hd
      split at hd
      · exact absurd hd List.not_mem_nil
      · rw [List.mem_singleton.1 hd]; rfl
    · unfold Release.dateFindings at hd
      split at hd
      · rw [List.mem_singleton.1 hd]; rfl
      · split at hd
        · exact absurd hd List.not_mem_nil
        · rw [List.mem_singleton.1 hd]; rfl
    · exact Group.allFindings_isUnordered _ d hd

/-! ## Findings on the document -/

theorem eraseDups_nodup (xs : List Text) : xs.eraseDups.Nodup :=
  (pairwise_eraseDups (List.pairwise_of_forall fun _ _ => trivial)).imp And.right

theorem repeated_perm {xs ys : List Text} (h : xs.Perm ys) : (repeated xs).Perm (repeated ys) := by
  rw [repeated, repeated, List.perm_ext_iff_of_nodup (eraseDups_nodup _) (eraseDups_nodup _)]
  intro x
  rw [List.mem_eraseDups, List.mem_eraseDups, List.mem_filter, List.mem_filter, h.mem_iff,
    h.count_eq]

namespace Changelog

/-- The findings that do not look at the order of the releases. -/
def releaseFindings (rules : Rules) (changelog : Changelog) : List Diagnostic :=
  (if changelog.releases.isEmpty then [.noReleases] else []) ++
    changelog.releases.flatMap (Release.findings rules)

theorem findings_eq (changelog : Changelog) :
    changelog.findings rules = changelog.releaseFindings rules ++ (changelog.orderFindings ++
      (changelog.duplicateFindings ++
        if changelog.unreleasedMisplaced then [.unreleasedNotFirst] else [])) := by
  rw [findings, releaseFindings]
  simp only [List.append_assoc]

theorem releaseFindings_isUnordered {changelog : Changelog} :
    ∀ d ∈ changelog.releaseFindings rules, d.isUnordered := by
  intro d hd
  rcases List.mem_append.1 hd with hd | hd
  · split at hd
    · rw [List.mem_singleton.1 hd]; rfl
    · exact absurd hd List.not_mem_nil
  · obtain ⟨release, -, hd⟩ := List.mem_flatMap.1 hd
    exact Release.findings_isUnordered d hd

theorem filter_findings (changelog : Changelog) :
    (changelog.findings rules).filter (·.isUnordered) = changelog.releaseFindings rules := by
  have horder : changelog.orderFindings.filter (·.isUnordered) = [] := by
    unfold orderFindings
    split <;> rfl
  have hduplicate : changelog.duplicateFindings.filter (·.isUnordered) = [] := by
    unfold duplicateFindings
    split <;> rfl
  rw [findings_eq, List.filter_append, List.filter_append, List.filter_append,
    List.filter_eq_self.2 releaseFindings_isUnordered, horder, hduplicate]
  split <;> simp [Diagnostic.isUnordered, Diagnostic.isOrder]

/-- The lists of repeated versions in the findings: the one of the document, unless it is empty. -/
theorem filterMap_findings (changelog : Changelog) :
    (changelog.findings rules).filterMap Diagnostic.repeated? =
      [repeated changelog.versions].filter (!·.isEmpty) := by
  have hrelease : (changelog.releaseFindings rules).filterMap Diagnostic.repeated? = [] := by
    rw [List.filterMap_eq_nil_iff]
    intro d hd
    have hu := releaseFindings_isUnordered d hd
    rw [Diagnostic.isUnordered, Bool.and_eq_true, Option.isNone_iff_eq_none] at hu
    exact hu.2
  have horder : changelog.orderFindings.filterMap Diagnostic.repeated? = [] := by
    unfold orderFindings
    split <;> rfl
  rw [findings_eq, List.filterMap_append, List.filterMap_append, List.filterMap_append, hrelease,
    horder, duplicateFindings]
  cases repeated changelog.versions <;> cases changelog.unreleasedMisplaced <;> rfl

theorem unreleasedMisplaced_arrange (changelog : Changelog) :
    changelog.arrange.unreleasedMisplaced = false := by
  rw [unreleasedMisplaced, unreleased?, arrange, Release.arrange]
  cases hu : changelog.releases.filter (·.isUnreleased) with
  | cons r rs =>
    have hr : r.isUnreleased := (List.mem_filter.1 (hu ▸ List.mem_cons_self)).2
    rw [List.cons_append, List.head?_cons, Option.any_some, hr]; rfl
  | nil =>
    have hnone : ((changelog.releases.filter (!·.isUnreleased)).mergeSort fun a b =>
        Version.mayPrecede a.label b.label).find? (·.isUnreleased) = none := by
      rw [List.find?_eq_none]
      intro r hr
      simpa using (List.mem_filter.1 (List.mem_mergeSort.1 hr)).2
    rw [List.nil_append, hnone, Option.isSome_none, Bool.and_false]

theorem isOrder_findings_arrange (changelog : Changelog) :
    ∀ d ∈ changelog.arrange.findings rules, d.isOrder = false := by
  intro d hd
  rw [findings_eq, orderFindings, if_pos (labelsSorted_arrange changelog),
    unreleasedMisplaced_arrange, if_neg Bool.false_ne_true, List.append_nil, List.nil_append] at hd
  rcases List.mem_append.1 hd with hd | hd
  · have hu := releaseFindings_isUnordered d hd
    rw [Diagnostic.isUnordered, Bool.and_eq_true, Bool.not_eq_true'] at hu
    exact hu.1
  · unfold duplicateFindings at hd
    split at hd
    · exact absurd hd List.not_mem_nil
    · rw [List.mem_singleton.1 hd]; rfl

theorem releaseFindings_arrange (changelog : Changelog) :
    (changelog.arrange.releaseFindings rules).Perm (changelog.releaseFindings rules) := by
  have hperm := Release.arrange_perm changelog.releases
  rw [releaseFindings, releaseFindings, arrange, hperm.isEmpty_eq]
  exact (hperm.flatMap_right _).append_left _

theorem versions_arrange_perm (changelog : Changelog) :
    changelog.arrange.versions.Perm changelog.versions :=
  ((Release.arrange_perm changelog.releases).filter _).map _

end Changelog

/-! ## The report -/

/-- Everything that a report holds. -/
def Report.findings (report : Report) : List Diagnostic := report.errors ++ report.warnings

theorem Report.findings_ofList_perm (ds : List Diagnostic) : (ofList ds).findings.Perm ds := by
  have hwarnings : (ofList ds).warnings = ds.filter fun d => !decide (d.severity = .error) := by
    refine List.filter_congr fun d _ => ?_
    cases d.severity <;> rfl
  rw [findings, hwarnings]
  exact List.filter_append_perm _ ds

/-- Lists that agree on what is kept have each of it equally often. -/
theorem count_filter_of_perm {xs ys : List Diagnostic} {keep : Diagnostic → Bool}
    (h : (xs.filter keep).Perm (ys.filter keep)) {d : Diagnostic} (hd : keep d)
    (p : Diagnostic → Bool) : (xs.filter p).count d = (ys.filter p).count d := by
  have hcomm : ∀ zs : List Diagnostic,
      (zs.filter p).count d = ((zs.filter keep).filter p).count d := by
    intro zs
    rw [List.filter_filter, ← List.count_filter (l := zs.filter p) hd, List.filter_filter]
    congr 2
    funext e
    rw [Bool.and_comm]
  rw [hcomm xs, hcomm ys, (h.filter p).count_eq]

/-- The findings of a validation, before they are filed by severity. -/
def allFindings (rules : Rules) (content : Text) : List Diagnostic :=
  (if hasHeader content then [] else [.missingHeader]) ++
    (Changelog.ofText rules content).findings rules

theorem allFindings_sortReleases (rules : Rules) (content : Text) :
    allFindings rules (sortReleases content) =
      (if hasHeader content then [] else [.missingHeader]) ++
        (Changelog.ofText rules content).arrange.findings rules := by
  rw [allFindings, hasHeader_sortReleases, Changelog.ofText_sortReleases]

theorem filterMap_allFindings (rules : Rules) (content : Text) :
    (allFindings rules content).filterMap Diagnostic.repeated? =
      [repeated (Changelog.ofText rules content).versions].filter (!·.isEmpty) := by
  rw [allFindings, List.filterMap_append, Changelog.filterMap_findings]
  split <;> rfl

theorem eq_of_perm_filter_singleton {α : Type} {xs : List α} {a : α} {p : α → Bool}
    (h : xs.Perm ([a].filter p)) : xs = [a].filter p := by
  rw [List.filter_singleton] at h ⊢
  cases hp : p a <;> rw [hp] at h
  · exact List.perm_nil.1 h
  · exact List.perm_singleton.1 h

theorem forall₂_filter_nonempty {vs ws : List Text} (h : vs.Perm ws) :
    List.Forall₂ List.Perm ([vs].filter (!·.isEmpty)) ([ws].filter (!·.isEmpty)) := by
  rw [List.filter_singleton, List.filter_singleton, h.isEmpty_eq]
  cases ws.isEmpty
  · exact .cons h .nil
  · exact .nil

/--
**Sorting repairs the order of releases and nothing else.** The report on the sorted text has no
finding about order, and every other finding as often as before. Repeated versions are reported
again, the same ones in some order.
-/
theorem validate_sortReleases (rules : Rules) (content : Text) :
    let before := validate rules content
    let after := validate rules (sortReleases content)
    (∀ d ∈ after.findings, d.isOrder = false) ∧
    (∀ d, d.isUnordered → after.errors.count d = before.errors.count d ∧
      after.warnings.count d = before.warnings.count d) ∧
    List.Forall₂ List.Perm (after.findings.filterMap Diagnostic.repeated?)
      (before.findings.filterMap Diagnostic.repeated?) := by
  intro before after
  have hbefore : before.findings.Perm (allFindings rules content) :=
    Report.findings_ofList_perm _
  have hafter : after.findings.Perm (allFindings rules (sortReleases content)) :=
    Report.findings_ofList_perm _
  refine ⟨fun d hd => ?_, fun d hd => ?_, ?_⟩
  · have hd := hafter.mem_iff.1 hd
    rw [allFindings_sortReleases, List.mem_append] at hd
    rcases hd with hd | hd
    · split at hd
      · exact absurd hd List.not_mem_nil
      · rw [List.mem_singleton.1 hd]; rfl
    · exact Changelog.isOrder_findings_arrange _ d hd
  · have hkeep : ((allFindings rules (sortReleases content)).filter (·.isUnordered)).Perm
        ((allFindings rules content).filter (·.isUnordered)) := by
      rw [allFindings_sortReleases, allFindings, List.filter_append, List.filter_append,
        Changelog.filter_findings, Changelog.filter_findings]
      exact (Changelog.releaseFindings_arrange _).append_left _
    exact ⟨count_filter_of_perm hkeep hd _, count_filter_of_perm hkeep hd _⟩
  · have hdups := hafter.filterMap Diagnostic.repeated?
    have hdups' := hbefore.filterMap Diagnostic.repeated?
    rw [filterMap_allFindings, Changelog.ofText_sortReleases] at hdups
    rw [filterMap_allFindings] at hdups'
    rw [eq_of_perm_filter_singleton hdups, eq_of_perm_filter_singleton hdups']
    exact forall₂_filter_nonempty (repeated_perm (Changelog.versions_arrange_perm _))

end CommonChangelog
