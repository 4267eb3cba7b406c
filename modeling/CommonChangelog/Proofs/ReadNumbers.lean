import CommonChangelog.Proofs.CoveredNumbers
import CommonChangelog.Proofs.LineForms
import CommonChangelog.Proofs.Outline

/-!
# Coverage sees what a reader sees

Reading looks for references in entries, and an entry is a trimmed part of a line. Coverage looks
for numbers in the whole text. A number in brackets that stands in a part stands in the whole. A
number in parentheses counts only where no closing bracket follows, so it matters what stands
behind an entry: blanks, or the end of the line.

**Theorem (`Coverage.mem_ofChangelog_ofText`).** Every number that a change of the document refers
to is one of those that coverage finds in the text.
-/

namespace CommonChangelog

/-! ## Parts in front of no closing bracket -/

namespace Text

/-- The part stands in the text at a place where no closing bracket follows. -/
def Within (part s : Text) : Prop :=
  ∃ before after, s = before ++ part ++ after ∧ after.head? ≠ some ']'

variable {part s t : Text}

theorem Within.trans (h₁ : Within part s) (h₂ : Within s t) : Within part t := by
  obtain ⟨before₁, after₁, rfl, hafter₁⟩ := h₁
  obtain ⟨before₂, after₂, rfl, hafter₂⟩ := h₂
  refine ⟨before₂ ++ before₁, after₁ ++ after₂, by simp only [List.append_assoc], ?_⟩
  cases after₁ with
  | nil => exact hafter₂
  | cons c after₁ => exact hafter₁

theorem Within.isInfix (h : Within part s) : part <:+: s := by
  obtain ⟨before, after, rfl, -⟩ := h
  exact ⟨before, after, rfl⟩

theorem within_of_suffix (h : part <:+ s) : Within part s := by
  obtain ⟨before, rfl⟩ := h
  exact ⟨before, [], by rw [List.append_nil], by simp⟩

theorem within_append_of_allBlank (s : Text) {b : Text} (hb : allBlank b) : Within s (s ++ b) := by
  refine ⟨[], b, rfl, fun hhead => ?_⟩
  have hblank : isBlank ']' := List.all_eq_true.1 hb _ (List.mem_of_head? hhead)
  exact absurd hblank (by decide)

theorem within_trim (s : Text) : Within (trim s) s := by
  obtain ⟨b, hb, hs⟩ := exists_trimEnd_append (trimStart s)
  have hend : Within (trim s) (trimStart s) := by
    rw [hs]
    exact within_append_of_allBlank (trim s) hb
  exact hend.trans (within_of_suffix (List.dropWhile_suffix isBlank))

theorem within_of_mem_split {sep : Char} (hsep : sep ≠ ']') (h : part ∈ split sep s) :
    Within part s := by
  obtain ⟨before, after, heq, hafter⟩ := exists_join_of_mem sep h
  rw [join_split] at heq
  exact ⟨before, after, heq, fun hhead => hsep (hafter ']' hhead).symm⟩

end Text

open Text (Within)

/-! ## Entries of a document -/

namespace Line

/-- The text of an entry stands in the line, with nothing but blanks behind it. -/
theorem within_of_classify {line text : Text} (h : classify line = .entry text) :
    Within text line := by
  obtain ⟨bullet, rest, -, htrim, rfl⟩ := shows_of_classify h
  have hsuffix : rest <:+ Text.trim line := ⟨[bullet, ' '], htrim.symm⟩
  have hrest := (Text.within_trim rest).trans (Text.within_of_suffix hsuffix)
  exact hrest.trans (Text.within_trim line)

end Line

namespace Outline

variable {rules : Rules} {lines : List Line} {change : Change}

theorem exists_of_mem_changes (h : change ∈ changes lines) :
    ∃ text, Line.entry text ∈ lines ∧ change = Change.ofEntry text := by
  obtain ⟨text, htext, rfl⟩ := List.mem_map.1 h
  obtain ⟨line, hline, hentry⟩ := List.mem_filterMap.1 htext
  obtain rfl : line = .entry text := by
    cases line <;> cases hentry
    rfl
  exact ⟨text, (List.takeWhile_sublist _).subset hline, rfl⟩

theorem exists_of_mem_groups {group : Group} (hg : group ∈ groups rules lines)
    (hc : change ∈ group.changes) :
    ∃ text, Line.entry text ∈ lines ∧ change = Change.ofEntry text := by
  induction lines with
  | nil => exact absurd hg List.not_mem_nil
  | cons line lines ih =>
    have hrest : (∃ text, Line.entry text ∈ lines ∧ change = Change.ofEntry text) →
        ∃ text, Line.entry text ∈ line :: lines ∧ change = Change.ofEntry text :=
      fun ⟨text, htext, heq⟩ => ⟨text, List.mem_cons_of_mem line htext, heq⟩
    cases line with
    | category heading =>
      rcases List.mem_append.1 hg with hg | hg
      · unfold nonempty at hg
        split at hg
        · exact absurd hg List.not_mem_nil
        · obtain rfl := List.mem_singleton.1 hg
          exact hrest (exists_of_mem_changes hc)
      · exact hrest (ih hg)
    | _ => exact hrest (ih hg)

end Outline

/-- A change of the document refers to the pull request or the issue with this number. -/
def Changelog.RefersTo (changelog : Changelog) (n : UInt64) : Prop :=
  ∃ release ∈ changelog.releases, ∃ change ∈ release.changes, ∃ reference ∈ change.references,
    reference.number? = some n

instance (changelog : Changelog) (n : UInt64) : Decidable (changelog.RefersTo n) :=
  inferInstanceAs (Decidable (∃ release ∈ changelog.releases, ∃ change ∈ release.changes,
    ∃ reference ∈ change.references, reference.number? = some n))

theorem Changelog.exists_entry_within {rules : Rules} {content : Text} {release : Release}
    {change : Change} (hr : release ∈ (ofText rules content).releases)
    (hc : change ∈ release.changes) :
    ∃ text, Within text content ∧ change = Change.ofEntry text := by
  rw [ofText_eq, Outline.ofLines_eq] at hr
  obtain ⟨label, date, block, hblock, rfl⟩ := Outline.exists_of_mem_releases hr
  obtain ⟨group, hg, hc⟩ := List.mem_flatMap.1 hc
  obtain ⟨text, htext, rfl⟩ := Outline.exists_of_mem_groups hg hc
  obtain ⟨line, hline, hentry⟩ := List.mem_map.1 (hblock htext)
  have hwithin := Text.within_of_mem_split (by decide) hline
  exact ⟨text, (Line.within_of_classify hentry).trans hwithin, rfl⟩

/-! ## Numbers of an entry -/

namespace Reference

variable {s : Text} {n : UInt64}

theorem number?_ofLink (n : UInt64) (url : Text) : (ofLink n url).number? = some n := by
  unfold ofLink
  split <;> rfl

theorem exists_of_mem_links (h : n ∈ numbers (links s)) :
    ∃ before digits after, s = before ++ ('[' :: '#' :: digits ++ ']' :: after) ∧
      Text.number? digits = some n := by
  obtain ⟨reference, href, hn⟩ := mem_numbers.1 h
  obtain ⟨⟨⟨digits, url⟩, rest⟩, hfound, hnumber⟩ := List.mem_filterMap.1 href
  obtain ⟨m, hm, rfl⟩ := Option.map_eq_some_iff.1 hnumber
  obtain rfl : m = n := Option.some.inj ((number?_ofLink m url).symm.trans hn)
  obtain ⟨before, t, rfl, hread⟩ := begins_numberLink.exists_of_mem_all hfound
  obtain ⟨rfl, -⟩ := numberLink_eq_some.1 hread
  exact ⟨before, digits, '(' :: url ++ ')' :: rest, by simp, hm⟩

end Reference

namespace Coverage

variable {part content : Text} {n : UInt64}

/-- The numbers in brackets, and those in parentheses in front of no closing bracket. -/
theorem mem_ofChangelog_iff :
    n ∈ ofChangelog content ↔ ∃ digits, Text.number? digits = some n ∧
      ('[' :: '#' :: digits ++ [']'] <:+: content ∨
        Within ('(' :: '#' :: digits ++ [')']) content) := by
  rw [mem_ofChangelog, Reference.mem_bareNumbers_iff]
  constructor
  · intro h
    rcases h with ⟨before, digits, after, rfl, hn⟩ | ⟨before, digits, after, rfl, hn, hafter⟩
    · exact ⟨digits, hn, .inl ⟨before, after, by simp⟩⟩
    · exact ⟨digits, hn, .inr ⟨before, after, by simp, hafter⟩⟩
  · intro h
    obtain ⟨digits, hn, ⟨before, after, rfl⟩ | ⟨before, after, rfl, hafter⟩⟩ := h
    · exact .inl ⟨before, digits, after, by simp, hn⟩
    · exact .inr ⟨before, digits, after, by simp, hn, hafter⟩

theorem ofChangelog_subset_of_within (h : Within part content) :
    ofChangelog part ⊆ ofChangelog content := by
  intro n hn
  obtain ⟨digits, hnumber, hform⟩ := mem_ofChangelog_iff.1 hn
  exact mem_ofChangelog_iff.2 ⟨digits, hnumber, hform.imp (·.trans h.isInfix) (·.trans h)⟩

theorem mem_ofChangelog_of_within (hn : n ∈ Reference.numbers (Reference.extract part))
    (h : Within part content) : n ∈ ofChangelog content := by
  refine ofChangelog_subset_of_within h (mem_ofChangelog.2 ?_)
  exact (Reference.mem_numbers_extract.1 hn).imp Reference.exists_of_mem_links id

/--
**Coverage sees every reference that is read.** Each number of a pull request or an issue that a
change of the document refers to is among the numbers of its text.
-/
theorem mem_ofChangelog_ofText (rules : Rules) (content : Text) (n : UInt64)
    (h : (Changelog.ofText rules content).RefersTo n) : n ∈ ofChangelog content := by
  obtain ⟨release, hr, change, hc, reference, href, hn⟩ := h
  obtain ⟨text, hwithin, rfl⟩ := Changelog.exists_entry_within hr hc
  exact mem_ofChangelog_of_within (Reference.mem_numbers.2 ⟨reference, href, hn⟩) hwithin

/-- An entry with two links and a bare number at its end. -/
def readSample : Text :=
  "# Changelog\n\n## [1.0.0] - 2024-01-02\n\n### Added\n\n" ++
    "- Add search ([#12](https://x.org/pull/12), [#30](https://x.org/issues/30)) (#7)\n"

theorem mem_ofChangelog_readSample :
    ((Changelog.ofText Rules.default readSample).RefersTo 30 ∧ 30 ∈ ofChangelog readSample) ∧
      (Changelog.ofText Rules.default readSample).RefersTo 7 ∧ 7 ∈ ofChangelog readSample := by
  have hissue : (Changelog.ofText Rules.default readSample).RefersTo 30 := by decide +kernel
  have hbare : (Changelog.ofText Rules.default readSample).RefersTo 7 := by decide +kernel
  exact ⟨⟨hissue, mem_ofChangelog_ofText Rules.default readSample 30 hissue⟩,
    hbare, mem_ofChangelog_ofText Rules.default readSample 7 hbare⟩

end Coverage

end CommonChangelog
