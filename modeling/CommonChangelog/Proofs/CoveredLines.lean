import CommonChangelog.Proofs.CoverageSets
import CommonChangelog.Proofs.MovedSections
import CommonChangelog.Proofs.ReadNumbers

/-!
# Coverage reads a changelog line by line

Neither form in which a number is found contains a newline, and a newline is not the bracket that
must not follow. So a number is found in a text exactly if it is found in one of the lines, read
alone (`Coverage.mem_ofChangelog_iff_exists_line`). As the numbers found are a set, the order of
the lines does not matter, and all that sorting changes is that order.

Main result: `Coverage.ofChangelog_sortReleases`.
-/

namespace CommonChangelog

namespace Text

variable {sep : Char} {part s t : Text}

theorem Within.of_append_sep (hpart : sep ∉ part) (h : Within part (s ++ sep :: t)) :
    Within part s ∨ Within part t := by
  obtain ⟨before, after, heq, hafter⟩ := h
  rw [List.append_assoc] at heq
  rcases List.suffix_or_suffix_of_suffix ⟨before, heq.symm⟩ (List.suffix_append s (sep :: t))
    with h | ⟨u, hu⟩
  · rcases List.suffix_cons_iff.1 h with h | ⟨w, hw⟩
    · -- The part cannot begin with the separator, so there is nothing in it.
      cases part with
      | nil => exact .inl ⟨s, [], by simp, by simp⟩
      | cons c part => exact absurd ((List.cons.inj h).1 ▸ List.mem_cons_self) hpart
    · exact .inr ⟨w, after, by rw [List.append_assoc, hw], hafter⟩
  · -- The part ends before the separator, which begins what is behind the part, or comes later.
    rw [← hu, ← List.append_assoc, List.append_cancel_right_eq] at heq
    have hbegins : part <+: u := by
      rw [← startsWith_iff, ← startsWith_append_sep hpart u t, startsWith_iff, hu]
      exact List.prefix_append part after
    obtain ⟨v, rfl⟩ := hbegins
    rw [List.append_assoc, List.append_cancel_left_eq] at hu
    refine .inl ⟨before, v, by rw [heq, List.append_assoc], ?_⟩
    cases v with
    | nil => simp
    | cons c v =>
      rw [← hu] at hafter
      exact hafter

/-- What a text put together can only have from one of its parts it has from one of its pieces. -/
theorem exists_mem_split {P : Text → Prop} (hP : ∀ s t, P (s ++ sep :: t) → P s ∨ P t)
    (h : P s) : ∃ piece ∈ split sep s, P piece := by
  suffices hpieces : ∀ pieces, pieces ≠ [] → P (join [sep] pieces) → ∃ piece ∈ pieces, P piece from
    hpieces _ (split_ne_nil sep s) (by rwa [join_split])
  intro pieces hne hjoin
  induction pieces with
  | nil => exact absurd rfl hne
  | cons p ps ih =>
    cases ps with
    | nil => exact ⟨p, List.mem_cons_self, join_singleton p ▸ hjoin⟩
    | cons q qs =>
      rw [join_cons_cons] at hjoin
      rcases hP _ _ hjoin with hp | hjoin
      · exact ⟨p, List.mem_cons_self, hp⟩
      · obtain ⟨piece, hmem, hpiece⟩ := ih (List.cons_ne_nil q qs) hjoin
        exact ⟨piece, List.mem_cons_of_mem p hmem, hpiece⟩

end Text

namespace Coverage

variable {n : UInt64} {content other : Text}

theorem mem_ofChangelog_of_append_newline {s t : Text} (h : n ∈ ofChangelog (s ++ '\n' :: t)) :
    n ∈ ofChangelog s ∨ n ∈ ofChangelog t := by
  obtain ⟨digits, hn, hform⟩ := mem_ofChangelog_iff.1 h
  have hdigits : '\n' ∉ digits :=
    Text.not_mem_of_isDigit (by decide) (Text.isDigit_of_number? hn).2
  rw [mem_ofChangelog_iff, mem_ofChangelog_iff]
  rcases hform with hform | hform
  · have hnewline : '\n' ∉ '[' :: '#' :: digits ++ [']'] := by simp [hdigits]
    exact (Text.infix_append_sep hnewline hform).imp (fun h => ⟨digits, hn, .inl h⟩)
      fun h => ⟨digits, hn, .inl h⟩
  · have hnewline : '\n' ∉ '(' :: '#' :: digits ++ [')'] := by simp [hdigits]
    exact (hform.of_append_sep hnewline).imp (fun h => ⟨digits, hn, .inr h⟩)
      fun h => ⟨digits, hn, .inr h⟩

/-- **The numbers of a text are those of its lines.** -/
theorem mem_ofChangelog_iff_exists_line :
    n ∈ ofChangelog content ↔ ∃ line ∈ Text.split '\n' content, n ∈ ofChangelog line := by
  constructor
  · exact Text.exists_mem_split (P := fun s => n ∈ ofChangelog s)
      fun _ _ => mem_ofChangelog_of_append_newline
  · intro h
    obtain ⟨line, hline, hn⟩ := h
    exact ofChangelog_subset_of_within (Text.within_of_mem_split (by decide) hline) hn

theorem ofChangelog_congr
    (h : ∀ line, line ∈ Text.split '\n' other ↔ line ∈ Text.split '\n' content) :
    ofChangelog other = ofChangelog content := by
  refine (rising_ofChangelog other).eq_of_mem_iff (rising_ofChangelog content) fun n => ?_
  have hlines : ∀ s, n ∈ ofChangelog s ↔ ∃ line ∈ Text.split '\n' s, n ∈ ofChangelog line :=
    fun _ => mem_ofChangelog_iff_exists_line
  rw [hlines other, hlines content]
  exact exists_congr fun line => and_congr_left fun _ => h line

/--
**Sorting does not change what is covered.** The sorted text has the numbers of the text, and so
has every text whose lines are those of the text in any order.
-/
theorem ofChangelog_sortReleases (content : Text) :
    ofChangelog (sortReleases content) = ofChangelog content ∧
    ∀ other, (Text.split '\n' other).Perm (Text.split '\n' content) →
      ofChangelog other = ofChangelog content := by
  have hperm : ∀ other, (Text.split '\n' other).Perm (Text.split '\n' content) →
      ofChangelog other = ofChangelog content := fun _ h => ofChangelog_congr fun _ => h.mem_iff
  have hcuts := Section.cuts_cut (Text.split '\n' content)
  refine ⟨hperm _ ?_, hperm⟩
  exact (Section.cuts_sortReleases hcuts).lines_perm hcuts (Section.arrange_perm _)

end Coverage

end CommonChangelog
