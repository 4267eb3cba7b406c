import CommonChangelog.Proofs.VersionOrder

/-!
# Sorted labels

Labels are totally preordered, so they have one stable sort, and `Version.sortLabels` gives it. Two
labels that are no versions rank equal, and every version ranks before them: hence they stand at the
end, as they stood. The order check compares neighbours only. As ranks are transitive it passes
exactly if no label is newer than an earlier one, that is, if sorting changes nothing.

Main result: `Version.sortLabels_stable`.
-/

namespace CommonChangelog.Version

open Std

theorem sortLabels_eq (labels : List Text) :
    sortLabels labels = labels.mergeSort fun a b => (newestFirst a b).isLE := rfl

/-- **The sorted labels are the stable sort of the labels.** -/
theorem stableSort_iff_sortLabels {labels sorted : List Text} :
    StableSort newestFirst labels sorted ↔ sorted = sortLabels labels := by
  rw [sortLabels_eq, stableSort_iff]

theorem labelsSorted_iff_sortLabels (labels : List Text) :
    labelsSorted labels ↔ sortLabels labels = labels := by
  have hordered : labelsSorted labels ↔ StableSort newestFirst labels labels := by
    rw [labelsSorted_iff, stableSort_self_iff]
    simp only [mayPrecede, Ordering.isLE_iff_ne_gt]
  rw [hordered, stableSort_iff_sortLabels, eq_comm]

theorem labelsSorted_sortLabels (labels : List Text) : labelsSorted (sortLabels labels) := by
  have hstable : StableSort newestFirst labels (sortLabels labels) :=
    stableSort_iff_sortLabels.2 rfl
  rw [labelsSorted_iff]
  exact hstable.ordered.imp Ordering.isLE_iff_ne_gt.2

/-! ## Labels that are no versions -/

/-- Labels that are no versions rank equal to each other and to nothing else. -/
theorem newestFirst_eq_eq_of_not_isVersion {a : Text} (ha : isVersion a = false) (b : Text) :
    newestFirst a b = .eq ↔ isVersion b = false := by
  have hnone : read? a = none := by simpa [isVersion] using ha
  rw [newestFirst, hnone, isVersion]
  cases read? b <;> simp

theorem isVersion_of_newestFirst {a b : Text} (h : newestFirst a b ≠ .gt) (hb : isVersion b) :
    isVersion a := by
  unfold newestFirst at h
  unfold isVersion at hb ⊢
  cases ha : read? a with
  | some v => rfl
  | none =>
    obtain ⟨w, hw⟩ := Option.isSome_iff_exists.1 hb
    rw [ha, hw] at h
    exact absurd rfl h

/-- The labels that are no versions stand at the end, as they stood. -/
theorem sortLabels_eq_append (labels : List Text) :
    sortLabels labels =
      (sortLabels labels).filter isVersion ++ labels.filter (!isVersion ·) := by
  have hstable : StableSort newestFirst labels (sortLabels labels) :=
    stableSort_iff_sortLabels.2 rfl
  have hcut := eq_filter_append_filter (hstable.ordered.imp isVersion_of_newestFirst)
  -- The empty text is no version, so its rank is that of all labels that are none.
  have hrank := hstable.stable []
  have hempty : (fun b => decide (newestFirst [] b = .eq)) = fun b => !isVersion b := by
    funext b
    rw [Bool.eq_iff_iff, decide_eq_true_eq, newestFirst_eq_eq_of_not_isVersion (by decide),
      Bool.not_eq_true']
  rw [hempty] at hrank
  rw [← hrank]
  exact hcut

/--
**Sorting labels is stable and puts the newest first.** The sorted labels are the only list that has
the labels of the given one, none newer than an earlier one, and those of equal rank in the order
they had. All that are no versions stand at the end. The order check passes exactly if sorting
changes nothing, and exactly if no label is newer than any earlier one; sorting again changes
nothing.
-/
theorem sortLabels_stable (labels : List Text) :
    (∀ sorted, StableSort newestFirst labels sorted ↔ sorted = sortLabels labels) ∧
    (∃ versions, (∀ label ∈ versions, isVersion label) ∧
      sortLabels labels = versions ++ labels.filter (!isVersion ·)) ∧
    (labelsSorted labels ↔ sortLabels labels = labels) ∧
    (labelsSorted labels ↔
      ∀ (i j : Nat) (_ : i < labels.length) (_ : j < labels.length), i < j →
        newestFirst labels[i] labels[j] ≠ .gt) ∧
    sortLabels (sortLabels labels) = sortLabels labels := by
  refine ⟨fun _ => stableSort_iff_sortLabels, ?_, labelsSorted_iff_sortLabels labels, ?_, ?_⟩
  · refine ⟨(sortLabels labels).filter isVersion, fun label hl => ?_, sortLabels_eq_append labels⟩
    exact (List.mem_filter.1 hl).2
  · rw [labelsSorted_iff, List.pairwise_iff_getElem]
    simp only [mayPrecede, Ordering.isLE_iff_ne_gt]
  · exact (labelsSorted_iff_sortLabels _).1 (labelsSorted_sortLabels labels)

end CommonChangelog.Version
