/-!
# Stable sorting

What it means that a list is another one sorted stably by a comparison. If the comparison is
transitive each list has one stable sort, and merge sort gives it (`stableSort_iff`). Removing
duplicates afterwards keeps the order and leaves different elements (`pairwise_eraseDups`).
-/

namespace CommonChangelog

open Std

variable {α : Type}

/-- The second list is the first one in order, and elements of equal rank keep their order. -/
structure StableSort (cmp : α → α → Ordering) (xs ys : List α) : Prop where
  perm : ys.Perm xs
  ordered : ys.Pairwise fun a b => cmp a b ≠ .gt
  stable : ∀ a, ys.filter (fun b => cmp a b = .eq) = xs.filter (fun b => cmp a b = .eq)

/-- Moving the elements of one kind to the front and sorting the others loses none. -/
theorem filter_append_mergeSort_perm (p : α → Bool) (le : α → α → Bool) (xs : List α) :
    (xs.filter p ++ (xs.filter (!p ·)).mergeSort le).Perm xs :=
  ((List.mergeSort_perm _ le).append_left _).trans (List.filter_append_perm p xs)

/-- Of elements arranged in this way those that are not of the kind are the sorted ones. -/
theorem filter_not_filter_append_mergeSort (p : α → Bool) (le : α → α → Bool) (xs : List α) :
    (xs.filter p ++ (xs.filter (!p ·)).mergeSort le).filter (!p ·) =
      (xs.filter (!p ·)).mergeSort le := by
  have hnil : (xs.filter p).filter (!p ·) = [] := by
    rw [List.filter_filter, List.filter_eq_nil_iff]
    intro a _
    cases p a <;> decide
  have hall : ∀ a ∈ (xs.filter (!p ·)).mergeSort le, !p a := fun a ha =>
    (List.mem_filter.1 (List.mem_mergeSort.1 ha)).2
  rw [List.filter_append, hnil, List.nil_append, List.filter_eq_self.2 hall]

section

variable {cmp : α → α → Ordering} [TransCmp cmp]

theorem isLE_total (a b : α) : (cmp a b).isLE || (cmp b a).isLE := by
  have hswap : cmp b a = (cmp a b).swap := OrientedCmp.eq_swap
  rw [hswap]
  cases cmp a b <;> rfl

theorem transCmp_comap {β : Type} (key : β → α) : TransCmp fun a b => cmp (key a) (key b) where
  eq_swap := OrientedCmp.eq_swap
  isLE_trans := TransCmp.isLE_trans

/-- Elements that rank equal to one element may stand in any order. -/
theorem pairwise_filter_eq (xs : List α) (a : α) :
    (xs.filter fun b => cmp a b = .eq).Pairwise fun b c => (cmp b c).isLE := by
  refine List.pairwise_of_forall_mem_list fun b hb c hc => ?_
  have hab : cmp a b = .eq := by simpa using (List.mem_filter.1 hb).2
  have hac : cmp a c = .eq := by simpa using (List.mem_filter.1 hc).2
  rw [TransCmp.eq_trans (OrientedCmp.eq_symm hab) hac]
  rfl

/-- **Merge sort is stable.** -/
theorem stableSort_mergeSort (xs : List α) :
    StableSort cmp xs (xs.mergeSort fun a b => (cmp a b).isLE) where
  perm := List.mergeSort_perm xs _
  ordered := by
    refine (List.pairwise_mergeSort (fun a b c => TransCmp.isLE_trans) isLE_total xs).imp ?_
    intro a b hab
    exact Ordering.isLE_iff_ne_gt.1 hab
  stable a := by
    have hsub : (xs.filter fun b => cmp a b = .eq).Sublist
        (xs.mergeSort fun a b => (cmp a b).isLE) :=
      List.sublist_mergeSort (fun a b c => TransCmp.isLE_trans) isLE_total
        (pairwise_filter_eq xs a) List.filter_sublist
    have hfilter := hsub.filter fun b => decide (cmp a b = .eq)
    rw [List.filter_filter] at hfilter
    simp only [Bool.and_self] at hfilter
    refine (hfilter.eq_of_length ?_).symm
    exact ((List.mergeSort_perm xs _).filter _).length_eq.symm

/-- The first element of a list in order ranks behind none of them. -/
theorem isLE_of_ordered {a b : α} {xs : List α}
    (h : (a :: xs).Pairwise fun a b => cmp a b ≠ .gt) (hb : b ∈ a :: xs) : (cmp a b).isLE := by
  rcases List.mem_cons.1 hb with rfl | hb
  · exact ReflCmp.isLE_rfl
  · exact Ordering.isLE_iff_ne_gt.2 (List.rel_of_pairwise_cons h hb)

/-- Lists in order that have the same elements of each rank, in the same order, are equal. -/
theorem eq_of_ordered {ys zs : List α} (hperm : ys.Perm zs)
    (hys : ys.Pairwise fun a b => cmp a b ≠ .gt) (hzs : zs.Pairwise fun a b => cmp a b ≠ .gt)
    (hranks : ∀ a, ys.filter (fun b => cmp a b = .eq) = zs.filter (fun b => cmp a b = .eq)) :
    ys = zs := by
  induction ys generalizing zs with
  | nil => exact hperm.nil_eq
  | cons y ys ih =>
    cases zs with
    | nil => exact hperm.eq_nil
    | cons z zs =>
      have hyz : cmp y z = .eq := by
        refine OrientedCmp.isLE_antisymm (isLE_of_ordered hys ?_) (isLE_of_ordered hzs ?_)
        · exact hperm.mem_iff.2 List.mem_cons_self
        · exact hperm.mem_iff.1 List.mem_cons_self
      have hyy : cmp y y = .eq := ReflCmp.compare_self
      obtain rfl : y = z := by
        have hheads := hranks y
        rw [List.filter_cons, List.filter_cons, if_pos (decide_eq_true hyy),
          if_pos (decide_eq_true hyz)] at hheads
        exact List.head_eq_of_cons_eq hheads
      have htails : ∀ a, ys.filter (fun b => cmp a b = .eq) =
          zs.filter (fun b => cmp a b = .eq) := by
        intro a
        have h := hranks a
        rw [List.filter_cons, List.filter_cons] at h
        split at h
        · exact List.tail_eq_of_cons_eq h
        · exact h
      rw [ih hperm.cons_inv hys.of_cons hzs.of_cons htails]

/-- **A list has one stable sort.** -/
theorem stableSort_iff {xs ys : List α} :
    StableSort cmp xs ys ↔ ys = xs.mergeSort fun a b => (cmp a b).isLE := by
  have hsort : StableSort cmp xs (xs.mergeSort fun a b => (cmp a b).isLE) :=
    stableSort_mergeSort xs
  constructor
  · intro h
    refine eq_of_ordered (h.perm.trans hsort.perm.symm) h.ordered hsort.ordered fun a => ?_
    rw [h.stable a, hsort.stable a]
  · rintro rfl
    exact hsort

end

/-- Leaving elements out of a stable sort sorts those that are left, stably. -/
theorem StableSort.filter {cmp : α → α → Ordering} {xs ys : List α} (h : StableSort cmp xs ys)
    (p : α → Bool) : StableSort cmp (xs.filter p) (ys.filter p) where
  perm := h.perm.filter p
  ordered := h.ordered.filter p
  stable a := by
    have hswap : ∀ zs : List α, (zs.filter p).filter (fun b => cmp a b = .eq) =
        (zs.filter fun b => cmp a b = .eq).filter p := fun zs => by
      simp only [List.filter_filter, Bool.and_comm]
    rw [hswap, h.stable a, hswap]

/-- A list is its own stable sort exactly if it is in order. -/
theorem stableSort_self_iff {cmp : α → α → Ordering} {xs : List α} :
    StableSort cmp xs xs ↔ xs.Pairwise fun a b => cmp a b ≠ .gt :=
  ⟨StableSort.ordered, fun h => ⟨.refl xs, h, fun _ => rfl⟩⟩

/-- If all elements of a kind come first, the list is cut into these and the others. -/
theorem eq_filter_append_filter {p : α → Bool} {xs : List α}
    (h : xs.Pairwise fun a b => p b → p a) : xs = xs.filter p ++ xs.filter (!p ·) := by
  induction xs with
  | nil => rfl
  | cons a xs ih =>
    rw [List.pairwise_cons] at h
    by_cases ha : p a
    · rw [List.filter_cons_of_pos ha, List.filter_cons_of_neg (by simp [ha]), List.cons_append,
        ← ih h.2]
    · have hnone : ∀ b ∈ xs, ¬p b := fun b hb hpb => ha (h.1 b hb hpb)
      have hall : ∀ b ∈ a :: xs, !p b := by simpa [ha] using hnone
      rw [List.filter_cons_of_neg ha, List.filter_eq_nil_iff.2 hnone, List.filter_eq_self.2 hall,
        List.nil_append]

/-- What is left without duplicates is in the order it had, and different. -/
theorem pairwise_eraseDups [BEq α] [LawfulBEq α] {r : α → α → Prop} {xs : List α}
    (h : xs.Pairwise r) : xs.eraseDups.Pairwise fun a b => r a b ∧ a ≠ b := by
  induction hlength : xs.length using Nat.strongRecOn generalizing xs with
  | _ length ih =>
    cases xs with
    | nil => exact List.Pairwise.nil
    | cons a rest =>
      rw [List.pairwise_cons] at h
      have hshorter : (rest.filter fun b => !b == a).length < length :=
        hlength ▸ Nat.lt_succ_of_le (List.length_filter_le _ rest)
      rw [List.eraseDups_cons, List.pairwise_cons]
      refine ⟨fun b hb => ?_, ih _ hshorter (h.2.filter _) rfl⟩
      rw [List.mem_eraseDups, List.mem_filter] at hb
      exact ⟨h.1 b hb.1, fun heq => by simp [heq] at hb⟩

end CommonChangelog
