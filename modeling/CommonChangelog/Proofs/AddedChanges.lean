import CommonChangelog.Document.Basic

/-!
# Adding changes

A change goes to the end of the first group of its category. The group is there, since it is
inserted if the release has none, and no other group is touched. So a release has the changes it
had and those that were added, each as often as before and as added. A group is inserted before
the first one that belongs behind it, so groups in canonical order stay so.

Main results: `Release.addAll_changes` and `Release.Ordered.add`.
-/

namespace CommonChangelog

namespace Group

variable {category : Category} {groups : List Group}

theorem any_category : groups.any (·.category = category) ↔
    category ∈ groups.map (·.category) := by
  rw [List.any_eq_true, List.mem_map]
  simp only [decide_eq_true_eq]

theorem ensure_of_mem (h : category ∈ groups.map (·.category)) :
    ensure category groups = groups := if_pos (any_category.2 h)

theorem ensure_of_not_mem (h : category ∉ groups.map (·.category)) :
    ensure category groups = groups.takeWhile (·.category ≤ category) ++
      empty category :: groups.dropWhile (·.category ≤ category) :=
  if_neg (mt any_category.1 h)

theorem flatMap_ensure (category : Category) (groups : List Group) :
    (ensure category groups).flatMap (·.changes) = groups.flatMap (·.changes) := by
  by_cases h : category ∈ groups.map (·.category)
  · rw [ensure_of_mem h]
  · rw [ensure_of_not_mem h, List.flatMap_append, List.flatMap_cons, empty, List.nil_append,
      ← List.flatMap_append, List.takeWhile_append_dropWhile]

theorem exists_mem_ensure (category : Category) (groups : List Group) :
    ∃ group ∈ ensure category groups, group.category = category := by
  by_cases h : category ∈ groups.map (·.category)
  · rw [ensure_of_mem h]
    exact List.mem_map.1 h
  · rw [ensure_of_not_mem h]
    exact ⟨empty category, List.mem_append_right _ List.mem_cons_self, rfl⟩

theorem flatMap_editFirst {change : Change} (h : ∃ group ∈ groups, group.category = category) :
    ((editFirst category (· ++ [change]) groups).flatMap (·.changes)).Perm
      (groups.flatMap (·.changes) ++ [change]) := by
  induction groups with
  | nil =>
    obtain ⟨group, hmem, -⟩ := h
    exact absurd hmem List.not_mem_nil
  | cons group groups ih =>
    by_cases hc : group.category = category
    · rw [editFirst, if_pos hc, List.flatMap_cons, List.flatMap_cons, List.append_assoc,
        List.append_assoc]
      exact List.perm_append_comm.append_left group.changes
    · have hrest : ∃ group ∈ groups, group.category = category := by
        obtain ⟨other, hmem, heq⟩ := h
        rcases List.mem_cons.1 hmem with rfl | hmem
        · exact absurd heq hc
        · exact ⟨other, hmem, heq⟩
      rw [editFirst, if_neg hc, List.flatMap_cons, List.flatMap_cons, List.append_assoc]
      exact (ih hrest).append_left group.changes

end Group

namespace Release

theorem add_changes (release : Release) (category : Category) (change : Change) :
    (release.add category change).changes.Perm (release.changes ++ [change]) := by
  have hedit : (release.add category change).changes.Perm
      ((Group.ensure category release.groups).flatMap (·.changes) ++ [change]) :=
    Group.flatMap_editFirst (Group.exists_mem_ensure category release.groups)
  rw [Group.flatMap_ensure] at hedit
  exact hedit

/-- **Every change that is added is there, and none is lost.** -/
theorem addAll_changes (release : Release) (entries : List (Category × Change)) :
    (release.addAll entries).changes.Perm (release.changes ++ entries.map (·.2)) := by
  induction entries generalizing release with
  | nil =>
    rw [List.map_nil, List.append_nil]
    exact .refl _
  | cons entry entries ih =>
    have hadd := (add_changes release entry.1 entry.2).append_right (entries.map (·.2))
    rw [List.append_assoc] at hadd
    exact (ih (release.add entry.1 entry.2)).trans hadd

theorem exists_addAll_eq (release : Release) (entries : List (Category × Change)) :
    ∃ groups, release.addAll entries = { release with groups } := by
  induction entries generalizing release with
  | nil => exact ⟨release.groups, rfl⟩
  | cons entry entries ih =>
    obtain ⟨groups, hgroups⟩ := ih (release.add entry.1 entry.2)
    exact ⟨groups, hgroups⟩

end Release

/-! ## The order of the groups -/

namespace Category

theorem le_trans {a b c : Category} (hab : a ≤ b) (hbc : b ≤ c) : a ≤ c := Nat.le_trans hab hbc

theorem le_of_not_le {a b : Category} (h : ¬a ≤ b) : b ≤ a := Nat.le_of_not_le h

end Category

/-- The groups stand in canonical order. -/
def Release.Ordered (release : Release) : Prop :=
  release.groups.Pairwise fun a b => a.category ≤ b.category

namespace Group

variable {category : Category} {groups : List Group}

/-- No group in front of the first one that belongs behind the category does. -/
theorem le_of_mem_takeWhile {group : Group}
    (h : group ∈ groups.takeWhile (·.category ≤ category)) : group.category ≤ category :=
  of_decide_eq_true (List.all_eq_true.1 List.all_takeWhile group h)

/-- The groups from the first one that belongs behind the category all do. -/
theorem le_of_mem_dropWhile (h : groups.Pairwise fun a b => a.category ≤ b.category) :
    ∀ group ∈ groups.dropWhile (·.category ≤ category), category ≤ group.category := by
  induction groups with
  | nil => exact fun group hmem => absurd hmem List.not_mem_nil
  | cons first groups ih =>
    rw [List.pairwise_cons] at h
    by_cases hc : first.category ≤ category
    · rw [List.dropWhile_cons_of_pos (by simpa using hc)]
      exact ih h.2
    · rw [List.dropWhile_cons_of_neg (by simpa using hc), List.forall_mem_cons]
      have hfirst := Category.le_of_not_le hc
      exact ⟨hfirst, fun group hmem => Category.le_trans hfirst (h.1 group hmem)⟩

theorem pairwise_ensure (h : groups.Pairwise fun a b => a.category ≤ b.category) :
    (ensure category groups).Pairwise fun a b => a.category ≤ b.category := by
  by_cases hmem : category ∈ groups.map (·.category)
  · rwa [ensure_of_mem hmem]
  · have hafter : ∀ group ∈ groups.dropWhile (·.category ≤ category), category ≤ group.category :=
      le_of_mem_dropWhile h
    rw [ensure_of_not_mem hmem, List.pairwise_append, List.pairwise_cons]
    refine ⟨h.sublist (List.takeWhile_sublist _), ⟨hafter, h.sublist (List.dropWhile_sublist _)⟩,
      fun a ha b hb => ?_⟩
    rcases List.mem_cons.1 hb with rfl | hb
    · exact le_of_mem_takeWhile ha
    · exact Category.le_trans (le_of_mem_takeWhile ha) (hafter b hb)

theorem map_category_editFirst (f : List Change → List Change) :
    (editFirst category f groups).map (·.category) = groups.map (·.category) := by
  induction groups with
  | nil => rfl
  | cons group groups ih =>
    rw [editFirst]
    split
    · rfl
    · rw [List.map_cons, ih, List.map_cons]

end Group

namespace Release

theorem ordered_iff {release : Release} :
    release.Ordered ↔ (release.groups.map (·.category)).Pairwise (· ≤ ·) :=
  List.pairwise_map.symm

/-- **Groups in canonical order stay so.** -/
theorem Ordered.add {release : Release} (h : release.Ordered) (category : Category)
    (change : Change) : (release.add category change).Ordered := by
  have hgroups : (release.add category change).groups.map (·.category) =
      (Group.ensure category release.groups).map (·.category) := Group.map_category_editFirst _
  rw [ordered_iff, hgroups]
  exact List.pairwise_map.2 (Group.pairwise_ensure h)

end Release

end CommonChangelog
