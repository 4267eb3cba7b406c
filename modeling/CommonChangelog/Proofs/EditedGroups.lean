import CommonChangelog.Proofs.GroupedChanges
import Mathlib.Data.List.Induction
import Mathlib.Logic.Function.Basic

/-!
# Editing groups

Whoever asks a release for the group of a category gets its first group of that category. If there
is none, an empty one is put in front of the first group that belongs behind it, and is the one to
get (`Group.Opens`). The changes of the group may then be edited in any way.

Nothing of this needs the groups to be in order: a document may repeat groups and write them in any
order. So a run of edits comes apart in two passes over whatever groups there are
(`Release.groups_editAll`). First the missing groups are put in, all of them empty, which moves no
group and changes none. Then the first group of each category gets the edits of its category, one
after the other. Order matters only where it is asked for: what is put in neither disturbs the
canonical order, nor the strict one, nor makes it.

Main result: `Release.editAll_frame`.
-/

namespace CommonChangelog

theorem filter_eq_nil_of_not_mem_map {α β : Type} [DecidableEq β] {f : α → β} {xs : List α}
    {b : β} (h : b ∉ xs.map f) : xs.filter (f · = b) = [] :=
  List.filter_eq_nil_iff.2 fun _ hx heq => h (of_decide_eq_true heq ▸ List.mem_map_of_mem hx)

namespace Group

/-- The group of a category is asked for, and its changes are edited. -/
structure Edit where
  category : Category
  change : List Change → List Change

/-- What a run of edits does to the changes of a category: its own edits, one after the other. -/
def Edit.net (edits : List Edit) (category : Category) (changes : List Change) : List Change :=
  (edits.filter (·.category = category)).foldl (fun changes edit => edit.change changes) changes

/-- The groups with one for each of these categories. -/
def ensureAll (categories : List Category) (groups : List Group) : List Group :=
  categories.foldl (fun groups category => ensure category groups) groups

/-- Edits the changes of the first group of every category, and no other group. -/
def editFirsts (change : Category → List Change → List Change) : List Group → List Group
  | [] => []
  | group :: groups =>
    { group with changes := change group.category group.changes } ::
      editFirsts (Function.update change group.category id) groups

/--
Where the group of a category is found among the groups, or where it is put: the groups in front of
it, the group itself and the groups behind it.
-/
inductive Opens (category : Category) : List Group → List Group → Group → List Group → Prop
  | existing {front back : List Group} {group : Group} (hcategory : group.category = category)
      (hfront : ∀ g ∈ front, g.category ≠ category) :
      Opens category (front ++ group :: back) front group back
  | created {front back : List Group} (hnone : ∀ g ∈ front ++ back, g.category ≠ category)
      (hfront : ∀ g ∈ front, g.category < category)
      (hback : ∀ g ∈ back.head?, category < g.category) :
      Opens category (front ++ back) front (empty category) back

end Group

namespace Release

/-- A run of edits. -/
def editAll (release : Release) (edits : List Group.Edit) : Release :=
  edits.foldl (fun release edit => release.edit edit.category edit.change) release

theorem editAll_concat (release : Release) (edits : List Group.Edit) (edit : Group.Edit) :
    release.editAll (edits ++ [edit]) =
      (release.editAll edits).edit edit.category edit.change := by
  rw [editAll, List.foldl_append]
  rfl

theorem editAll_eq (release : Release) (edits : List Group.Edit) :
    release.editAll edits = { release with groups := (release.editAll edits).groups } := by
  induction edits generalizing release with
  | nil => rfl
  | cons edit edits ih => exact ih (release.edit edit.category edit.change)

end Release

namespace Group

variable {category : Category} {group : Group} {groups : List Group}

/-! ## One edit -/

theorem editFirst_append {front back : List Group} {change : List Change → List Change}
    (hcategory : group.category = category) (hfront : ∀ g ∈ front, g.category ≠ category) :
    editFirst category change (front ++ group :: back) =
      front ++ { group with changes := change group.changes } :: back := by
  induction front with
  | nil => exact if_pos hcategory
  | cons first front ih =>
    obtain ⟨hfirst, hfront⟩ := List.forall_mem_cons.1 hfront
    rw [List.cons_append, editFirst, if_neg hfirst, ih hfront, List.cons_append]

theorem Opens.first {front back : List Group} (h : Opens category groups front group back) :
    group.category = category ∧ ∀ g ∈ front, g.category ≠ category := by
  cases h with
  | existing hcategory hfront => exact ⟨hcategory, hfront⟩
  | created hnone => exact ⟨rfl, fun g hg => hnone g (List.mem_append_left _ hg)⟩

/-- A missing group is put in front of the first one that belongs behind it. -/
theorem opens_of_not_mem (h : category ∉ groups.map (·.category)) :
    Opens category groups (groups.takeWhile (·.category ≤ category)) (empty category)
      (groups.dropWhile (·.category ≤ category)) := by
  have hnone : ∀ g ∈ groups, g.category ≠ category :=
    fun g hg heq => h (heq ▸ List.mem_map_of_mem hg)
  have hopens : Opens category (groups.takeWhile (·.category ≤ category) ++
      groups.dropWhile (·.category ≤ category)) (groups.takeWhile (·.category ≤ category))
      (empty category) (groups.dropWhile (·.category ≤ category)) := by
    refine .created ?_ (fun g hg => ?_) fun g hg => ?_
    · rwa [List.takeWhile_append_dropWhile]
    · exact Category.lt_of_le_of_ne (le_of_mem_takeWhile hg)
        (hnone g (List.takeWhile_subset _ hg))
    · have hhead := List.head?_dropWhile_not (·.category ≤ category) groups
      rw [hg] at hhead
      exact Nat.lt_of_not_le (of_decide_eq_false hhead)
  rwa [List.takeWhile_append_dropWhile] at hopens

theorem exists_opens (category : Category) (groups : List Group) :
    ∃ front group back, Opens category groups front group back ∧
      ensure category groups = front ++ group :: back := by
  by_cases hmem : category ∈ groups.map (·.category)
  · rw [ensure_of_mem hmem]
    obtain ⟨group, hgroup⟩ := Option.isSome_iff_exists.1
      (List.find?_isSome.2 (List.any_eq_true.1 (any_category.2 hmem)))
    obtain ⟨hcategory, front, back, rfl, hfront⟩ := List.find?_eq_some_iff_append.1 hgroup
    exact ⟨front, group, back,
      .existing (of_decide_eq_true hcategory) (by simpa using hfront), rfl⟩
  · exact ⟨_, _, _, opens_of_not_mem hmem, ensure_of_not_mem hmem⟩

end Group

namespace Release

/-- **The group of a category is found, or put where it belongs, and no other group is edited.** -/
theorem exists_opens_edit (release : Release) (category : Category) :
    ∃ front group back, Group.Opens category release.groups front group back ∧
      ∀ change, release.edit category change =
        { release with
          groups := front ++ { group with changes := change group.changes } :: back } := by
  obtain ⟨front, group, back, hopens, hensure⟩ := Group.exists_opens category release.groups
  obtain ⟨hcategory, hfront⟩ := hopens.first
  refine ⟨front, group, back, hopens, fun change => ?_⟩
  rw [edit, hensure, Group.editFirst_append hcategory hfront]

end Release

namespace Group

variable {category : Category} {group : Group} {groups : List Group}

/-! ## Putting groups in -/

theorem ensure_perm (h : category ∉ groups.map (·.category)) :
    (ensure category groups).Perm (empty category :: groups) := by
  rw [ensure_of_not_mem h]
  refine List.perm_middle.trans (.cons _ ?_)
  rw [List.takeWhile_append_dropWhile]

theorem mem_categories_ensure {other : Category} :
    other ∈ (ensure category groups).map (·.category) ↔
      other = category ∨ other ∈ groups.map (·.category) := by
  by_cases h : category ∈ groups.map (·.category)
  · rw [ensure_of_mem h, or_iff_right_of_imp fun heq => heq ▸ h]
  · rw [((ensure_perm h).map (·.category)).mem_iff, List.map_cons, List.mem_cons, empty]

theorem nodup_ensure (h : (groups.map (·.category)).Nodup) :
    ((ensure category groups).map (·.category)).Nodup := by
  by_cases hmem : category ∈ groups.map (·.category)
  · rwa [ensure_of_mem hmem]
  · rw [((ensure_perm hmem).map (·.category)).nodup_iff, List.map_cons, List.nodup_cons]
    exact ⟨hmem, h⟩

/-- Groups among which no group is put in stay as they are, in their order. -/
theorem filter_ensure {p : Group → Bool}
    (h : category ∉ groups.map (·.category) → p (empty category) = false) :
    (ensure category groups).filter p = groups.filter p := by
  by_cases hmem : category ∈ groups.map (·.category)
  · rw [ensure_of_mem hmem]
  · rw [ensure_of_not_mem hmem, List.filter_append,
      List.filter_cons_of_neg (by simp [h hmem]), ← List.filter_append,
      List.takeWhile_append_dropWhile]

variable {categories : List Category}

theorem ensureAll_cons (first : Category) (categories : List Category) (groups : List Group) :
    ensureAll (first :: categories) groups = ensureAll categories (ensure first groups) := rfl

theorem ensureAll_concat (categories : List Category) (last : Category) (groups : List Group) :
    ensureAll (categories ++ [last]) groups = ensure last (ensureAll categories groups) :=
  List.foldl_append

theorem mem_categories_ensureAll : category ∈ (ensureAll categories groups).map (·.category) ↔
    category ∈ categories ∨ category ∈ groups.map (·.category) := by
  induction categories generalizing groups with
  | nil => simp [ensureAll]
  | cons first categories ih =>
    rw [ensureAll_cons, ih, mem_categories_ensure, List.mem_cons,
      or_left_comm, or_assoc]

theorem filter_ensureAll {p : Group → Bool}
    (h : ∀ category ∈ categories, category ∉ groups.map (·.category) →
      p (empty category) = false) :
    (ensureAll categories groups).filter p = groups.filter p := by
  induction categories generalizing groups with
  | nil => rfl
  | cons first categories ih =>
    obtain ⟨hfirst, hrest⟩ := List.forall_mem_cons.1 h
    have hstep : (ensureAll categories (ensure first groups)).filter p =
        (ensure first groups).filter p :=
      ih fun category hcategory hnew =>
        hrest category hcategory fun hold => hnew (mem_categories_ensure.2 (.inr hold))
    exact hstep.trans (filter_ensure hfirst)

/-- **The groups that were there are there as they were.** -/
theorem filter_ensureAll_old (categories : List Category) (groups : List Group) :
    (ensureAll categories groups).filter (·.category ∈ groups.map (·.category)) = groups := by
  rw [filter_ensureAll fun category _ hnew => decide_eq_false hnew, List.filter_eq_self]
  exact fun group hgroup => decide_eq_true (List.mem_map_of_mem hgroup)

theorem sublist_ensureAll (categories : List Category) (groups : List Group) :
    groups.Sublist (ensureAll categories groups) := by
  have hold : ((ensureAll categories groups).filter
      (·.category ∈ groups.map (·.category))).Sublist (ensureAll categories groups) :=
    List.filter_sublist
  rwa [filter_ensureAll_old] at hold

theorem filter_ensure_new (h : category ∉ groups.map (·.category)) :
    (ensure category groups).filter (·.category = category) = [empty category] := by
  have hnone : groups.filter (·.category = category) = [] := filter_eq_nil_of_not_mem_map h
  rw [← List.perm_singleton, ← hnone]
  refine ((ensure_perm h).filter _).trans (.of_eq ?_)
  exact List.filter_cons_of_pos (decide_eq_true rfl)

/-- **A category without groups gets an empty one if it is asked for.** -/
theorem filter_ensureAll_new (h : category ∉ groups.map (·.category)) :
    (ensureAll categories groups).filter (·.category = category) =
      if category ∈ categories then [empty category] else [] := by
  induction categories generalizing groups with
  | nil => exact filter_eq_nil_of_not_mem_map h
  | cons first categories ih =>
    rw [ensureAll_cons]
    by_cases hfirst : category = first
    · subst hfirst
      rw [if_pos List.mem_cons_self, ← filter_ensure_new h]
      refine filter_ensureAll fun other _ hother => decide_eq_false fun heq => hother ?_
      exact mem_categories_ensure.2 (.inl heq)
    · rw [ih (by simp [mem_categories_ensure, hfirst, h])]
      simp only [List.mem_cons, hfirst, false_or]

theorem pairwise_ensureAll : ((ensureAll categories groups).Pairwise
    fun a b => a.category ≤ b.category) ↔ groups.Pairwise fun a b => a.category ≤ b.category := by
  constructor
  · exact fun h => h.sublist (sublist_ensureAll categories groups)
  · intro h
    induction categories generalizing groups with
    | nil => exact h
    | cons first categories ih => exact ih (pairwise_ensure h)

theorem increasing_iff : Increasing groups ↔
    (groups.Pairwise fun a b => a.category ≤ b.category) ∧ (groups.map (·.category)).Nodup := by
  rw [List.Nodup, List.pairwise_map, ← List.pairwise_and_iff]
  refine List.Pairwise.iff fun a b => ⟨fun h => ⟨Category.le_of_lt h, Category.ne_of_lt h⟩, ?_⟩
  exact fun h => Category.lt_of_le_of_ne h.1 h.2

theorem nodup_ensureAll : ((ensureAll categories groups).map (·.category)).Nodup ↔
    (groups.map (·.category)).Nodup := by
  constructor
  · exact fun h => h.sublist ((sublist_ensureAll categories groups).map (·.category))
  · intro h
    induction categories generalizing groups with
    | nil => exact h
    | cons first categories ih => exact ih (nodup_ensure h)

/-! ## Editing first groups -/

theorem map_category_editFirsts (change : Category → List Change → List Change) :
    (editFirsts change groups).map (·.category) = groups.map (·.category) := by
  induction groups generalizing change with
  | nil => rfl
  | cons group groups ih => rw [editFirsts, List.map_cons, List.map_cons, ih]

theorem editFirsts_id : editFirsts (fun _ => id) groups = groups := by
  induction groups with
  | nil => rfl
  | cons group groups ih => rw [editFirsts, Function.update_eq_self_iff.2 rfl, ih, id]

theorem editFirst_editFirsts (category : Category) (f : List Change → List Change)
    (change : Category → List Change → List Change) :
    editFirst category f (editFirsts change groups) =
      editFirsts (Function.update change category (f ∘ change category)) groups := by
  induction groups generalizing change with
  | nil => rfl
  | cons group groups ih =>
    rw [editFirsts, editFirst, editFirsts]
    by_cases h : group.category = category
    · subst h
      rw [if_pos rfl, Function.update_self, Function.update_idem]
      rfl
    · rw [if_neg h, ih, Function.update_of_ne h, Function.update_of_ne (Ne.symm h),
        Function.update_comm h]

theorem editFirsts_empty_cons {change : Category → List Change → List Change}
    (h : change category = id) (groups : List Group) :
    editFirsts change (empty category :: groups) = empty category :: editFirsts change groups := by
  rw [editFirsts, empty, Function.update_eq_self_iff.2 h.symm, h, id]

/-- A group of a category that is not edited may be put in before the edits or after them. -/
theorem ensure_editFirsts {change : Category → List Change → List Change}
    (h : change category = id) :
    ensure category (editFirsts change groups) = editFirsts change (ensure category groups) := by
  by_cases hmem : category ∈ groups.map (·.category)
  · rw [ensure_of_mem hmem, ensure_of_mem (by rwa [map_category_editFirsts])]
  · induction groups generalizing change with
    | nil => exact (editFirsts_empty_cons h []).symm
    | cons group groups ih =>
      rw [List.map_cons, List.mem_cons, not_or] at hmem
      obtain ⟨hne, hnone⟩ := hmem
      let edited := { group with changes := change group.category group.changes }
      let later := Function.update change group.category id
      rcases Category.lt_trichotomy category group.category with hlt | heq | hgt
      · have hnone' : category ∉ (editFirsts later groups).map (·.category) := by
          rwa [map_category_editFirsts]
        calc ensure category (edited :: editFirsts later groups)
          _ = empty category :: editFirsts change (group :: groups) := ensure_cons_of_gt hlt hnone'
          _ = editFirsts change (ensure category (group :: groups)) := by
            rw [ensure_cons_of_gt hlt hnone, editFirsts_empty_cons h]
      · exact absurd heq hne
      · have hlater : later category = id := (Function.update_of_ne hne id change).trans h
        calc ensure category (edited :: editFirsts later groups)
          _ = edited :: ensure category (editFirsts later groups) := ensure_cons_of_lt hgt
          _ = edited :: editFirsts later (ensure category groups) := by rw [ih hlater hnone]
          _ = editFirsts change (ensure category (group :: groups)) := by
            rw [ensure_cons_of_lt hgt, editFirsts]

end Group

/-! ## Runs of edits -/

namespace Group.Edit

theorem net_concat (edits : List Edit) (edit : Edit) :
    net (edits ++ [edit]) =
      Function.update (net edits) edit.category (edit.change ∘ net edits edit.category) := by
  funext category changes
  unfold net
  rw [List.filter_append, List.foldl_append]
  by_cases h : edit.category = category
  · rw [← h, List.filter_cons_of_pos (by simp), Function.update_self]
    rfl
  · rw [List.filter_cons_of_neg (by simpa using h), Function.update_of_ne (Ne.symm h)]
    rfl

theorem net_of_not_mem {edits : List Edit} {category : Category}
    (h : category ∉ edits.map (·.category)) : net edits category = id := by
  have hnone : edits.filter (·.category = category) = [] := filter_eq_nil_of_not_mem_map h
  funext changes
  rw [net, hnone]
  rfl

end Group.Edit

namespace Release

open CommonChangelog.Group (Edit Opens editFirst editFirsts ensure ensureAll Increasing)

/-- **A run puts the missing groups in, and then edits the first group of each category.** -/
theorem groups_editAll (release : Release) (edits : List Edit) :
    (release.editAll edits).groups =
      editFirsts (Edit.net edits) (ensureAll (edits.map (·.category)) release.groups) := by
  induction edits using List.reverseRecOn with
  | nil => exact Group.editFirsts_id.symm
  | append_singleton edits edit ih =>
    let present := ensureAll (edits.map (·.category)) release.groups
    have hpresent : ensureAll ((edits ++ [edit]).map (·.category)) release.groups =
        ensure edit.category present := by
      rw [List.map_append, List.map_singleton, Group.ensureAll_concat]
    have hput : ensure edit.category (editFirsts (Edit.net edits) present) =
        editFirsts (Edit.net edits) (ensure edit.category present) := by
      by_cases hmem : edit.category ∈ edits.map (·.category)
      · -- An earlier call has put the group in, if it was missing.
        have hthere : edit.category ∈ present.map (·.category) :=
          Group.mem_categories_ensureAll.2 (.inl hmem)
        rw [Group.ensure_of_mem hthere,
          Group.ensure_of_mem (by rwa [Group.map_category_editFirsts])]
      · exact Group.ensure_editFirsts (Edit.net_of_not_mem hmem)
    calc (release.editAll (edits ++ [edit])).groups
      _ = editFirst edit.category edit.change
            (ensure edit.category (editFirsts (Edit.net edits) present)) := by
        rw [editAll_concat, Release.edit, ih]
      _ = editFirsts (Edit.net (edits ++ [edit])) (ensure edit.category present) := by
        rw [hput, Group.editFirst_editFirsts, Edit.net_concat]
      _ = _ := by rw [hpresent]

theorem map_category_editAll (release : Release) (edits : List Edit) :
    (release.editAll edits).groups.map (·.category) =
      (ensureAll (edits.map (·.category)) release.groups).map (·.category) := by
  rw [groups_editAll, Group.map_category_editFirsts]

theorem ordered_editAll_iff {release : Release} {edits : List Edit} :
    (release.editAll edits).Ordered ↔ release.Ordered := by
  rw [ordered_iff, map_category_editAll, List.pairwise_map]
  exact Group.pairwise_ensureAll

theorem nodup_editAll_iff {release : Release} {edits : List Edit} :
    ((release.editAll edits).groups.map (·.category)).Nodup ↔
      (release.groups.map (·.category)).Nodup := by
  rw [map_category_editAll]
  exact Group.nodup_ensureAll

theorem increasing_editAll_iff {release : Release} {edits : List Edit} :
    Increasing (release.editAll edits).groups ↔ Increasing release.groups := by
  rw [Group.increasing_iff, Group.increasing_iff]
  exact and_congr ordered_editAll_iff nodup_editAll_iff

/--
**Edits leave all else as it is.** Take any release and any run of edits. Whoever then asks for the
group of a category gets the first one of that category, or an empty one that is put in if there is
none, and an edit of it changes nothing else. The run comes to this: each category that is asked for
and has no group gets an empty one, while the groups that were there stay as they are and in their
order; then the first group of each category gets the edits of its category, and no other group is
edited. The groups are in canonical order exactly if they were before, and in strictly canonical
order exactly if they were. A release that starts without groups never has two of one category.
-/
theorem editAll_frame (release : Release) (edits : List Edit) :
    let present := ensureAll (edits.map (·.category)) release.groups
    (∀ category, ∃ front group back,
      Opens category (release.editAll edits).groups front group back ∧
      ∀ change, release.editAll (edits ++ [⟨category, change⟩]) =
        { release with
          groups := front ++ { group with changes := change group.changes } :: back }) ∧
    (release.editAll edits).groups = editFirsts (Edit.net edits) present ∧
    present.filter (·.category ∈ release.groups.map (·.category)) = release.groups ∧
    (∀ category ∉ release.groups.map (·.category),
      present.filter (·.category = category) =
        if category ∈ edits.map (·.category) then [Group.empty category] else []) ∧
    ((release.editAll edits).Ordered ↔ release.Ordered) ∧
    (Increasing (release.editAll edits).groups ↔ Increasing release.groups) ∧
    (release.groups = [] → ((release.editAll edits).groups.map (·.category)).Nodup) := by
  intro present
  refine ⟨fun category => ?_, groups_editAll release edits, Group.filter_ensureAll_old _ _,
    fun category => Group.filter_ensureAll_new, ordered_editAll_iff, increasing_editAll_iff,
    fun hnone => ?_⟩
  · obtain ⟨front, group, back, hopens, hedit⟩ :=
      exists_opens_edit (release.editAll edits) category
    refine ⟨front, group, back, hopens, fun change => ?_⟩
    rw [editAll_concat, hedit, editAll_eq]
  · rw [nodup_editAll_iff, hnone]
    exact List.nodup_nil

/-- A release with two groups of one category, one in front of and one behind its other group. -/
def unorderedSample : Release where
  label := "1.0.0"
  groups := [⟨.fixed, "Bug Fixes", [{ text := "Fix crash" }]⟩,
    ⟨.added, "Added", [{ text := "Add search" }]⟩, ⟨.fixed, "Fixed", [{ text := "Fix leak" }]⟩]

/-- A category is asked for without an edit, and again; of the others, one grows, one is emptied. -/
def mixedEdits : List Edit :=
  [⟨.removed, id⟩, ⟨.fixed, (· ++ [{ text := "Fix typo" }])⟩, ⟨.added, fun _ => []⟩,
    ⟨.removed, ({ text := "Remove flag" } :: ·)⟩]

/-- The missing group goes to the front, and the second group of the repeated category stays. -/
theorem editAll_frame_mixedSample :
    (unorderedSample.editAll mixedEdits).groups =
      [⟨.removed, "Removed", [{ text := "Remove flag" }]⟩,
        ⟨.fixed, "Bug Fixes", [{ text := "Fix crash" }, { text := "Fix typo" }]⟩,
        ⟨.added, "Added", []⟩, ⟨.fixed, "Fixed", [{ text := "Fix leak" }]⟩] ∧
    .removed ∉ unorderedSample.groups.map (·.category) ∧
    (ensureAll (mixedEdits.map (·.category)) unorderedSample.groups).filter
      (·.category = .removed) = [Group.empty .removed] ∧
    ¬(unorderedSample.editAll mixedEdits).Ordered ∧
    Release.unreleased.groups = [] ∧
    ((Release.unreleased.editAll mixedEdits).groups.map (·.category)).Nodup := by
  obtain ⟨-, hgroups, -, hnew, hordered, -, -⟩ := editAll_frame unorderedSample mixedEdits
  have hfresh := (editAll_frame Release.unreleased mixedEdits).2.2.2.2.2.2
  have hmissing : .removed ∉ unorderedSample.groups.map (·.category) := by decide
  have hunordered : ¬unorderedSample.Ordered := by
    rw [ordered_iff]
    decide
  exact ⟨hgroups.trans (by decide), hmissing, hnew .removed hmissing,
    mt hordered.1 hunordered, rfl, hfresh rfl⟩

end Release

end CommonChangelog
