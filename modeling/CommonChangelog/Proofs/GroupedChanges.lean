import CommonChangelog.Proofs.AddedChanges

/-!
# Changes by category

Groups hold the changes that a rule gives to each category (`GroupedBy`) if they stand in strictly
canonical order under their canonical headings, none of them is empty, and each category has
exactly the changes that the rule says, in its order. The rule then determines the groups.

Adding a change appends it to the changes of its category and leaves every other category as it is
(`GroupedBy.add`). So changes that are added one after the other, in whatever order their categories
come, end up in the groups of their categories in the order in which they were added.

Main results: `GroupedBy.addAll` and, for a new release, `GroupedBy.exists_addAll_eq`.
-/

namespace CommonChangelog

/-! ## Strictly canonical order -/

namespace Category

variable {a b c : Category}

theorem rank_injective (h : a.rank = b.rank) : a = b := by
  cases a <;> cases b <;> first | rfl | cases h

theorem lt_trans (hab : a < b) (hbc : b < c) : a < c := Nat.lt_trans hab hbc

theorem ne_of_lt (h : a < b) : a ≠ b := fun heq => Nat.ne_of_lt h (congrArg rank heq)

theorem le_of_lt (h : a < b) : a ≤ b := Nat.le_of_lt h

theorem not_le_of_lt (h : a < b) : ¬b ≤ a := Nat.not_le_of_lt h

theorem not_lt_of_lt (h : a < b) : ¬b < a := Nat.lt_asymm h

theorem lt_of_le_of_ne (hle : a ≤ b) (hne : a ≠ b) : a < b :=
  Nat.lt_of_le_of_ne hle fun hrank => hne (rank_injective hrank)

theorem lt_trichotomy (a b : Category) : a < b ∨ a = b ∨ b < a := by
  rcases Nat.lt_trichotomy a.rank b.rank with h | h | h
  · exact .inl h
  · exact .inr (.inl (rank_injective h))
  · exact .inr (.inr h)

end Category

namespace Group

/-- The groups stand in canonical order, and no category has two of them. -/
def Increasing (groups : List Group) : Prop :=
  groups.Pairwise fun a b => a.category < b.category

/-- The changes of one category. -/
def changesIn (category : Category) (groups : List Group) : List Change :=
  (groups.filter (·.category = category)).flatMap (·.changes)

/-- A group of one change, under its canonical heading. -/
def single (category : Category) (change : Change) : Group :=
  ⟨category, category.name, [change]⟩

/-- Adds a change to its category, going through the groups from the front. -/
def insert (category : Category) (change : Change) : List Group → List Group
  | [] => [single category change]
  | group :: groups =>
    if category < group.category then single category change :: group :: groups
    else if category = group.category then
      { group with changes := group.changes ++ [change] } :: groups
    else group :: insert category change groups

variable {category : Category} {change : Change} {group : Group} {groups : List Group}

theorem insert_of_lt (h : category < group.category) :
    insert category change (group :: groups) = single category change :: group :: groups :=
  if_pos h

theorem insert_of_eq (h : category = group.category) :
    insert category change (group :: groups) =
      { group with changes := group.changes ++ [change] } :: groups := by
  rw [insert, if_neg fun hlt => Category.ne_of_lt hlt h, if_pos h]

theorem insert_of_gt (h : group.category < category) :
    insert category change (group :: groups) = group :: insert category change groups := by
  rw [insert, if_neg (Category.not_lt_of_lt h), if_neg (Category.ne_of_lt h).symm]

theorem ensure_cons_of_gt (h : category < group.category)
    (hnone : category ∉ groups.map (·.category)) :
    ensure category (group :: groups) = empty category :: group :: groups := by
  have hmem : category ∉ (group :: groups).map (·.category) := by
    rw [List.map_cons, List.mem_cons, not_or]
    exact ⟨Category.ne_of_lt h, hnone⟩
  have hfirst : ¬group.category ≤ category := Category.not_le_of_lt h
  rw [ensure_of_not_mem hmem, List.takeWhile_cons_of_neg (by simpa using hfirst),
    List.dropWhile_cons_of_neg (by simpa using hfirst), List.nil_append]

theorem ensure_cons_of_lt (h : group.category < category) :
    ensure category (group :: groups) = group :: ensure category groups := by
  have hfirst : group.category ≤ category := Category.le_of_lt h
  rw [ensure, ensure, List.any_cons, decide_eq_false (Category.ne_of_lt h), Bool.false_or,
    List.takeWhile_cons_of_pos (by simpa using hfirst),
    List.dropWhile_cons_of_pos (by simpa using hfirst)]
  split <;> rfl

/-- The group that a category has, or gets where it belongs, is the one that is edited. -/
theorem editFirst_ensure (h : Increasing groups) :
    editFirst category (· ++ [change]) (ensure category groups) =
      insert category change groups := by
  induction groups with
  | nil => simp [ensure, editFirst, insert, empty, single]
  | cons group groups ih =>
    obtain ⟨hgroup, hgroups⟩ := List.pairwise_cons.1 h
    rcases Category.lt_trichotomy category group.category with hlt | heq | hgt
    · -- All groups belong behind the category, so it has none.
      have hnone : category ∉ groups.map (·.category) := by
        intro hmem
        obtain ⟨other, hother, hsame⟩ := List.mem_map.1 hmem
        exact Category.ne_of_lt (Category.lt_trans hlt (hgroup other hother)) hsame.symm
      rw [ensure_cons_of_gt hlt hnone, insert_of_lt hlt]
      exact if_pos rfl
    · have hmem : category ∈ (group :: groups).map (·.category) := heq ▸ List.mem_cons_self
      rw [ensure_of_mem hmem, editFirst, if_pos heq.symm, insert_of_eq heq]
    · rw [ensure_cons_of_lt hgt, editFirst, if_neg (Category.ne_of_lt hgt), ih hgroups,
        insert_of_gt hgt]

/-- A property that a new group has, and that another change keeps, is kept by adding. -/
theorem forall_mem_insert {p : Group → Prop} (h : ∀ group ∈ groups, p group)
    (hnew : p (single category change))
    (hmore : ∀ group, p group → p { group with changes := group.changes ++ [change] }) :
    ∀ group ∈ insert category change groups, p group := by
  induction groups with
  | nil => exact List.forall_mem_singleton.2 hnew
  | cons group groups ih =>
    obtain ⟨hgroup, hgroups⟩ := List.forall_mem_cons.1 h
    rcases Category.lt_trichotomy category group.category with hlt | heq | hgt
    · rw [insert_of_lt hlt]
      exact List.forall_mem_cons.2 ⟨hnew, h⟩
    · rw [insert_of_eq heq]
      exact List.forall_mem_cons.2 ⟨hmore group hgroup, hgroups⟩
    · rw [insert_of_gt hgt]
      exact List.forall_mem_cons.2 ⟨hgroup, ih hgroups⟩

theorem Increasing.insert (h : Increasing groups) : Increasing (insert category change groups) := by
  induction groups with
  | nil => exact List.pairwise_singleton _ _
  | cons group groups ih =>
    obtain ⟨hgroup, hgroups⟩ := List.pairwise_cons.1 h
    rcases Category.lt_trichotomy category group.category with hlt | heq | hgt
    · rw [insert_of_lt hlt]
      refine List.pairwise_cons.2 ⟨List.forall_mem_cons.2 ⟨hlt, fun other hother => ?_⟩, h⟩
      exact Category.lt_trans hlt (hgroup other hother)
    · rw [insert_of_eq heq]
      exact List.pairwise_cons.2 ⟨hgroup, hgroups⟩
    · rw [insert_of_gt hgt]
      exact List.pairwise_cons.2
        ⟨forall_mem_insert hgroup hgt fun _ hbehind => hbehind, ih hgroups⟩

theorem changesIn_cons (category : Category) (group : Group) (groups : List Group) :
    changesIn category (group :: groups) =
      (if group.category = category then group.changes else []) ++ changesIn category groups := by
  unfold changesIn
  by_cases h : group.category = category
  · rw [List.filter_cons_of_pos (by simpa using h), List.flatMap_cons, if_pos h]
  · rw [List.filter_cons_of_neg (by simpa using h), if_neg h, List.nil_append]

theorem changesIn_of_lt (h : ∀ group ∈ groups, category < group.category) :
    changesIn category groups = [] := by
  have hnone : groups.filter (·.category = category) = [] := by
    rw [List.filter_eq_nil_iff]
    intro group hgroup
    simpa using (Category.ne_of_lt (h group hgroup)).symm
  rw [changesIn, hnone, List.flatMap_nil]

/-- **A change goes to the end of its category**, and the other categories stay as they are. -/
theorem changesIn_insert (h : Increasing groups) (other : Category) :
    changesIn other (insert category change groups) =
      changesIn other groups ++ if category = other then [change] else [] := by
  induction groups with
  | nil =>
    rw [insert, changesIn_cons, single, changesIn, List.filter_nil, List.flatMap_nil,
      List.append_nil, List.nil_append]
  | cons group groups ih =>
    obtain ⟨hgroup, hgroups⟩ := List.pairwise_cons.1 h
    rcases Category.lt_trichotomy category group.category with hlt | heq | hgt
    · rw [insert_of_lt hlt, changesIn_cons, single]
      by_cases hother : category = other
      · have hnone : changesIn other (group :: groups) = [] := by
          refine changesIn_of_lt (List.forall_mem_cons.2 ⟨hother ▸ hlt, fun g hg => ?_⟩)
          exact hother ▸ Category.lt_trans hlt (hgroup g hg)
        rw [hnone, List.append_nil, List.nil_append]
      · rw [if_neg hother, List.nil_append, List.append_nil]
    · rw [insert_of_eq heq, changesIn_cons, changesIn_cons, ← heq]
      by_cases hother : category = other
      · have hnone : changesIn other groups = [] :=
          changesIn_of_lt fun g hg => hother ▸ heq ▸ hgroup g hg
        rw [hnone, if_pos hother, if_pos hother, if_pos hother, List.append_nil, List.append_nil]
      · rw [if_neg hother, if_neg hother, if_neg hother, List.append_nil]
    · rw [insert_of_gt hgt, changesIn_cons, changesIn_cons, ih hgroups, List.append_assoc]

end Group

/-! ## Grouped changes -/

/--
Each category has the changes that the rule gives it: the groups stand in strictly canonical order,
each under its canonical heading and with at least one change.
-/
structure GroupedBy (groups : List Group) (changesOf : Category → List Change) : Prop where
  increasing : Group.Increasing groups
  headings : ∀ group ∈ groups, group.heading = group.category.name
  nonempty : ∀ group ∈ groups, group.changes ≠ []
  changes : ∀ category, Group.changesIn category groups = changesOf category

theorem groupedBy_nil : GroupedBy [] fun _ => [] where
  increasing := List.Pairwise.nil
  headings := List.forall_mem_nil _
  nonempty := List.forall_mem_nil _
  changes _ := rfl

namespace GroupedBy

variable {release : Release} {changesOf : Category → List Change}

/-- **One more change.** -/
theorem add (h : GroupedBy release.groups changesOf) (category : Category) (change : Change) :
    GroupedBy (release.add category change).groups fun other =>
      changesOf other ++ if category = other then [change] else [] := by
  have hgroups : (release.add category change).groups =
      Group.insert category change release.groups := Group.editFirst_ensure h.increasing
  rw [hgroups]
  exact {
    increasing := h.increasing.insert
    headings := Group.forall_mem_insert h.headings rfl fun _ hgroup => hgroup
    nonempty := Group.forall_mem_insert h.nonempty (List.cons_ne_nil _ _)
      fun _ _ => List.concat_ne_nil _ _
    changes := fun other => by rw [Group.changesIn_insert h.increasing, h.changes] }

/-- The changes of one category among entries. -/
def select (entries : List (Category × Change)) (category : Category) : List Change :=
  (entries.filter (·.1 = category)).map (·.2)

theorem select_cons (entry : Category × Change) (entries : List (Category × Change))
    (category : Category) :
    select (entry :: entries) category =
      (if entry.1 = category then [entry.2] else []) ++ select entries category := by
  unfold select
  by_cases h : entry.1 = category
  · rw [List.filter_cons_of_pos (by simpa using h), List.map_cons, if_pos h, List.singleton_append]
  · rw [List.filter_cons_of_neg (by simpa using h), if_neg h, List.nil_append]

/-- **Changes stand in their categories in the order in which they were added.** -/
theorem addAll (h : GroupedBy release.groups changesOf) (entries : List (Category × Change)) :
    GroupedBy (release.addAll entries).groups fun category =>
      changesOf category ++ select entries category := by
  induction entries generalizing release changesOf with
  | nil => simpa [Release.addAll, select] using h
  | cons entry entries ih =>
    have hrest := ih (h.add entry.1 entry.2)
    simp only [List.append_assoc, ← select_cons] at hrest
    exact hrest

theorem select_map {α : Type} (f : α → Category) (g : α → Change) (xs : List α)
    (category : Category) :
    select (xs.map fun x => (f x, g x)) category = (xs.filter (f · = category)).map g := by
  simp only [select, List.filter_map, List.map_map, Function.comp_def]

theorem exists_addAll_eq (h : release.groups = []) (entries : List (Category × Change)) :
    ∃ groups, release.addAll entries = { release with groups } ∧
      GroupedBy groups fun category => select entries category := by
  have hnil : GroupedBy release.groups fun _ => [] := h ▸ groupedBy_nil
  obtain ⟨groups, hgroups⟩ := Release.exists_addAll_eq release entries
  have hgrouped := hnil.addAll entries
  rw [hgroups] at hgrouped
  exact ⟨groups, hgroups, hgrouped⟩

end GroupedBy

end CommonChangelog
