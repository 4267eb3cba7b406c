import CommonChangelog.Proofs.WrittenChanges

/-!
# What is read of a written document

Lines are classified one by one, so what is read of a written document is known whatever its texts
are. Each release whose heading is well formed is there, with its groups under their canonical
headings. A change is read from its list item, unless nothing but blanks stands behind the dash;
then the item is no entry, and a group without entries is dropped.

`Changelog.reread` says this part by part, without lines.

**Theorem (`Changelog.ofText_render_reread`).** If no text of the document contains a line break,
reading the written document gives the reread one, whatever plain layout stands around its
releases.
-/

namespace CommonChangelog

open Text (isBlank trim allBlank)

/-! ## Texts of one line -/

/-- A layout whose parts are single lines, the preface being no heading of the first two levels. -/
structure Layout.Plain (layout : Layout) : Prop where
  intro : ∀ line ∈ layout.intro, '\n' ∉ line
  preface : ∀ preface ∈ layout.preface, '\n' ∉ preface ∧
    Text.startsWith "# " (trim preface) = false ∧ Text.startsWith "## " (trim preface) = false
  repository : ∀ repository ∈ layout.repository, '\n' ∉ repository

/-- Hash and address contain no line break. -/
def Reference.OneLine : Reference → Prop
  | pullRequest _ url | issue _ url => '\n' ∉ url
  | commit hash url => '\n' ∉ hash ∧ '\n' ∉ url

/-- A change without a line break in it. -/
structure Change.OneLine (change : Change) : Prop where
  text : '\n' ∉ change.text
  references : ∀ reference ∈ change.references, reference.OneLine

/-- A release without a line break in it. The headings of its groups are not written. -/
structure Release.OneLine (release : Release) : Prop where
  label : '\n' ∉ release.label
  date : ∀ date ∈ release.date, '\n' ∉ date
  notice : ∀ notice ∈ release.notice, '\n' ∉ notice
  changes : ∀ change ∈ release.changes, change.OneLine

/-- A document without a line break in its texts. -/
structure Changelog.OneLine (changelog : Changelog) : Prop where
  title : '\n' ∉ changelog.title
  releases : ∀ release ∈ changelog.releases, release.OneLine

theorem Category.oneLine_name (c : Category) : '\n' ∉ c.name := by
  cases c <;> decide

theorem Reference.oneLine_ofLink {url : Text} (h : '\n' ∉ url) (n : UInt64) :
    (ofLink n url).OneLine := by
  unfold ofLink
  split
  · exact h
  · exact h

theorem Reference.OneLine.render {reference : Reference} (h : reference.OneLine) :
    '\n' ∉ reference.render := by
  have hnumber : ∀ n : UInt64, '\n' ∉ Text.ofWord n := fun n => not_mem_ofWord (by decide)
  cases reference with
  | pullRequest n url | issue n url =>
    have hurl : '\n' ∉ url := h
    simp only [Reference.render]
    split <;> simp [hnumber n, hurl]
  | commit hash url =>
    obtain ⟨hhash, hurl⟩ := h
    simp [Reference.render, hhash, hurl]

theorem Change.OneLine.render {change : Change} (h : change.OneLine) : '\n' ∉ change.render := by
  have hmarking : '\n' ∉ change.marking := by
    rw [marking, Reference.breakingMark_eq]
    cases change.breaking <;> decide
  have hwritten : '\n' ∉ Reference.written change.references := by
    intro hmem
    obtain ⟨reference, hr, hmem⟩ := List.mem_flatMap.1 hmem
    rcases List.mem_cons.1 hmem with hmem | hmem
    · exact absurd hmem (by decide)
    · exact (h.references reference hr).render hmem
  simp [render_eq, body, hmarking, h.text, hwritten]

theorem Release.OneLine.heading {release : Release} (h : release.OneLine) :
    '\n' ∉ release.heading := by
  cases hd : release.date with
  | none => simp [Release.heading, hd, h.label]
  | some date =>
    have hdate := h.date date hd
    cases hu : release.isUnreleased <;> simp [Release.heading, hd, hu, h.label, hdate]

theorem Release.OneLine.lines {release : Release} (h : release.OneLine) :
    ∀ line ∈ release.lines, '\n' ∉ line := by
  have hnotice : ∀ line ∈ noticeLines release.notice, '\n' ∉ line := by
    cases hn : release.notice with
    | none => simp [noticeLines]
    | some notice => simp [noticeLines, h.notice notice hn]
  have hgroups : ∀ line ∈ release.groups.flatMap Group.lines, '\n' ∉ line := by
    rw [List.forall_mem_flatMap]
    intro group hgroup
    have hchanges : ∀ line ∈ group.changes.map Change.render, '\n' ∉ line := by
      rw [List.forall_mem_map]
      intro change hchange
      exact (h.changes change (List.mem_flatMap.2 ⟨group, hgroup, hchange⟩)).render
    rw [Group.lines, List.forall_mem_append, List.forall_mem_append]
    exact ⟨⟨by simp [group.category.oneLine_name], hchanges⟩, by simp⟩
  rw [Release.lines, List.forall_mem_append, List.forall_mem_append]
  exact ⟨⟨by simp [h.heading], hnotice⟩, hgroups⟩

theorem Changelog.OneLine.linkOf {changelog : Changelog} (h : changelog.OneLine)
    {repository : Text} (hrepository : '\n' ∉ repository) {release : Release}
    (hrelease : release ∈ changelog.releases) {line : Text}
    (hline : Changelog.linkOf repository changelog.latest? release = some line) : '\n' ∉ line := by
  rw [Changelog.linkOf] at hline
  split at hline
  · obtain ⟨latest, hlatest, rfl⟩ := Option.map_eq_some_iff.1 hline
    have hlabel := (h.releases latest (List.mem_of_find?_eq_some hlatest)).label
    simp [hrepository, hlabel]
  · cases hline
    simp [hrepository, (h.releases release hrelease).label]

theorem Changelog.OneLine.lines {changelog : Changelog} (h : changelog.OneLine) {layout : Layout}
    (hl : layout.Plain) : ∀ line ∈ changelog.lines layout, '\n' ∉ line := by
  have hintro : ∀ line ∈ introLines layout.intro, '\n' ∉ line := by
    rw [introLines]
    split
    · simp
    · rw [List.forall_mem_append, List.forall_mem_map]
      exact ⟨fun line hline => by simpa [quoted] using hl.intro line hline, by simp⟩
  have hreleases : ∀ line ∈ changelog.releases.flatMap Release.lines, '\n' ∉ line := by
    rw [List.forall_mem_flatMap]
    exact fun release hrelease => (h.releases release hrelease).lines
  rw [Changelog.lines, List.forall_mem_append, List.forall_mem_append, List.forall_mem_append,
    List.forall_mem_append]
  refine ⟨⟨⟨⟨by simp [h.title], hintro⟩, ?_⟩, hreleases⟩, ?_⟩
  · cases hp : layout.preface with
    | none => simp
    | some preface => simp [(hl.preface preface hp).1]
  · cases hr : layout.repository with
    | none => simp
    | some repository =>
      intro line hline
      obtain ⟨release, hrelease, hline⟩ := List.mem_filterMap.1 hline
      exact h.linkOf (hl.repository repository hr) hrelease hline

/-! ## The roles of lines -/

/-- The roles of lines, apart from lines without a role. -/
def rolesOf (ls : List Text) : List Line := (ls.map Line.classify).filter Line.hasRole

theorem rolesOf_append (ls ms : List Text) : rolesOf (ls ++ ms) = rolesOf ls ++ rolesOf ms := by
  rw [rolesOf, List.map_append, List.filter_append, rolesOf, rolesOf]

theorem rolesOf_flatMap {α : Type} {f : α → List Text} {g : α → List Line} {xs : List α}
    (h : ∀ x ∈ xs, rolesOf (f x) = g x) : rolesOf (xs.flatMap f) = xs.flatMap g := by
  induction xs with
  | nil => rfl
  | cons x xs ih =>
    rw [List.forall_mem_cons] at h
    rw [List.flatMap_cons, rolesOf_append, h.1, ih h.2, List.flatMap_cons]

theorem rolesOf_cons (line : Text) (ls : List Text) :
    rolesOf (line :: ls) = [Line.classify line].filter Line.hasRole ++ rolesOf ls := by
  rw [← List.singleton_append, rolesOf_append]
  rfl

theorem rolesOf_eq_nil {ls : List Text} (h : ∀ line ∈ ls, (Line.classify line).hasRole = false) :
    rolesOf ls = [] := by
  rw [rolesOf, List.filter_eq_nil_iff]
  intro role hrole
  obtain ⟨line, hline, rfl⟩ := List.mem_map.1 hrole
  rw [h line hline]
  exact Bool.false_ne_true

theorem rolesOf_blank (ls : List Text) : rolesOf ([] :: ls) = rolesOf ls := by
  rw [rolesOf_cons]
  rfl

/-- Only empty lines are dropped at the end. -/
theorem exists_dropEmptyEnd_append (ls : List Text) :
    ∃ ends, (∀ line ∈ ends, line = []) ∧ ls = Changelog.dropEmptyEnd ls ++ ends := by
  refine ⟨(ls.reverse.takeWhile List.isEmpty).reverse, fun line hline => ?_, ?_⟩
  · have h := List.all_eq_true.1 List.all_takeWhile line (List.mem_reverse.1 hline)
    exact List.isEmpty_iff.1 h
  · rw [Changelog.dropEmptyEnd, ← List.reverse_append, List.takeWhile_append_dropWhile,
      List.reverse_reverse]

theorem rolesOf_dropEmptyEnd (ls : List Text) :
    rolesOf (Changelog.dropEmptyEnd ls) = rolesOf ls := by
  obtain ⟨ends, hends, hls⟩ := exists_dropEmptyEnd_append ls
  have hnil : rolesOf ends = [] := rolesOf_eq_nil fun line hline => by rw [hends line hline]; rfl
  conv => rhs; rw [hls, rolesOf_append, hnil, List.append_nil]

/-- The title line is not empty, so it is never dropped. -/
theorem Changelog.exists_dropEmptyEnd_lines (changelog : Changelog) (layout : Layout) :
    ∃ rest, dropEmptyEnd (changelog.lines layout) = ("# " ++ changelog.title) :: rest := by
  obtain ⟨ends, hends, hls⟩ := exists_dropEmptyEnd_append (changelog.lines layout)
  obtain ⟨rest, hrest⟩ : ∃ rest, changelog.lines layout = ("# " ++ changelog.title) :: rest := by
    simp only [lines, List.append_assoc, List.cons_append]
    exact ⟨_, rfl⟩
  rw [hrest] at hls ⊢
  cases hkept : dropEmptyEnd (("# " ++ changelog.title) :: rest) with
  | nil =>
    rw [hkept, List.nil_append] at hls
    exact absurd (hends _ (hls ▸ List.mem_cons_self)) (List.cons_ne_nil _ _)
  | cons line kept =>
    rw [hkept, List.cons_append, List.cons.injEq] at hls
    exact ⟨kept, by rw [← hls.1]⟩

/-- The pieces of a written document are its lines, and one empty piece behind the last newline. -/
theorem Changelog.split_render {changelog : Changelog} {layout : Layout}
    (h : ∀ line ∈ changelog.lines layout, '\n' ∉ line) :
    Text.split '\n' (changelog.render layout) = dropEmptyEnd (changelog.lines layout) ++ [[]] := by
  obtain ⟨ends, hends, hls⟩ := exists_dropEmptyEnd_append (changelog.lines layout)
  have hne : dropEmptyEnd (changelog.lines layout) ≠ [] := by
    obtain ⟨rest, hrest⟩ := changelog.exists_dropEmptyEnd_lines layout
    rw [hrest]
    exact List.cons_ne_nil _ _
  have hlines : ∀ line ∈ dropEmptyEnd (changelog.lines layout), '\n' ∉ line := by
    intro line hline
    exact h line (hls ▸ List.mem_append_left ends hline)
  exact Text.split_join_append hne hlines

/-- A written document is read off the roles of its lines. -/
theorem Changelog.ofText_render {rules : Rules} {changelog : Changelog} {layout : Layout}
    (h : ∀ line ∈ changelog.lines layout, '\n' ∉ line) :
    ofText rules (changelog.render layout) = ofLines rules (rolesOf (changelog.lines layout)) := by
  have hroles : rolesOf (dropEmptyEnd (changelog.lines layout) ++ [[]]) =
      rolesOf (changelog.lines layout) := by
    rw [rolesOf_append, rolesOf_dropEmptyEnd]
    exact List.append_nil _
  rw [ofText_eq, split_render h, ← Outline.ofLines_filter, ← hroles, rolesOf]

/-! ## What is legible -/

/-- Something other than blanks stands behind the dash of the list item. -/
def Change.isLegible (change : Change) : Bool := !allBlank (change.marking ++ change.body)

/-- The group without the changes whose list items are no entries. -/
def Group.legible (group : Group) : Group :=
  { group with changes := group.changes.filter Change.isLegible }

/-- The release with its notice trimmed, and without changes that are no entries. -/
def Release.legible (release : Release) : Release :=
  { release with
    notice := release.notice.map trim
    groups := release.groups.map Group.legible }

theorem Change.isLegible_iff {change : Change} :
    change.isLegible ↔
      allBlank change.text = false ∨ change.references ≠ [] ∨ change.breaking := by
  have hmarking : allBlank change.marking = !change.breaking := by
    rw [marking, Reference.breakingMark_eq]
    cases change.breaking <;> decide
  have hwritten : allBlank (Reference.written change.references) = change.references.isEmpty := by
    cases hr : change.references with
    | nil => rfl
    | cons r rs =>
      obtain ⟨t, ht⟩ := Reference.exists_render r
      have hparen : isBlank '(' = false := by decide
      simp [allBlank, Reference.written_cons, ht, hparen]
  rw [allBlank] at hmarking hwritten
  rw [isLegible, body, allBlank, List.all_append, List.all_append, hmarking, hwritten, allBlank]
  cases change.text.all isBlank <;> cases change.breaking <;> cases change.references <;> simp

/-! ## The roles of written lines -/

theorem Category.name_trimmed (c : Category) : trim c.name = c.name := by
  cases c <;> decide

theorem Category.name_ne_nil (c : Category) : c.name ≠ [] := by
  cases c <;> decide

/-- The role of the list item of a change. -/
def Change.role (change : Change) : Line := .entry (trim (change.marking ++ change.body))

/-- The roles of the lines of a group, apart from blank lines. -/
def Group.roles (group : Group) : List Line :=
  .category group.category.name :: group.changes.map Change.role

/-- The roles of the lines of a release below its heading. -/
def Release.bodyRoles (release : Release) : List Line :=
  release.notice.toList.map Line.notice ++ release.groups.flatMap Group.roles

/-- The roles of the lines of a release, whatever the role of its heading is. -/
def Release.writtenRoles (release : Release) : List Line :=
  Line.classify release.heading :: release.legible.bodyRoles

theorem Change.rolesOf_render (change : Change) :
    rolesOf [change.render] = ([change].filter Change.isLegible).map Change.role := by
  cases h : allBlank (change.marking ++ change.body) with
  | true =>
    have hline : Line.classify change.render = .other ['-'] := by
      have hblank : allBlank (' ' :: (change.marking ++ change.body)) := by
        rw [allBlank, List.all_cons, ← allBlank, h]
        rfl
      rw [render_eq, Line.classify]
      exact congrArg Line.ofTrimmed (Text.trim_append_of_allBlank hblank ['-'])
    have hillegible : ¬change.isLegible := by simp [isLegible, h]
    rw [rolesOf_cons, hline, List.filter_cons_of_neg (p := isLegible) hillegible]
    rfl
  | false =>
    have hline : Line.classify change.render = change.role := by
      rw [render_eq, Line.classify_entry h, role]
    have hlegible : change.isLegible := by simp [isLegible, h]
    rw [rolesOf_cons, hline, List.filter_cons_of_pos (p := isLegible) hlegible]
    rfl

theorem Change.rolesOf_changes (changes : List Change) :
    rolesOf (changes.map render) = (changes.filter isLegible).map role := by
  induction changes with
  | nil => rfl
  | cons change changes ih =>
    rw [List.map_cons, ← List.singleton_append, rolesOf_append, rolesOf_render, ih,
      ← List.map_append, ← List.filter_append, List.singleton_append]

theorem Group.rolesOf_lines (group : Group) : rolesOf group.lines = group.legible.roles := by
  rw [Group.lines, rolesOf_append, rolesOf_append, Change.rolesOf_changes, rolesOf_cons,
    Line.classify_category group.category.name_trimmed group.category.name_ne_nil, roles, legible]
  show [Line.category group.category.name] ++ [] ++ (group.changes.filter _).map _ ++ [] = _
  simp

theorem Release.isHeading_heading (release : Release) :
    (Line.classify release.heading).isHeading := by
  obtain ⟨rest, hrest⟩ : ∃ rest, release.heading = ['#', '#', ' ', '['] ++ rest :=
    ⟨_, List.append_assoc _ _ _⟩
  have htrim : trim release.heading = '#' :: '#' :: ' ' :: '[' :: Text.trimEnd rest := by
    rw [hrest]
    exact Text.trimEnd_append_of_last
      (Text.forall_last_concat (by decide : isBlank '[' = false) ['#', '#', ' ']) rest
  rw [Line.classify, htrim]
  exact Line.isHeading_ofTrimmed _

theorem Release.rolesOf_lines (release : Release) :
    rolesOf release.lines = release.writtenRoles := by
  have hheading : (Line.classify release.heading).hasRole := by
    have h := release.isHeading_heading
    cases hl : Line.classify release.heading <;> rw [hl] at h <;>
      first | rfl | exact absurd h Bool.noConfusion
  have hnotice : rolesOf (noticeLines release.notice) =
      (release.notice.map trim).toList.map Line.notice := by
    cases release.notice with
    | none => rfl
    | some notice =>
      rw [noticeLines, rolesOf_cons, Line.classify_notice, rolesOf_blank]
      rfl
  have hgroups : rolesOf (release.groups.flatMap Group.lines) =
      (release.groups.map Group.legible).flatMap Group.roles := by
    rw [List.flatMap_map]
    exact rolesOf_flatMap fun group _ => group.rolesOf_lines
  rw [Release.lines, rolesOf_append, rolesOf_append, hnotice, hgroups, rolesOf_cons,
    List.filter_cons_of_pos hheading, rolesOf_blank, writtenRoles, bodyRoles, legible,
    List.append_assoc]
  rfl

/-- What is written around the releases is neither a title nor the heading of a release. -/
theorem Changelog.exists_rolesOf_lines {changelog : Changelog} {layout : Layout}
    (hne : changelog.title ≠ []) (htrim : trim changelog.title = changelog.title)
    (hl : layout.Plain) :
    ∃ front, (∀ line ∈ front, line.title? = none ∧ line.isHeading = false) ∧
      rolesOf (changelog.lines layout) =
        .title changelog.title :: (front ++ changelog.releases.flatMap Release.writtenRoles) := by
  have htitle : rolesOf ["# " ++ changelog.title, []] = [.title changelog.title] := by
    rw [rolesOf_cons, Line.classify_title htrim hne, rolesOf_blank]
    rfl
  have hintro : rolesOf (introLines layout.intro) = [] := by
    refine rolesOf_eq_nil fun line hline => ?_
    rw [introLines] at hline
    split at hline
    · cases hline
    · rcases List.mem_append.1 hline with hline | hline
      · obtain ⟨text, -, rfl⟩ := List.mem_map.1 hline
        exact Line.hasRole_quoted text
      · rw [List.mem_singleton.1 hline]
        rfl
  have hreleases : rolesOf (changelog.releases.flatMap Release.lines) =
      changelog.releases.flatMap Release.writtenRoles :=
    rolesOf_flatMap fun release _ => release.rolesOf_lines
  have hlines : ∀ before after : List Text, (∀ line ∈ after, (Line.classify line).hasRole = false) →
      rolesOf (["# " ++ changelog.title, []] ++ introLines layout.intro ++ before ++
        changelog.releases.flatMap Release.lines ++ after) =
      .title changelog.title ::
        (rolesOf before ++ changelog.releases.flatMap Release.writtenRoles) := by
    intro before after hafter
    simp only [rolesOf_append, htitle, hintro, hreleases, rolesOf_eq_nil hafter, List.append_nil,
      List.append_assoc, List.singleton_append, List.nil_append]
  refine ⟨_, ?_, hlines _ _ ?_⟩
  · intro line hline
    obtain ⟨text, htext, rfl⟩ := List.mem_map.1 (List.mem_filter.1 hline).1
    cases hp : layout.preface with
    | none =>
      rw [hp] at htext
      cases htext
    | some preface =>
      obtain ⟨-, h₁, h₂⟩ := hl.preface preface hp
      rw [hp] at htext
      rcases List.mem_cons.1 htext with rfl | htext
      · exact Line.inert_of_not_startsWith h₁ h₂
      · rw [List.mem_singleton.1 htext]
        exact ⟨rfl, rfl⟩
  · intro line hline
    cases hr : layout.repository with
    | none =>
      rw [hr] at hline
      cases hline
    | some repository =>
      rw [hr] at hline
      obtain ⟨release, -, hline⟩ := List.mem_filterMap.1 hline
      exact Line.hasRole_linkOf hline

/-! ## The reread document -/

/-- The change that is read from the list item of a change. -/
def Change.reread (change : Change) : Change :=
  ofEntry (trim (change.marking ++ change.body))

/-- The group that is read where a group is written. -/
def Group.reread (rules : Rules) (group : Group) : Group where
  category := rules.category group.category.name
  heading := group.category.name
  changes := (group.changes.filter Change.isLegible).map Change.reread

/-- The release that is read where a release is written, if the heading is well formed. -/
def Release.reread? (rules : Rules) (release : Release) : Option Release :=
  match Line.classify release.heading with
  | .version label date => some {
      label, date
      notice := Outline.notice? (release.notice.map trim).toList
      groups := (release.groups.map (Group.reread rules)).filter (!·.changes.isEmpty) }
  | _ => none

/-- The document that is read where a document is written. -/
def Changelog.reread (rules : Rules) (changelog : Changelog) : Changelog where
  title := changelog.title
  releases := changelog.releases.filterMap (Release.reread? rules)

variable {rules : Rules}

/-- A notice that is trimmed and not empty is read as it was written. -/
theorem Outline.notice?_written {notice : Option Text}
    (h : ∀ text ∈ notice, text ≠ [] ∧ trim text = text) :
    notice? (notice.map trim).toList = notice := by
  cases hn : notice with
  | none => rfl
  | some text =>
    obtain ⟨hne, htrim⟩ := h text hn
    have hjoin : trim (Text.join " " [text]) = text :=
      (congrArg trim (Text.join_singleton text)).trans htrim
    obtain ⟨c, cs, rfl⟩ := List.exists_cons_of_ne_nil hne
    rw [Option.map_some, htrim, Option.toList_some, notice?, hjoin]

/-- Nothing but notices stands before the first category of a release. -/
theorem Release.notices_bodyRoles (release : Release) :
    Outline.notices release.bodyRoles = release.notice.toList := by
  have hgroups : Outline.notices (release.groups.flatMap Group.roles) = [] := by
    cases release.groups <;> rfl
  rw [bodyRoles]
  cases release.notice with
  | none => exact hgroups
  | some notice =>
    show Outline.notices (.notice notice :: release.groups.flatMap Group.roles) = [notice]
    rw [Outline.notices_cons rfl, hgroups]
    rfl

/-- The changes of a group end where the next group begins. -/
theorem changes_role_append (changes : List Change) {rest : List Line}
    (hrest : Outline.changes rest = []) :
    Outline.changes (changes.map Change.role ++ rest) = changes.map Change.reread := by
  induction changes with
  | nil => exact hrest
  | cons change changes ih =>
    rw [List.map_cons, List.cons_append, Outline.changes_cons rfl, ih]
    rfl

theorem groups_role_append (changes : List Change) (rest : List Line) :
    Outline.groups rules (changes.map Change.role ++ rest) = Outline.groups rules rest := by
  induction changes with
  | nil => rfl
  | cons change changes ih => rw [List.map_cons, List.cons_append, Outline.groups_cons rfl, ih]

theorem groups_legible_roles (groups : List Group) :
    Outline.groups rules ((groups.map Group.legible).flatMap Group.roles) =
      (groups.map (Group.reread rules)).filter (!·.changes.isEmpty) := by
  induction groups with
  | nil => rfl
  | cons group groups ih =>
    have hnext : Outline.changes ((groups.map Group.legible).flatMap Group.roles) = [] := by
      cases groups <;> rfl
    rw [List.map_cons, List.flatMap_cons, Group.roles, List.cons_append, Outline.groups,
      changes_role_append _ hnext, groups_role_append, ih, List.map_cons]
    show Outline.nonempty (group.reread rules) ++ _ = _
    rw [Outline.nonempty, List.filter_cons]
    cases (group.reread rules).changes.isEmpty <;> rfl

theorem Release.groups_bodyRoles (release : Release) :
    Outline.groups rules release.legible.bodyRoles =
      (release.groups.map (Group.reread rules)).filter (!·.changes.isEmpty) := by
  rw [← groups_legible_roles, bodyRoles, legible]
  cases release.notice with
  | none => rfl
  | some notice => exact Outline.groups_cons rfl _

/-- The only heading of the second level in a release is the first line. -/
theorem Release.isHeading_bodyRoles (release : Release) :
    ∀ line ∈ release.bodyRoles, line.isHeading = false := by
  intro line hline
  simp only [bodyRoles, List.mem_append, List.mem_map, List.mem_flatMap, Group.roles,
    List.mem_cons] at hline
  rcases hline with ⟨notice, -, rfl⟩ | ⟨group, -, rfl | ⟨change, -, rfl⟩⟩
  · rfl
  · rfl
  · rfl

theorem head_writtenRoles (releases : List Release) :
    ∀ line ∈ (releases.flatMap Release.writtenRoles).head?, line.isHeading := by
  intro line hline
  cases releases with
  | nil => cases hline
  | cons release releases =>
    cases hline
    exact release.isHeading_heading

theorem Release.releases_writtenRoles (release : Release) :
    Outline.releases rules release.writtenRoles = (release.reread? rules).toList := by
  have hheading := release.legible.isHeading_bodyRoles
  have hbody : Outline.releases rules release.legible.bodyRoles = [] := by
    refine Outline.releases_of_no_version fun line hline => ?_
    exact Line.isVersion_of_isHeading (hheading line hline)
  have hblock : Outline.block release.legible.bodyRoles = release.legible.bodyRoles := by
    have h := Outline.block_append hheading []
    rwa [List.append_nil, show Outline.block [] = [] from rfl, List.append_nil] at h
  have hrelease := release.isHeading_heading
  rw [writtenRoles, reread?]
  cases hline : Line.classify release.heading with
  | version label date =>
    rw [Outline.releases, hbody, hblock, Outline.release, notices_bodyRoles, groups_bodyRoles]
    rfl
  | malformed text => rw [Outline.releases_cons rfl, hbody]; rfl
  | _ => rw [hline] at hrelease; exact absurd hrelease Bool.noConfusion

/-- The releases of written lines are the reread ones. -/
theorem releases_writtenRoles (releases : List Release) :
    Outline.releases rules (releases.flatMap Release.writtenRoles) =
      releases.filterMap (Release.reread? rules) := by
  induction releases with
  | nil => rfl
  | cons release releases ih =>
    rw [List.flatMap_cons, Outline.releases_append _ (head_writtenRoles releases), ih,
      release.releases_writtenRoles, List.filterMap_cons]
    cases release.reread? rules <;> rfl

/-- **What is read of a written document.** -/
theorem Changelog.ofText_render_reread {changelog : Changelog} {layout : Layout}
    (h : changelog.OneLine) (hne : changelog.title ≠ [])
    (htrim : trim changelog.title = changelog.title) (hl : layout.Plain) :
    ofText rules (changelog.render layout) = changelog.reread rules := by
  obtain ⟨front, hfront, hroles⟩ := exists_rolesOf_lines hne htrim hl
  have hheading : ∀ line ∈ front, line.isHeading = false := fun line hline => (hfront line hline).2
  have htitle : Outline.title (rolesOf (changelog.lines layout)) = changelog.title := by
    have hblock : Outline.block (changelog.releases.flatMap Release.writtenRoles) = [] :=
      Outline.block_append_of_heading [] (head_writtenRoles changelog.releases)
    have hnone : front.filterMap Line.title? = [] :=
      List.filterMap_eq_nil_iff.2 fun line hline => (hfront line hline).1
    rw [hroles, Outline.title, Outline.block_cons rfl, Outline.titleOr_cons,
      Outline.block_append hheading, hblock, List.append_nil, Outline.titleOr, hnone]
    rfl
  have hreleases : Outline.releases rules (rolesOf (changelog.lines layout)) =
      changelog.releases.filterMap (Release.reread? rules) := by
    have hversion : ∀ line ∈ front, line.isVersion = false :=
      fun line hline => Line.isVersion_of_isHeading (hheading line hline)
    rw [hroles, Outline.releases_cons rfl, Outline.releases_append _ (head_writtenRoles _),
      Outline.releases_of_no_version hversion, releases_writtenRoles]
    rfl
  rw [ofText_render (h.lines hl), Outline.ofLines_eq, htitle, hreleases, reread]

end CommonChangelog
