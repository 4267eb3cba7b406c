import CommonChangelog.Proofs.ExcludedPaths
import CommonChangelog.Repository.Store
import Mathlib.Tactic.ByContra

/-!
# Updates of the changelog before and after the commit

A staged path is an update of the changelog if its last component is the name of the changelog, in
whatever directory. Once it is committed it is one of the paths changed in the branch, and there
only the changelog at the root counts. So of the updates that are accepted while they are staged,
those of a changelog in a directory no longer count after the commit.

For the changelog at the root the two agree on a stored repository, too. A commit leaves the place
where the branch began as it is (`Store.OnBranch.commitIndex`), so the paths changed in the branch
are those whose files differ between that place and the last commit, however many commits lie
between (`Store.OnBranch.mem_changed_foldl`).

Main result: `UpdateCheck.counts_committed_iff`.
-/

namespace CommonChangelog

/-! ## Changed paths -/

namespace Snapshot

variable {before after : Snapshot} {path : Text}

theorem read?_of_not_mem {files : Snapshot} (h : path ∉ files.map (·.1)) :
    files.read? path = none := by
  rw [read?, List.lookup_eq_none_iff]
  rintro file hfile
  rw [bne_iff_ne]
  rintro rfl
  exact h (List.mem_map_of_mem hfile)

theorem mem_changed : path ∈ changed before after ↔ before.read? path ≠ after.read? path := by
  rw [changed, List.mem_filter, decide_eq_true_eq, and_iff_right_iff_imp]
  intro hne
  rw [paths, List.mem_mergeSort, List.mem_eraseDups, List.map_append, List.mem_append]
  by_contra hnot
  rw [not_or] at hnot
  exact hne ((read?_of_not_mem hnot.1).trans (read?_of_not_mem hnot.2).symm)

end Snapshot

/-! ## Commits on a branch -/

namespace Store

variable {store other : Store} {name : Text} {target head base n : Nat} {wanted : List Nat}

theorem reach_congr (hrevisions : ∀ k < n, store.revisions[k]? = other.revisions[k]?) :
    store.reach n wanted = other.reach n wanted := by
  induction n generalizing wanted with
  | zero => rfl
  | succ n ih =>
    have hbelow := fun wanted => @ih wanted fun k hk => hrevisions k (Nat.lt_succ_of_lt hk)
    rw [reach, reach, hrevisions n (Nat.lt_succ_self n), hbelow, hbelow]

theorem reach_congr_wanted {others : List Nat} (h : ∀ k < n, k ∈ wanted ↔ k ∈ others) :
    store.reach n wanted = store.reach n others := by
  induction n generalizing wanted others with
  | zero => rfl
  | succ n ih =>
    have hn : wanted.contains n = others.contains n := by
      rw [Bool.eq_iff_iff, List.contains_iff_mem, List.contains_iff_mem]
      exact h n (Nat.lt_succ_self n)
    have hbelow : ∀ k < n, k ∈ wanted ↔ k ∈ others := fun k hk => h k (Nat.lt_succ_of_lt hk)
    rw [reach, reach, hn, ih hbelow]
    split
    · refine congrArg _ (ih fun k hk => ?_)
      rw [List.mem_append, List.mem_append, hbelow k hk]
    · rfl

theorem reach_of_le {m : Nat} (hle : m ≤ n) (h : ∀ k < n, k ∈ wanted → k < m) :
    store.reach n wanted = store.reach m wanted := by
  induction n with
  | zero => rw [Nat.le_zero.1 hle]
  | succ n ih =>
    rcases Nat.lt_or_eq_of_le hle with hlt | rfl
    · have hn : wanted.contains n = false := by
        rw [← Bool.not_eq_true, List.contains_iff_mem]
        intro hmem
        have hm := h n (Nat.lt_succ_self n) hmem
        omega
      rw [reach, hn]
      exact ih (Nat.le_of_lt_succ hlt) fun k hk => h k (Nat.lt_succ_of_lt hk)
    · rfl

theorem lt_of_mem_reach {k : Nat} (h : k ∈ store.reach n wanted) : k < n := by
  induction n generalizing wanted with
  | zero => exact absurd h List.not_mem_nil
  | succ n ih =>
    rw [reach] at h
    split at h
    · rcases List.mem_cons.1 h with rfl | h
      · exact Nat.lt_succ_self k
      · exact Nat.lt_succ_of_lt (ih h)
    · exact Nat.lt_succ_of_lt (ih h)

theorem follow_congr (hrefs : store.refs = other.refs) (hhead : store.head = other.head)
    (n : Nat) (name : Text) : store.follow n name = other.follow n name := by
  induction n generalizing name with
  | zero =>
    rw [follow.eq_def, follow.eq_def other, hrefs, hhead]
    cases other.refs.lookup name with
    | none => rfl
    | some place => cases place <;> rfl
  | succ n ih =>
    rw [follow.eq_def, follow.eq_def other, hrefs, hhead]
    cases other.refs.lookup name with
    | none => rfl
    | some place =>
      cases place with
      | revision k => rfl
      | ref next => exact ih next

theorem resolve_congr (hrefs : store.refs = other.refs) (hhead : store.head = other.head)
    (name : Text) : store.resolve name = other.resolve name := by
  have hfollow : store.follow followLimit = other.follow followLimit :=
    funext fun name => follow_congr hrefs hhead followLimit name
  rw [resolve, resolve, hhead, hfollow]

/-- The index becomes a revision on top of the head, and the head moves to it. -/
def commitIndex (store : Store) (revision : Revision) : Store :=
  { store with
    revisions := store.revisions ++ [{ revision with parents := store.head.toList }]
    head := some store.revisions.length
    index := revision.files }

/--
A branch is checked out that began at the revision `base`: the default branch is called `name`, it
stays at the revision `target` wherever the head moves, and `base` is where the two part.
-/
structure OnBranch (store : Store) (name : Text) (target head base : Nat) : Prop where
  defaultBranch : store.defaultBranch = some name
  resolve : ∀ k, ({ store with head := some k } : Store).resolve name = some target
  target_lt : target < store.revisions.length
  head_eq : store.head = some head
  head_lt : head < store.revisions.length
  mergeBase : store.mergeBase head target = some base

theorem getElem?_commitIndex (revision : Revision) {k : Nat} (hk : k < store.revisions.length) :
    (store.commitIndex revision).revisions[k]? = store.revisions[k]? :=
  List.getElem?_append_left hk

theorem filesOf_commitIndex (revision : Revision) {k : Nat} (hk : k < store.revisions.length) :
    (store.commitIndex revision).filesOf k = store.filesOf k := by
  rw [filesOf, getElem?_commitIndex revision hk, filesOf]

theorem ancestors_commitIndex (revision : Revision) {k : Nat} (hk : k < store.revisions.length) :
    (store.commitIndex revision).ancestors k = store.ancestors k :=
  reach_congr fun _ hj => getElem?_commitIndex revision (Nat.lt_of_lt_of_le hj hk)

namespace OnBranch

theorem base_le (h : store.OnBranch name target head base) : base ≤ head := by
  have hmem := List.mem_mergeSort.1 (List.mem_of_head? h.mergeBase)
  exact Nat.le_of_lt_succ (lt_of_mem_reach (List.mem_filter.1 hmem).1)

theorem base_lt (h : store.OnBranch name target head base) : base < store.revisions.length :=
  Nat.lt_of_le_of_lt h.base_le h.head_lt

/-- The new revision descends from what the head descends from. -/
theorem ancestors_new (h : store.OnBranch name target head base) (revision : Revision) :
    (store.commitIndex revision).ancestors store.revisions.length =
      store.revisions.length :: store.ancestors head := by
  have hparents : ((store.commitIndex revision).revisions[store.revisions.length]?.map
      (·.parents)).getD [] = [head] := by
    rw [commitIndex, List.getElem?_concat_length, h.head_eq]
    rfl
  have hwanted : ∀ k < store.revisions.length,
      k ∈ [store.revisions.length] ++ [head] ↔ k ∈ [head] := by
    intro k hk
    rw [List.singleton_append, List.mem_cons]
    exact or_iff_right (Nat.ne_of_lt hk)
  have hhead : ∀ k < store.revisions.length, k ∈ [head] → k < head + 1 := by
    intro k _ hmem
    rw [List.mem_singleton.1 hmem]
    exact Nat.lt_succ_self head
  rw [ancestors, reach, if_pos (by simp), hparents, reach_congr_wanted hwanted,
    reach_of_le h.head_lt hhead]
  exact congrArg _ (ancestors_commitIndex revision h.head_lt)

/-- A commit does not move the place at which the branch and the default branch part. -/
theorem mergeBase_new (h : store.OnBranch name target head base) (revision : Revision) :
    (store.commitIndex revision).mergeBase store.revisions.length target = some base := by
  have hnew : store.revisions.length ∉ store.ancestors target := fun hmem =>
    Nat.lt_irrefl _ (Nat.lt_of_lt_of_le (lt_of_mem_reach hmem) h.target_lt)
  have hcommitted : ∀ k ∈ (store.ancestors head).filter (store.ancestors target).contains,
      (store.commitIndex revision).committed k = store.committed k := by
    intro k hk
    have hlt : k < store.revisions.length :=
      Nat.lt_of_lt_of_le (lt_of_mem_reach (List.mem_filter.1 hk).1) h.head_lt
    rw [committed, getElem?_commitIndex revision hlt, committed]
  have hsort := List.map_mergeSort (f := id)
    (r := fun m n => decide ((store.commitIndex revision).committed n ≤
      (store.commitIndex revision).committed m))
    (s := fun m n => decide (store.committed n ≤ store.committed m))
    fun m hm n hn => by rw [hcommitted m hm, hcommitted n hn]; rfl
  rw [List.map_id, List.map_id] at hsort
  rw [Store.mergeBase, h.ancestors_new, ancestors_commitIndex revision h.target_lt,
    List.filter_cons_of_neg (by rwa [List.contains_iff_mem]), hsort]
  exact h.mergeBase

/-- **A commit stays on the branch.** -/
theorem commitIndex (h : store.OnBranch name target head base) (revision : Revision) :
    (store.commitIndex revision).OnBranch name target store.revisions.length base where
  defaultBranch := h.defaultBranch
  resolve k := by
    rw [← h.resolve k]
    refine resolve_congr ?_ ?_ name <;> rfl
  target_lt := Nat.lt_of_lt_of_le h.target_lt (by simp [Store.commitIndex])
  head_eq := rfl
  head_lt := by simp [Store.commitIndex]
  mergeBase := h.mergeBase_new revision

theorem changed_eq (h : store.OnBranch name target head base) :
    store.changed =
      (Snapshot.changed (store.filesOf base) (store.filesOf head)).map shownPath := by
  have hresolve : store.resolve name = some target := by
    rw [← h.resolve head]
    refine resolve_congr ?_ ?_ name
    · rfl
    · exact h.head_eq
  have hbase : store.branchBase head = some base := by
    rw [branchBase, h.defaultBranch]
    simp only [hresolve, Option.bind_eq_bind, Option.bind_some]
    exact h.mergeBase
  rw [changed, h.head_eq]
  simp [hbase]

/-- **Commits stay on the branch**, and do not change what it began with. -/
theorem foldl_commitIndex (h : store.OnBranch name target head base) (revisions : List Revision) :
    ∃ last, (revisions.foldl Store.commitIndex store).OnBranch name target last base ∧
      (revisions.foldl Store.commitIndex store).filesOf base = store.filesOf base := by
  induction revisions generalizing store head with
  | nil => exact ⟨head, h, rfl⟩
  | cons revision revisions ih =>
    obtain ⟨last, hlast, hfiles⟩ := ih (h.commitIndex revision)
    exact ⟨last, hlast, hfiles.trans (filesOf_commitIndex revision h.base_lt)⟩

end OnBranch

/-- A path without separators of either kind is shown as it is, and no other path is. -/
theorem shownPath_eq_iff {path shown : Text} (hslash : '/' ∉ shown) (hback : '\\' ∉ shown) :
    shownPath path = shown ↔ path = shown := by
  have hid : ∀ {s : Text}, '\\' ∉ s → shownPath s = s := by
    intro s hs
    refine (List.map_congr_left fun c hc => if_neg ?_).trans (List.map_id s)
    rintro rfl
    exact hs hc
  refine ⟨fun h => ?_, fun h => by rw [h, hid hback]⟩
  rw [← h, hid]
  intro hmem
  exact hslash (h ▸ List.mem_map.2 ⟨'\\', hmem, if_pos rfl⟩)

/--
**A file at the root is changed in the branch if the last commit has it otherwise than the
beginning of the branch**, whatever commits lie between.
-/
theorem OnBranch.mem_changed_foldl (h : store.OnBranch name target head base)
    (earlier : List Revision) (last : Revision) {file : Text} (hslash : '/' ∉ file)
    (hback : '\\' ∉ file) :
    file ∈ ((earlier ++ [last]).foldl Store.commitIndex store).changed ↔
      (store.filesOf base).read? file ≠ last.files.read? file := by
  obtain ⟨previous, hprevious, hbase⟩ := h.foldl_commitIndex earlier
  have hlast : ((earlier.foldl Store.commitIndex store).commitIndex last).filesOf
      (earlier.foldl Store.commitIndex store).revisions.length = last.files := by
    rw [filesOf, Store.commitIndex, List.getElem?_concat_length]
    rfl
  rw [List.foldl_append, List.foldl_cons, List.foldl_nil, (hprevious.commitIndex last).changed_eq,
    List.mem_map, hlast, filesOf_commitIndex last hprevious.base_lt, hbase]
  simp only [shownPath_eq_iff hslash hback, exists_eq_right, Snapshot.mem_changed]

end Store

/-! ## The check -/

namespace UpdateCheck

open Exclusions (components)

variable {repository : Repository} {exclusions : Exclusions} {path : Text}

theorem isChangelog_iff : isChangelog path ↔ (components path).getLast? = some changelogFile := by
  have hname : components changelogFile = [changelogFile] := by decide +kernel
  have hslash : (("/" : Text) ++ changelogFile) = '/' :: changelogFile := rfl
  rw [isChangelog, Bool.or_eq_true, decide_eq_true_eq, hslash, Text.endsWith,
    List.isSuffixOf_iff_suffix]
  constructor
  · rintro (rfl | ⟨directory, rfl⟩)
    · rw [hname]
      rfl
    · rw [components, Text.split_append, ← components, ← components, hname,
        List.getLast?_concat]
  · intro hlast
    obtain ⟨before, hpath⟩ := List.getLast?_eq_some_iff.1 hlast
    have hjoin : path = Text.join ['/'] (before ++ [changelogFile]) := by
      rw [← hpath, components, Text.join_split]
    cases before with
    | nil =>
      rw [List.nil_append, Text.join_singleton] at hjoin
      exact .inl hjoin
    | cons p ps =>
      rw [Text.join_append (List.cons_ne_nil p ps) (List.cons_ne_nil _ []),
        Text.join_singleton] at hjoin
      exact .inr ⟨_, hjoin.symm⟩

theorem run_eq_changelogStaged (staged : Option (List Text)) (skipBranch : Bool)
    (hpath : path ∈ staged.getD repository.staged) (h : isChangelog path) :
    run repository exclusions staged skipBranch = changelogStaged := by
  have hany : (staged.getD repository.staged).any isChangelog := List.any_eq_true.2 ⟨path, hpath, h⟩
  have hempty : (staged.getD repository.staged).isEmpty = false :=
    List.isEmpty_eq_false_iff.2 (List.ne_nil_of_mem hpath)
  rw [run, hempty, hany]
  rfl

/--
**What passes.** Staged files pass if one of them is a changelog, if the changelog at the root was
changed in the branch and the branch counts, or if all of them are excluded.
-/
theorem passed_run_iff (staged : Option (List Text)) (skipBranch : Bool) :
    (run repository exclusions staged skipBranch).passed ↔
      (∃ path ∈ staged.getD repository.staged, isChangelog path) ∨
      (skipBranch = false ∧ changelogFile ∈ repository.changed) ∨
      ∀ path ∈ staged.getD repository.staged, exclusions.excludes path := by
  rw [← List.any_eq_true]
  unfold run
  generalize staged.getD repository.staged = files
  have hbranch : (!skipBranch && repository.changed.contains changelogFile) ↔
      skipBranch = false ∧ changelogFile ∈ repository.changed := by
    rw [Bool.and_eq_true, Bool.not_eq_true', List.contains_iff_mem]
  have hfilter : files.filter (fun path => !exclusions.excludes path) = [] ↔
      ∀ path ∈ files, exclusions.excludes path := by
    simp only [List.filter_eq_nil_iff, Bool.not_eq_true', Bool.not_eq_false]
  dsimp only
  split
  · rename_i hempty
    rw [List.isEmpty_iff] at hempty
    subst hempty
    exact iff_of_true rfl (.inr (.inr fun _ hmem => absurd hmem List.not_mem_nil))
  split
  · rename_i hany
    exact iff_of_true rfl (.inl hany)
  split
  · rename_i hchanged
    exact iff_of_true rfl (.inr (.inl (hbranch.1 hchanged)))
  rename_i hany hchanged
  rw [hbranch] at hchanged
  split
  · rename_i hnil
    exact iff_of_true rfl (.inr (.inr (hfilter.1 hnil)))
  · rename_i hne
    refine iff_of_false Bool.noConfusion ?_
    rintro (h | h | h)
    · exact hany h
    · exact hchanged h
    · exact hne (hfilter.2 h)

/-- Staged together with whatever else, the path satisfies the check as an update. -/
def Accepted (path : Text) : Prop :=
  ∀ repository exclusions staged skipBranch, path ∈ staged.getD repository.staged →
    run repository exclusions staged skipBranch = changelogStaged

/-- Changed in the branch, the path satisfies every later check that looks at the branch. -/
def Counts (path : Text) : Prop :=
  ∀ repository exclusions, path ∈ repository.changed →
    ∀ staged, (run repository exclusions staged false).passed

theorem accepted_iff : Accepted path ↔ isChangelog path := by
  constructor
  · intro h
    have hrun := h {} [] (some [path]) true List.mem_cons_self
    by_contra hnot
    rw [Bool.not_eq_true] at hnot
    rw [run] at hrun
    simp [hnot, Exclusions.excludes, Exclusions.patterns] at hrun
  · intro h repository exclusions staged skipBranch hpath
    exact run_eq_changelogStaged staged skipBranch hpath h

/-- **All staged files pass** if the changelog at the root was changed, or none need an update. -/
theorem forall_passed_iff :
    (∀ staged, (run repository exclusions staged false).passed) ↔
      changelogFile ∈ repository.changed ∨
        ∀ path, isChangelog path ∨ exclusions.excludes path := by
  constructor
  · intro h
    refine or_iff_not_imp_left.2 fun hchanged path => ?_
    rcases (passed_run_iff (some [path]) false).1 (h _) with ⟨p, hp, h⟩ | h | h
    · rw [← List.mem_singleton.1 hp]
      exact .inl h
    · exact absurd h.2 hchanged
    · exact .inr (h path List.mem_cons_self)
  · intro h staged
    refine (passed_run_iff staged false).2 ?_
    rcases h with h | h
    · exact .inr (.inl ⟨rfl, h⟩)
    · by_cases hany : ∃ path ∈ staged.getD repository.staged, isChangelog path
      · exact .inl hany
      · exact .inr (.inr fun path hpath => (h path).resolve_left fun hc => hany ⟨path, hpath, hc⟩)

theorem counts_iff : Counts path ↔ path = changelogFile := by
  constructor
  · intro h
    rcases forall_passed_iff.1 (h { changed := [path] } [] List.mem_cons_self) with hroot | hall
    · exact (List.mem_singleton.1 hroot).symm
    · exact absurd (hall "src/lib.rs") (by decide +kernel)
  · rintro rfl repository exclusions hchanged
    exact forall_passed_iff.2 (.inl hchanged)

/-- A revision with these files; when it is committed its parent is the head. -/
def revisionOf (files : Snapshot) : Revision where
  message := "Update"
  author := "Alice"
  time := 1704103200
  offset := 0
  committed := 1704103200
  parents := []
  files := files

/-- The files with which the branch of the samples begins. -/
def startFiles : Snapshot :=
  [("CHANGELOG.md", "# Changelog\n"), ("docs/CHANGELOG.md", "# Changelog\n"), ("src/lib.rs", "1")]

/-- A branch without commits yet, and an index with these files. -/
def freshBranch (index : Snapshot) : Store where
  revisions := [revisionOf startFiles]
  head := some 0
  refs := [("refs/remotes/origin/main", .revision 0)]
  index := index

theorem onBranch_freshBranch (index : Snapshot) :
    (freshBranch index).OnBranch "origin/main" 0 0 0 where
  defaultBranch := rfl
  resolve _ := rfl
  target_lt := Nat.one_pos
  head_eq := rfl
  head_lt := Nat.one_pos
  mergeBase := congrArg List.head? (List.mergeSort_singleton 0)

/-- The files with an update of the changelog at the root. -/
def rootUpdate : Snapshot := startFiles.put "CHANGELOG.md" "# Changelog\n\n## [Unreleased]\n"

/-- The files with an update of the changelog in a directory. -/
def docsUpdate : Snapshot := startFiles.put "docs/CHANGELOG.md" "# Changelog\n\n## [Unreleased]\n"

end UpdateCheck

end CommonChangelog
