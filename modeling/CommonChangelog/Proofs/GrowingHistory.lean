import CommonChangelog.Proofs.BumpRuns
import CommonChangelog.Proofs.HistoryImpact

/-!
# More history never lowers the suggestion

The impact of messages has what one of them has. So it depends on which messages there are, but not
on their order or on how often they come, and it grows with them (`Impact.ofMessages_mono`). A
larger impact calls for a bump that is at least as strong, and of two bumps of one version the
stronger one leads higher (`Version.precedence_bump_of_rank`). Both bumps are of the latest release,
which the document has and not the history.

Main result: `NextVersion.suggest_mono`.
-/

namespace CommonChangelog

/-! ## Stronger bumps -/

/-- The place of a bump among the bumps, the weakest first. -/
def Bump.rank : Bump → Nat
  | patch => 0
  | minor => 1
  | major => 2

namespace Version

/-- Of two bumps of a version the stronger one leads higher. -/
theorem precedence_bump_of_rank {v w w' : Version} {kind kind' : Bump}
    (h : kind.rank ≤ kind'.rank) (hw : v.bump kind = .ok w) (hw' : v.bump kind' = .ok w') :
    (precedence w w').isLE := by
  have hrefl : kind = kind' → (precedence w w').isLE := by
    rintro rfl
    rw [hw] at hw'
    cases hw'
    exact Std.ReflCmp.isLE_rfl
  cases kind <;> cases kind'
  case patch.minor => rw [precedence_patch_minor hw hw']; rfl
  case minor.major => rw [precedence_minor_major hw hw']; rfl
  case patch.major =>
    -- The minor number may be the largest, so there need not be a bump between the two.
    obtain ⟨m, -, rfl⟩ := Option.map_eq_some_iff.1 (bump_eq_ok_iff.1 hw)
    obtain ⟨n, hn, rfl⟩ := Option.map_eq_some_iff.1 (bump_eq_ok_iff.1 hw')
    rw [precedence_of_major (successor?_eq_some hn)]
    rfl
  case major.minor | major.patch | minor.patch => exact absurd h (by decide)
  all_goals exact hrefl rfl

theorem following_eq_ok {label : Text} {impact : Impact} {next : Version}
    (h : following label impact = .ok next) :
    ∃ v, ofText label = .ok v ∧ v.bump impact.bump = .ok next := by
  unfold following bumpText at h
  cases hlabel : ofText label with
  | error e =>
    rw [hlabel] at h
    cases h
  | ok v =>
    rw [hlabel] at h
    exact ⟨v, rfl, h⟩

end Version

/-! ## Larger impacts -/

namespace Impact

/-- What the first impact has, the second one has as well. -/
structure PartOf (a b : Impact) : Prop where
  breaking : a.breaking → b.breaking
  features : a.features → b.features
  fixes : a.fixes → b.fixes

variable {a b : Impact}

theorem PartOf.antisymm (h : a.PartOf b) (h' : b.PartOf a) : a = b := by
  obtain ⟨breaking, features, fixes⟩ := a
  obtain ⟨breaking', features', fixes'⟩ := b
  rw [mk.injEq]
  exact ⟨Bool.eq_iff_iff.2 ⟨h.breaking, h'.breaking⟩, Bool.eq_iff_iff.2 ⟨h.features, h'.features⟩,
    Bool.eq_iff_iff.2 ⟨h.fixes, h'.fixes⟩⟩

theorem PartOf.isEmpty (h : a.PartOf b) (hb : b.isEmpty) : a.isEmpty := by
  rw [Impact.isEmpty, decide_eq_true_eq] at hb ⊢
  subst hb
  exact h.antisymm ⟨Bool.noConfusion, Bool.noConfusion, Bool.noConfusion⟩

theorem PartOf.rank_bump (h : a.PartOf b) : a.bump.rank ≤ b.bump.rank := by
  obtain ⟨breaking, features, -⟩ := h
  unfold bump
  by_cases hb : b.breaking
  · rw [if_pos hb]
    split
    · decide
    · split <;> decide
  · rw [if_neg fun ha => hb (breaking ha), if_neg hb]
    by_cases hf : b.features
    · rw [if_pos hf]
      split <;> decide
    · rw [if_neg fun ha => hf (features ha), if_neg hf]

variable {rules : Rules} {messages more : List Text}

theorem field_ofMessages_mono (field : Impact → Bool)
    (hunion : ∀ a b : Impact, field (a.union b) = (field a || field b)) (h : messages ⊆ more)
    (hfield : field (ofMessages rules messages)) : field (ofMessages rules more) := by
  rw [ofMessages, foldl_union field hunion, Bool.or_eq_true, List.any_eq_true] at hfield ⊢
  refine hfield.imp id ?_
  rintro ⟨impact, himpact, hhas⟩
  exact ⟨impact, List.map_subset _ h himpact, hhas⟩

/-- **The impact of messages grows with them.** -/
theorem ofMessages_mono (h : messages ⊆ more) :
    (ofMessages rules messages).PartOf (ofMessages rules more) where
  breaking := field_ofMessages_mono breaking (fun _ _ => rfl) h
  features := field_ofMessages_mono features (fun _ _ => rfl) h
  fixes := field_ofMessages_mono fixes (fun _ _ => rfl) h

end Impact

/-! ## The suggestion -/

namespace NextVersion

theorem commitsAfter_subset {released : Option Text} {history more : List Commit}
    (h : history ⊆ more) : commitsAfter released history ⊆ commitsAfter released more :=
  List.filter_subset _ h

/-- What is pending grows with the history, unless the document has changes of its own. -/
theorem pending_mono {changelog : Changelog}
    (hempty : ∀ release ∈ changelog.unreleased?, release.changes = []) (rules : Rules)
    (latest : Release) {history more : List Commit} (h : history ⊆ more) :
    (pending rules changelog latest history).PartOf (pending rules changelog latest more) := by
  rw [pending_of_no_changes hempty, pending_of_no_changes hempty]
  exact Impact.ofMessages_mono (List.map_subset _ (commitsAfter_subset h))

theorem pending_of_changes {changelog : Changelog} {release : Release}
    (hrelease : changelog.unreleased? = some release) (hchanges : release.changes ≠ [])
    (rules : Rules) (latest : Release) (history : List Commit) :
    pending rules changelog latest history = .ofRelease release := by
  rw [pending, hrelease]
  exact if_neg fun hnil => hchanges (List.isEmpty_iff.1 hnil)

theorem suggest_congr {rules : Rules} {changelog : Changelog} {history more : List Commit}
    (h : ∀ latest, pending rules changelog latest history = pending rules changelog latest more) :
    suggest rules changelog history = suggest rules changelog more := by
  unfold suggest
  split
  · rfl
  · rw [h]

theorem suggestFor_eq_some {latest : Release} {impact : Impact} {suggested : NextVersion}
    (h : suggestFor latest impact = .ok (some suggested)) :
    impact.isEmpty = false ∧ Version.following latest.label impact = .ok suggested.next := by
  unfold suggestFor at h
  split at h
  · cases h
  · rename_i hsome
    refine ⟨Bool.not_eq_true _ ▸ hsome, ?_⟩
    split at h
    · cases h
    · rename_i hnext
      cases h
      exact hnext

theorem suggestFor_eq_none {latest : Release} {impact : Impact}
    (h : suggestFor latest impact = .ok none) : impact.isEmpty := by
  unfold suggestFor at h
  split at h
  · assumption
  · split at h <;> cases h

theorem suggestFor_mono {latest : Release} {a b : Impact} (h : a.PartOf b)
    {suggested higher : NextVersion} (ha : suggestFor latest a = .ok (some suggested))
    (hb : suggestFor latest b = .ok (some higher)) :
    (Version.precedence suggested.next higher.next).isLE := by
  obtain ⟨v, hv, hsuggested⟩ := Version.following_eq_ok (suggestFor_eq_some ha).2
  obtain ⟨w, hw, hhigher⟩ := Version.following_eq_ok (suggestFor_eq_some hb).2
  rw [hv] at hw
  cases hw
  exact Version.precedence_bump_of_rank h.rank_bump hsuggested hhigher

/--
**More history never lowers the suggestion.** Take a document without unreleased changes, and a
history all of whose commits are in another one, in whatever order and however often. If both have
a suggestion, that of the other one is at least as high. If both have the same commits, both have
the same suggestion or fail in the same way. If the first one has a suggestion, the other one does
not come out as nothing pending. With unreleased changes the history does not count at all.
-/
theorem suggest_mono (rules : Rules) (changelog : Changelog) :
    ((∀ release ∈ changelog.unreleased?, release.changes = []) →
      ∀ history more : List Commit, history ⊆ more →
        (∀ suggested higher, suggest rules changelog history = .ok (some suggested) →
          suggest rules changelog more = .ok (some higher) →
          (Version.precedence suggested.next higher.next).isLE) ∧
        (more ⊆ history → suggest rules changelog history = suggest rules changelog more) ∧
        (∀ suggested, suggest rules changelog history = .ok (some suggested) →
          suggest rules changelog more ≠ .ok none)) ∧
    ((∃ release ∈ changelog.unreleased?, release.changes ≠ []) →
      ∀ history other : List Commit,
        suggest rules changelog history = suggest rules changelog other) := by
  constructor
  · intro hempty history more hmore
    have hpart := fun latest => pending_mono hempty rules latest hmore
    refine ⟨?_, ?_, ?_⟩
    · intro suggested higher hsuggested hhigher
      obtain ⟨latest, hlatest, -⟩ := suggest_eq_some hsuggested
      rw [suggest_eq_suggestFor hlatest] at hsuggested hhigher
      exact suggestFor_mono (hpart latest) hsuggested hhigher
    · intro hless
      exact suggest_congr fun latest =>
        (hpart latest).antisymm (pending_mono hempty rules latest hless)
    · intro suggested hsuggested hnone
      obtain ⟨latest, hlatest, -⟩ := suggest_eq_some hsuggested
      rw [suggest_eq_suggestFor hlatest] at hsuggested hnone
      have hpending := (hpart latest).isEmpty (suggestFor_eq_none hnone)
      rw [(suggestFor_eq_some hsuggested).1] at hpending
      cases hpending
  · rintro ⟨release, hrelease, hchanges⟩ history other
    exact suggest_congr fun latest => by
      rw [pending_of_changes hrelease hchanges, pending_of_changes hrelease hchanges]

/-- A commit of the second week of the year. -/
def commitSample (subject : Text) : Commit where
  hash := "1f0c3a7"
  subject
  author := "Alice"
  date := some "2024-01-11T10:00:00+00:00"

/-- A history, and a longer one with an addition that has one of its commits twice. -/
theorem suggest_mono_samples :
    let history := [commitSample "fix: repair crash", commitSample "docs: explain crash"]
    let more := [commitSample "fix: repair crash", commitSample "feat(api): add search",
      commitSample "docs: explain crash", commitSample "fix: repair crash"]
    history ⊆ more ∧
      suggest Rules.default releasedSample history =
        .ok (some ⟨"1.4.2", ⟨false, false, true⟩, .plain 1 4 3⟩) ∧
      suggest Rules.default releasedSample more =
        .ok (some ⟨"1.4.2", ⟨false, true, true⟩, .plain 1 5 0⟩) ∧
      (Version.precedence (.plain 1 4 3) (.plain 1 5 0)).isLE ∧
      suggest Rules.default releasedSample more =
        suggest Rules.default releasedSample (more.reverse ++ history) ∧
      suggest Rules.default pendingSample history = suggest Rules.default pendingSample more := by
  intro history more
  have hmore : history ⊆ more := by decide
  have hless : suggest Rules.default releasedSample history =
      .ok (some ⟨"1.4.2", ⟨false, false, true⟩, .plain 1 4 3⟩) := by decide +kernel
  have hhigher : suggest Rules.default releasedSample more =
      .ok (some ⟨"1.4.2", ⟨false, true, true⟩, .plain 1 5 0⟩) := by decide +kernel
  have hempty : ∀ release ∈ releasedSample.unreleased?, release.changes = [] := by decide
  have hgrows := (suggest_mono Rules.default releasedSample).1 hempty history more hmore
  have hsame := (suggest_mono Rules.default releasedSample).1 hempty more
    (more.reverse ++ history) (by decide)
  have hpending : ∃ release ∈ pendingSample.unreleased?, release.changes ≠ [] :=
    ⟨_, rfl, List.cons_ne_nil _ _⟩
  exact ⟨hmore, hless, hhigher, hgrows.1 _ _ hless hhigher, hsame.2.1 (by decide),
    (suggest_mono Rules.default pendingSample).2 hpending history more⟩

end NextVersion

end CommonChangelog
