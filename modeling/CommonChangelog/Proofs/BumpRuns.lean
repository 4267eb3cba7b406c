import CommonChangelog.Proofs.SuggestedVersion

/-!
# Runs of bumps climb

A bump fails only at the largest 64-bit number, and then the version stays as it is. Otherwise it
leads to a plain version of higher precedence. So along a run of bumps, whichever they are and
whichever of them fail, no version ranks below one before it, and each successful bump leads above
all of them.

Bumps respect the order: `Version.NumbersLE` compares the numbers of two versions without their
prereleases, which is what is left of the order after a bump.

Main result: `Version.bumpRun_climbs`.
-/

namespace CommonChangelog.Version

open Std

/-! ## When a bump succeeds -/

/-- The number that a bump increments. -/
def component (v : Version) : Bump → UInt64
  | .major => v.major
  | .minor => v.minor
  | .patch => v.patch

theorem bump?_eq_none_iff {v : Version} {kind : Bump} :
    bump? v kind = none ↔ (v.component kind).toNat = 2 ^ 64 - 1 := by
  cases kind <;> rw [bump?, Option.map_eq_none_iff, successor?_eq_none_iff, component]

theorem bump_eq_ok_iff {v w : Version} {kind : Bump} :
    v.bump kind = .ok w ↔ bump? v kind = some w := by
  unfold bump
  cases bump? v kind <;> simp

theorem bump_eq_error_iff {v : Version} {kind : Bump} {e : Error} :
    v.bump kind = .error e ↔ e = .overflow kind v ∧ (v.component kind).toNat = 2 ^ 64 - 1 := by
  rw [← bump?_eq_none_iff, bump]
  cases bump? v kind <;> simp [eq_comm]

/-! ## Bumps of different kinds -/

theorem precedence_patch_minor {v p m : Version} (hp : v.bump .patch = .ok p)
    (hm : v.bump .minor = .ok m) : precedence p m = .lt := by
  obtain ⟨k, -, rfl⟩ := Option.map_eq_some_iff.1 (bump_eq_ok_iff.1 hp)
  obtain ⟨n, hn, rfl⟩ := Option.map_eq_some_iff.1 (bump_eq_ok_iff.1 hm)
  exact precedence_of_minor rfl (successor?_eq_some hn)

theorem precedence_minor_major {v m j : Version} (hm : v.bump .minor = .ok m)
    (hj : v.bump .major = .ok j) : precedence m j = .lt := by
  obtain ⟨k, -, rfl⟩ := Option.map_eq_some_iff.1 (bump_eq_ok_iff.1 hm)
  obtain ⟨n, hn, rfl⟩ := Option.map_eq_some_iff.1 (bump_eq_ok_iff.1 hj)
  exact precedence_of_major (successor?_eq_some hn)

/-! ## Bumps respect the order -/

/-- The numbers of a version are at most those of another one; the first that differ decide. -/
def NumbersLE (v w : Version) : Prop :=
  v.major < w.major ∨ v.major = w.major ∧
    (v.minor < w.minor ∨ v.minor = w.minor ∧ (v.patch < w.patch ∨ v.patch = w.patch))

theorem NumbersLE.of_precedence {v w : Version} (h : (precedence v w).isLE) : NumbersLE v w := by
  have hnot : precedence w v ≠ .lt := OrientedCmp.not_lt_of_isLE h
  rcases Std.lt_trichotomy v.major w.major with hmajor | hmajor | hmajor
  · exact .inl hmajor
  · refine .inr ⟨hmajor, ?_⟩
    rcases Std.lt_trichotomy v.minor w.minor with hminor | hminor | hminor
    · exact .inl hminor
    · refine .inr ⟨hminor, ?_⟩
      rcases Std.lt_trichotomy v.patch w.patch with hpatch | hpatch | hpatch
      · exact .inl hpatch
      · exact .inr hpatch
      · exact absurd (precedence_of_patch hmajor.symm hminor.symm hpatch) hnot
    · exact absurd (precedence_of_minor hmajor.symm hminor) hnot
  · exact absurd (precedence_of_major hmajor) hnot

theorem NumbersLE.precedence {v w : Version} (h : NumbersLE v w)
    (hprerelease : v.prerelease = w.prerelease) : (precedence v w).isLE := by
  rcases h with hmajor | ⟨hmajor, hminor | ⟨hminor, hpatch | hpatch⟩⟩
  · rw [precedence_of_major hmajor]; rfl
  · rw [precedence_of_minor hmajor hminor]; rfl
  · rw [precedence_of_patch hmajor hminor hpatch]; rfl
  · rw [precedence_eq_eq.2 ⟨hmajor, hminor, hpatch, hprerelease⟩]; rfl

theorem successor?_monotone {m n m' n' : UInt64} (hm : successor? m = some m')
    (hn : successor? n = some n') : (m < n → m' < n') ∧ (m = n → m' = n') := by
  rw [successor?_eq_some_iff] at hm hn
  simp only [UInt64.lt_iff_toNat_lt, ← UInt64.toNat_inj]
  omega

/-- **Bumps respect the order.** -/
theorem bump_monotone {v w v' w' : Version} {kind : Bump} (h : (precedence v w).isLE)
    (hv : v.bump kind = .ok v') (hw : w.bump kind = .ok w') : (precedence v' w').isLE := by
  have hle := NumbersLE.of_precedence h
  rw [bump_eq_ok_iff] at hv hw
  cases kind with
  | major =>
    obtain ⟨m, hm, rfl⟩ := Option.map_eq_some_iff.1 hv
    obtain ⟨n, hn, rfl⟩ := Option.map_eq_some_iff.1 hw
    obtain ⟨hlt, heq⟩ := successor?_monotone hm hn
    refine NumbersLE.precedence ?_ rfl
    rcases hle with hmajor | ⟨hmajor, -⟩
    · exact .inl (hlt hmajor)
    · exact .inr ⟨heq hmajor, .inr ⟨rfl, .inr rfl⟩⟩
  | minor =>
    obtain ⟨m, hm, rfl⟩ := Option.map_eq_some_iff.1 hv
    obtain ⟨n, hn, rfl⟩ := Option.map_eq_some_iff.1 hw
    obtain ⟨hlt, heq⟩ := successor?_monotone hm hn
    refine NumbersLE.precedence ?_ rfl
    rcases hle with hmajor | ⟨hmajor, hminor | ⟨hminor, -⟩⟩
    · exact .inl hmajor
    · exact .inr ⟨hmajor, .inl (hlt hminor)⟩
    · exact .inr ⟨hmajor, .inr ⟨heq hminor, .inr rfl⟩⟩
  | patch =>
    obtain ⟨m, hm, rfl⟩ := Option.map_eq_some_iff.1 hv
    obtain ⟨n, hn, rfl⟩ := Option.map_eq_some_iff.1 hw
    obtain ⟨hlt, heq⟩ := successor?_monotone hm hn
    refine NumbersLE.precedence ?_ rfl
    rcases hle with hmajor | ⟨hmajor, hminor | ⟨hminor, hpatch⟩⟩
    · exact .inl hmajor
    · exact .inr ⟨hmajor, .inl hminor⟩
    · exact .inr ⟨hmajor, .inr ⟨hminor, hpatch.imp hlt heq⟩⟩

/-! ## Runs -/

/-- What a bump leads to; a version whose bump fails stays as it is. -/
def bumped (v : Version) (kind : Bump) : Version :=
  match v.bump kind with
  | .ok next => next
  | .error _ => v

/-- Where a run of bumps leads to. -/
def bumpedBy (v : Version) (kinds : List Bump) : Version := kinds.foldl bumped v

/-- Every version of a run of bumps, from the first to the last. -/
def bumpRun (v : Version) : List Bump → List Version
  | [] => [v]
  | kind :: kinds => v :: bumpRun (v.bumped kind) kinds

/-- A version is read back from its text. -/
def ReadsBack (v : Version) : Prop := ofText v.text = .ok v

theorem ReadsBack.of_ofText {s : Text} {v : Version} (h : ofText s = .ok v) : ReadsBack v := by
  rw [ReadsBack, (wellFormed_of_read (ofText_eq_ok_iff.1 h)).2, h]

theorem readsBack_plain (major minor patch : UInt64) : ReadsBack (plain major minor patch) :=
  ofText_eq_ok_iff.2 (read_plain major minor patch)

theorem bump_eq_ok {v next : Version} {kind : Bump} (h : v.bump kind = .ok next) :
    precedence v next = .lt ∧ next.prerelease = none ∧ next.build = none ∧ ReadsBack next := by
  obtain ⟨hlt, hplain⟩ := bump?_precedence (bump_eq_ok_iff.1 h)
  rw [hplain] at hlt ⊢
  exact ⟨hlt, rfl, rfl, readsBack_plain _ _ _⟩

theorem bumped_cases (v : Version) (kind : Bump) :
    v.bumped kind = v ∨ v.bump kind = .ok (v.bumped kind) := by
  unfold bumped
  cases v.bump kind <;> simp

theorem precedence_bumped (v : Version) (kind : Bump) : (precedence v (v.bumped kind)).isLE := by
  rcases bumped_cases v kind with hsame | hnext
  · rw [hsame]
    exact ReflCmp.isLE_rfl
  · rw [(bump_eq_ok hnext).1]
    rfl

theorem ReadsBack.bumped {v : Version} (h : ReadsBack v) (kind : Bump) :
    ReadsBack (v.bumped kind) := by
  rcases bumped_cases v kind with hsame | hnext
  · rwa [hsame]
  · exact (bump_eq_ok hnext).2.2.2

theorem mem_bumpRun (v : Version) (kinds : List Bump) : v ∈ bumpRun v kinds := by
  cases kinds <;> exact List.mem_cons_self

/-- A run leads to no version below one of its own. -/
theorem precedence_bumpedBy {v earlier : Version} {kinds : List Bump}
    (h : earlier ∈ bumpRun v kinds) : (precedence earlier (v.bumpedBy kinds)).isLE := by
  induction kinds generalizing v earlier with
  | nil =>
    obtain rfl := List.mem_singleton.1 h
    exact ReflCmp.isLE_rfl
  | cons kind kinds ih =>
    rcases List.mem_cons.1 h with rfl | h
    · have hrest := ih (mem_bumpRun (earlier.bumped kind) kinds)
      exact TransCmp.isLE_trans (precedence_bumped earlier kind) hrest
    · exact ih h

theorem ReadsBack.bumpedBy {v : Version} (h : ReadsBack v) (kinds : List Bump) :
    ReadsBack (v.bumpedBy kinds) := by
  induction kinds generalizing v with
  | nil => exact h
  | cons kind kinds ih => exact ih (h.bumped kind)

theorem bumpText_eq {s : Text} {v : Version} (h : ofText s = .ok v) (kind : Bump) :
    bumpText s kind = v.bump kind := by
  rw [bumpText, h]
  rfl

/--
**Runs of bumps climb.** Take any run from a version that a text writes, a failing bump leaving the
version as it is. To bump the version that it leads to is to bump its text. A bump of it fails
exactly if the number to increment is the largest; otherwise it leads above every version of the
run, to a version without prerelease and build that is read back from its text. Of its successful
bumps the one of the patch is below the one of the minor number, and this one below the one of the
major number. And bumps of two versions are in order if the versions are.
-/
theorem bumpRun_climbs {s : Text} {start : Version} (hstart : ofText s = .ok start)
    (kinds : List Bump) :
    let now := start.bumpedBy kinds
    (∀ kind, bumpText now.text kind = now.bump kind) ∧
    (∀ kind e, now.bump kind = .error e ↔
      e = .overflow kind now ∧ (now.component kind).toNat = 2 ^ 64 - 1) ∧
    (∀ kind next, now.bump kind = .ok next →
      (∀ earlier ∈ bumpRun start kinds, precedence earlier next = .lt) ∧
        next.prerelease = none ∧ next.build = none ∧ ofText next.text = .ok next) ∧
    (∀ p m, now.bump .patch = .ok p → now.bump .minor = .ok m → precedence p m = .lt) ∧
    (∀ m j, now.bump .minor = .ok m → now.bump .major = .ok j → precedence m j = .lt) ∧
    (∀ kind v w v' w', (precedence v w).isLE → v.bump kind = .ok v' → w.bump kind = .ok w' →
      (precedence v' w').isLE) := by
  intro now
  have hnow : ReadsBack now := (ReadsBack.of_ofText hstart).bumpedBy kinds
  refine ⟨bumpText_eq hnow, fun kind e => bump_eq_error_iff, ?_, fun p m => precedence_patch_minor,
    fun m j => precedence_minor_major, fun kind v w v' w' => bump_monotone⟩
  intro kind next hnext
  obtain ⟨hlt, hprerelease, hbuild, hback⟩ := bump_eq_ok hnext
  refine ⟨fun earlier hmem => ?_, hprerelease, hbuild, hback⟩
  exact TransCmp.lt_of_isLE_of_lt (precedence_bumpedBy hmem) hlt

/-- A prerelease with a build whose minor number and patch are the largest. -/
def saturatedSample : Text := "0.18446744073709551615.18446744073709551615-rc.1+b"

/-- Only its major number can be incremented; after that the others can be. -/
theorem bumpRun_climbs_saturatedSample :
    ∃ start, ofText saturatedSample = .ok start ∧
      start.bump .patch = .error (.overflow .patch start) ∧
      start.bumpedBy [.patch, .minor, .major] = plain 1 0 0 ∧
      (∀ earlier ∈ bumpRun start [.patch, .minor, .major],
        precedence earlier (plain 1 0 1) = .lt) := by
  have hstart : ofText saturatedSample = .ok
      ⟨0, 18446744073709551615, 18446744073709551615, some "rc.1", some "b", saturatedSample⟩ := by
    decide +kernel
  have hclimbs := bumpRun_climbs hstart [.patch, .minor, .major]
  have hfails := (bumpRun_climbs hstart []).2.1
  exact ⟨_, hstart, (hfails .patch _).2 ⟨rfl, by decide⟩, rfl, (hclimbs.2.2.1 .patch _ rfl).1⟩

end CommonChangelog.Version
