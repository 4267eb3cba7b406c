import CommonChangelog.Proofs.RetrofitOrder
import CommonChangelog.Proofs.TimestampOrder

/-!
# Newest first by the clocks of the authors

A retrofitted release sorts by the dates of its commits as texts, and a date is what the clock of
the author showed. So within a category, among breaking entries and among the others, what the
clocks show goes backward (`Retrofit.ByClock`), and between equal clocks the offset decides. Time
itself goes backward exactly if the clocks agree with it (`Retrofit.ClocksAgree`), as clocks of one
offset do.

Main result: `Retrofit.ofLog_newestFirst_iff`.
-/

namespace CommonChangelog.Retrofit

open Std

/-- A commit with the time of its author: an instant, and the offset of the author's clock. -/
structure TimedCommit where
  hash : Text
  subject : Text
  author : Text
  /-- Seconds since 1970. -/
  seconds : Int
  /-- Minutes from UTC. -/
  offset : Int
  valid_offset : Timestamp.isOffset offset
  valid_year : Timestamp.HasFourDigits (Timestamp.clockYear (Timestamp.clock seconds offset))

namespace TimedCommit

/-- What the author's clock showed, in seconds. -/
def clock (timed : TimedCommit) : Int := Timestamp.clock timed.seconds timed.offset

/-- The entry of the history. -/
def commit (timed : TimedCommit) : Commit where
  hash := timed.hash
  subject := timed.subject
  author := timed.author
  date := Timestamp.render? timed.seconds timed.offset

theorem offset_lt (timed : TimedCommit) : -1440 < timed.offset ∧ timed.offset < 1440 := by
  have h := timed.valid_offset
  rwa [Timestamp.isOffset, Bool.and_eq_true, decide_eq_true_eq, decide_eq_true_eq] at h

end TimedCommit

variable {rules : Rules} {a b : TimedCommit}

/-- Both entries are breaking, or neither is. -/
def SameKind (rules : Rules) (a b : TimedCommit) : Prop :=
  (categorize rules a.commit.subject).breaking = (categorize rules b.commit.subject).breaking

instance : Decidable (SameKind rules a b) := inferInstanceAs (Decidable (_ = _))

theorem latestFirst_date (a b : TimedCommit) :
    latestFirst a.commit.date b.commit.date = (compare b.clock a.clock).then
      (compare (Timestamp.offsetRank b.offset) (Timestamp.offsetRank a.offset)) := by
  simp only [TimedCommit.commit]
  rw [Timestamp.render?_eq a.valid_offset a.valid_year,
    Timestamp.render?_eq b.valid_offset b.valid_year]
  exact Timestamp.order_render b.valid_offset a.valid_offset b.valid_year a.valid_year

/-- Of two entries of a kind the one may stand first whose clock shows more. -/
theorem placing_ne_gt_iff (h : SameKind rules a b) :
    placing rules a.commit b.commit ≠ .gt ↔
      b.clock < a.clock ∨ b.clock = a.clock ∧
        Timestamp.offsetRank b.offset ≤ Timestamp.offsetRank a.offset := by
  have hkind : compareOn (fun commit : Commit => !(categorize rules commit.subject).breaking)
      a.commit b.commit = .eq := by
    rw [compareOn, h]
    exact ReflCmp.compare_self
  rw [placing, compareLex, hkind, Ordering.then, latestFirst_date, ne_eq, Ordering.then_eq_gt,
    Std.compare_eq_gt, Std.compare_eq_iff_eq, Std.compare_eq_gt]
  omega

/-! ## Orders of entries -/

/-- Among entries of a kind, what the clocks show goes backward. -/
def ByClock (rules : Rules) (entries : List TimedCommit) : Prop :=
  entries.Pairwise fun a b => SameKind rules a b → b.clock ≤ a.clock

/-- Among entries of a kind, time goes backward. -/
def NewestFirst (rules : Rules) (entries : List TimedCommit) : Prop :=
  entries.Pairwise fun a b => SameKind rules a b → b.seconds ≤ a.seconds

/--
The clocks agree with time: among entries of a kind, the clock of the later one shows more, or the
same with an offset behind UTC.
-/
def ClocksAgree (rules : Rules) (entries : List TimedCommit) : Prop :=
  ∀ a ∈ entries, ∀ b ∈ entries, SameKind rules a b → a.seconds < b.seconds →
    a.clock < b.clock ∨ a.clock = b.clock ∧ b.offset < 0

variable {entries : List TimedCommit}

theorem byClock_of_ordered
    (h : entries.Pairwise fun a b => placing rules a.commit b.commit ≠ .gt) :
    ByClock rules entries := by
  refine h.imp fun hab hsame => ?_
  have hclock := (placing_ne_gt_iff hsame).1 hab
  omega

theorem newestFirst_iff (h : entries.Pairwise fun a b => placing rules a.commit b.commit ≠ .gt) :
    NewestFirst rules entries ↔ ClocksAgree rules entries := by
  have hclock : ∀ e : TimedCommit, e.clock = e.seconds + e.offset * 60 := fun _ => rfl
  have hrank : ∀ m, Timestamp.offsetRank m = if m < 0 then 1440 - m else m := fun _ => rfl
  constructor
  · intro hnewest
    let agree (a b : TimedCommit) : Prop := SameKind rules a b → a.seconds < b.seconds →
      a.clock < b.clock ∨ a.clock = b.clock ∧ b.offset < 0
    have hself : ∀ e ∈ entries, agree e e := fun e _ _ hlt => absurd hlt (Int.lt_irrefl _)
    have hforward : entries.Pairwise agree :=
      hnewest.imp fun hab hsame hlt => absurd (hab hsame) (Int.not_le.2 hlt)
    have hbackward : entries.Pairwise (flip agree) := by
      refine h.imp fun {b a} hba hsame hlt => ?_
      have hplaced := (placing_ne_gt_iff hsame.symm).1 hba
      have hoffset := a.offset_lt
      simp only [hclock, hrank] at hplaced ⊢
      omega
    exact fun a ha b hb => hforward.forall_of_forall_of_flip hself hbackward ha hb
  · intro hagree
    refine h.imp_of_mem fun {a b} ha hb hab hsame => ?_
    have hplaced := (placing_ne_gt_iff hsame).1 hab
    have hoffset := a.offset_lt
    by_contra hlt
    have hclocks := hagree a ha b hb hsame (Int.not_le.1 hlt)
    simp only [hclock, hrank] at hplaced hclocks
    omega

/-! ## The release -/

/-- The merges of a category, sorted. -/
def placedTimed (rules : Rules) (log : List TimedCommit) (category : Category) :
    List TimedCommit :=
  ((log.filter fun timed => Merged rules timed.commit).filter
    fun timed => categoryOf rules timed.commit = category).mergeSort
      fun a b => (placing rules a.commit b.commit).isLE

theorem map_placedTimed (rules : Rules) (log : List TimedCommit) (category : Category) :
    (placedTimed rules log category).map TimedCommit.commit =
      placed rules (log.map TimedCommit.commit) category := by
  have hmap : ∀ entries : List TimedCommit,
      (entries.mergeSort fun a b => (placing rules a.commit b.commit).isLE).map
          TimedCommit.commit =
        (entries.map TimedCommit.commit).mergeSort fun a b => (placing rules a b).isLE :=
    fun entries => List.map_mergeSort fun _ _ _ _ => rfl
  simp only [placedTimed, placed, hmap, List.filter_map, Function.comp_def]

/--
**A retrofitted release is newest first where clocks agree with time.** Take any commits with
the times of their authors, with clocks that show years of four digits. In each category of the
release, among breaking entries and among the others, what the clocks show goes backward. Time
goes backward exactly if no clock of a later commit shows less than that of an earlier one, or the
same in an offset that is not behind UTC.
-/
theorem ofLog_newestFirst_iff (rules : Rules) (version date : Text) (repository : Option Text)
    (log : List TimedCommit) :
    ∃ (groups : List Group) (placed : Category → List TimedCommit),
      (ofLog rules version date repository (log.map TimedCommit.commit)).changelog.releases =
        [.unreleased, { label := version, date := some date, notice := some notice, groups }] ∧
      (GroupedBy groups fun category =>
        (placed category).map fun timed => changeOf rules repository timed.commit) ∧
      ∀ category,
        StableSort (fun a b : TimedCommit => placing rules a.commit b.commit)
          ((log.filter fun timed => Merged rules timed.commit).filter
            fun timed => categoryOf rules timed.commit = category) (placed category) ∧
        ByClock rules (placed category) ∧
        (NewestFirst rules (placed category) ↔ ClocksAgree rules (placed category)) := by
  have : TransCmp fun a b : TimedCommit => placing rules a.commit b.commit :=
    transCmp_comap TimedCommit.commit
  obtain ⟨groups, hreleases, hgroups⟩ :=
    exists_groups_ofLog rules version date repository (log.map TimedCommit.commit)
  refine ⟨groups, placedTimed rules log, hreleases, ?_, fun category => ?_⟩
  · simpa only [← map_placedTimed, List.map_map, Function.comp_def] using hgroups
  · have hsorted : StableSort (fun a b : TimedCommit => placing rules a.commit b.commit) _
        (placedTimed rules log category) := stableSort_mergeSort _
    exact ⟨hsorted, byClock_of_ordered hsorted.ordered, newestFirst_iff hsorted.ordered⟩

/-- Ten o'clock in London, and an hour later in New York, where it is six in the morning. -/
def zonesSample : List TimedCommit :=
  [{ hash := "", subject := "Add search (#1)", author := "Alice", seconds := 1704103200,
     offset := 0, valid_offset := by decide, valid_year := by decide },
   { hash := "", subject := "Add filters (#2)", author := "Bob", seconds := 1704106800,
     offset := -300, valid_offset := by decide, valid_year := by decide }]

/-- The later commit stands behind the earlier one, although both are of one kind. -/
theorem ofLog_places_later_behind_earlier :
    zonesSample.Pairwise (fun a b => a.seconds < b.seconds) ∧
    zonesSample.Pairwise (SameKind Rules.default) ∧
    ((ofLog Rules.default "1.0.0" "2024-02-01" none
        (zonesSample.map TimedCommit.commit)).changelog.releases.map
          fun release => release.groups.map fun group =>
            (group.category, group.changes.map Change.text)) =
      [[], [(Category.added, (["Add search", "Add filters"] : List Text))]] := by
  refine ⟨by decide, by decide +kernel, ?_⟩
  have hmerges : merges Rules.default (zonesSample.map TimedCommit.commit) =
      zonesSample.map TimedCommit.commit := by decide +kernel
  -- The texts of the dates are in order already.
  have hsorted : ((zonesSample.map TimedCommit.commit).map (entry Rules.default none)).Pairwise
      fun a b => mayPrecede a b := by decide +kernel
  show (changelogOf Rules.default "1.0.0" "2024-02-01" none _).releases.map _ = _
  rw [changelogOf, hmerges, List.mergeSort_of_pairwise hsorted]
  decide +kernel

end CommonChangelog.Retrofit
