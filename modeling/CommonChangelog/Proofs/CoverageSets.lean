import CommonChangelog.Proofs.CoveredNumbers
import CommonChangelog.Proofs.StableSort
import Mathlib.Data.Finset.Card
import Mathlib.Data.List.Sort

/-!
# Coverage compares sets

The lists that coverage works with rise strictly (`rising_ofLog`, `rising_ofChangelog`), so they are
determined by their members. Hence neither order nor repetition matters: the numbers of a history
depend only on which commits of people are in it (`ofLog_congr`), and the comparison is that of two
sets.

Main result: `compares_sets`.
-/

namespace CommonChangelog.Coverage

variable {n : UInt64} {ns : List UInt64}

/-! ## Sets as rising lists -/

/-- The list rises strictly, so no number comes twice. -/
def Rising (ns : List UInt64) : Prop := ns.Pairwise (· < ·)

theorem rising_sortedSet (ns : List UInt64) : Rising (sortedSet ns) := by
  have hsorted : (ns.mergeSort (· ≤ ·)).Pairwise fun a b => decide (a ≤ b) :=
    List.pairwise_mergeSort (by simpa using fun _ _ _ => UInt64.le_trans)
      (by simpa using UInt64.le_total) ns
  refine (pairwise_eraseDups hsorted).imp fun h => ?_
  exact UInt64.lt_of_le_of_ne (of_decide_eq_true h.1) h.2

theorem Rising.filter (h : Rising ns) (p : UInt64 → Bool) : Rising (ns.filter p) :=
  List.Pairwise.filter p h

theorem rising_ofChangelog (content : Text) : Rising (ofChangelog content) :=
  rising_sortedSet _

theorem length_sortedSet (ns : List UInt64) : (sortedSet ns).length = ns.toFinset.card := by
  have hnodup : (sortedSet ns).Nodup := List.Pairwise.nodup (rising_sortedSet ns)
  rw [← List.toFinset_card_of_nodup hnodup]
  congr 1
  ext n
  rw [List.mem_toFinset, List.mem_toFinset, mem_sortedSet]

/-! ## The history -/

variable {rules : Rules}

/--
The subject has a number sign and right behind it, up to the next character that is no digit, ASCII
digits of this value.
-/
def Mentions (subject : Text) (n : UInt64) : Prop :=
  ∃ before digits after, subject = before ++ ('#' :: digits ++ after) ∧
    (digits ≠ [] ∧ (∀ c ∈ digits, Text.isAsciiDigit c) ∧ Text.digitsValue digits = n.toNat) ∧
    ∀ c ∈ after.head?, Text.isDigit c = false

theorem mem_mentions_iff {subject : Text} : n ∈ mentions subject ↔ Mentions subject n := by
  simp only [mem_mentions, Mentions, Text.number?_eq_some_iff]

theorem rising_ofLog (rules : Rules) (log : List Commit) : Rising (ofLog rules log) :=
  rising_sortedSet _

/-- **Only which commits of people there are matters to the numbers of a history.** -/
theorem ofLog_congr {log other : List Commit}
    (h : ∀ commit, rules.isAutomation commit.author = false → (commit ∈ log ↔ commit ∈ other)) :
    ofLog rules log = ofLog rules other := by
  refine (rising_ofLog rules log).eq_of_mem_iff (rising_ofLog rules other) fun n => ?_
  rw [mem_ofLog, mem_ofLog]
  refine exists_congr fun commit => ?_
  rw [and_left_comm, and_left_comm (a := commit ∈ other)]
  exact and_congr_right fun hauthor => and_congr_left fun _ => h commit hauthor

/-! ## The comparison -/

theorem mem_extra {history changelog : List UInt64} :
    n ∈ (compare history changelog).extra ↔ n ∈ changelog ∧ n ∉ history := by
  show n ∈ (compare changelog history).missing ↔ _
  exact mem_missing

/--
**Coverage is a comparison of sets.** The numbers of a history rise strictly; they are those that
subjects of commits mention whose author is no automation account. So they stay the same if
commits are moved or repeated, and whatever commits of automation accounts come or go.

Of two lists of numbers, in any order and with repetitions, the result holds what is in the first
only and what is in the second only, both rising strictly, and how many different numbers the first
one has. It passes exactly if the second list has all numbers of the first. If the lists are
exchanged, so are the two differences.
-/
theorem compares_sets (rules : Rules) :
    (∀ log, Rising (ofLog rules log) ∧
      ∀ n, n ∈ ofLog rules log ↔
        ∃ commit ∈ log, rules.isAutomation commit.author = false ∧ Mentions commit.subject n) ∧
    (∀ log other, (∀ commit, rules.isAutomation commit.author = false →
        (commit ∈ log ↔ commit ∈ other)) → ofLog rules log = ofLog rules other) ∧
    ∀ history changelog : List UInt64,
      let result := compare history changelog
      (Rising result.missing ∧ ∀ n, n ∈ result.missing ↔ n ∈ history ∧ n ∉ changelog) ∧
      (Rising result.extra ∧ ∀ n, n ∈ result.extra ↔ n ∈ changelog ∧ n ∉ history) ∧
      result.total = history.toFinset.card ∧
      (result.passed ↔ ∀ n ∈ history, n ∈ changelog) ∧
      (compare changelog history).missing = result.extra ∧
      (compare changelog history).extra = result.missing := by
  refine ⟨fun log => ⟨rising_ofLog rules log, fun n => ?_⟩, fun _ _ => ofLog_congr,
    fun history changelog => ?_⟩
  · simp only [mem_ofLog, mem_mentions_iff]
  · exact ⟨⟨(rising_sortedSet history).filter _, fun _ => mem_missing⟩,
      ⟨(rising_sortedSet changelog).filter _, fun _ => mem_extra⟩,
      length_sortedSet history, passed_compare_iff, rfl, rfl⟩

end CommonChangelog.Coverage
