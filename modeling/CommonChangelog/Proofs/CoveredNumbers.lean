import CommonChangelog.Coverage
import CommonChangelog.Proofs.EntryNumbers

/-!
# What coverage compares

Coverage compares two sets of numbers. The history has those after a number sign; the changelog
has those between brackets, and those between parentheses that no closing bracket follows. Both
are described here by the places of the text at which they stand, so that neither the order in
which they are found nor how often matters.

Main results: `mem_ofLog`, `mem_ofChangelog` and `passed_compare_iff`.
-/

namespace CommonChangelog.Coverage

open Scanner (Opens)

variable {n : UInt64}

theorem mem_sortedSet {ns : List UInt64} : n ∈ sortedSet ns ↔ n ∈ ns := by
  rw [sortedSet, List.mem_eraseDups, List.mem_mergeSort]

theorem mem_numbers {found : List (Text × Text)} :
    n ∈ numbers found ↔ ∃ digits rest, (digits, rest) ∈ found ∧ Text.number? digits = some n := by
  simp only [numbers, List.mem_filterMap, Prod.exists]

/-! ## The history -/

/-- The numbers after number signs in a subject. -/
def mentions (subject : Text) : List UInt64 := numbers (Scanner.all Reference.hashNumber subject)

theorem mem_mentions {subject : Text} :
    n ∈ mentions subject ↔
      ∃ before digits after, subject = before ++ ('#' :: digits ++ after) ∧
        Text.number? digits = some n ∧ ∀ c ∈ after.head?, Text.isDigit c = false := by
  simp only [mentions, mem_numbers, Reference.mem_all_hashNumber]
  constructor
  · intro h
    obtain ⟨digits, after, ⟨before, rfl, -, -, hafter⟩, hn⟩ := h
    exact ⟨before, digits, after, rfl, hn, hafter⟩
  · intro h
    obtain ⟨before, digits, after, rfl, hn, hafter⟩ := h
    obtain ⟨hne, hdigits⟩ := Text.isDigit_of_number? hn
    exact ⟨digits, after, ⟨before, rfl, hne, hdigits, hafter⟩, hn⟩

theorem mem_ofLog {rules : Rules} {log : List Commit} :
    n ∈ ofLog rules log ↔
      ∃ commit ∈ log, rules.isAutomation commit.author = false ∧ n ∈ mentions commit.subject := by
  simp [ofLog, mem_sortedSet, mentions, and_assoc]

/-! ## The changelog -/

theorem labelledNumber_eq_some {s digits rest : Text} :
    labelledNumber s = some (digits, rest) ↔
      s = '[' :: '#' :: digits ++ ']' :: rest ∧ digits ≠ [] ∧ ∀ c ∈ digits, Text.isDigit c :=
  Reference.markedNumber_eq_some '[' ']' (by decide)

theorem opens_labelledNumber : Opens labelledNumber '[' :=
  Reference.opens_markedNumber '[' ']' (by decide) (by decide) (by decide) (by decide)

theorem mem_all_labelledNumber {s digits rest : Text} :
    (digits, rest) ∈ Scanner.all labelledNumber s ↔
      ∃ before, s = before ++ ('[' :: '#' :: digits ++ ']' :: rest) ∧
        digits ≠ [] ∧ ∀ c ∈ digits, Text.isDigit c :=
  opens_labelledNumber.mem_all_form fun _ _ _ => labelledNumber_eq_some

theorem mem_ofChangelog {content : Text} :
    n ∈ ofChangelog content ↔
      (∃ before digits after, content = before ++ ('[' :: '#' :: digits ++ ']' :: after) ∧
        Text.number? digits = some n) ∨ n ∈ Reference.bareNumbers content := by
  simp only [ofChangelog, mem_sortedSet, List.mem_append, mem_numbers, mem_all_labelledNumber]
  refine or_congr_left ?_
  constructor
  · intro h
    obtain ⟨digits, after, ⟨before, rfl, -⟩, hn⟩ := h
    exact ⟨before, digits, after, rfl, hn⟩
  · intro h
    obtain ⟨before, digits, after, rfl, hn⟩ := h
    exact ⟨digits, after, ⟨before, rfl, Text.isDigit_of_number? hn⟩, hn⟩

/-! ## The comparison -/

theorem mem_missing {history changelog : List UInt64} :
    n ∈ (compare history changelog).missing ↔ n ∈ history ∧ n ∉ changelog := by
  simp [compare, mem_sortedSet]

theorem passed_compare_iff {history changelog : List UInt64} :
    (compare history changelog).passed ↔ ∀ n ∈ history, n ∈ changelog := by
  rw [passed, List.isEmpty_iff, List.eq_nil_iff_forall_not_mem]
  simp only [mem_missing, not_and, not_not]

end CommonChangelog.Coverage
