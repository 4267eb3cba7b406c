import CommonChangelog.Proofs.Occurrences

/-!
# The numbers of an entry

An entry is read twice: once for its references, and once for what is left when they are removed.
This module says which numbers the first reading records. They are the numbers of the links, and
those in parentheses at every place that is not directly before a closing bracket
(`Reference.mem_bareNumbers_iff`); that a number is already linked only keeps it from being
recorded twice.

The second reading removes numbers in parentheses before a closing bracket as well. Such a number
is lost when no other place of the entry has it.

Main result: `Change.ofEntry_records_number`.
-/

namespace CommonChangelog

namespace Reference

variable {s : Text} {n : UInt64}

/-- The numbers of pull requests and issues in a list of references. -/
def numbers (references : List Reference) : List UInt64 := references.filterMap number?

theorem mem_numbers {references : List Reference} :
    n ∈ numbers references ↔ ∃ reference ∈ references, reference.number? = some n :=
  List.mem_filterMap

theorem numbers_append (as bs : List Reference) : numbers (as ++ bs) = numbers as ++ numbers bs :=
  List.filterMap_append

/-- The bare numbers are those in parentheses at places not directly before a closing bracket. -/
theorem mem_bareNumbers_iff :
    n ∈ bareNumbers s ↔
      ∃ before digits after, s = before ++ ('(' :: '#' :: digits ++ ')' :: after) ∧
        Text.number? digits = some n ∧ after.head? ≠ some ']' := by
  simp only [bareNumbers, List.mem_filterMap, Prod.exists, Option.ite_none_left_eq_some,
    mem_all_bareNumber]
  constructor
  · intro h
    obtain ⟨digits, after, ⟨before, rfl, -⟩, hafter, hn⟩ := h
    exact ⟨before, digits, after, rfl, hn, hafter⟩
  · intro h
    obtain ⟨before, digits, after, rfl, hn, hafter⟩ := h
    exact ⟨digits, after, ⟨before, rfl, Text.isDigit_of_number? hn⟩, hafter, hn⟩

/-! ## Recording -/

theorem mem_numbers_addBare {references : List Reference} {m : UInt64} :
    n ∈ numbers (addBare references m) ↔ n ∈ numbers references ∨ n = m := by
  unfold addBare
  split
  · -- The number is recorded already, and adding it changes nothing.
    rename_i hany
    obtain ⟨reference, hmem, hm⟩ := List.any_eq_true.1 hany
    have hm : m ∈ numbers references := mem_numbers.2 ⟨reference, hmem, of_decide_eq_true hm⟩
    refine ⟨Or.inl, fun h => h.elim id fun h => ?_⟩
    rw [h]
    exact hm
  · rw [numbers_append, List.mem_append]
    simp [numbers, number?]

theorem mem_numbers_foldl_addBare {bare : List UInt64} {references : List Reference} :
    n ∈ numbers (bare.foldl addBare references) ↔ n ∈ numbers references ∨ n ∈ bare := by
  induction bare generalizing references with
  | nil => simp
  | cons m bare ih => rw [List.foldl_cons, ih, mem_numbers_addBare, List.mem_cons, or_assoc]

theorem numbers_commits : numbers (commits s) = [] := by
  simp [numbers, commits, List.filterMap_map, number?]

/-- **The numbers that an entry records are those of its links and its bare numbers.** -/
theorem mem_numbers_extract :
    n ∈ numbers (extract s) ↔ n ∈ numbers (links s) ∨ n ∈ bareNumbers s := by
  rw [extract, numbers_append, numbers_commits, List.append_nil, mem_numbers_foldl_addBare]

end Reference

namespace Change

/--
**A bare number is recorded unless a closing bracket follows.** At every place of an entry where a
number stands in parentheses and the next character is no `]`, the number is that of a reference
of the change.
-/
theorem ofEntry_records_number (s before after : Text) (n : UInt64)
    (hs : s = before ++ "(#" ++ Text.ofWord n ++ ")" ++ after) (hafter : after.head? ≠ some ']') :
    ∃ reference ∈ (Change.ofEntry s).references, reference.number? = some n := by
  refine Reference.mem_numbers.1 (Reference.mem_numbers_extract.2 (Or.inr ?_))
  refine Reference.mem_bareNumbers_iff.2 ⟨before, Text.ofWord n, after, ?_, ?_, hafter⟩
  · rw [hs]
    simp
  · exact Text.number?_ofWord n

/-- Twice the same number, once inside a label. -/
theorem ofEntry_records_number_of_mention :
    ∃ reference ∈ (Change.ofEntry "Mention [(#99)] and (#99) inline").references,
      reference.number? = some 99 :=
  ofEntry_records_number _ "Mention [(#99)] and " " inline" 99 (by decide +kernel) (by decide)

/-- A number that is only in a label is removed from the text and not recorded. -/
theorem ofEntry_loses_number_of_label :
    Text.contains "(#99)" "Mention [(#99)] inline" ∧
    (Change.ofEntry "Mention [(#99)] inline").references = [] ∧
    Text.contains "(#99)" (Change.ofEntry "Mention [(#99)] inline").text = false := by
  decide +kernel

end Change

end CommonChangelog
