import CommonChangelog.Text.Blank
import CommonChangelog.Text.Digit
import Mathlib.Data.List.Induction

/-!
# Numerals

The numeral of a 64-bit number consists of ASCII digits and denotes the number it was written for.
It is the only text without a leading zero that denotes this number. Digits, of whatever script, are
no blanks.
-/

namespace CommonChangelog

/-- Two tables without a common code point have no common character. -/
theorem Ranges.has_eq_false {table other : Ranges} {c : Char}
    (h : ∀ range ∈ table, ∀ forbidden ∈ other,
      range.2 < forbidden.1 ∨ forbidden.2 < range.1) (hc : table.has c) : other.has c = false := by
  obtain ⟨range, hrange, hc⟩ := List.any_eq_true.1 hc
  rw [Bool.and_eq_true, decide_eq_true_eq, decide_eq_true_eq] at hc
  rw [has, List.any_eq_false]
  intro forbidden hforbidden hboth
  rw [Bool.and_eq_true, decide_eq_true_eq, decide_eq_true_eq] at hboth
  have := h range hrange forbidden hforbidden
  omega

namespace Text

/-- A property of the ASCII characters, checked on their code points. -/
theorem forall_ascii {p : Char → Prop} (h : ∀ n < 0x80, p (Char.ofNat n)) {c : Char}
    (hc : c.toNat < 0x80) : p c := by
  have hp := h c.toNat hc
  rwa [Char.ofNat_toNat] at hp

theorem isAsciiDigit_eq_isDigit (c : Char) : isAsciiDigit c = c.isDigit := by
  rw [isAsciiDigit, Char.isDigit, ← Bool.decide_and, ← Bool.decide_and]
  rfl

theorem lt_of_isAsciiDigit {c : Char} (h : isAsciiDigit c) : c.toNat < 0x80 := by
  rw [isAsciiDigit, Bool.and_eq_true, decide_eq_true_eq, decide_eq_true_eq] at h
  exact Nat.lt_of_le_of_lt (UInt32.le_iff_toNat_le.1 h.2) (by decide)

theorem isDigit_of_isAsciiDigit {c : Char} (h : isAsciiDigit c) : isDigit c := by
  rw [isDigit, if_pos (lt_of_isAsciiDigit h)]
  exact h

theorem isBlank_of_isDigit {c : Char} (h : isDigit c) : isBlank c = false := by
  unfold isDigit at h
  split at h
  · rename_i hlt
    have hascii : ∀ n < 0x80, ('0' ≤ Char.ofNat n && Char.ofNat n ≤ '9') →
        isBlank (Char.ofNat n) = false := by decide
    exact forall_ascii (p := fun c => ('0' ≤ c && c ≤ '9') → isBlank c = false) hascii hlt h
  · exact Ranges.has_eq_false (by decide +kernel) h

theorem ofNat_ne_nil (n : Nat) : ofNat n ≠ [] := Nat.toDigits_ne_nil

theorem isAsciiDigit_of_mem_ofNat {n : Nat} {c : Char} (h : c ∈ ofNat n) : isAsciiDigit c := by
  rw [isAsciiDigit_eq_isDigit]
  exact Nat.isDigit_of_mem_toDigits (by decide) (by decide) h

theorem digitsValue_ofNat (n : Nat) : digitsValue (ofNat n) = n := by
  have h := Nat.ofDigitChars_ten_toDigits (n := n)
  rw [Nat.ofDigitChars_eq_foldl] at h
  simpa only [digitsValue, ofNat, Nat.mul_comm] using h

/-- Exactly the numerals of ASCII digits denote numbers, each of them its value. -/
theorem number?_eq_some_iff {ds : Text} {n : UInt64} :
    number? ds = some n ↔
      ds ≠ [] ∧ (∀ d ∈ ds, isAsciiDigit d) ∧ digitsValue ds = n.toNat := by
  rw [number?, Option.ite_none_right_eq_some, Bool.and_eq_true, Bool.not_eq_true',
    List.isEmpty_eq_false_iff, List.all_eq_true, and_assoc, word64?, Option.ite_none_right_eq_some,
    Option.some.injEq]
  refine and_congr_right fun _ => and_congr_right fun _ => ?_
  constructor
  · rintro ⟨hlt, rfl⟩
    exact (UInt64.toNat_ofNat_of_lt' hlt).symm
  · intro h
    rw [h]
    exact ⟨n.toNat_lt, UInt64.ofNat_toNat⟩

/-- **A numeral denotes the number it was written for.** -/
theorem number?_ofWord (n : UInt64) : number? (ofWord n) = some n :=
  number?_eq_some_iff.2 ⟨ofNat_ne_nil n.toNat, fun _ hc => isAsciiDigit_of_mem_ofNat hc,
    digitsValue_ofNat n.toNat⟩

/-! ## One numeral for each number -/

theorem digitsValue_concat (ds : Text) (d : Char) :
    digitsValue (ds ++ [d]) = digitsValue ds * 10 + (d.toNat - '0'.toNat) := by
  rw [digitsValue, List.foldl_append]
  rfl

theorem digitChar_of_isAsciiDigit {d : Char} (h : isAsciiDigit d) :
    d.toNat - '0'.toNat < 10 ∧ (d.toNat - '0'.toNat).digitChar = d := by
  have hascii : ∀ n < 0x80, isAsciiDigit (Char.ofNat n) →
      (Char.ofNat n).toNat - '0'.toNat < 10 ∧
        ((Char.ofNat n).toNat - '0'.toNat).digitChar = Char.ofNat n := by decide
  exact forall_ascii (p := fun d => isAsciiDigit d → d.toNat - '0'.toNat < 10 ∧
    (d.toNat - '0'.toNat).digitChar = d) hascii (lt_of_isAsciiDigit h) h

theorem ofNat_digitsValue {ds : Text} (hne : ds ≠ []) (hall : ∀ d ∈ ds, isAsciiDigit d)
    (hlead : 1 < ds.length → ds.head? ≠ some '0') : ofNat (digitsValue ds) = ds := by
  induction ds using List.reverseRecOn with
  | nil => exact absurd rfl hne
  | append_singleton ds d ih =>
    obtain ⟨hlt, hchar⟩ := digitChar_of_isAsciiDigit (hall d (by simp))
    rw [digitsValue_concat, ofNat]
    by_cases hnil : ds = []
    · -- One digit.
      subst hnil
      rw [digitsValue, List.foldl_nil, Nat.zero_mul, Nat.zero_add, Nat.toDigits_of_lt_base hlt,
        hchar, List.nil_append]
    · have hhead : ds.head? ≠ some '0' := by
        intro hzero
        refine hlead ?_ (by rw [List.head?_append, hzero]; rfl)
        simpa using List.length_pos_iff.2 hnil
      have hds := ih hnil (fun c hc => hall c (by simp [hc])) fun _ => hhead
      have hpos : digitsValue ds ≠ 0 := by
        intro hzero
        rw [hzero] at hds
        exact hhead (by rw [← hds]; rfl)
      have hdiv : (digitsValue ds * 10 + (d.toNat - '0'.toNat)) / 10 = digitsValue ds := by omega
      have hmod : (digitsValue ds * 10 + (d.toNat - '0'.toNat)) % 10 = d.toNat - '0'.toNat := by
        omega
      rw [Nat.toDigits_of_base_le (by decide) (by omega), hdiv, hmod, hchar, ← ofNat, hds]

/-- **A text without a leading zero that denotes a number is its numeral.** -/
theorem ofWord_of_number? {ds : Text} {n : UInt64} (h : number? ds = some n)
    (hlead : 1 < ds.length → ds.head? ≠ some '0') : ofWord n = ds := by
  obtain ⟨hne, hall, hvalue⟩ := number?_eq_some_iff.1 h
  rw [ofWord, ← hvalue]
  exact ofNat_digitsValue hne hall hlead

end Text

end CommonChangelog
