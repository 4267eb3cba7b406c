import CommonChangelog.Proofs.Lines
import CommonChangelog.Text.Case

/-!
# Words in any case

Lower case goes character by character, and only a capital sigma looks at its neighbours. So a word
of other characters stands in the lower case of a text wherever it stands in the text, in whatever
case. Apart from two characters, what is read as a letter in any case is an ASCII letter.

Main results: `Text.contains_lower` and `Text.contains_lower_ascii`.
-/

namespace CommonChangelog.Text

/-! ## Letters -/

theorem afterFold?_eq_some {start s rest : Text} :
    afterFold? start s = some rest ↔ ∃ w, s = w ++ rest ∧ w.map fold = start := by
  induction start generalizing s with
  | nil => simp [afterFold?, eq_comm]
  | cons p ps ih =>
    cases s with
    | nil => simp [afterFold?]
    | cons c cs =>
      rw [afterFold?, Option.ite_none_right_eq_some, ih]
      constructor
      · intro h
        obtain ⟨rfl, w, rfl, rfl⟩ := h
        exact ⟨c :: w, rfl, rfl⟩
      · intro h
        obtain ⟨w, hw, hstart⟩ := h
        obtain ⟨d, ds, rfl⟩ : ∃ d ds, w = d :: ds :=
          List.exists_cons_of_ne_nil (by rintro rfl; cases hstart)
        rw [List.cons_append, List.cons.injEq] at hw
        rw [List.map_cons, List.cons.injEq] at hstart
        obtain ⟨rfl, rfl⟩ := hw
        exact ⟨hstart.1.symm, ds, rfl, hstart.2⟩

/-- A lower-case ASCII letter. -/
def isLetter (c : Char) : Bool := 'a' ≤ c && c ≤ 'z'

/-- Apart from two characters, what is read as a letter in any case is an ASCII character. -/
theorem cases_of_isLetter {c : Char} (h : isLetter (fold c)) :
    c = 'ſ' ∨ c = '\u212a' ∨ (c.toNat < 0x80 ∧ fold c = c.toLower) := by
  by_cases hs : c = 'ſ'
  · exact .inl hs
  by_cases hk : c = '\u212a'
  · exact .inr (.inl hk)
  have hfold : fold c = c.toLower := by rw [fold, if_neg hs, if_neg hk]
  refine .inr (.inr ⟨?_, hfold⟩)
  rw [hfold, isLetter, Bool.and_eq_true, decide_eq_true_eq, decide_eq_true_eq] at h
  rcases Nat.lt_or_ge c.toNat 0x80 with hlt | hge
  · exact hlt
  · -- Beyond ASCII lower case changes nothing, and there are no letters.
    have hupper : ¬(c.val ≥ 'A'.val ∧ c.val ≤ 'Z'.val) := fun hr =>
      absurd (Nat.le_trans hge (UInt32.le_iff_toNat_le.1 hr.2)) (by decide)
    have hlower : c.toLower = c := dif_neg hupper
    rw [hlower] at h
    exact absurd (Nat.le_trans hge (UInt32.le_iff_toNat_le.1 h.2)) (by decide)

/-- A letter but `s`: any character that is read as one has it as its lower case. -/
def isPlainLetter (c : Char) : Bool := isLetter c && c != 's'

theorem lowerChar_of_fold {c : Char} (h : isPlainLetter (fold c)) :
    lowerChar c = [fold c] ∧ c ≠ 'Σ' := by
  have hletter : isLetter (fold c) := by
    rw [isPlainLetter, Bool.and_eq_true] at h
    exact h.1
  rcases cases_of_isLetter hletter with rfl | rfl | ⟨hlt, hfold⟩
  · exact absurd h (by decide)
  · decide +kernel
  · refine ⟨by rw [lowerChar, if_pos hlt, hfold], ?_⟩
    rintro rfl
    exact absurd hlt (by decide)

/-! ## The lower case of a text -/

/-- The lower case of what is put together ends with the lower case of the second part. -/
theorem exists_lowerAfter_append (before s t : Text) :
    ∃ lowered, lowerAfter before (s ++ t) = lowered ++ lowerAfter (s.reverse ++ before) t := by
  induction s generalizing before with
  | nil => exact ⟨[], rfl⟩
  | cons c s ih =>
    obtain ⟨lowered, h⟩ := ih (c :: before)
    refine ⟨(if c = 'Σ' then [lowerSigma before (s ++ t)] else lowerChar c) ++ lowered, ?_⟩
    rw [List.cons_append, lowerAfter, h, List.reverse_cons, List.append_assoc _ [c] before,
      List.singleton_append, ← List.append_assoc]

/-- Where each character has one lower case by itself, the lower case is that of the characters. -/
theorem lowerAfter_map (g : Char → Char) (before : Text) {w : Text}
    (hw : ∀ c ∈ w, lowerChar c = [g c] ∧ c ≠ 'Σ') (rest : Text) :
    lowerAfter before (w ++ rest) = w.map g ++ lowerAfter (w.reverse ++ before) rest := by
  induction w generalizing before with
  | nil => rfl
  | cons c w ih =>
    rw [List.forall_mem_cons] at hw
    obtain ⟨⟨hlower, hsigma⟩, hw⟩ := hw
    rw [List.cons_append, lowerAfter, if_neg hsigma, hlower, ih (c :: before) hw]
    simp

theorem contains_lower_map {g : Char → Char} {w s : Text}
    (hw : ∀ c ∈ w, lowerChar c = [g c] ∧ c ≠ 'Σ') (h : w <:+: s) :
    contains (w.map g) (lower s) := by
  obtain ⟨before, after, rfl⟩ := h
  obtain ⟨lowered, hlowered⟩ := exists_lowerAfter_append [] before (w ++ after)
  rw [contains_iff, lower, List.append_assoc, hlowered, lowerAfter_map g _ hw]
  exact ⟨lowered, _, List.append_assoc _ _ _⟩

/-- A word that occurs in any case occurs in the lower case of the text. -/
theorem contains_lower {word w s : Text} (hword : word.all isPlainLetter)
    (hfold : w.map fold = word) (h : w <:+: s) : contains word (lower s) := by
  rw [← hfold] at hword ⊢
  refine contains_lower_map (fun c hc => lowerChar_of_fold ?_) h
  exact List.all_eq_true.1 hword _ (List.mem_map_of_mem hc)

/-- A word of ASCII characters that occurs in the text occurs in its lower case. -/
theorem contains_lower_ascii {w s : Text} (hw : ∀ c ∈ w, c.toNat < 0x80) (h : w <:+: s) :
    contains (w.map Char.toLower) (lower s) := by
  refine contains_lower_map (fun c hc => ⟨?_, ?_⟩) h
  · rw [lowerChar, if_pos (hw c hc)]
  · rintro rfl
    exact absurd (hw _ hc) (by decide)

end CommonChangelog.Text
