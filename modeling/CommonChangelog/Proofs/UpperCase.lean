import CommonChangelog.Proofs.LowerCase
import CommonChangelog.Proofs.SingleLines

/-!
# The first letter in upper case

The tables of upper case are finite, and no letter that they map to is mapped once more. So putting
the first letter of a text in upper case twice is the same as doing it once. What is read as a
letter in any case stays the same for ASCII; elsewhere a new ASCII letter comes up only where the
dotless i and the long s turn into `I` and `S`, and as the first part of a ligature.

Main results: `Text.capitalize_capitalize` and `Text.fold_eq_iff_of_upperChar`.
-/

namespace CommonChangelog.Text

/-! ## Runs that do not meet -/

theorem CaseRun.map?_eq_some {run : CaseRun} {n m : Nat} :
    run.map? n = some m ↔ run.first ≤ n ∧ n ≤ run.last ∧ (n - run.first) % run.step = 0 ∧
      run.target + (n - run.first) = m := by
  rw [map?, Option.ite_none_right_eq_some, Option.some.injEq, Bool.and_eq_true, Bool.and_eq_true,
    decide_eq_true_eq, decide_eq_true_eq, beq_iff_eq, and_assoc, and_assoc]

/--
The code points that the run maps to lie before or behind those that the other run covers, or
between them.
-/
def CaseRun.avoids (run other : CaseRun) : Bool :=
  Nat.blt (run.target + (run.last - run.first)) other.first || Nat.blt other.last run.target ||
    (Nat.beq other.step 2 && (Nat.beq run.step 2 || Nat.beq run.first run.last) &&
      Nat.beq ((run.target + other.first) % 2) 1)

theorem CaseRun.map?_of_avoids {run other : CaseRun} (h : run.avoids other) {n m : Nat}
    (hn : run.map? n = some m) : other.map? m = none := by
  rw [Option.eq_none_iff_forall_ne_some]
  intro k hk
  obtain ⟨hfirst, hlast, hstep, rfl⟩ := CaseRun.map?_eq_some.1 hn
  obtain ⟨hfirst', hlast', hstep', -⟩ := CaseRun.map?_eq_some.1 hk
  simp only [avoids, Bool.or_eq_true, Bool.and_eq_true, Nat.blt_eq, Nat.beq_eq] at h
  rcases h with (hbelow | habove) | ⟨⟨htwo, hparity⟩, hodd⟩
  · omega
  · omega
  · rw [htwo] at hstep'
    have heven : (n - run.first) % 2 = 0 := by
      rcases hparity with hrun | hsingle
      · rwa [hrun] at hstep
      · omega
    omega

/-! ## Letters that stay -/

/-- The first character of the upper case of each letter, as runs. -/
def firstRuns : List CaseRun :=
  upperRuns ++ upperSpecial.map fun entry => ⟨entry.1, entry.1, 1, entry.2.headD 0⟩

theorem firstRuns_avoid : firstRuns.all fun run => firstRuns.all run.avoids := by
  decide +kernel

/-- A letter that no run covers is its own upper case. -/
theorem upperChar_of_uncovered {c : Char} (h : ∀ run ∈ firstRuns, run.map? c.toNat = none) :
    upperChar c = [c] := by
  unfold upperChar
  split
  · rename_i hlt
    have hascii : ∀ n < 0x80, ¬(0x61 ≤ n ∧ n ≤ 0x7a) →
        (Char.ofNat n).toUpper = Char.ofNat n := by decide
    have hletter : ¬(0x61 ≤ c.toNat ∧ c.toNat ≤ 0x7a) := by
      rintro ⟨hfirst, hlast⟩
      have hcovered : CaseRun.map? ⟨0x61, 0x7a, 1, 0x41⟩ c.toNat = some (0x41 + (c.toNat - 0x61)) :=
        CaseRun.map?_eq_some.2 ⟨hfirst, hlast, Nat.mod_one _, rfl⟩
      rw [h ⟨0x61, 0x7a, 1, 0x41⟩ List.mem_cons_self] at hcovered
      cases hcovered
    have hsame := hascii c.toNat hlt hletter
    rw [Char.ofNat_toNat] at hsame
    rw [hsame]
  · have hspecial : upperSpecial.lookup c.toNat = none := by
      rw [List.lookup_eq_none_iff]
      intro entry hentry
      have hcovered := h _ (List.mem_append_right _ (List.mem_map_of_mem hentry))
      rw [bne_iff_ne]
      intro heq
      rw [heq,
        CaseRun.map?_eq_some.2 ⟨Nat.le_refl _, Nat.le_refl _, Nat.mod_one _, rfl⟩] at hcovered
      cases hcovered
    have hruns : (upperRuns.findSome? fun run => run.map? c.toNat) = none := by
      rw [List.findSome?_eq_none_iff]
      exact fun run hrun => h run (List.mem_append_left _ hrun)
    rw [hspecial, mapCase, hruns]

/-- What a run maps to is its own upper case. -/
theorem upperChar_of_map? {run : CaseRun} (hrun : run ∈ firstRuns) {n m : Nat}
    (h : run.map? n = some m) : upperChar (Char.ofNat m) = [Char.ofNat m] := by
  by_cases hzero : Char.ofNat m = Char.ofNat 0
  · rw [hzero]
    decide
  · refine upperChar_of_uncovered fun other hother => ?_
    rw [← eq_toNat_of_ofNat_eq hzero rfl]
    have havoid := List.all_eq_true.1 (List.all_eq_true.1 firstRuns_avoid run hrun) other hother
    exact CaseRun.map?_of_avoids havoid h

/-! ## The upper case of one letter -/

/-- The upper case of a letter is one character, or what the table of longer ones says. -/
theorem upperChar_cases (c : Char) :
    (c.toNat < 0x80 ∧ upperChar c = [c.toUpper]) ∨
    (0x80 ≤ c.toNat ∧ upperChar c = [mapCase upperRuns c]) ∨
    ∃ entry ∈ upperSpecial, c.toNat = entry.1 ∧ upperChar c = entry.2.map Char.ofNat := by
  by_cases hlt : c.toNat < 0x80
  · exact .inl ⟨hlt, if_pos hlt⟩
  · rw [upperChar, if_neg hlt]
    cases hlookup : upperSpecial.lookup c.toNat with
    | none => exact .inr (.inl ⟨Nat.le_of_not_lt hlt, rfl⟩)
    | some ns =>
      obtain ⟨before, after, hsplit, -⟩ := List.lookup_eq_some_iff.1 hlookup
      exact .inr (.inr ⟨(c.toNat, ns), hsplit ▸ List.mem_append_right before List.mem_cons_self,
        rfl, rfl⟩)

theorem mapCase_cases (runs : List CaseRun) (c : Char) :
    (mapCase runs c = c ∧ ∀ run ∈ runs, run.map? c.toNat = none) ∨
    ∃ run ∈ runs, ∃ n, run.map? c.toNat = some n ∧ mapCase runs c = Char.ofNat n := by
  unfold mapCase
  split
  · rename_i n hrun
    obtain ⟨run, hmem, hmapped⟩ := List.exists_of_findSome?_eq_some hrun
    exact .inr ⟨run, hmem, n, hmapped, rfl⟩
  · rename_i hnone
    exact .inl ⟨rfl, List.findSome?_eq_none_iff.1 hnone⟩

theorem length_upperSpecial : ∀ entry ∈ upperSpecial, 2 ≤ entry.2.length ∧ entry.2.length ≤ 3 := by
  decide +kernel

theorem exists_upperChar (c : Char) : ∃ d ds, upperChar c = d :: ds ∧ upperChar d = [d] := by
  rcases upperChar_cases c with ⟨hlt, hupper⟩ | ⟨hge, hupper⟩ | ⟨entry, hentry, hcode, hupper⟩
  · have hascii : ∀ n < 0x80, upperChar (Char.ofNat n).toUpper = [(Char.ofNat n).toUpper] := by
      decide
    exact ⟨c.toUpper, [], hupper,
      forall_ascii (p := fun c => upperChar c.toUpper = [c.toUpper]) hascii hlt⟩
  · refine ⟨mapCase upperRuns c, [], hupper, ?_⟩
    rcases mapCase_cases upperRuns c with ⟨hsame, -⟩ | ⟨run, hrun, n, hn, hmapped⟩
    · rw [hsame] at hupper ⊢
      exact hupper
    · rw [hmapped]
      exact upperChar_of_map? (List.mem_append_left _ hrun) hn
  · obtain ⟨n, ns, hns⟩ : ∃ n ns, entry.2 = n :: ns := by
      refine List.exists_cons_of_ne_nil fun hnil => ?_
      have hlength := (length_upperSpecial entry hentry).1
      rw [hnil] at hlength
      exact absurd hlength (by decide)
    refine ⟨Char.ofNat n, ns.map Char.ofNat, by rw [hupper, hns, List.map_cons], ?_⟩
    refine upperChar_of_map? (List.mem_append_right _ (List.mem_map_of_mem hentry))
      (n := entry.1) (CaseRun.map?_eq_some.2 ⟨Nat.le_refl _, Nat.le_refl _, Nat.mod_one _, ?_⟩)
    rw [hns]
    exact Nat.add_eq_left.2 (Nat.sub_self _)

theorem length_upperChar_le (c : Char) : (upperChar c).length ≤ 3 := by
  rcases upperChar_cases c with ⟨-, hupper⟩ | ⟨-, hupper⟩ | ⟨entry, hentry, -, hupper⟩
  · rw [hupper]
    exact Nat.le_add_left 1 2
  · rw [hupper]
    exact Nat.le_add_left 1 2
  · rw [hupper, List.length_map]
    exact (length_upperSpecial entry hentry).2

/-! ## Texts -/

@[simp]
theorem capitalize_capitalize (s : Text) : capitalize (capitalize s) = capitalize s := by
  cases s with
  | nil => rfl
  | cons c cs =>
    obtain ⟨d, ds, hupper, hfixed⟩ := exists_upperChar c
    rw [capitalize, hupper, List.cons_append, capitalize, hfixed, List.singleton_append]

theorem length_capitalize_le (s : Text) : (capitalize s).length ≤ s.length + 2 := by
  cases s with
  | nil => exact Nat.zero_le 2
  | cons c cs =>
    have hle := length_upperChar_le c
    rw [capitalize, List.length_append, List.length_cons]
    omega

/-- No letter beyond ASCII is read as an ASCII letter, `s` and `k` apart. -/
theorem lt_of_fold {c : Char} (h : isPlainLetter (fold c)) (hk : fold c ≠ 'k') :
    c.toNat < 0x80 := by
  rw [isPlainLetter, Bool.and_eq_true] at h
  rcases cases_of_isLetter h.1 with rfl | rfl | ⟨hlt, -⟩
  · exact absurd h.2 (by decide)
  · exact absurd rfl hk
  · exact hlt

/--
A letter whose upper case is one character is read as the same letter before and after. This leaves
out `i`, `k` and `s`, of which there are other small or capital forms.
-/
theorem fold_eq_iff_of_upperChar {c d p : Char} (h : upperChar c = [d]) (hp : isPlainLetter p)
    (hi : p ≠ 'i') (hk : p ≠ 'k') : fold d = p ↔ fold c = p := by
  rcases upperChar_cases c with ⟨hlt, hupper⟩ | ⟨hge, hupper⟩ | ⟨entry, hentry, -, hupper⟩
  · have hascii : ∀ n < 0x80, fold (Char.ofNat n).toUpper = fold (Char.ofNat n) := by decide
    rw [hupper, List.cons.injEq] at h
    rw [← h.1, forall_ascii (p := fun c => fold c.toUpper = fold c) hascii hlt]
  · have hc : fold c ≠ p := by
      rintro rfl
      exact absurd (lt_of_fold hp hk) (Nat.not_lt.2 hge)
    refine iff_of_false ?_ hc
    rintro rfl
    have hlt := lt_of_fold hp hk
    rw [hupper, List.cons.injEq] at h
    obtain ⟨rfl, -⟩ := h
    rcases mapCase_cases upperRuns c with ⟨hsame, -⟩ | ⟨run, hrun, n, hn, hmapped⟩
    · exact hc (by rw [hsame])
    · -- The runs that lead back to ASCII lead to `I` and `S`.
      have hback : ∀ run ∈ upperRuns, run.last < 0x80 ∨ 0x80 ≤ run.target ∨
          (run.first = run.last ∧ (run.target = 'I'.toNat ∨ run.target = 'S'.toNat)) := by
        decide +kernel
      obtain ⟨hfirst, hlast, -, rfl⟩ := CaseRun.map?_eq_some.1 hn
      rw [hmapped] at hp hi hlt
      rcases hback run hrun with hbelow | habove | ⟨hsingle, htarget⟩
      · exact absurd (Nat.le_trans hge hlast) (Nat.not_le.2 hbelow)
      · have hzero : Char.ofNat (run.target + (c.toNat - run.first)) ≠ Char.ofNat 0 := by
          intro hzero
          rw [hzero] at hp
          exact absurd hp (by decide)
        have hcode := eq_toNat_of_ofNat_eq hzero rfl
        omega
      · have hdistance : c.toNat - run.first = 0 := by omega
        rw [hdistance, Nat.add_zero] at hp hi
        rcases htarget with htarget | htarget <;> rw [htarget] at hp hi
        · exact absurd rfl hi
        · exact absurd hp (by decide)
  · have hlength := (length_upperSpecial entry hentry).1
    rw [← List.length_map (f := Char.ofNat), ← hupper, h] at hlength
    exact absurd hlength (Nat.not_succ_le_self 1)

end CommonChangelog.Text
