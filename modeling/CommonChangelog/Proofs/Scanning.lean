import CommonChangelog.Proofs.Lines
import CommonChangelog.Text.Scan

/-!
# Searching with scanners

A search goes through a text from left to right. Where the scanner is silent it keeps the text;
where it reads something it goes on behind what was read. Most scanners can only read texts that
begin in a certain way (`Begins`), so they are silent on every text in which that beginning does
not occur, whatever follows that cannot complete it.
-/

namespace CommonChangelog

namespace Text

/-! ## Reading from the front -/

/-- A run is as long as possible. -/
theorem run?_eq_some {p : Char → Bool} {s r rest : Text} :
    run? p s = some (r, rest) ↔
      s = r ++ rest ∧ r ≠ [] ∧ (∀ c ∈ r, p c) ∧ ∀ c ∈ rest.head?, p c = false := by
  constructor
  · intro h
    unfold run? at h
    split at h
    · exact absurd h (by simp)
    · rename_i hne
      rw [Option.some.injEq, Prod.mk.injEq] at h
      obtain ⟨rfl, rfl⟩ := h
      refine ⟨List.takeWhile_append_dropWhile.symm, hne, ?_, ?_⟩
      · exact List.all_eq_true.1 List.all_takeWhile
      · intro c hc
        have h := List.head?_dropWhile_not p s
        rw [Option.mem_def.1 hc] at h
        exact h
  · intro h
    obtain ⟨rfl, hne, hr, hs⟩ := h
    have htake : rest.takeWhile p = [] := by
      cases rest with
      | nil => rfl
      | cons c cs => rw [List.takeWhile_cons, hs c rfl]; rfl
    have hdrop : rest.dropWhile p = rest := by
      cases rest with
      | nil => rfl
      | cons c cs => rw [List.dropWhile_cons, hs c rfl]; rfl
    obtain ⟨c, cs, rfl⟩ := List.exists_cons_of_ne_nil hne
    rw [run?, List.takeWhile_append_of_pos hr, List.dropWhile_append_of_pos hr, htake, hdrop,
      List.append_nil]

theorem spanOf_append {p : Char → Bool} {s rest : Text} (hs : ∀ c ∈ s, p c)
    (hrest : ∀ c ∈ rest.head?, p c = false) : spanOf p (s ++ rest) = (s, rest) := by
  rw [spanOf, List.takeWhile_append_of_pos hs, List.dropWhile_append_of_pos hs]
  cases rest with
  | nil => simp
  | cons c cs => simp [hrest c rfl]

/-- What ends a run ends it in a longer text as well. -/
theorem spanOf_append_right {p : Char → Bool} {s run rest : Text}
    (h : spanOf p s = (run, rest)) (hne : rest ≠ []) (t : Text) :
    spanOf p (s ++ t) = (run, rest ++ t) := by
  rw [spanOf, Prod.mk.injEq] at h
  obtain ⟨rfl, hdrop⟩ := h
  obtain ⟨c, rest, rfl⟩ := List.exists_cons_of_ne_nil hne
  have hc : p c = false := by
    have hnot := List.head?_dropWhile_not p s
    rw [hdrop] at hnot
    exact hnot
  have hs : s ++ t = s.takeWhile p ++ (c :: rest ++ t) := by
    rw [← hdrop, ← List.append_assoc, List.takeWhile_append_dropWhile]
  rw [hs]
  exact spanOf_append (List.all_eq_true.1 List.all_takeWhile) (forall_head_cons hc _)

theorem skipOne_of_head {p : Char → Bool} {s : Text} (h : ∀ c ∈ s.head?, p c = false) :
    skipOne p s = s := by
  cases s with
  | nil => rfl
  | cons c cs => rw [skipOne, afterOne?, h c rfl]; rfl

theorem exists_skipOne (p : Char → Bool) (s : Text) :
    ∃ skipped, s = skipped ++ skipOne p s ∧ skipped.length ≤ 1 ∧ ∀ c ∈ skipped, p c := by
  unfold skipOne
  cases s with
  | nil => exact ⟨[], rfl, Nat.zero_le 1, fun _ hc => absurd hc List.not_mem_nil⟩
  | cons c cs =>
    by_cases hc : p c
    · refine ⟨[c], ?_, Nat.le_refl 1, List.forall_mem_singleton.2 hc⟩
      rw [afterOne?, if_pos hc]
      rfl
    · refine ⟨[], ?_, Nat.zero_le 1, fun _ hd => absurd hd List.not_mem_nil⟩
      rw [afterOne?, if_neg hc]
      rfl

theorem afterBlanks?_cons {c : Char} (hc : isBlank c) (s : Text) :
    afterBlanks? (c :: s) = some (trimStart s) := by
  rw [afterBlanks?, run?, List.takeWhile_cons_of_pos hc, List.dropWhile_cons_of_pos hc]
  rfl

end Text

namespace Scanner

variable {α : Type} {read : Scanner α}

/-! ## One place -/

theorem find_of_none {s : Text} (h : read s = none) : find read s = none := by
  rw [find, h]

theorem find_of_some {s rest : Text} {a : α} (h : read s = some (a, rest))
    (hlt : rest.length < s.length) : find read s = some (a, rest) := by
  rw [find, h]
  exact if_pos hlt

theorem all_nil : all read [] = [] := by rw [all]

theorem removeAll_nil : removeAll read [] = [] := by rw [removeAll]

theorem all_of_find {s rest : Text} {a : α} (h : find read s = some (a, rest)) :
    all read s = (a, rest) :: all read rest := by
  cases s with
  | nil => exact absurd (find_shorter h) (Nat.not_lt_zero _)
  | cons c cs =>
    rw [all]
    split
    · rename_i heq
      rw [h] at heq
      cases heq
      rfl
    · rename_i heq
      rw [h] at heq
      cases heq

theorem all_cons_of_none {c : Char} {cs : Text} (h : find read (c :: cs) = none) :
    all read (c :: cs) = all read cs := by
  rw [all]
  split
  · rename_i heq
    rw [h] at heq
    cases heq
  · rfl

theorem removeAll_of_find {s rest : Text} {a : α} (h : find read s = some (a, rest)) :
    removeAll read s = removeAll read rest := by
  cases s with
  | nil => exact absurd (find_shorter h) (Nat.not_lt_zero _)
  | cons c cs =>
    rw [removeAll]
    split
    · rename_i heq
      rw [h] at heq
      cases heq
      rfl
    · rename_i heq
      rw [h] at heq
      cases heq

theorem removeAll_cons_of_none {c : Char} {cs : Text} (h : find read (c :: cs) = none) :
    removeAll read (c :: cs) = c :: removeAll read cs := by
  rw [removeAll]
  split
  · rename_i heq
    rw [h] at heq
    cases heq
  · rfl

theorem removeFirst_of_find {s rest : Text} {a : α} (h : find read s = some (a, rest)) :
    removeFirst read s = rest := by
  cases s with
  | nil => exact absurd (find_shorter h) (Nat.not_lt_zero _)
  | cons c cs =>
    rw [removeFirst, first?, h]
    rfl

theorem removeFirst_cons_of_none {c : Char} {cs : Text} (h : find read (c :: cs) = none) :
    removeFirst read (c :: cs) = c :: removeFirst read cs := by
  rw [removeFirst, first?, h, removeFirst]
  cases first? read cs <;> rfl

/-! ## Silence -/

/-- The scanner reads nothing at the places of `p`, when `s` follows. -/
def Silent (read : Scanner α) (p s : Text) : Prop :=
  ∀ u v, p = u ++ v → v ≠ [] → find read (v ++ s) = none

theorem Silent.tail {c : Char} {p s : Text} (h : Silent read (c :: p) s) : Silent read p s :=
  fun u v huv hv => h (c :: u) v (by rw [huv, List.cons_append]) hv

theorem Silent.head {c : Char} {p s : Text} (h : Silent read (c :: p) s) :
    find read (c :: (p ++ s)) = none :=
  h [] (c :: p) rfl (List.cons_ne_nil c p)

theorem silent_nil {s : Text} : Silent read [] s :=
  fun _ _ huv hv => absurd (List.append_eq_nil_iff.1 huv.symm).2 hv

theorem Silent.cons {c : Char} {p s : Text} (h : Silent read p s)
    (hc : find read (c :: (p ++ s)) = none) : Silent read (c :: p) s := by
  intro u v huv hv
  cases u with
  | nil => rw [← List.nil_append v, ← huv, List.cons_append, hc]
  | cons d u => exact h u v (List.tail_eq_of_cons_eq huv) hv

theorem all_of_silent {p s : Text} (h : Silent read p s) : all read (p ++ s) = all read s := by
  induction p with
  | nil => rfl
  | cons c p ih => rw [List.cons_append, all_cons_of_none h.head, ih h.tail]

theorem removeAll_of_silent {p s : Text} (h : Silent read p s) :
    removeAll read (p ++ s) = p ++ removeAll read s := by
  induction p with
  | nil => rfl
  | cons c p ih => rw [List.cons_append, removeAll_cons_of_none h.head, ih h.tail, List.cons_append]

theorem removeFirst_append_of_silent {p s : Text} (h : Silent read p s) :
    removeFirst read (p ++ s) = p ++ removeFirst read s := by
  induction p with
  | nil => rfl
  | cons c p ih =>
    rw [List.cons_append, removeFirst_cons_of_none h.head, ih h.tail, List.cons_append]

theorem first?_of_silent {p : Text} (h : Silent read p []) : first? read p = none := by
  induction p with
  | nil => rfl
  | cons c p ih =>
    have hc := h.head
    rw [List.append_nil] at hc
    rw [first?, hc, ih h.tail]
    rfl

theorem removeFirst_of_silent {p : Text} (h : Silent read p []) : removeFirst read p = p := by
  rw [removeFirst, first?_of_silent h]

/-! ## How readings begin -/

/-- What the scanner reads begins with `start`, and it leaves what stands behind. -/
def Begins (read : Scanner α) (start : Text) : Prop :=
  ∀ s a rest, read s = some (a, rest) → ∃ t, s = start ++ t ++ rest

variable {start : Text}

theorem Begins.eq_none (h : Begins read start) {s : Text} (hs : ¬start <+: s) : read s = none := by
  rcases hr : read s with _ | ⟨a, rest⟩
  · rfl
  · obtain ⟨t, rfl⟩ := h s a rest hr
    exact absurd ⟨t ++ rest, (List.append_assoc start t rest).symm⟩ hs

theorem Begins.find_eq_none (h : Begins read start) {s : Text} (hs : ¬start <+: s) :
    find read s = none :=
  find_of_none (h.eq_none hs)

theorem Begins.shorter (h : Begins read start) (hne : start ≠ []) {s rest : Text} {a : α}
    (hr : read s = some (a, rest)) : rest.length < s.length := by
  obtain ⟨t, rfl⟩ := h s a rest hr
  have hpos := List.length_pos_iff.2 hne
  simp only [List.length_append]
  omega

/-- A scanner with a beginning consumes what it reads. -/
theorem Begins.find_eq (h : Begins read start) (hne : start ≠ []) (s : Text) :
    find read s = read s := by
  rcases hr : read s with _ | ⟨a, rest⟩
  · exact find_of_none hr
  · exact find_of_some hr (h.shorter hne hr)

/-- A beginning that what follows cannot complete lies in the first text. -/
theorem prefix_of_prefix_append {p s : Text} (hs : ∀ c ∈ s.head?, c ∉ start)
    (h : start <+: p ++ s) : start <+: p := by
  rcases Text.prefix_append_cases h with hp | ⟨w, hne, rfl, hw⟩
  · exact hp
  · obtain ⟨c, w, rfl⟩ := List.exists_cons_of_ne_nil hne
    obtain ⟨t, rfl⟩ := hw
    exact absurd (List.mem_append_right p List.mem_cons_self) (hs c rfl)

/-- A scanner is silent on a text without the character that its readings begin with. -/
theorem Begins.silent_of_not_mem {c : Char} (h : Begins read (c :: start)) {p : Text} (hp : c ∉ p)
    (s : Text) : Silent read p s := by
  intro u v huv hv
  obtain ⟨d, ds, rfl⟩ := List.exists_cons_of_ne_nil hv
  refine h.find_eq_none fun hstart => hp ?_
  rw [huv, (List.cons_prefix_cons.1 hstart).1]
  exact List.mem_append_right u List.mem_cons_self

/-- A scanner is silent on a text in which its beginning does not occur. -/
theorem Begins.silent (h : Begins read start) {p s : Text} (hp : ¬start <:+: p)
    (hs : ∀ c ∈ s.head?, c ∉ start) : Silent read p s := by
  intro u v huv _
  refine h.find_eq_none fun hstart => hp ?_
  rw [huv]
  exact (prefix_of_prefix_append hs hstart).isInfix.trans (List.suffix_append u v).isInfix

end Scanner

end CommonChangelog
