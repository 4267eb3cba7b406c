import CommonChangelog.Proofs.ReferenceForms

/-!
# Every occurrence is found

A search goes on behind what it has read, so in general it misses what begins inside another
reading. The forms of references cannot overlap in this way: each opens with a character that does
not come again in it. For scanners of this kind (`Opens`) a search finds exactly what can be read
at some place of the text.

Main results: `Scanner.Opens.mem_all_iff`, and for the two forms of numbers that have no address
`Reference.mem_all_hashNumber` and `Reference.mem_all_bareNumber`.
-/

namespace CommonChangelog

open Text (isDigit)

namespace Scanner

variable {α : Type} {read : Scanner α} {start s : Text} {x : Char} {a : α} {rest : Text}

theorem read_of_find (h : find read s = some (a, rest)) : read s = some (a, rest) := by
  unfold find at h
  split at h
  · rename_i heq
    split at h
    · rw [heq, h]
    · cases h
  · cases h

theorem Begins.exists_of_mem_all (h : Begins read start) (hm : (a, rest) ∈ all read s) :
    ∃ before t, s = before ++ t ∧ read t = some (a, rest) := by
  induction hn : s.length using Nat.strongRecOn generalizing s with
  | _ n ih =>
    cases s with
    | nil =>
      rw [all_nil] at hm
      exact absurd hm List.not_mem_nil
    | cons c cs =>
      rcases hf : find read (c :: cs) with _ | ⟨b, after⟩
      · rw [all_cons_of_none hf] at hm
        obtain ⟨before, t, rfl, ht⟩ := ih cs.length (by simp [← hn]) hm rfl
        exact ⟨c :: before, t, rfl, ht⟩
      · rw [all_of_find hf] at hm
        rcases List.mem_cons.1 hm with heq | hm
        · cases heq
          exact ⟨[], c :: cs, rfl, read_of_find hf⟩
        · have hlt := find_shorter hf
          obtain ⟨before, t, rfl, ht⟩ := ih after.length (by omega) hm rfl
          obtain ⟨u, hu⟩ := h _ _ _ (read_of_find hf)
          exact ⟨start ++ u ++ before, t, by rw [hu, List.append_assoc _ before t], ht⟩

/-- What the scanner reads is one character and a body in which it does not come again. -/
def Opens (read : Scanner α) (x : Char) : Prop :=
  ∀ s a rest, read s = some (a, rest) → ∃ body, s = x :: body ++ rest ∧ x ∉ body

theorem Opens.begins (h : Opens read x) : Begins read [x] := by
  intro s a rest hr
  obtain ⟨body, rfl, -⟩ := h s a rest hr
  exact ⟨body, rfl⟩

theorem Opens.find_eq (h : Opens read x) (s : Text) : find read s = read s :=
  h.begins.find_eq (List.cons_ne_nil x []) s

/-- A reading in front of another one ends before it. -/
theorem Opens.ends_before (h : Opens read x) {c : Char} {cs t after : Text} {b : α}
    (ht : read t = some (a, rest)) (hr : read (c :: (cs ++ t)) = some (b, after)) :
    ∃ w, after = w ++ t ∧ w.length ≤ cs.length := by
  obtain ⟨body, hbody, hx⟩ := h _ _ _ hr
  rw [List.cons_append, List.cons.injEq] at hbody
  obtain ⟨rfl, hbody⟩ := hbody
  rcases List.append_eq_append_iff.1 hbody with ⟨w, rfl, hw⟩ | ⟨w, rfl, rfl⟩
  · obtain ⟨u, hu, -⟩ := h _ _ _ ht
    cases w with
    | nil => exact ⟨[], hw.symm, Nat.zero_le _⟩
    | cons d w =>
      -- Otherwise `t` begins inside the body, with the character that does not occur there.
      rw [hu, List.cons_append, List.cons_append, List.cons.injEq] at hw
      rw [← hw.1] at hx
      exact absurd (List.mem_append_right cs List.mem_cons_self) hx
  · exact ⟨w, rfl, by simp⟩

/-- Nothing that can be read at some place is skipped. -/
theorem Opens.mem_all (h : Opens read x) {t : Text} (ht : read t = some (a, rest))
    (before : Text) : (a, rest) ∈ all read (before ++ t) := by
  induction hn : before.length using Nat.strongRecOn generalizing before with
  | _ n ih =>
    cases before with
    | nil =>
      rw [List.nil_append, all_of_find ((h.find_eq t).trans ht)]
      exact List.mem_cons_self
    | cons c cs =>
      rw [List.cons_append]
      rcases hf : find read (c :: (cs ++ t)) with _ | ⟨b, after⟩
      · rw [all_cons_of_none hf]
        exact ih cs.length (by simp [← hn]) cs rfl
      · obtain ⟨w, rfl, hw⟩ := h.ends_before ht (read_of_find hf)
        rw [all_of_find hf]
        refine List.mem_cons_of_mem _ (ih w.length ?_ w rfl)
        rw [← hn, List.length_cons]
        omega

/-- **A search finds exactly what can be read at some place of the text.** -/
theorem Opens.mem_all_iff (h : Opens read x) :
    (a, rest) ∈ all read s ↔ ∃ before t, s = before ++ t ∧ read t = some (a, rest) := by
  constructor
  · intro hm
    exact h.begins.exists_of_mem_all hm
  · intro hm
    obtain ⟨before, t, rfl, ht⟩ := hm
    exact h.mem_all ht before

/-- If a reading is a written form and what follows it, a search finds the places of the form. -/
theorem Opens.mem_all_form (h : Opens read x) {form : α → Text → Text} {ok : α → Text → Prop}
    (hread : ∀ t a rest, read t = some (a, rest) ↔ t = form a rest ∧ ok a rest) :
    (a, rest) ∈ all read s ↔ ∃ before, s = before ++ form a rest ∧ ok a rest := by
  rw [h.mem_all_iff]
  simp only [hread]
  constructor
  · intro hm
    obtain ⟨before, t, rfl, rfl, hok⟩ := hm
    exact ⟨before, rfl, hok⟩
  · intro hm
    obtain ⟨before, rfl, hok⟩ := hm
    exact ⟨before, _, rfl, rfl, hok⟩

/-! ## The first place -/

theorem first?_eq_none_iff : first? read s = none ↔ all read s = [] := by
  induction s with
  | nil => simp [first?, all_nil]
  | cons c cs ih =>
    rcases hf : find read (c :: cs) with _ | ⟨b, after⟩
    · rw [all_cons_of_none hf, ← ih]
      simp [first?, hf]
    · simp [first?, hf, all_of_find hf]

/-- The first place is one at which something is found, and before it nothing is. -/
theorem first?_eq_some_iff {before : Text} :
    first? read s = some (before, a, rest) ↔
      ∃ t, s = before ++ t ∧ find read t = some (a, rest) ∧ Silent read before t := by
  induction s generalizing before with
  | nil =>
    constructor
    · intro h
      cases h
    · intro h
      obtain ⟨t, hs, ht, -⟩ := h
      obtain ⟨-, rfl⟩ := List.append_eq_nil_iff.1 hs.symm
      exact absurd (find_shorter ht) (Nat.not_lt_zero _)
  | cons c cs ih =>
    rcases hf : find read (c :: cs) with _ | ⟨b, after⟩
    · simp only [first?, hf, Option.map_eq_some_iff, Prod.mk.injEq, Prod.exists]
      constructor
      · intro h
        obtain ⟨u, a', rest', hfirst, rfl, rfl, rfl⟩ := h
        obtain ⟨t, rfl, ht, hsilent⟩ := ih.1 hfirst
        exact ⟨t, rfl, ht, hsilent.cons hf⟩
      · intro h
        obtain ⟨t, hs, ht, hsilent⟩ := h
        cases before with
        | nil =>
          rw [List.nil_append] at hs
          rw [← hs, hf] at ht
          cases ht
        | cons d u =>
          obtain ⟨rfl, rfl⟩ := List.cons.inj hs
          exact ⟨u, a, rest, ih.2 ⟨t, rfl, ht, hsilent.tail⟩, rfl, rfl, rfl⟩
    · simp only [first?, hf, Option.some.injEq, Prod.mk.injEq]
      constructor
      · intro h
        obtain ⟨rfl, rfl, rfl⟩ := h
        exact ⟨c :: cs, rfl, hf, silent_nil⟩
      · intro h
        obtain ⟨t, hs, ht, hsilent⟩ := h
        cases before with
        | nil =>
          rw [List.nil_append] at hs
          rw [← hs, hf] at ht
          cases ht
          exact ⟨rfl, rfl, rfl⟩
        | cons d u =>
          have hd := hsilent.head
          rw [← List.cons_append, ← hs, hf] at hd
          cases hd

/-- No place before the first one yields anything. -/
theorem length_le_of_first? {before earlier t after : Text} {b : α}
    (h : first? read (earlier ++ t) = some (before, a, rest))
    (ht : find read t = some (b, after)) : before.length ≤ earlier.length := by
  obtain ⟨u, hu, -, hsilent⟩ := first?_eq_some_iff.1 h
  by_contra hlt
  -- Otherwise the other place lies within the part in which nothing is read.
  rcases List.append_eq_append_iff.1 hu with ⟨v, rfl, rfl⟩ | ⟨v, rfl, rfl⟩
  · have hne : v ≠ [] := by
      rintro rfl
      exact hlt (by simp)
    rw [hsilent earlier v rfl hne] at ht
    cases ht
  · exact hlt (by simp)

theorem exists_first?_of_find {t : Text} (ht : find read t = some (a, rest)) (before : Text) :
    ∃ found, first? read (before ++ t) = some found := by
  induction before with
  | nil =>
    cases t with
    | nil => exact absurd (find_shorter ht) (Nat.not_lt_zero _)
    | cons c cs => exact ⟨_, first?_eq_some_iff.2 ⟨c :: cs, rfl, ht, silent_nil⟩⟩
  | cons c cs ih =>
    obtain ⟨found, hfound⟩ := ih
    rw [List.cons_append, first?, hfound]
    cases find read (c :: (cs ++ t)) <;> exact ⟨_, rfl⟩

/-- The form stands in the text with the value `a`, and with no value before that place. -/
def FirstOf (form : α → Text → Text) (ok : α → Text → Prop) (s : Text) (a : α) : Prop :=
  ∃ before rest, s = before ++ form a rest ∧ ok a rest ∧
    ∀ earlier b after, s = earlier ++ form b after → ok b after → before.length ≤ earlier.length

/-- **The first thing that is found is the form at its first place.** -/
theorem Opens.first?_iff (h : Opens read x) {form : α → Text → Text} {ok : α → Text → Prop}
    (hread : ∀ t a rest, read t = some (a, rest) ↔ t = form a rest ∧ ok a rest) :
    (∃ before rest, first? read s = some (before, a, rest)) ↔ FirstOf form ok s a := by
  have hfind : ∀ t b after, find read t = some (b, after) ↔ t = form b after ∧ ok b after :=
    fun t b after => by rw [h.find_eq, hread]
  constructor
  · intro hfirst
    obtain ⟨before, rest, hfirst⟩ := hfirst
    obtain ⟨t, hs, ht, -⟩ := first?_eq_some_iff.1 hfirst
    obtain ⟨rfl, hok⟩ := (hfind _ _ _).1 ht
    refine ⟨before, rest, hs, hok, fun earlier b after hearlier hb => ?_⟩
    rw [hearlier] at hfirst
    exact length_le_of_first? hfirst ((hfind _ _ _).2 ⟨rfl, hb⟩)
  · intro hform
    obtain ⟨before, rest, rfl, hok, hleast⟩ := hform
    have ha := (hfind _ _ _).2 ⟨rfl, hok⟩
    obtain ⟨⟨before', b, after⟩, hfirst⟩ := exists_first?_of_find ha before
    obtain ⟨t, hs, ht, -⟩ := first?_eq_some_iff.1 hfirst
    obtain ⟨rfl, hb⟩ := (hfind _ _ _).1 ht
    have hlength := Nat.le_antisymm (hleast before' b after hs hb) (length_le_of_first? hfirst ha)
    obtain ⟨rfl, hforms⟩ := List.append_inj hs hlength
    rw [hforms, ht] at ha
    cases ha
    exact ⟨before, rest, hfirst⟩

theorem head?_all_of_first? {before : Text} (h : first? read s = some (before, a, rest)) :
    (all read s).head? = some (a, rest) := by
  obtain ⟨t, rfl, ht, hsilent⟩ := first?_eq_some_iff.1 h
  rw [all_of_silent hsilent, all_of_find ht]
  rfl

end Scanner

/-! ## Forms of references -/

namespace Text

theorem isDigit_of_number? {digits : Text} {n : UInt64} (h : number? digits = some n) :
    digits ≠ [] ∧ ∀ c ∈ digits, isDigit c := by
  obtain ⟨hne, hall, -⟩ := number?_eq_some_iff.1 h
  exact ⟨hne, fun c hc => isDigit_of_isAsciiDigit (hall c hc)⟩

theorem not_mem_of_isDigit {c : Char} {digits : Text} (hc : isDigit c = false)
    (h : ∀ d ∈ digits, isDigit d) : c ∉ digits := by
  intro hmem
  rw [h c hmem] at hc
  cases hc

end Text

namespace Reference

open Scanner (Opens all)

variable {s digits rest : Text}

theorem opens_hashNumber : Opens hashNumber '#' := by
  intro s digits rest h
  obtain ⟨rfl, -, hd, -⟩ := hashNumber_eq_some.1 h
  exact ⟨digits, rfl, Text.not_mem_of_isDigit (by decide) hd⟩

theorem opens_markedNumber (x y : Char) (hsign : x ≠ '#') (hne : x ≠ y) (hx : isDigit x = false)
    (hy : isDigit y = false) : Opens (markedNumber x y) x := by
  intro s digits rest h
  obtain ⟨rfl, -, hd⟩ := (markedNumber_eq_some x y hy).1 h
  refine ⟨'#' :: digits ++ [y], by simp, ?_⟩
  have hmem : x ∉ digits := Text.not_mem_of_isDigit hx hd
  simp [hmem, hsign, hne]

theorem opens_bareNumber : Opens bareNumber '(' :=
  opens_markedNumber '(' ')' (by decide) (by decide) (by decide) (by decide)

theorem mem_all_hashNumber :
    (digits, rest) ∈ all hashNumber s ↔
      ∃ before, s = before ++ ('#' :: digits ++ rest) ∧
        digits ≠ [] ∧ (∀ c ∈ digits, isDigit c) ∧ ∀ c ∈ rest.head?, isDigit c = false :=
  opens_hashNumber.mem_all_form fun _ _ _ => hashNumber_eq_some

theorem mem_all_bareNumber :
    (digits, rest) ∈ all bareNumber s ↔
      ∃ before, s = before ++ ('(' :: '#' :: digits ++ ')' :: rest) ∧
        digits ≠ [] ∧ ∀ c ∈ digits, isDigit c :=
  opens_bareNumber.mem_all_form fun _ _ _ => bareNumber_eq_some

/-- These are the digits of the first number in parentheses. -/
def FirstBareNumber (s digits : Text) : Prop :=
  Scanner.FirstOf (fun digits rest => "(#" ++ digits ++ ")" ++ rest)
    (fun digits _ => digits ≠ [] ∧ ∀ c ∈ digits, isDigit c) s digits

/-- These are the digits behind the first number sign that has digits behind it. -/
def FirstHashNumber (s digits : Text) : Prop :=
  Scanner.FirstOf (fun digits rest => "#" ++ digits ++ rest)
    (fun digits rest => digits ≠ [] ∧ (∀ c ∈ digits, isDigit c) ∧
      ∀ c ∈ rest.head?, isDigit c = false) s digits

theorem first?_bareNumber_iff :
    (∃ before rest, Scanner.first? bareNumber s = some (before, digits, rest)) ↔
      FirstBareNumber s digits :=
  opens_bareNumber.first?_iff fun t digits rest => by rw [bareNumber_eq_some]; simp

theorem first?_hashNumber_iff :
    (∃ before rest, Scanner.first? hashNumber s = some (before, digits, rest)) ↔
      FirstHashNumber s digits :=
  opens_hashNumber.first?_iff fun _ _ _ => hashNumber_eq_some

/-- The first number in parentheses is one of those that the text has. -/
theorem exists_of_first?_bareNumber {start : Text}
    (h : Scanner.first? bareNumber s = some (start, digits, rest)) :
    ∃ before, s = before ++ ('(' :: '#' :: digits ++ ')' :: rest) ∧
      digits ≠ [] ∧ ∀ c ∈ digits, isDigit c :=
  mem_all_bareNumber.1 (List.mem_of_mem_head? (Scanner.head?_all_of_first? h))

end Reference

end CommonChangelog
