import CommonChangelog.Document.Reference
import CommonChangelog.Proofs.Numerals
import CommonChangelog.Proofs.Scanning
import Mathlib.Data.Option.Basic

/-!
# Written forms of references

What each scanner of references reads, as an equivalence: the text is the written form and what
stands behind it. Hence each form has a beginning of its own, and none begins with a blank, so
neither extraction nor removal depends on the blanks at the front of a text.
-/

namespace CommonChangelog

open Text (isDigit isBlank trimStart)
open Scanner (find all removeAll Begins Silent)

namespace Reference

/-! ## What is read -/

theorem target_eq_some {s url rest : Text} :
    target s = some (url, rest) ↔
      s = '(' :: url ++ ')' :: rest ∧ url ≠ [] ∧ ')' ∉ url := by
  simp only [target, Option.bind_eq_bind, Option.bind_eq_some_iff, Option.pure_def,
    Option.some.injEq, Prod.mk.injEq, Prod.exists, Text.after?_eq_some, Text.run?_eq_some]
  constructor
  · intro h
    obtain ⟨s₁, rfl, u, s₂, ⟨rfl, hne, hu, -⟩, s₃, rfl, rfl, rfl⟩ := h
    exact ⟨rfl, hne, fun hmem => by simpa using hu _ hmem⟩
  · intro h
    obtain ⟨rfl, hne, hu⟩ := h
    have hmem : ∀ c ∈ url, decide (c ≠ ')') := fun c hc => decide_eq_true fun h => hu (h ▸ hc)
    exact ⟨_, rfl, url, _, ⟨rfl, hne, hmem, Text.forall_head_cons (by rfl) rest⟩, rest, rfl, rfl,
      rfl⟩

theorem hashNumber_eq_some {s digits rest : Text} :
    hashNumber s = some (digits, rest) ↔
      s = '#' :: digits ++ rest ∧ digits ≠ [] ∧ (∀ c ∈ digits, isDigit c) ∧
        ∀ c ∈ rest.head?, isDigit c = false := by
  simp only [hashNumber, Option.bind_eq_bind, Option.bind_eq_some_iff, Text.after?_eq_some,
    Text.run?_eq_some]
  constructor
  · intro h
    obtain ⟨s₁, rfl, rfl, h⟩ := h
    exact ⟨rfl, h⟩
  · intro h
    obtain ⟨rfl, h⟩ := h
    exact ⟨_, rfl, rfl, h⟩

theorem numberLink_eq_some {s digits url rest : Text} :
    numberLink s = some ((digits, url), rest) ↔
      s = '[' :: '#' :: digits ++ ']' :: '(' :: url ++ ')' :: rest ∧
        digits ≠ [] ∧ (∀ c ∈ digits, isDigit c) ∧ url ≠ [] ∧ ')' ∉ url := by
  simp only [numberLink, Option.bind_eq_bind, Option.bind_eq_some_iff, Option.pure_def,
    Option.some.injEq, Prod.mk.injEq, Prod.exists, Text.after?_eq_some, hashNumber_eq_some,
    target_eq_some]
  constructor
  · intro h
    obtain ⟨s₁, rfl, d, s₂, ⟨rfl, hd, hall, -⟩, s₃, rfl, u, s₄, ⟨rfl, hu⟩, ⟨rfl, rfl⟩, rfl⟩ := h
    exact ⟨by simp, hd, hall, hu⟩
  · intro h
    obtain ⟨rfl, hd, hall, hu⟩ := h
    refine ⟨_, rfl, digits, _, ⟨by simp, hd, hall, ?_⟩, _, rfl, url, rest, ⟨rfl, hu⟩,
      ⟨rfl, rfl⟩, rfl⟩
    exact Text.forall_head_cons (by rfl) _

/-- A number sign and digits between two marks. -/
def markedNumber (x y : Char) : Scanner Text := fun s => do
  let rest ← Text.after? [x] s
  let (digits, rest) ← hashNumber rest
  let rest ← Text.after? [y] rest
  return (digits, rest)

theorem markedNumber_eq_some (x y : Char) (hy : isDigit y = false) {s digits rest : Text} :
    markedNumber x y s = some (digits, rest) ↔
      s = x :: '#' :: digits ++ y :: rest ∧ digits ≠ [] ∧ ∀ c ∈ digits, isDigit c := by
  simp only [markedNumber, Option.bind_eq_bind, Option.bind_eq_some_iff, Option.pure_def,
    Option.some.injEq, Prod.mk.injEq, Prod.exists, Text.after?_eq_some, hashNumber_eq_some]
  constructor
  · intro h
    obtain ⟨s₁, rfl, d, s₂, ⟨rfl, hd, hall, -⟩, s₃, rfl, rfl, rfl⟩ := h
    exact ⟨by simp, hd, hall⟩
  · intro h
    obtain ⟨rfl, hd, hall⟩ := h
    refine ⟨_, rfl, digits, _, ⟨by simp, hd, hall, ?_⟩, rest, rfl, rfl, rfl⟩
    exact Text.forall_head_cons hy rest

theorem bareNumber_eq_some {s digits rest : Text} :
    bareNumber s = some (digits, rest) ↔
      s = '(' :: '#' :: digits ++ ')' :: rest ∧ digits ≠ [] ∧ ∀ c ∈ digits, isDigit c :=
  markedNumber_eq_some '(' ')' (by decide)

theorem commitLink_eq_some {s hash url rest : Text} :
    commitLink s = some ((hash, url), rest) ↔
      s = '[' :: '`' :: hash ++ '`' :: ']' :: '(' :: url ++ ')' :: rest ∧
        isHashLength hash.length ∧ (∀ c ∈ hash, isHashDigit c) ∧ url ≠ [] ∧ ')' ∉ url := by
  simp only [commitLink, Option.bind_eq_bind, Option.bind_eq_some_iff, Option.pure_def,
    Option.some.injEq, Prod.mk.injEq, Prod.exists, Text.after?_eq_some, Text.run?_eq_some,
    target_eq_some, Option.guard_eq_some']
  constructor
  · intro h
    obtain ⟨s₁, rfl, h, s₂, ⟨rfl, -, hall, -⟩, -, hlen, s₃, rfl, u, s₄, ⟨rfl, hu⟩, ⟨rfl, rfl⟩,
      rfl⟩ := h
    exact ⟨by simp, hlen, hall, hu⟩
  · intro h
    obtain ⟨rfl, hlen, hall, hu⟩ := h
    have hne : hash ≠ [] := by
      rintro rfl
      exact absurd hlen (by decide)
    refine ⟨_, rfl, hash, _, ⟨by simp, hne, hall, ?_⟩, (), hlen, _, rfl, url, rest, ⟨rfl, hu⟩,
      ⟨rfl, rfl⟩, rfl⟩
    exact Text.forall_head_cons (by rfl) _

theorem parenthesized_eq_some {α : Type} {read : Scanner α} {s rest : Text} {a : α} :
    parenthesized read s = some (a, rest) ↔
      ∃ t, s = '(' :: t ∧ read t = some (a, ')' :: rest) := by
  simp only [parenthesized, Option.bind_eq_bind, Option.bind_eq_some_iff, Option.pure_def,
    Option.some.injEq, Prod.mk.injEq, Prod.exists, Text.after?_eq_some]
  constructor
  · intro h
    obtain ⟨t, rfl, a, _, hr, _, rfl, rfl, rfl⟩ := h
    exact ⟨t, rfl, hr⟩
  · intro h
    obtain ⟨t, rfl, hr⟩ := h
    exact ⟨t, rfl, a, _, hr, rest, rfl, rfl, rfl⟩

/-! ## How written forms begin -/

theorem begins_numberLink : Begins numberLink ['[', '#'] := by
  intro s a rest h
  obtain ⟨rfl, -⟩ := numberLink_eq_some.1 h
  exact ⟨a.1 ++ ']' :: '(' :: a.2 ++ [')'], by simp⟩

theorem begins_bareNumber : Begins bareNumber ['(', '#'] := by
  intro s a rest h
  obtain ⟨rfl, -⟩ := bareNumber_eq_some.1 h
  exact ⟨a ++ [')'], by simp⟩

theorem begins_commitLink : Begins commitLink ['[', '`'] := by
  intro s a rest h
  obtain ⟨rfl, -⟩ := commitLink_eq_some.1 h
  exact ⟨a.1 ++ '`' :: ']' :: '(' :: a.2 ++ [')'], by simp⟩

variable {α : Type} {read : Scanner α} {start : Text}

theorem begins_parenthesized (h : Begins read start) :
    Begins (parenthesized read) ('(' :: start) := by
  intro s a rest hr
  obtain ⟨t, rfl, ht⟩ := parenthesized_eq_some.1 hr
  obtain ⟨u, rfl⟩ := h t a _ ht
  exact ⟨u ++ [')'], by simp⟩

/-! ## Reading behind blanks -/

theorem find_spaced (h : Begins read start) (hne : start ≠ []) (s : Text) :
    find (spaced read) s = read (trimStart s) := by
  have hle : (trimStart s).length ≤ s.length := (List.dropWhile_suffix isBlank).length_le
  rcases hr : read (trimStart s) with _ | ⟨a, rest⟩
  · exact Scanner.find_of_none hr
  · exact Scanner.find_of_some hr (Nat.lt_of_lt_of_le (h.shorter hne hr) hle)

/-- A scanner that skips blanks is silent where the scanner behind the blanks is. -/
theorem silent_spaced (h : Begins read start) (hne : start ≠ []) {p s : Text}
    (hp : ¬start <:+: p) (hlast : ∀ c ∈ p.getLast?, isBlank c = false)
    (hs : ∀ c ∈ s.head?, c ∉ start) : Silent (spaced read) p s := by
  intro u v huv hv
  have hblank : Text.allBlank v = false := by
    rw [Text.allBlank, List.all_eq_false]
    refine ⟨v.getLast hv, List.getLast_mem hv, ?_⟩
    rw [hlast _ (by rw [huv, List.getLast?_append, List.getLast?_eq_some_getLast hv]; rfl)]
    exact Bool.false_ne_true
  rw [find_spaced h hne, Text.trimStart_append hblank]
  refine h.eq_none fun hstart => hp ?_
  have hv : trimStart v <:+ p := by
    rw [huv]
    exact (List.dropWhile_suffix isBlank).trans (List.suffix_append u v)
  exact (Scanner.prefix_of_prefix_append hs hstart).isInfix.trans hv.isInfix

/-- A blank at the front changes nothing but the blanks at the front. -/
theorem trimStart_removeAll_cons (h : Begins read start) (hne : start ≠ []) {c : Char}
    (hc : isBlank c) (s : Text) :
    trimStart (removeAll (spaced read) (c :: s)) = trimStart (removeAll (spaced read) s) := by
  have htrim : trimStart (c :: s) = trimStart s := List.dropWhile_cons_of_pos hc
  have hfind : find (spaced read) (c :: s) = find (spaced read) s := by
    rw [find_spaced h hne, find_spaced h hne, htrim]
  rcases hs : find (spaced read) s with _ | ⟨a, rest⟩
  · rw [Scanner.removeAll_cons_of_none (hfind.trans hs)]
    exact List.dropWhile_cons_of_pos hc
  · rw [Scanner.removeAll_of_find (hfind.trans hs), Scanner.removeAll_of_find hs]

theorem trimStart_removeAll (h : Begins read start) (hne : start ≠ []) (s : Text) :
    trimStart (removeAll (spaced read) (trimStart s)) = trimStart (removeAll (spaced read) s) := by
  induction s with
  | nil => rfl
  | cons c cs ih =>
    by_cases hc : isBlank c
    · have htrim : trimStart (c :: cs) = trimStart cs := List.dropWhile_cons_of_pos hc
      rw [trimStart_removeAll_cons h hne hc, ← ih, htrim]
    · have htrim : trimStart (c :: cs) = c :: cs := List.dropWhile_cons_of_neg hc
      rw [htrim]

theorem trimStart_removeAll_congr (h : Begins read start) (hne : start ≠ []) {s t : Text}
    (hst : trimStart s = trimStart t) :
    trimStart (removeAll (spaced read) s) = trimStart (removeAll (spaced read) t) := by
  rw [← trimStart_removeAll h hne s, hst, trimStart_removeAll h hne]

theorem strip_trimStart (s : Text) : strip (trimStart s) = strip s := by
  have h₀ : trimStart (trimStart s) = trimStart s :=
    Text.trimStart_of_head (Text.head_trimStart s)
  have h₁ := trimStart_removeAll_congr (begins_parenthesized begins_numberLink) (by simp) h₀
  have h₂ := trimStart_removeAll_congr (begins_parenthesized begins_commitLink) (by simp) h₁
  have h₃ := trimStart_removeAll_congr begins_bareNumber (by simp) h₂
  have h₄ := trimStart_removeAll_congr begins_numberLink (by simp) h₃
  have h₅ := trimStart_removeAll_congr begins_commitLink (by simp) h₄
  rw [strip, Text.trim, h₅, ← Text.trim, strip]

theorem all_trimStart {c : Char} (h : Begins read (c :: start)) (hc : isBlank c = false)
    (s : Text) : all read (trimStart s) = all read s := by
  induction s with
  | nil => rfl
  | cons d ds ih =>
    by_cases hd : isBlank d
    · have htrim : trimStart (d :: ds) = trimStart ds := List.dropWhile_cons_of_pos hd
      have hnone : find read (d :: ds) = none := by
        refine h.find_eq_none fun hp => ?_
        rw [(List.cons_prefix_cons.1 hp).1, hd] at hc
        exact Bool.noConfusion hc
      rw [htrim, ih, Scanner.all_cons_of_none hnone]
    · have htrim : trimStart (d :: ds) = d :: ds := List.dropWhile_cons_of_neg hd
      rw [htrim]

theorem extract_trimStart (s : Text) : extract (trimStart s) = extract s := by
  have h₁ := all_trimStart begins_numberLink (by decide) s
  have h₂ := all_trimStart begins_bareNumber (by decide) s
  have h₃ := all_trimStart begins_commitLink (by decide) s
  simp only [extract, links, bareNumbers, commits, h₁, h₂, h₃]

end Reference

end CommonChangelog
