import CommonChangelog.Proofs.Remainders
import Mathlib.Data.List.Infix

/-!
# Texts whose parentheses do not nest

Removing one reference can put another one together: without the inner number `((#1)#2)` reads
`(#2)`. This takes a parenthesis that opens within another pair. In a flat text, where none does,
every reading of a reference has a pair of its own, so nothing is removed between an opening
parenthesis and the next closing one (`prefix_of_removeAll`). Removal keeps a text flat
(`flat_removeAll`), and the numbers in parentheses that it leaves were there before, at places where
nothing was read (`infix_of_removeAll`).

Main result: `Reference.not_infix_strip`.
-/

namespace CommonChangelog

namespace Text

def isParenthesis (c : Char) : Bool := c = '(' || c = ')'

/-- The next parenthesis, if there is one, closes. -/
def Shut (s : Text) : Prop := s.find? isParenthesis ≠ some '('

/-- Of the parentheses of the text no two in a row open. -/
def Flat (s : Text) : Prop := ¬['(', '('] <:+: s.filter isParenthesis

variable {s t : Text} {c : Char}

instance : Decidable (Flat s) := inferInstanceAs (Decidable ¬_)

theorem isParenthesis_of_class {p : Char → Bool} (hopen : p '(' = false) (hclose : p ')' = false)
    (hc : p c) : isParenthesis c = false := by
  have hne : ∀ d, p d = false → c ≠ d := by
    rintro d hd rfl
    rw [hc] at hd
    cases hd
  simp [isParenthesis, hne _ hopen, hne _ hclose]

theorem shut_cons (hc : isParenthesis c = false) : Shut (c :: s) ↔ Shut s := by
  rw [Shut, List.find?_cons_of_neg (by simp [hc]), Shut]

theorem shut_trimStart (s : Text) : Shut (trimStart s) ↔ Shut s := by
  induction s with
  | nil => exact Iff.rfl
  | cons c cs ih =>
    cases hc : isBlank c with
    | false => rw [trimStart, List.dropWhile_cons_of_neg (by simp [hc])]
    | true =>
      rw [trimStart, List.dropWhile_cons_of_pos hc, ← trimStart, ih,
        shut_cons (isParenthesis_of_class rfl rfl hc)]

theorem not_shut_append {u : Text} (hu : ∀ c ∈ u, isParenthesis c = false) (v : Text) :
    ¬Shut (u ++ '(' :: v) := by
  have hnone : u.find? isParenthesis = none :=
    List.find?_eq_none.2 fun c hc => by simp [hu c hc]
  rw [Shut, List.find?_append, hnone, not_not]
  rfl

/-- Between marks and a label without parentheses, a link opens none before its address. -/
theorem not_shut_link (before behind : Text) {label : Text} {p : Char → Bool}
    (hmarks : (before ++ behind).any isParenthesis = false) (hopen : p '(' = false)
    (hclose : p ')' = false) (hlabel : ∀ c ∈ label, p c) (v : Text) :
    ¬Shut (before ++ label ++ behind ++ '(' :: v) := by
  have hmark : ∀ c ∈ before ++ behind, isParenthesis c = false := fun c hc =>
    Bool.eq_false_iff.2 (List.any_eq_false.1 hmarks c hc)
  refine not_shut_append (fun c hc => ?_) v
  rw [List.append_assoc, List.mem_append, List.mem_append] at hc
  rcases hc with hc | hc | hc
  · exact hmark c (List.mem_append_left _ hc)
  · exact isParenthesis_of_class hopen hclose (hlabel c hc)
  · exact hmark c (List.mem_append_right _ hc)

theorem flat_cons : Flat (c :: s) ↔ (c = '(' → Shut s) ∧ Flat s := by
  by_cases hc : isParenthesis c
  · have hnext : ['('] <+: s.filter isParenthesis ↔ s.find? isParenthesis = some '(' := by
      rw [← List.head?_filter]
      cases s.filter isParenthesis <;> simp [List.cons_prefix_cons, eq_comm]
    have hhead : ['(', '('] <+: c :: s.filter isParenthesis ↔
        c = '(' ∧ s.find? isParenthesis = some '(' := by
      rw [List.cons_prefix_cons, hnext, eq_comm]
    rw [Flat, List.filter_cons_of_pos hc, List.infix_cons_iff, hhead, not_or, not_and, Flat, Shut]
  · have hne : c ≠ '(' := by
      rintro rfl
      exact hc rfl
    rw [Flat, List.filter_cons_of_neg hc, Flat]
    simp [hne]

theorem Flat.of_infix (h : Flat s) (ht : t <:+: s) : Flat t := fun hnested =>
  h (hnested.trans (ht.filter _))

end Text

open Text (Shut Flat isParenthesis)

namespace Scanner

variable {α : Type} {read : Scanner α} {s : Text}

/-- Whatever is read has an opening parenthesis before any closing one. -/
def OpensFirst (read : Scanner α) : Prop := ∀ s a rest, read s = some (a, rest) → ¬Shut s

theorem OpensFirst.spaced (h : OpensFirst read) : OpensFirst (Reference.spaced read) :=
  fun s a rest hr hs => h _ a rest hr ((Text.shut_trimStart s).2 hs)

theorem OpensFirst.find_eq_none (h : OpensFirst read) (hs : Shut s) : find read s = none := by
  rcases hf : find read s with _ | ⟨a, rest⟩
  · rfl
  · exact absurd hs (h s a rest (read_of_find hf))

theorem OpensFirst.shut_removeAll (h : OpensFirst read) (hs : Shut s) :
    Shut (removeAll read s) := by
  induction s with
  | nil => rwa [removeAll_nil]
  | cons c cs ih =>
    rw [removeAll_cons_of_none (h.find_eq_none hs)]
    cases hc : isParenthesis c with
    | false => exact (Text.shut_cons hc).2 (ih ((Text.shut_cons hc).1 hs))
    | true =>
      rw [Shut, List.find?_cons_of_pos hc] at hs ⊢
      exact hs

/-- What removal leaves up to the next closing parenthesis stands so in the text. -/
theorem OpensFirst.prefix_of_removeAll (h : OpensFirst read) {w : Text}
    (hw : ∀ c ∈ w, isParenthesis c = false) {d : Char} (hs : Shut s)
    (hstart : w ++ [d] <+: removeAll read s) : w ++ [d] <+: s := by
  induction w generalizing s with
  | nil =>
    cases s with
    | nil => rwa [removeAll_nil] at hstart
    | cons c cs =>
      rw [removeAll_cons_of_none (h.find_eq_none hs), List.nil_append, List.cons_prefix_cons]
        at hstart
      exact List.cons_prefix_cons.2 ⟨hstart.1, List.nil_prefix⟩
  | cons e w ih =>
    cases s with
    | nil =>
      rw [removeAll_nil] at hstart
      exact absurd hstart (by simp)
    | cons c cs =>
      obtain ⟨he, hw⟩ := List.forall_mem_cons.1 hw
      rw [removeAll_cons_of_none (h.find_eq_none hs), List.cons_append, List.cons_prefix_cons]
        at hstart
      obtain ⟨rfl, hstart⟩ := hstart
      exact List.cons_prefix_cons.2 ⟨rfl, ih hw ((Text.shut_cons he).1 hs) hstart⟩

/-- **Removal keeps a text flat.** -/
theorem OpensFirst.flat_removeAll (h : OpensFirst read) (hleaves : Leaves read) (hs : Flat s) :
    Flat (removeAll read s) := by
  induction hn : s.length using Nat.strongRecOn generalizing s with
  | _ n ih =>
    cases s with
    | nil => rwa [removeAll_nil]
    | cons c cs =>
      rcases hf : find read (c :: cs) with _ | ⟨a, rest⟩
      · obtain ⟨hc, hcs⟩ := Text.flat_cons.1 hs
        rw [removeAll_cons_of_none hf, Text.flat_cons]
        exact ⟨fun heq => h.shut_removeAll (hc heq), ih cs.length (by simp [← hn]) hcs rfl⟩
      · have hrest : rest <:+ c :: cs := hleaves _ _ _ (read_of_find hf)
        rw [removeAll_of_find hf]
        exact ih rest.length (hn ▸ find_shorter hf) (hs.of_infix hrest.isInfix) rfl

/-- **Nothing in parentheses is put together by removal.** What is left of this form stands in the
text, at a place where nothing is read. -/
theorem OpensFirst.infix_of_removeAll (h : OpensFirst read) (hleaves : Leaves read) (hs : Flat s)
    {w : Text} (hw : ∀ c ∈ w, isParenthesis c = false)
    (hin : '(' :: w ++ [')'] <:+: removeAll read s) :
    ∃ before after, s = before ++ ('(' :: w ++ [')'] ++ after) ∧
      find read ('(' :: w ++ [')'] ++ after) = none := by
  induction hn : s.length using Nat.strongRecOn generalizing s with
  | _ n ih =>
    cases s with
    | nil =>
      rw [removeAll_nil] at hin
      exact absurd hin (by simp)
    | cons c cs =>
      rcases hf : find read (c :: cs) with _ | ⟨a, rest⟩
      · obtain ⟨hc, hcs⟩ := Text.flat_cons.1 hs
        rw [removeAll_cons_of_none hf, List.infix_cons_iff] at hin
        rcases hin with hstart | hin
        · rw [List.cons_append, List.cons_prefix_cons] at hstart
          obtain ⟨rfl, hstart⟩ := hstart
          obtain ⟨after, rfl⟩ := h.prefix_of_removeAll hw (hc rfl) hstart
          exact ⟨[], after, rfl, hf⟩
        · obtain ⟨before, after, rfl, hnone⟩ := ih cs.length (by simp [← hn]) hcs hin rfl
          exact ⟨c :: before, after, rfl, hnone⟩
      · obtain ⟨u, hu⟩ : rest <:+ c :: cs := hleaves _ _ _ (read_of_find hf)
        rw [removeAll_of_find hf] at hin
        have hrest : Flat rest := hs.of_infix ⟨u, [], by rw [List.append_nil, hu]⟩
        obtain ⟨before, after, rfl, hnone⟩ :=
          ih rest.length (hn ▸ find_shorter hf) hrest hin rfl
        exact ⟨u ++ before, after, by rw [← hu, List.append_assoc u], hnone⟩

end Scanner

open Scanner (OpensFirst Leaves)

namespace Reference

variable {α : Type} {read : Scanner α} {s digits : Text}

theorem opensFirst_parenthesized : OpensFirst (parenthesized read) := by
  intro s a rest hr
  obtain ⟨t, rfl, -⟩ := parenthesized_eq_some.1 hr
  exact Text.not_shut_append (List.forall_mem_nil _) t

theorem opensFirst_bareNumber : OpensFirst bareNumber := by
  intro s a rest hr
  obtain ⟨rfl, -⟩ := bareNumber_eq_some.1 hr
  exact Text.not_shut_append (List.forall_mem_nil _) _

theorem opensFirst_numberLink : OpensFirst numberLink := by
  intro s a rest hr
  obtain ⟨rfl, -, hdigits, -⟩ := numberLink_eq_some.1 hr
  have hlink := Text.not_shut_link ['[', '#'] [']'] rfl (by decide) (by decide) hdigits
    (a.2 ++ ')' :: rest)
  simpa using hlink

theorem opensFirst_commitLink : OpensFirst commitLink := by
  intro s a rest hr
  obtain ⟨rfl, -, hhash, -⟩ := commitLink_eq_some.1 hr
  have hlink := Text.not_shut_link ['[', '`'] ['`', ']'] rfl (by decide) (by decide) hhash
    (a.2 ++ ')' :: rest)
  simpa using hlink

/-- **No number in parentheses is left of a flat text.** -/
theorem not_infix_strip (hs : Flat s) (hne : digits ≠ []) (hdigits : ∀ c ∈ digits, Text.isDigit c) :
    ¬ '(' :: ('#' :: digits) ++ [')'] <:+: strip s := by
  intro hin
  have hnumber : ∀ c ∈ '#' :: digits, isParenthesis c = false := by
    refine List.forall_mem_cons.2 ⟨by decide, fun c hc => ?_⟩
    exact Text.isParenthesis_of_class (by decide) (by decide) (hdigits c hc)
  let s₁ := Scanner.removeAll (spaced (parenthesized numberLink)) s
  let s₂ := Scanner.removeAll (spaced (parenthesized commitLink)) s₁
  let s₃ := Scanner.removeAll (spaced bareNumber) s₂
  let s₄ := Scanner.removeAll (spaced numberLink) s₃
  let s₅ := Scanner.removeAll (spaced commitLink) s₄
  have l₁ := (begins_parenthesized begins_numberLink).leaves.spaced
  have l₂ := (begins_parenthesized begins_commitLink).leaves.spaced
  have l₃ := begins_bareNumber.leaves.spaced
  have l₄ := begins_numberLink.leaves.spaced
  have l₅ := begins_commitLink.leaves.spaced
  have h₁ : Flat s₁ := opensFirst_parenthesized.spaced.flat_removeAll l₁ hs
  have h₂ : Flat s₂ := opensFirst_parenthesized.spaced.flat_removeAll l₂ h₁
  have h₃ : Flat s₃ := opensFirst_bareNumber.spaced.flat_removeAll l₃ h₂
  have h₄ : Flat s₄ := opensFirst_numberLink.spaced.flat_removeAll l₄ h₃
  -- The steps behind that for bare numbers leave none that was not there.
  have hin₅ : '(' :: ('#' :: digits) ++ [')'] <:+: s₅ := hin.trans (Text.trim_isInfix s₅)
  obtain ⟨b₄, a₄, hs₄, -⟩ :=
    opensFirst_commitLink.spaced.infix_of_removeAll l₅ h₄ hnumber hin₅
  obtain ⟨b₃, a₃, hs₃, -⟩ :=
    opensFirst_numberLink.spaced.infix_of_removeAll l₄ h₃ hnumber ⟨b₄, a₄, by simp [s₄, hs₄]⟩
  obtain ⟨b₂, a₂, -, hnone⟩ :=
    opensFirst_bareNumber.spaced.infix_of_removeAll l₃ h₂ hnumber ⟨b₃, a₃, by simp [s₃, hs₃]⟩
  have hread : bareNumber ('(' :: ('#' :: digits) ++ [')'] ++ a₂) = some (digits, a₂) :=
    bareNumber_eq_some.2 ⟨by simp, hne, hdigits⟩
  rw [find_spaced begins_bareNumber (List.cons_ne_nil _ _), Text.trimStart_of_head] at hnone
  · rw [hread] at hnone
    cases hnone
  · exact Text.forall_head_cons (by decide) _

end Reference

end CommonChangelog
