import CommonChangelog.Migration
import CommonChangelog.Proofs.Occurrences
import CommonChangelog.ReleaseNotes

/-!
# What scanners leave

A scanner reads from the front, so what it leaves is an end of the text. This is shown once for
each way of reading, and then for the scanners that clean the texts of entries. Removing what such
a scanner reads, at whatever places, only drops characters.

Main results: `Leaves.removeAll_sublist`, `Leaves.removeFirst_sublist` and
`Leaves.removeStart_suffix`.
-/

namespace CommonChangelog

/-! ## Reading from the front -/

namespace Text

variable {start s run rest : Text} {p : Char → Bool}

theorem trimStart_suffix (s : Text) : trimStart s <:+ s := List.dropWhile_suffix isBlank

theorem trim_isInfix (s : Text) : trim s <:+: s := by
  obtain ⟨b, -, hs⟩ := exists_trimEnd_append (trimStart s)
  have hprefix : trim s <+: trimStart s := ⟨b, hs.symm⟩
  exact hprefix.isInfix.trans (trimStart_suffix s).isInfix

theorem trim_sublist (s : Text) : (trim s).Sublist s := (trim_isInfix s).sublist

theorem suffix_of_after? (h : after? start s = some rest) : rest <:+ s :=
  ⟨start, (after?_eq_some.1 h).symm⟩

theorem suffix_of_afterFold? (h : afterFold? start s = some rest) : rest <:+ s := by
  induction start generalizing s with
  | nil =>
    cases h
    exact List.suffix_rfl
  | cons p ps ih =>
    cases s with
    | nil => cases h
    | cons c cs =>
      rw [afterFold?] at h
      split at h
      · exact (ih h).trans (List.suffix_cons c cs)
      · cases h

theorem suffix_of_run? (h : run? p s = some (run, rest)) : rest <:+ s :=
  ⟨run, (run?_eq_some.1 h).1.symm⟩

theorem subset_of_run? (h : run? p s = some (run, rest)) : run ⊆ s := by
  rw [(run?_eq_some.1 h).1]
  exact List.subset_append_left run rest

theorem suffix_of_afterOne? (h : afterOne? p s = some rest) : rest <:+ s := by
  cases s with
  | nil => cases h
  | cons c cs =>
    rw [afterOne?, Option.ite_none_right_eq_some] at h
    obtain ⟨-, h⟩ := h
    cases h
    exact List.suffix_cons c rest

theorem suffix_of_afterBlanks? (h : afterBlanks? s = some rest) : rest <:+ s := by
  obtain ⟨⟨run, _⟩, hrun, rfl⟩ := Option.map_eq_some_iff.1 h
  exact suffix_of_run? hrun

theorem skipOne_suffix (p : Char → Bool) (s : Text) : skipOne p s <:+ s := by
  unfold skipOne
  cases h : afterOne? p s with
  | none => exact List.suffix_refl s
  | some rest => exact suffix_of_afterOne? h

end Text

/-! ## Searching and removing -/

namespace Scanner

variable {α : Type} {read : Scanner α}

/-- What the scanner leaves is an end of the text. -/
def Leaves (read : Scanner α) : Prop := ∀ s a rest, read s = some (a, rest) → rest <:+ s

theorem Begins.leaves {start : Text} (h : Begins read start) : Leaves read := by
  intro s a rest hr
  obtain ⟨t, rfl⟩ := h s a rest hr
  exact List.suffix_append (start ++ t) rest

theorem Leaves.spaced (h : Leaves read) : Leaves (Reference.spaced read) :=
  fun s a rest hr => (h _ a rest hr).trans (Text.trimStart_suffix s)

/-- The scanner leaves nothing. -/
def ReadsToEnd (read : Scanner α) : Prop := ∀ s a rest, read s = some (a, rest) → rest = []

theorem ReadsToEnd.leaves (h : ReadsToEnd read) : Leaves read := by
  intro s a rest hr
  rw [h s a rest hr]
  exact List.nil_suffix

theorem Leaves.removeAll_sublist (h : Leaves read) (s : Text) : (removeAll read s).Sublist s := by
  induction hn : s.length using Nat.strongRecOn generalizing s with
  | _ n ih =>
    cases s with
    | nil => exact List.sublist_nil.2 removeAll_nil
    | cons c cs =>
      rcases hf : find read (c :: cs) with _ | ⟨a, rest⟩
      · rw [removeAll_cons_of_none hf]
        exact (ih cs.length (by simp [← hn]) cs rfl).cons_cons c
      · rw [removeAll_of_find hf]
        have hrest := ih rest.length (hn ▸ find_shorter hf) rest rfl
        exact hrest.trans (h _ _ _ (read_of_find hf)).sublist

theorem Leaves.removeFirst_sublist (h : Leaves read) (s : Text) :
    (removeFirst read s).Sublist s := by
  induction s with
  | nil => exact List.Sublist.refl []
  | cons c cs ih =>
    rcases hf : find read (c :: cs) with _ | ⟨a, rest⟩
    · rw [removeFirst_cons_of_none hf]
      exact ih.cons_cons c
    · rw [removeFirst_of_find hf]
      exact (h _ _ _ (read_of_find hf)).sublist

theorem ReadsToEnd.removeFirst_isPrefix (h : ReadsToEnd read) (s : Text) :
    removeFirst read s <+: s := by
  induction s with
  | nil => exact List.prefix_rfl
  | cons c cs ih =>
    rcases hf : find read (c :: cs) with _ | ⟨a, rest⟩
    · rw [removeFirst_cons_of_none hf]
      exact List.cons_prefix_cons.2 ⟨rfl, ih⟩
    · rw [removeFirst_of_find hf, h _ _ _ (read_of_find hf)]
      exact List.nil_prefix

theorem Leaves.removeStart_suffix (h : Leaves read) (s : Text) : removeStart read s <:+ s := by
  unfold removeStart
  rcases hr : read s with _ | ⟨a, rest⟩
  · exact List.suffix_refl s
  · exact h s a rest hr

end Scanner

open Scanner (Leaves ReadsToEnd)

/-! ## References -/

theorem Reference.strip_sublist (s : Text) : (strip s).Sublist s := by
  have h₁ := (begins_parenthesized begins_numberLink).leaves.spaced.removeAll_sublist s
  have h₂ := ((begins_parenthesized begins_commitLink).leaves.spaced.removeAll_sublist _).trans h₁
  have h₃ := (begins_bareNumber.leaves.spaced.removeAll_sublist _).trans h₂
  have h₄ := (begins_numberLink.leaves.spaced.removeAll_sublist _).trans h₃
  have h₅ := (begins_commitLink.leaves.spaced.removeAll_sublist _).trans h₄
  exact (Text.trim_sublist _).trans h₅

/-! ## Headers of commits -/

namespace Conventional

theorem scope?_suffix (s : Text) : (scope? s).2 <:+ s := by
  unfold scope?
  split
  · rename_i inner
    split
    · rename_i c rest hspan
      have hrest : c :: rest <:+ inner := by
        have hdrop : inner.dropWhile (· ≠ ')') = c :: rest := (Prod.mk.inj hspan).2
        rw [← hdrop]
        exact List.dropWhile_suffix _
      exact ((List.suffix_cons c rest).trans hrest).trans (List.suffix_cons '(' inner)
    · exact List.suffix_refl _
  · exact List.suffix_refl s

theorem exclamation?_suffix (s : Text) : (exclamation? s).2 <:+ s := by
  unfold exclamation?
  split
  · exact List.suffix_cons _ _
  · exact List.suffix_refl s

end Conventional

/-! ## Release notes -/

namespace ReleaseNotes

theorem leaves_versionWord : Leaves versionWord := by
  intro s a rest h
  obtain ⟨t, ht, h⟩ := Option.bind_eq_some_iff.1 h
  cases h
  exact (Text.skipOne_suffix _ t).trans (Text.suffix_of_afterFold? ht)

theorem readsToEnd_pullRequestSuffix : ReadsToEnd pullRequestSuffix := by
  intro s a rest h
  simp only [pullRequestSuffix, Option.bind_eq_bind, Option.bind_eq_some_iff, Option.pure_def,
    Option.some.injEq, Prod.mk.injEq, Prod.exists] at h
  grind

theorem readsToEnd_trailingNumber : ReadsToEnd trailingNumber := by
  intro s a rest h
  simp only [trailingNumber, Option.bind_eq_bind, Option.bind_eq_some_iff, Option.pure_def,
    Option.some.injEq, Prod.mk.injEq, Prod.exists] at h
  grind

theorem readsToEnd_authorSuffix : ReadsToEnd authorSuffix := by
  intro s a rest h
  simp only [authorSuffix, Option.bind_eq_bind, Option.bind_eq_some_iff, Option.pure_def,
    Option.some.injEq, Prod.mk.injEq, Prod.exists] at h
  grind

theorem leaves_commitHeader : Leaves commitHeader := by
  intro s a rest h
  obtain ⟨t, ht, h⟩ := Option.bind_eq_some_iff.1 h
  obtain ⟨u, hu, h⟩ := Option.bind_eq_some_iff.1 h
  cases h
  obtain ⟨type, -, htype⟩ := List.exists_of_findSome?_eq_some ht
  have hcolon := (Text.trimStart_suffix u).trans (Text.suffix_of_after? hu)
  have hscope := (hcolon.trans (Conventional.exclamation?_suffix _)).trans
    (Conventional.scope?_suffix t)
  exact hscope.trans (Text.suffix_of_afterFold? htype)

end ReleaseNotes

/-! ## Older changelogs -/

namespace Legacy

theorem leaves_deprecation : Leaves deprecation := by
  intro s a rest h
  obtain ⟨t, ht, h⟩ := Option.bind_eq_some_iff.1 h
  obtain ⟨u, hu, h⟩ := Option.bind_eq_some_iff.1 h
  cases h
  have hskip := (Text.suffix_of_afterBlanks? hu).trans (Text.skipOne_suffix _ t)
  exact hskip.trans (Text.suffix_of_afterFold? ht)

theorem leaves_breakingWord : Leaves breakingWord := by
  intro s a rest h
  obtain ⟨t, ht, h⟩ := Option.bind_eq_some_iff.1 h
  cases h
  have hstars : ∀ t : Text, Text.skipOne (· = '*') (Text.skipOne (· = '*') t) <:+ t :=
    fun t => (Text.skipOne_suffix _ _).trans (Text.skipOne_suffix _ t)
  have hcolon : Text.skipOne (· = ':') t <:+ s :=
    ((Text.skipOne_suffix _ t).trans (Text.suffix_of_afterFold? ht)).trans (hstars s)
  exact ((Text.trimStart_suffix _).trans (hstars _)).trans hcolon

end Legacy

end CommonChangelog
