import CommonChangelog.Document.Line

/-!
# Pieces, blanks and lines

Cutting a text at a separator gives pieces without the separator, and joining such pieces and
cutting again gives them back. Trimming looks at the two ends of a text only, so blanks after a
line, a carriage return among them, do not change the role of the line.
-/

namespace CommonChangelog

namespace Text

/-! ## Cutting and joining -/

variable {sep : Char}

theorem split_of_not_mem {s : Text} (h : sep ∉ s) : split sep s = [s] := by
  induction s with
  | nil => rfl
  | cons c cs ih =>
    rw [List.mem_cons, not_or] at h
    rw [split, if_neg (Ne.symm h.1), ih h.2]

theorem split_append_sep {s : Text} (h : sep ∉ s) (t : Text) :
    split sep (s ++ sep :: t) = s :: split sep t := by
  induction s with
  | nil => rw [List.nil_append, split, if_pos rfl]
  | cons c cs ih =>
    rw [List.mem_cons, not_or] at h
    rw [List.cons_append, split, if_neg (Ne.symm h.1), ih h.2]

/-- Cutting a text that was put together at a separator cuts both parts. -/
theorem split_append (s t : Text) : split sep (s ++ sep :: t) = split sep s ++ split sep t := by
  induction s with
  | nil => simp [split]
  | cons c cs ih =>
    obtain ⟨piece, pieces, hcs⟩ := List.exists_cons_of_ne_nil (split_ne_nil sep cs)
    rw [hcs, List.cons_append] at ih
    by_cases hc : c = sep <;> simp [split, hc, hcs, ih]

theorem split_eq_cons (sep : Char) (s : Text) :
    ∃ pieces, split sep s = s.takeWhile (· ≠ sep) :: pieces := by
  induction s with
  | nil => exact ⟨[], rfl⟩
  | cons c cs ih =>
    by_cases hc : c = sep
    · exact ⟨split sep cs, by rw [split, if_pos hc, List.takeWhile_cons_of_neg (by simpa using hc)]⟩
    · obtain ⟨pieces, hpieces⟩ := ih
      refine ⟨pieces, ?_⟩
      rw [split, if_neg hc, hpieces, List.takeWhile_cons_of_pos (by simpa using hc)]

theorem not_mem_takeWhile_ne (sep : Char) (s : Text) : sep ∉ s.takeWhile (· ≠ sep) := by
  intro h
  simpa using List.all_eq_true.1 List.all_takeWhile sep h

theorem join_cons_cons (p q : Text) (ps : List Text) :
    join [sep] (p :: q :: ps) = p ++ sep :: join [sep] (q :: ps) := by
  simp [join, List.intercalate, List.intersperse]

theorem join_singleton (p : Text) : join [sep] [p] = p := by
  simp [join, List.intercalate, List.intersperse]

theorem split_join {ps : List Text} (hne : ps ≠ []) (h : ∀ p ∈ ps, sep ∉ p) :
    split sep (join [sep] ps) = ps := by
  induction ps with
  | nil => exact absurd rfl hne
  | cons p ps ih =>
    have hp := h p List.mem_cons_self
    cases ps with
    | nil => rw [join_singleton, split_of_not_mem hp]
    | cons q qs =>
      rw [join_cons_cons, split_append_sep hp,
        ih (List.cons_ne_nil q qs) fun r hr => h r (List.mem_cons_of_mem p hr)]

/-- A separator at the end opens an empty piece. -/
theorem join_append_sep {ps : List Text} (hne : ps ≠ []) :
    join [sep] ps ++ [sep] = join [sep] (ps ++ [[]]) := by
  induction ps with
  | nil => exact absurd rfl hne
  | cons p ps ih =>
    cases ps with
    | nil => rw [List.singleton_append, join_cons_cons, join_singleton, join_singleton]
    | cons q qs =>
      rw [join_cons_cons, List.append_assoc, List.cons_append, ih (List.cons_ne_nil q qs)]
      exact (join_cons_cons p q (qs ++ [[]])).symm

theorem split_join_append {ps : List Text} (hne : ps ≠ []) (h : ∀ p ∈ ps, sep ∉ p) :
    split sep (join [sep] ps ++ [sep]) = ps ++ [[]] := by
  rw [join_append_sep hne]
  refine split_join (by simp) ?_
  rw [List.forall_mem_append, List.forall_mem_singleton]
  exact ⟨h, List.not_mem_nil⟩

/-- Each piece stands in the joined text; what follows it begins with a separator. -/
theorem exists_join_of_mem (sep : Char) {p : Text} {ps : List Text} (h : p ∈ ps) :
    ∃ before after, join [sep] ps = before ++ p ++ after ∧ ∀ c ∈ after.head?, c = sep := by
  induction ps with
  | nil => exact absurd h List.not_mem_nil
  | cons q qs ih =>
    cases qs with
    | nil =>
      obtain rfl := List.mem_singleton.1 h
      exact ⟨[], [], by rw [join_singleton, List.nil_append, List.append_nil], by simp⟩
    | cons r rs =>
      rw [join_cons_cons]
      rcases List.mem_cons.1 h with rfl | h
      · exact ⟨[], sep :: join [sep] (r :: rs), by simp, by simp⟩
      · obtain ⟨before, after, heq, hafter⟩ := ih h
        exact ⟨q ++ sep :: before, after, by simp [heq], hafter⟩

/-- Each piece stands in the joined text, with a separator after it. -/
theorem exists_join_append_of_mem {p : Text} {ps : List Text} (h : p ∈ ps) :
    ∃ before after, join [sep] ps ++ [sep] = before ++ p ++ sep :: after := by
  obtain ⟨before, after, heq, hafter⟩ := exists_join_of_mem sep h
  cases after with
  | nil => exact ⟨before, [], by rw [heq, List.append_nil]⟩
  | cons c after =>
    obtain rfl := hafter c rfl
    exact ⟨before, after ++ [c], by simp [heq]⟩

theorem eq_or_mem_of_mem_join {c : Char} {ps : List Text} (h : c ∈ join [sep] ps) :
    c = sep ∨ ∃ p ∈ ps, c ∈ p := by
  induction ps with
  | nil => exact absurd h List.not_mem_nil
  | cons p ps ih =>
    cases ps with
    | nil => exact .inr ⟨p, List.mem_cons_self, join_singleton p ▸ h⟩
    | cons q qs =>
      rw [join_cons_cons, List.mem_append, List.mem_cons] at h
      rcases h with hp | hsep | h
      · exact .inr ⟨p, List.mem_cons_self, hp⟩
      · exact .inl hsep
      · exact (ih h).imp id fun ⟨r, hr, hc⟩ => ⟨r, List.mem_cons_of_mem p hr, hc⟩

theorem not_mem_of_mem_split {s p : Text} (h : p ∈ split sep s) : sep ∉ p := by
  induction s generalizing p with
  | nil => rw [List.mem_singleton.1 h]; exact List.not_mem_nil
  | cons c cs ih =>
    rw [split] at h
    split at h
    · rcases List.mem_cons.1 h with rfl | h
      · exact List.not_mem_nil
      · exact ih h
    · rename_i hc
      split at h
      · rename_i hnil
        exact absurd hnil (split_ne_nil sep cs)
      · rename_i q qs hq
        rcases List.mem_cons.1 h with rfl | h
        · rw [List.mem_cons, not_or]
          exact ⟨Ne.symm hc, ih (hq ▸ List.mem_cons_self)⟩
        · exact ih (hq ▸ List.mem_cons_of_mem q h)

theorem subset_of_mem_split {s p : Text} (h : p ∈ split sep s) : p ⊆ s := by
  obtain ⟨before, after, heq, -⟩ := exists_join_of_mem sep h
  rw [join_split] at heq
  rw [heq]
  exact List.subset_append_of_subset_left after (List.subset_append_right before p)

/-! ## Beginnings -/

/-- What begins two texts put together begins the first one or reaches into the second. -/
theorem prefix_append_cases {p s t : Text} (h : p <+: s ++ t) :
    p <+: s ∨ ∃ w, w ≠ [] ∧ p = s ++ w ∧ w <+: t := by
  rcases List.prefix_or_prefix_of_prefix h (List.prefix_append s t) with hp | ⟨w, rfl⟩
  · exact .inl hp
  · rw [List.prefix_append_right_inj] at h
    rcases w with _ | ⟨c, w⟩
    · exact .inl (by simp)
    · exact .inr ⟨c :: w, List.cons_ne_nil c w, rfl, h⟩

theorem startsWith_iff {start s : Text} : startsWith start s ↔ start <+: s :=
  List.isPrefixOf_iff_prefix

theorem startsWith_append_sep {start : Text} (h : sep ∉ start) (s t : Text) :
    startsWith start (s ++ sep :: t) = startsWith start s := by
  rw [Bool.eq_iff_iff, startsWith_iff, startsWith_iff]
  constructor
  · intro hp
    rcases prefix_append_cases hp with hp | ⟨w, hne, rfl, hw⟩
    · exact hp
    · obtain ⟨c, w, rfl⟩ := List.exists_cons_of_ne_nil hne
      obtain ⟨rfl, -⟩ := List.cons_prefix_cons.1 hw
      exact absurd (List.mem_append_right s List.mem_cons_self) h
  · intro hp
    exact hp.trans (List.prefix_append s _)

/-! ## Occurrences -/

theorem contains_iff {part s : Text} : contains part s ↔ part <:+: s := by
  induction s with
  | nil => rw [contains, List.isEmpty_iff, List.infix_nil]
  | cons c cs ih =>
    rw [contains, Bool.or_eq_true, ih, List.isPrefixOf_iff_prefix, List.infix_cons_iff]

theorem infix_append_sep {m : Text} (h : sep ∉ m) {s t : Text} (hm : m <:+: s ++ sep :: t) :
    m <:+: s ∨ m <:+: t := by
  induction s with
  | nil =>
    rcases List.infix_cons_iff.1 hm with hp | ht
    · have hp : m <+: [] := by
        rw [← startsWith_iff, ← startsWith_append_sep h [] t]
        exact startsWith_iff.2 hp
      exact .inl hp.isInfix
    · exact .inr ht
  | cons c cs ih =>
    rcases List.infix_cons_iff.1 hm with hp | ht
    · have hp : m <+: c :: cs := by
        rw [← startsWith_iff, ← startsWith_append_sep h (c :: cs) t]
        exact startsWith_iff.2 hp
      exact .inl hp.isInfix
    · exact (ih ht).imp (fun h => h.trans (List.suffix_cons c cs).isInfix) id

/-! ## Ends -/

theorem forall_head_cons {p : Char → Prop} {c : Char} (h : p c) (s : Text) :
    ∀ d ∈ (c :: s).head?, p d := by
  intro d hd
  cases hd
  exact h

theorem forall_last_concat {p : Char → Prop} {c : Char} (h : p c) (s : Text) :
    ∀ d ∈ (s ++ [c]).getLast?, p d := by
  rw [List.getLast?_concat]
  intro d hd
  cases hd
  exact h

/-! ## Trimming -/

theorem trimStart_append_of_allBlank {b : Text} (h : allBlank b) (s : Text) :
    trimStart (b ++ s) = trimStart s := by
  rw [allBlank, List.all_eq_true] at h
  exact List.dropWhile_append_of_pos h

theorem trimStart_of_allBlank {s : Text} (h : allBlank s) : trimStart s = [] := by
  rw [← List.append_nil s, trimStart_append_of_allBlank h]; rfl

theorem trimStart_append {s : Text} (h : allBlank s = false) (t : Text) :
    trimStart (s ++ t) = trimStart s ++ t := by
  induction s with
  | nil => exact absurd h Bool.noConfusion
  | cons c cs ih =>
    cases hc : isBlank c with
    | false =>
      simp only [trimStart, List.cons_append, List.dropWhile_cons, hc, Bool.false_eq_true, if_false]
    | true =>
      have hcs : allBlank cs = false := by simpa [allBlank, hc] using h
      simpa only [trimStart, List.cons_append, List.dropWhile_cons, hc, if_true] using ih hcs

theorem trimStart_of_head {s : Text} (h : ∀ c ∈ s.head?, isBlank c = false) :
    trimStart s = s := by
  cases s with
  | nil => rfl
  | cons c cs => exact List.dropWhile_cons_of_neg (by rw [h c rfl]; exact Bool.false_ne_true)

theorem head_trimStart (s : Text) : ∀ c ∈ (trimStart s).head?, isBlank c = false := by
  intro c hc
  have h := List.head?_dropWhile_not isBlank s
  rw [← trimStart, Option.mem_def.1 hc] at h
  exact h

theorem trimEnd_of_last {s : Text} (h : ∀ c ∈ s.getLast?, isBlank c = false) :
    trimEnd s = s := by
  have hr : trimStart s.reverse = s.reverse :=
    trimStart_of_head (by rwa [List.head?_reverse])
  rw [trimEnd, ← trimStart, hr, List.reverse_reverse]

theorem last_trimEnd (s : Text) : ∀ c ∈ (trimEnd s).getLast?, isBlank c = false := by
  rw [trimEnd, List.getLast?_reverse]
  exact head_trimStart s.reverse

theorem trimEnd_append_of_allBlank {b : Text} (h : allBlank b) (s : Text) :
    trimEnd (s ++ b) = trimEnd s := by
  have hb : allBlank b.reverse := by rwa [allBlank, List.all_reverse]
  rw [trimEnd, List.reverse_append, ← trimStart, trimStart_append_of_allBlank hb]
  rfl

theorem exists_trimEnd_append (s : Text) : ∃ b, allBlank b ∧ s = trimEnd s ++ b := by
  refine ⟨(s.reverse.takeWhile isBlank).reverse, ?_, ?_⟩
  · rw [allBlank, List.all_reverse, List.all_eq_true]
    exact List.all_eq_true.1 List.all_takeWhile
  · rw [trimEnd, ← List.reverse_append, List.takeWhile_append_dropWhile, List.reverse_reverse]

/-- A text that is not blank has a last character that trimming the end leaves. -/
theorem exists_trimEnd_concat {s : Text} (h : allBlank s = false) :
    ∃ u c b, trimEnd s = u ++ [c] ∧ isBlank c = false ∧ s = u ++ c :: b := by
  obtain ⟨b, hb, hs⟩ := exists_trimEnd_append s
  rcases List.eq_nil_or_concat (trimEnd s) with hnil | ⟨u, c, hlast⟩
  · rw [hnil, List.nil_append] at hs
    rw [hs, hb] at h
    cases h
  · rw [List.concat_eq_append] at hlast
    rw [hlast, List.append_assoc, List.singleton_append] at hs
    refine ⟨u, c, b, hlast, last_trimEnd s c ?_, hs⟩
    rw [hlast, List.getLast?_concat]
    rfl

/-- A beginning that does not end with a blank is not touched by trimming the end. -/
theorem startsWith_trimEnd {start : Text} (h : ∀ c ∈ start.getLast?, isBlank c = false)
    (s : Text) : startsWith start (trimEnd s) = startsWith start s := by
  obtain ⟨b, hb, hs⟩ := exists_trimEnd_append s
  rw [Bool.eq_iff_iff, startsWith_iff, startsWith_iff]
  constructor
  · intro hp
    rw [hs]
    exact hp.trans (List.prefix_append _ b)
  · intro hp
    rw [hs] at hp
    rcases prefix_append_cases hp with hp | ⟨w, hne, hw, hwb⟩
    · exact hp
    · have hlast : start.getLast? = some (w.getLast hne) := by
        rw [hw, List.getLast?_append, List.getLast?_eq_some_getLast hne]; rfl
      have hblank := List.all_eq_true.1 hb _ (hwb.subset (List.getLast_mem hne))
      rw [h _ hlast] at hblank
      exact absurd hblank Bool.false_ne_true

theorem last_append_of_ne_nil {t : Text} (hne : t ≠ []) (ht : ∀ c ∈ t.getLast?, isBlank c = false)
    (s : Text) : ∀ c ∈ (s ++ t).getLast?, isBlank c = false := by
  intro c hc
  rw [List.getLast?_append, List.getLast?_eq_some_getLast hne] at hc
  rw [List.getLast?_eq_some_getLast hne] at ht
  exact ht c hc

theorem last_append {s t : Text} (hs : ∀ c ∈ s.getLast?, isBlank c = false)
    (ht : ∀ c ∈ t.getLast?, isBlank c = false) : ∀ c ∈ (s ++ t).getLast?, isBlank c = false := by
  intro c hc
  rw [List.getLast?_append, Option.mem_def, Option.or_eq_some_iff] at hc
  rcases hc with hc | ⟨-, hc⟩
  · exact ht c hc
  · exact hs c hc

theorem trim_of_ends {s : Text} (h₁ : ∀ c ∈ s.head?, isBlank c = false)
    (h₂ : ∀ c ∈ s.getLast?, isBlank c = false) : trim s = s := by
  rw [trim, trimStart_of_head h₁, trimEnd_of_last h₂]

theorem trim_append_of_allBlank {b : Text} (h : allBlank b) (s : Text) :
    trim (s ++ b) = trim s := by
  cases hs : allBlank s with
  | false => rw [trim, trimStart_append hs, trimEnd_append_of_allBlank h, trim]
  | true =>
    have hb := trimStart_of_allBlank h
    rw [trim, trimStart_append_of_allBlank hs, hb, trim, trimStart_of_allBlank hs]

theorem trim_of_allBlank {s : Text} (h : allBlank s) : trim s = [] := by
  rw [trim, trimStart_of_allBlank h]; rfl

theorem last_of_trim {s : Text} (h : trim s = s) : ∀ c ∈ s.getLast?, isBlank c = false := by
  rw [← h]; exact last_trimEnd _

theorem head_of_trim {s : Text} (h : trim s = s) : ∀ c ∈ s.head?, isBlank c = false := by
  obtain ⟨b, -, hs⟩ := exists_trimEnd_append (trimStart s)
  rw [← trim, h] at hs
  have hle : (trimStart s).length ≤ s.length := (List.dropWhile_suffix isBlank).length_le
  have hb : b = [] := by
    rw [hs, List.length_append] at hle
    exact List.length_eq_zero_iff.1 (by omega)
  rw [hb, List.append_nil] at hs
  rw [← hs]
  exact head_trimStart s

theorem trimEnd_of_allBlank {s : Text} (h : allBlank s) : trimEnd s = [] := by
  rw [← List.nil_append s, trimEnd_append_of_allBlank h]
  rfl

theorem trimEnd_append_of_not_allBlank {s : Text} (h : allBlank s = false) (p : Text) :
    trimEnd (p ++ s) = p ++ trimEnd s := by
  have hr : allBlank s.reverse = false := by rwa [allBlank, List.all_reverse]
  rw [trimEnd, List.reverse_append, ← trimStart, trimStart_append hr, List.reverse_append,
    List.reverse_reverse, trimStart, ← trimEnd]

theorem trimEnd_append_of_last {p : Text} (hp : ∀ c ∈ p.getLast?, isBlank c = false) (s : Text) :
    trimEnd (p ++ s) = p ++ trimEnd s := by
  cases hs : allBlank s with
  | true => rw [trimEnd_append_of_allBlank hs, trimEnd_of_allBlank hs, trimEnd_of_last hp,
      List.append_nil]
  | false => exact trimEnd_append_of_not_allBlank hs p

/-- Trimming does not reach a text in front of one that is not blank. -/
theorem trim_append {p s : Text} (hp : p ≠ []) (hhead : ∀ c ∈ p.head?, isBlank c = false)
    (h : allBlank s = false) : trim (p ++ s) = p ++ trimEnd s := by
  obtain ⟨c, cs, rfl⟩ := List.exists_cons_of_ne_nil hp
  have hstart : trimStart (c :: cs ++ s) = c :: cs ++ s := trimStart_of_head hhead
  rw [trim, hstart, trimEnd_append_of_not_allBlank h]

/-- A text that does not end with a blank is trimmed at its front only. -/
theorem trim_of_last {s : Text} (h : ∀ c ∈ s.getLast?, isBlank c = false) :
    trim s = trimStart s := by
  refine trimEnd_of_last fun c hc => h c ?_
  obtain ⟨b, hb⟩ := List.dropWhile_suffix (l := s) isBlank
  rw [← hb, ← trimStart, Option.mem_def, List.getLast?_append, Option.mem_def.1 hc]
  rfl

theorem trim_trimEnd (s : Text) : trim (trimEnd s) = trim s := by
  obtain ⟨b, hb, hs⟩ := exists_trimEnd_append s
  conv => rhs; rw [hs, trim_append_of_allBlank hb]

/-- Blanks after a text that is not blank are trimmed whatever else stands in front of them. -/
theorem trim_trimEnd_append {s : Text} (h : allBlank s = false) (t : Text) :
    trim (trimEnd s ++ t) = trim s ++ trimEnd t := by
  have hkept : allBlank (trimEnd s) = false := by
    obtain ⟨b, hb, hs⟩ := exists_trimEnd_append s
    rw [hs, allBlank, List.all_append, ← allBlank, ← allBlank, hb, Bool.and_true] at h
    exact h
  rw [trim, trimStart_append hkept, ← trim_of_last (last_trimEnd s), trim_trimEnd]
  exact trimEnd_append_of_last (last_trimEnd (trimStart s)) t

theorem trim_trimStart (s : Text) : trim (trimStart s) = trim s := by
  rw [trim, trimStart_of_head (head_trimStart s), trim]

theorem trim_trim (s : Text) : trim (trim s) = trim s :=
  (trim_trimEnd (trimStart s)).trans (trim_trimStart s)

theorem exists_eq_trim_append {s : Text} (h : ∀ c ∈ s.head?, isBlank c = false) :
    ∃ b, allBlank b ∧ s = trim s ++ b := by
  obtain ⟨b, hb, hs⟩ := exists_trimEnd_append s
  refine ⟨b, hb, ?_⟩
  rw [trim, trimStart_of_head h]
  exact hs

theorem trim_dropReturn (s : Text) : trim (dropReturn s) = trim s := by
  unfold dropReturn
  split
  · rename_i hlast
    obtain ⟨t, rfl⟩ := List.getLast?_eq_some_iff.1 hlast
    rw [List.dropLast_concat, trim_append_of_allBlank (by decide)]
  · rfl

end Text

namespace Line

theorem classify_dropReturn (s : Text) : classify (Text.dropReturn s) = classify s := by
  rw [classify, Text.trim_dropReturn, classify]

theorem classify_of_allBlank {s : Text} (h : Text.allBlank s) : classify s = .blank := by
  rw [classify, Text.trim_of_allBlank h]; rfl

end Line

end CommonChangelog
