import CommonChangelog.Proofs.Occurrences

/-!
# What is read looks like a reference

Migration asks for a reference only where an entry mentions nothing that looks like one. The test
for this is loose: a number sign with digits, a word that could be a commit hash, an address or a
ticket key will do. It accepts every reference that is read from an entry, since a link and a number
in parentheses contain a number sign and digits, and the hash of a commit link is a word.

Main result: `Reference.isHinted_of_extract`.
-/

namespace CommonChangelog

open Text (isDigit isWord wordStarts)

/-! ## Words -/

namespace Text

/-- A word begins behind a character that is in no word, whatever stands before. -/
theorem exists_wordStarts_append {c : Char} (hc : isWord c = false) (inside : Bool)
    (before s : Text) :
    ∃ starts, wordStarts inside (before ++ c :: s) = starts ++ wordStarts false s := by
  induction before generalizing inside with
  | nil => exact ⟨[], by simp [wordStarts, hc]⟩
  | cons d ds ih =>
    rw [List.cons_append, wordStarts]
    split
    · obtain ⟨starts, hstarts⟩ := ih true
      exact ⟨(d :: (ds ++ c :: s)) :: starts, by rw [hstarts, List.cons_append]⟩
    · exact ih (isWord d)

/-- Word characters between two others are a word. -/
theorem mem_words_between {c d : Char} {word : Text} (hc : isWord c = false)
    (hd : isWord d = false) (hne : word ≠ []) (hword : ∀ e ∈ word, isWord e) (before after : Text) :
    word ∈ words (before ++ c :: (word ++ d :: after)) := by
  obtain ⟨starts, hstarts⟩ :=
    exists_wordStarts_append hc false before (word ++ d :: after)
  have htake : (word ++ d :: after).takeWhile isWord = word := by
    rw [List.takeWhile_append_of_pos hword, List.takeWhile_cons_of_neg (by rw [hd]; simp),
      List.append_nil]
  have hstart : word ++ d :: after ∈ wordStarts false (word ++ d :: after) := by
    obtain ⟨e, es, rfl⟩ := List.exists_cons_of_ne_nil hne
    rw [List.cons_append, wordStarts, if_pos (by rw [hword e List.mem_cons_self]; rfl)]
    exact List.mem_cons_self
  rw [words, hstarts]
  exact List.mem_map.2 ⟨_, List.mem_append_right starts hstart, htake⟩

end Text

/-! ## Numbers and hashes -/

namespace Scanner

variable {α : Type} {read : Scanner α} {x : Char}

theorem Opens.occurs (h : Opens read x) {t rest : Text} {a : α} (ht : read t = some (a, rest))
    (before : Text) : occurs read (before ++ t) := by
  rw [Scanner.occurs, Option.isSome_iff_ne_none]
  intro hnone
  have hmem := h.mem_all ht before
  rw [first?_eq_none_iff.1 hnone] at hmem
  exact absurd hmem List.not_mem_nil

end Scanner

namespace Reference

variable {s : Text}

theorem occurs_hashNumber {digits : Text} (hne : digits ≠ []) (hdigits : ∀ c ∈ digits, isDigit c)
    {c : Char} (hc : isDigit c = false) (before rest : Text) :
    Scanner.occurs hashNumber (before ++ '#' :: (digits ++ c :: rest)) :=
  opens_hashNumber.occurs
    (hashNumber_eq_some.2 ⟨rfl, hne, hdigits, Text.forall_head_cons hc rest⟩) before

theorem occurs_of_links (h : links s ≠ []) : Scanner.occurs hashNumber s := by
  have hall : Scanner.all numberLink s ≠ [] := fun hnil => h (by rw [links, hnil]; rfl)
  obtain ⟨⟨⟨digits, url⟩, rest⟩, found, hfound⟩ := List.exists_cons_of_ne_nil hall
  obtain ⟨before, t, rfl, ht⟩ := begins_numberLink.exists_of_mem_all
    (hfound ▸ List.mem_cons_self)
  obtain ⟨rfl, hne, hdigits, -⟩ := numberLink_eq_some.1 ht
  have hoccurs := occurs_hashNumber hne hdigits (c := ']') (by decide) (before ++ ['['])
    ('(' :: url ++ ')' :: rest)
  simpa using hoccurs

theorem occurs_of_bareNumbers (h : bareNumbers s ≠ []) : Scanner.occurs hashNumber s := by
  obtain ⟨n, ns, hn⟩ := List.exists_cons_of_ne_nil h
  have hmem : n ∈ bareNumbers s := hn ▸ List.mem_cons_self
  obtain ⟨⟨digits, rest⟩, hfound, -⟩ := List.mem_filterMap.1 hmem
  obtain ⟨before, rfl, hne, hdigits⟩ := mem_all_bareNumber.1 hfound
  have hoccurs := occurs_hashNumber hne hdigits (c := ')') (by decide) (before ++ ['(']) rest
  simpa using hoccurs

/-- A lower-case hexadecimal digit is a word character, and is not changed by lower case. -/
theorem isWord_of_isHashDigit {c : Char} (h : isHashDigit c) : isWord c ∧ c.toLower = c := by
  have hlt : c.toNat < 0x80 := by
    have hrange := h
    simp only [isHashDigit, Bool.or_eq_true, Bool.and_eq_true, decide_eq_true_eq] at hrange
    rcases hrange with ⟨-, hf⟩ | hdigit
    · exact Nat.lt_of_le_of_lt (UInt32.le_iff_toNat_le.1 hf) (by decide)
    · exact Text.lt_of_isAsciiDigit hdigit
  have hascii : ∀ n < 0x80, isHashDigit (Char.ofNat n) →
      isWord (Char.ofNat n) ∧ (Char.ofNat n).toLower = Char.ofNat n := by decide
  exact Text.forall_ascii (p := fun c => isHashDigit c → isWord c ∧ c.toLower = c) hascii hlt h

theorem isHashWord_of_commits (h : commits s ≠ []) : (Text.words s).any isHashWord := by
  have hall : Scanner.all commitLink s ≠ [] := fun hnil => h (by rw [commits, hnil]; rfl)
  obtain ⟨⟨⟨hash, url⟩, rest⟩, found, hfound⟩ := List.exists_cons_of_ne_nil hall
  obtain ⟨before, t, rfl, ht⟩ := begins_commitLink.exists_of_mem_all
    (hfound ▸ List.mem_cons_self)
  obtain ⟨rfl, hlength, hhash, -⟩ := commitLink_eq_some.1 ht
  have hne : hash ≠ [] := by
    rintro rfl
    exact absurd hlength (by decide)
  have hmem := Text.mem_words_between (c := '`') (d := '`') (by decide) (by decide) hne
    (fun c hc => (isWord_of_isHashDigit (hhash c hc)).1) (before ++ ['['])
    (']' :: '(' :: url ++ ')' :: rest)
  refine List.any_eq_true.2 ⟨hash, by simpa using hmem, ?_⟩
  rw [isHashWord, hlength, Bool.true_and, List.all_eq_true]
  intro c hc
  rw [(isWord_of_isHashDigit (hhash c hc)).2]
  exact hhash c hc

/-- **An entry from which a reference is read looks like it has one.** -/
theorem isHinted_of_extract (h : extract s ≠ []) : isHinted s := by
  simp only [isHinted, Bool.or_eq_true]
  by_cases hlinks : links s = []
  · by_cases hbare : bareNumbers s = []
    · have hcommits : commits s ≠ [] := by
        intro hcommits
        rw [extract, hlinks, hbare, hcommits] at h
        exact h rfl
      exact .inl (.inl (.inr (isHashWord_of_commits hcommits)))
    · exact .inl (.inl (.inl (occurs_of_bareNumbers hbare)))
  · exact .inl (.inl (.inl (occurs_of_links hlinks)))

end Reference

end CommonChangelog
