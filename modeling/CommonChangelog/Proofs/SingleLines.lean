import CommonChangelog.Proofs.Remainders
import CommonChangelog.Proofs.WrittenDocument

/-!
# Texts that stay on one line

A text of a generated document is made from a line of its source, and it has to fit into a line
again. Most steps only drop characters, or put words of their own before the text. The others are
looked at here: no character but the line break has it as its upper case, squeezing replaces line
breaks like all blanks, and the description of a commit is one line by its grammar.

Main results: `Title.oneLine_clean`, `Title.oneLine_toImperative` and
`Reference.oneLine_of_mem_extract`.
-/

namespace CommonChangelog

namespace Text

/-! ## Upper case -/

/-- The only code point of a character other than the first one is its own. -/
theorem eq_toNat_of_ofNat_eq {n : Nat} {c : Char} (hc : c ≠ Char.ofNat 0) (h : Char.ofNat n = c) :
    n = c.toNat := by
  by_cases hvalid : n.isValidChar
  · rw [Char.ofNat, dif_pos hvalid] at h
    exact congrArg Char.toNat h
  · rw [Char.ofNat, dif_neg hvalid] at h
    exact absurd h.symm hc

/-- No run of the table reaches down to the characters before the letters. -/
theorem mapCase_upperRuns_ne {c d : Char} (hd : d.toNat < 'A'.toNat) (hzero : d ≠ Char.ofNat 0)
    (hc : c ≠ d) : mapCase upperRuns c ≠ d := by
  have htarget : ∀ run ∈ upperRuns, 'A'.toNat ≤ run.target := by decide +kernel
  unfold mapCase
  split
  · rename_i n hrun
    obtain ⟨run, hmem, hmapped⟩ := List.exists_of_findSome?_eq_some hrun
    have hle := htarget run hmem
    rw [CaseRun.map?, Option.ite_none_right_eq_some, Option.some.injEq] at hmapped
    intro hn
    have hcode := eq_toNat_of_ofNat_eq hzero hn
    omega
  · exact hc

/-- A character before the letters stands in no upper case but its own. -/
theorem not_mem_upperChar {c d : Char} (hd : d.toNat < 'A'.toNat) (hzero : d ≠ Char.ofNat 0)
    (hc : c ≠ d) : d ∉ upperChar c := by
  have hascii : ∀ n < 0x80, (Char.ofNat n).toUpper = Char.ofNat n ∨
      'A'.toNat ≤ (Char.ofNat n).toUpper.toNat := by decide
  have hspecial : ∀ entry ∈ upperSpecial, ∀ n ∈ entry.2, 'A'.toNat ≤ n := by decide +kernel
  unfold upperChar
  split
  · rename_i hlt
    rcases forall_ascii (p := fun c => c.toUpper = c ∨ 'A'.toNat ≤ c.toUpper.toNat) hascii hlt
      with hsame | hle
    · rw [hsame, List.mem_singleton]
      exact hc.symm
    · rw [List.mem_singleton]
      rintro rfl
      omega
  · split
    · rename_i ns hlookup
      obtain ⟨before, after, hsplit, -⟩ := List.lookup_eq_some_iff.1 hlookup
      have hmem : (c.toNat, ns) ∈ upperSpecial :=
        hsplit ▸ List.mem_append_right before List.mem_cons_self
      intro hd'
      obtain ⟨n, hn, heq⟩ := List.mem_map.1 hd'
      have hcode := eq_toNat_of_ofNat_eq hzero heq
      have hle := hspecial _ hmem n hn
      omega
    · exact fun hmem => mapCase_upperRuns_ne hd hzero hc (List.mem_singleton.1 hmem).symm

theorem not_mem_capitalize {d : Char} (hd : d.toNat < 'A'.toNat) (hzero : d ≠ Char.ofNat 0)
    {s : Text} (h : d ∉ s) : d ∉ capitalize s := by
  cases s with
  | nil => exact h
  | cons c cs =>
    rw [List.mem_cons, not_or] at h
    rw [capitalize, List.mem_append, not_or]
    exact ⟨not_mem_upperChar hd hzero (Ne.symm h.1), h.2⟩

theorem oneLine_capitalize {s : Text} (h : '\n' ∉ s) : '\n' ∉ capitalize s :=
  not_mem_capitalize (by decide) (by decide) h

/-! ## Parts of texts -/

theorem oneLine_trim {s : Text} (h : '\n' ∉ s) : '\n' ∉ trim s :=
  fun hmem => h ((trim_sublist s).subset hmem)

theorem not_mem_truncate {d : Char} (hd : d ≠ '.') {s : Text} (h : d ∉ s) (length : Nat) :
    d ∉ truncate s length := by
  unfold truncate
  split
  · exact h
  · rw [List.mem_append, not_or]
    refine ⟨fun hmem => h (List.take_subset length s hmem), fun hmem => hd ?_⟩
    exact List.eq_of_mem_replicate (show d ∈ List.replicate 3 '.' from hmem)

theorem oneLine_truncate {s : Text} (h : '\n' ∉ s) (length : Nat) : '\n' ∉ truncate s length :=
  not_mem_truncate (by decide) h length

theorem dropReturn_subset (s : Text) : dropReturn s ⊆ s := by
  unfold dropReturn
  split
  · exact List.dropLast_subset s
  · exact List.Subset.refl s

/-- A line is a piece between newlines, perhaps without the carriage return at its end. -/
theorem exists_of_mem_lines {s line : Text} (h : line ∈ lines s) :
    ∃ piece ∈ split '\n' s, line ⊆ piece := by
  have hended : ∀ line ∈ (split '\n' s).dropLast.map dropReturn,
      ∃ piece ∈ split '\n' s, line ⊆ piece := by
    rw [List.forall_mem_map]
    exact fun piece hpiece => ⟨piece, List.dropLast_subset _ hpiece, dropReturn_subset piece⟩
  rw [lines] at h
  split at h
  · exact hended line h
  · exact hended line h
  · rename_i last _ hlast
    rcases List.mem_append.1 h with h | h
    · exact hended line h
    · rw [List.mem_singleton.1 h]
      exact ⟨last, List.mem_of_getLast? hlast, List.Subset.refl last⟩

theorem oneLine_of_mem_lines {s line : Text} (h : line ∈ lines s) : '\n' ∉ line := by
  obtain ⟨piece, hpiece, hsub⟩ := exists_of_mem_lines h
  exact fun hmem => not_mem_of_mem_split hpiece (hsub hmem)

theorem subset_of_mem_lines {s line : Text} (h : line ∈ lines s) : line ⊆ s := by
  obtain ⟨piece, hpiece, hsub⟩ := exists_of_mem_lines h
  exact List.Subset.trans hsub (subset_of_mem_split hpiece)

end Text

/-! ## References -/

namespace Reference

variable {s : Text} {references : List Reference}

theorem oneLine_of_mem_links (hs : '\n' ∉ s) : ∀ reference ∈ links s, reference.OneLine := by
  intro reference h
  obtain ⟨⟨⟨digits, url⟩, rest⟩, hfound, hnumber⟩ := List.mem_filterMap.1 h
  obtain ⟨n, -, rfl⟩ := Option.map_eq_some_iff.1 hnumber
  obtain ⟨before, t, rfl, hread⟩ := begins_numberLink.exists_of_mem_all hfound
  obtain ⟨rfl, -⟩ := numberLink_eq_some.1 hread
  exact oneLine_ofLink (fun hmem => hs (by simp [hmem])) n

theorem oneLine_of_mem_commits (hs : '\n' ∉ s) : ∀ reference ∈ commits s, reference.OneLine := by
  intro reference h
  obtain ⟨⟨⟨hash, url⟩, rest⟩, hfound, rfl⟩ := List.mem_map.1 h
  obtain ⟨before, t, rfl, hread⟩ := begins_commitLink.exists_of_mem_all hfound
  obtain ⟨rfl, -⟩ := commitLink_eq_some.1 hread
  exact ⟨fun hmem => hs (by simp [hmem]), fun hmem => hs (by simp [hmem])⟩

theorem oneLine_foldl_addBare (h : ∀ reference ∈ references, reference.OneLine)
    (bare : List UInt64) : ∀ reference ∈ bare.foldl addBare references, reference.OneLine := by
  induction bare generalizing references with
  | nil => exact h
  | cons n bare ih =>
    refine ih ?_
    unfold addBare
    split
    · exact h
    · rw [List.forall_mem_append, List.forall_mem_singleton]
      exact ⟨h, List.not_mem_nil⟩

theorem oneLine_of_mem_extract (hs : '\n' ∉ s) :
    ∀ reference ∈ extract s, reference.OneLine := by
  rw [extract, List.forall_mem_append]
  exact ⟨oneLine_foldl_addBare (oneLine_of_mem_links hs) _, oneLine_of_mem_commits hs⟩

end Reference

/-! ## Commits and titles -/

namespace Conventional

theorem oneLine_description? {s description : Text} (h : description? s = some description) :
    '\n' ∉ description := by
  unfold description? at h
  split at h
  · split at h
    · cases h
    · cases h
    · rename_i c hc _
      cases h
      rw [List.mem_singleton]
      rintro rfl
      exact hc rfl
  · split at h
    · cases h
    · cases h
      assumption

theorem oneLine_description {message : Text} {commit : Conventional}
    (h : ofMessage? message = some commit) : '\n' ∉ commit.description := by
  obtain ⟨header, hheader, h⟩ := Option.bind_eq_some_iff.1 h
  cases h
  simp only [header?, Option.bind_eq_bind, Option.bind_eq_some_iff, Option.pure_def,
    Option.some.injEq, Prod.exists] at hheader
  obtain ⟨kind, rest, -, after, -, description, hdescription, rfl⟩ := hheader
  exact Text.oneLine_trim (oneLine_description? hdescription)

end Conventional

namespace Title

theorem oneLine_squeezeBlanks (inside : Bool) (s : Text) : '\n' ∉ squeezeBlanks inside s := by
  induction s generalizing inside with
  | nil => exact List.not_mem_nil
  | cons c cs ih =>
    rw [squeezeBlanks]
    split
    · split
      · exact ih true
      · rw [List.mem_cons, not_or]
        exact ⟨by decide, ih true⟩
    · rename_i hc
      rw [List.mem_cons, not_or]
      refine ⟨?_, ih false⟩
      rintro rfl
      exact hc (by decide)

theorem oneLine_clean {s : Text} (h : '\n' ∉ s) : '\n' ∉ clean s := by
  have hstrip : '\n' ∉ strip s := Text.oneLine_trim (oneLine_squeezeBlanks false _)
  unfold clean
  split
  · exact Text.oneLine_trim h
  · exact Text.oneLine_capitalize hstrip

theorem oneLine_opening {words : List OpeningWord} {captured s word rest : Text}
    (hcaptured : '\n' ∉ captured) (hs : '\n' ∉ s)
    (h : opening captured words s = some (word, rest)) : '\n' ∉ word ∧ '\n' ∉ rest := by
  induction words generalizing captured s with
  | nil =>
    cases h
    exact ⟨hcaptured, hs⟩
  | cons first words ih =>
    cases first with
    | fixed text =>
      obtain ⟨t, ht, h⟩ := Option.bind_eq_some_iff.1 h
      obtain ⟨u, hu, h⟩ := Option.bind_eq_some_iff.1 h
      have hsuffix := (Text.suffix_of_afterBlanks? hu).trans (Text.suffix_of_afterFold? ht)
      exact ih hcaptured (fun hmem => hs (hsuffix.subset hmem)) h
    | any =>
      obtain ⟨⟨open_, t⟩, ht, h⟩ := Option.bind_eq_some_iff.1 h
      obtain ⟨u, hu, h⟩ := Option.bind_eq_some_iff.1 h
      have hsuffix := (Text.suffix_of_afterBlanks? hu).trans (Text.suffix_of_run? ht)
      exact ih (fun hmem => hs (Text.subset_of_run? ht hmem))
        (fun hmem => hs (hsuffix.subset hmem)) h

theorem Rephrasing.oneLine_apply {rephrasing : Rephrasing} (hverb : '\n' ∉ rephrasing.verb)
    {s : Text} (hs : '\n' ∉ s) : '\n' ∉ rephrasing.apply s := by
  unfold apply
  split
  · rename_i word rest h
    obtain ⟨hword, hrest⟩ := oneLine_opening List.not_mem_nil hs h
    cases rephrasing.keepsWord <;> simp [hverb, hword, hrest]
  · exact hs

theorem oneLine_foldl_apply {list : List Rephrasing}
    (hverbs : ∀ rephrasing ∈ list, '\n' ∉ rephrasing.verb) {s : Text} (h : '\n' ∉ s) :
    '\n' ∉ list.foldl (fun t rephrasing => rephrasing.apply t) s := by
  induction list generalizing s with
  | nil => exact h
  | cons rephrasing list ih =>
    rw [List.forall_mem_cons] at hverbs
    exact ih hverbs.2 (Rephrasing.oneLine_apply hverbs.1 h)

theorem oneLine_toImperative {s : Text} (h : '\n' ∉ s) : '\n' ∉ toImperative s :=
  Text.oneLine_capitalize (oneLine_foldl_apply (by decide) h)

end Title

end CommonChangelog
