import CommonChangelog.Config
import CommonChangelog.Proofs.BreakingMarks
import CommonChangelog.Proofs.CarriedEntries
import CommonChangelog.Proofs.ReferenceHints

/-!
# Entries that migration leaves alone

Migration rephrases entries: about deprecations and breaking changes wherever it finds the words,
and openings in the past tense or in narrative form. An entry that opens with a verb in the
imperative mood and has a reference needs none of this. It is left alone unless it mentions a
deprecation without opening with it, or mentions breaking other than by the mark
(`Legacy.Canonical`).

The verb that counts is the one of the cleaned text. Removing references keeps what stands before
the first blank or bracket, so either the entry opens with this verb as well, or it opens with a
bracket or with a part of the verb. None of the openings that are rephrased begins so.

**Theorem (`Legacy.read_keeps_entry`).** A canonical entry in a category of a release is read as the
strict reader reads it, and gets no marker.
-/

namespace CommonChangelog

open Text (isBlank isWord fold isLetter trim trimStart lower)
open Scanner (find removeAll Begins Silent)

/-! ## What removing references keeps -/

namespace Reference

/-- Neither a blank nor an opening bracket: no reference, and no blank before one, begins so. -/
def isFree (c : Char) : Bool := !isBlank c && c != '(' && c != '['

variable {α : Type} {read : Scanner α} {start w : Text} {c : Char}

theorem isBlank_of_isFree (h : isFree c) : isBlank c = false := by
  rw [isFree, Bool.and_eq_true, Bool.and_eq_true, Bool.not_eq_true'] at h
  exact h.1.1

theorem silent_of_isFree (h : Begins read (c :: start)) (hc : isFree c = false)
    (hw : ∀ d ∈ w, isFree d) (s : Text) : Silent (spaced read) w s := by
  intro u v huv hv
  obtain ⟨d, ds, rfl⟩ := List.exists_cons_of_ne_nil hv
  have hd : isFree d := hw d (huv ▸ List.mem_append_right u List.mem_cons_self)
  have htrim : trimStart (d :: ds ++ s) = d :: ds ++ s :=
    Text.trimStart_of_head (Text.forall_head_cons (isBlank_of_isFree hd) _)
  rw [find_spaced h (List.cons_ne_nil c start), htrim]
  refine h.eq_none fun hprefix => ?_
  rw [(List.cons_prefix_cons.1 hprefix).1, hd] at hc
  exact Bool.noConfusion hc

/-- **Removing references keeps a beginning without blanks and brackets.** -/
theorem exists_strip_append (hw : ∀ d ∈ w, isFree d) (s : Text) :
    ∃ rest, strip (w ++ s) = w ++ rest := by
  have hkeep : ∀ {α : Type} {read : Scanner α} {start : Text} {c : Char},
      Begins read (c :: start) → isFree c = false → ∀ t,
        removeAll (spaced read) (w ++ t) = w ++ removeAll (spaced read) t :=
    fun h hc t => Scanner.removeAll_of_silent (silent_of_isFree h hc hw t)
  have htrim : ∀ t, ∃ rest, trim (w ++ t) = w ++ rest := by
    intro t
    cases w with
    | nil => exact ⟨trim t, rfl⟩
    | cons d ds =>
      have hhead : trimStart (d :: ds ++ t) = d :: ds ++ t := Text.trimStart_of_head
        (Text.forall_head_cons (isBlank_of_isFree (hw d List.mem_cons_self)) _)
      have hlast : ∀ e ∈ (d :: ds).getLast?, isBlank e = false :=
        fun e he => isBlank_of_isFree (hw e (List.mem_of_getLast? he))
      exact ⟨Text.trimEnd t, by rw [trim, hhead, Text.trimEnd_append_of_last hlast]⟩
  rw [strip, hkeep (begins_parenthesized begins_numberLink) (by decide),
    hkeep (begins_parenthesized begins_commitLink) (by decide),
    hkeep begins_bareNumber (by decide), hkeep begins_numberLink (by decide),
    hkeep begins_commitLink (by decide)]
  exact htrim _

end Reference

/-! ## Openings -/

namespace Text

theorem isWord_of_isLetter {c : Char} (h : isLetter (fold c)) :
    isWord c ∧ Reference.isFree c := by
  rcases cases_of_isLetter h with rfl | rfl | ⟨hlt, hfold⟩
  · decide +kernel
  · decide +kernel
  · rw [hfold] at h
    have hascii : ∀ n < 0x80, isLetter (Char.ofNat n).toLower →
        isWord (Char.ofNat n) ∧ Reference.isFree (Char.ofNat n) := by decide
    exact forall_ascii (p := fun c => isLetter c.toLower → isWord c ∧ Reference.isFree c)
      hascii hlt h

end Text

namespace Title

/-- The first words of the openings that are rephrased. -/
def openers : List Text := ["added", "fixed", "removed", "changed", "updated", "the", "we", "this"]

theorem exists_opener : ∀ rephrasing ∈ rephrasings,
    ∃ word ∈ openers, ∃ words, rephrasing.words = .fixed word :: words := by
  simp [rephrasings, openers]

theorem isLetter_of_mem_openers {word : Text} (h : word ∈ openers) : ∀ c ∈ word, isLetter c := by
  have hall : ∀ word ∈ openers, word.all isLetter := by decide
  exact List.all_eq_true.1 (hall word h)

/-- No verb in the imperative mood begins, in any case, with the first word of an opening. -/
theorem not_opener_prefix : ∀ word ∈ openers, ∀ verb ∈ defaultVerbs,
    ¬word <+: verb.map fold := by
  decide +kernel

theorem exists_capital {verb : Text} (h : verb ∈ defaultVerbs) :
    ∃ c ∈ verb.head?, Text.upperChar c = [c] := by
  have hall : ∀ verb ∈ defaultVerbs, verb.head?.any fun c => Text.upperChar c = [c] := by
    decide +kernel
  obtain ⟨c, hc, hupper⟩ := (Option.any_eq_true _ _).1 (hall verb h)
  exact ⟨c, hc, of_decide_eq_true hupper⟩

variable {s verb rest : Text}

/-- A text does not begin with an opener if it opens with a verb once references are removed. -/
theorem afterFold?_opener (hverb : verb ∈ defaultVerbs) (hstrip : Reference.strip s = verb ++ rest)
    (hrest : ∀ c ∈ rest.head?, isWord c = false) {word : Text} (hword : word ∈ openers) :
    Text.afterFold? word s = none := by
  refine Option.eq_none_iff_forall_ne_some.2 fun after hafter => ?_
  obtain ⟨w, rfl, hfold⟩ := Text.afterFold?_eq_some.1 hafter
  have hletters : ∀ c ∈ w, isLetter (fold c) := by
    intro c hc
    refine isLetter_of_mem_openers hword _ ?_
    rw [← hfold]
    exact List.mem_map_of_mem hc
  obtain ⟨kept, hkept⟩ :=
    Reference.exists_strip_append (fun c hc => (Text.isWord_of_isLetter (hletters c hc)).2) after
  rw [hkept] at hstrip
  -- One of the two is a beginning of the other, but no opener begins a verb.
  rcases List.append_eq_append_iff.1 hstrip with ⟨t, rfl, -⟩ | ⟨t, rfl, ht⟩
  · refine not_opener_prefix word hword _ hverb ?_
    rw [List.map_append, hfold]
    exact List.prefix_append word _
  · cases t with
    | nil =>
      rw [List.append_nil] at hfold
      exact not_opener_prefix word hword _ hverb (hfold ▸ List.prefix_rfl)
    | cons c t =>
      have hc : isWord c := (Text.isWord_of_isLetter
        (hletters c (List.mem_append_right verb List.mem_cons_self))).1
      rw [hrest c (by rw [ht]; rfl)] at hc
      exact Bool.noConfusion hc

theorem Rephrasing.apply_eq_self {rephrasing : Rephrasing} {word : Text} {words : List OpeningWord}
    (hwords : rephrasing.words = .fixed word :: words) (h : Text.afterFold? word s = none) :
    rephrasing.apply s = s := by
  have hopening : opening [] (.fixed word :: words) s = none := by
    rw [opening, h]
    rfl
  rw [apply, hwords, hopening]

/-- Such a text begins with a capital or with a bracket, unless it begins with a blank. -/
theorem capitalize_of_strip (hhead : ∀ c ∈ s.head?, isBlank c = false)
    (hverb : verb ∈ defaultVerbs) (hstrip : Reference.strip s = verb ++ rest) :
    Text.capitalize s = s := by
  cases s with
  | nil => rfl
  | cons c cs =>
    have hcapital : Text.upperChar c = [c] := by
      cases hc : Reference.isFree c with
      | true =>
        -- The first character is that of the verb.
        obtain ⟨kept, hkept⟩ :=
          Reference.exists_strip_append (List.forall_mem_singleton.2 hc) cs
        obtain ⟨d, hd, hupper⟩ := exists_capital hverb
        obtain ⟨ds, rfl⟩ := List.head?_eq_some_iff.1 hd
        rw [← List.singleton_append, hkept, List.singleton_append, List.cons_append,
          List.cons.injEq] at hstrip
        rw [hstrip.1, hupper]
      | false =>
        have hbracket : c = '(' ∨ c = '[' := by
          have hblank := hhead c rfl
          simp only [Reference.isFree, hblank, Bool.not_false, Bool.true_and,
            Bool.and_eq_false_iff, bne_eq_false_iff_eq] at hc
          exact hc
        rcases hbracket with rfl | rfl <;> decide +kernel
    rw [Text.capitalize, hcapital, List.singleton_append]

/--
**A text that opens with a verb once references are removed is in the imperative mood.** It may
begin with a reference, but not with a blank.
-/
theorem toImperative_of_strip (hhead : ∀ c ∈ s.head?, isBlank c = false)
    (hverb : verb ∈ defaultVerbs) (hstrip : Reference.strip s = verb ++ rest)
    (hrest : ∀ c ∈ rest.head?, isWord c = false) : toImperative s = s := by
  have hrephrase : ∀ list ⊆ rephrasings,
      list.foldl (fun t rephrasing => rephrasing.apply t) s = s := by
    intro list hlist
    induction list with
    | nil => rfl
    | cons rephrasing list ih =>
      rw [List.cons_subset] at hlist
      obtain ⟨word, hword, words, hwords⟩ := exists_opener rephrasing hlist.1
      rw [List.foldl_cons, Rephrasing.apply_eq_self hwords
        (afterFold?_opener hverb hstrip hrest hword)]
      exact ih hlist.2
  rw [toImperative, hrephrase rephrasings (List.Subset.refl _)]
  exact capitalize_of_strip hhead hverb hstrip

end Title

/-! ## Canonical entries -/

namespace Legacy

open Change (breakingMark breakingMarker)

/--
An entry that needs no rewording. Its words about deprecations and breaking changes are those that
the library writes itself.
-/
structure Canonical (raw : Text) : Prop where
  trimmed : trim raw = raw
  oneLine : '\n' ∉ raw
  referenced : Reference.extract raw ≠ []
  /-- It opens with a capitalised verb in the imperative mood. -/
  imperative : ∃ verb ∈ defaultVerbs, ∃ rest, Change.clean raw = verb ++ rest ∧
    ∀ c ∈ rest.head?, isWord c = false
  /-- If it mentions a deprecation, it opens with the verb. -/
  deprecation : Text.contains "deprecat" (lower raw) → Text.startsWith "deprecate " (lower raw)
  /-- If it mentions breaking, it does so first in the mark, where no bracket is open. -/
  breaking : Text.contains "breaking" (lower raw) → ∃ before after,
    raw = before ++ (breakingMark ++ after) ∧ Text.contains "breaking" (lower before) = false ∧
      Reference.isClosed before ∧ (trimStart after).head? ≠ some ']'

variable {raw : Text}

theorem Canonical.openWithDeprecate_eq (h : Canonical raw) : openWithDeprecate raw = raw := by
  dsimp only [openWithDeprecate]
  rw [if_neg]
  intro hopen
  rw [Bool.and_eq_true, Bool.not_eq_true'] at hopen
  rw [h.deprecation hopen.1] at hopen
  exact Bool.noConfusion hopen.2

/-- Migration drops the mark of the entry, and neither its references nor its flag change. -/
theorem Canonical.unmarked (h : Canonical raw) :
    (if isBreaking raw then Scanner.removeFirst breakingWord raw else raw) =
        Scanner.removeFirst breakingMarker raw ∧
      Reference.extract (Scanner.removeFirst breakingMarker raw) = Reference.extract raw ∧
      Change.isMarkedBreaking raw = isBreaking raw ∧
      ∀ c ∈ (Scanner.removeFirst breakingMarker raw).head?, isBlank c = false := by
  have hhead := Text.head_of_trim h.trimmed
  cases hbreaking : isBreaking raw with
  | false =>
    have hmark := isMarkedBreaking_of_isBreaking hbreaking
    have hnone : ¬breakingMark <:+: raw := by
      intro hinfix
      rw [Change.isMarkedBreaking, Text.contains_iff.2 hinfix] at hmark
      exact Bool.noConfusion hmark
    have hremove : Scanner.removeFirst breakingMarker raw = raw :=
      Scanner.removeFirst_of_silent (Change.begins_breakingMarker.silent hnone (by simp))
    rw [hremove]
    exact ⟨rfl, rfl, hmark, hhead⟩
  | true =>
    obtain ⟨before, after, rfl, hbefore, hclosed, hafter⟩ := h.breaking hbreaking
    obtain ⟨hword, hmarker⟩ := removeFirst_breakingWord hbefore after
    refine ⟨?_, ?_, ?_, ?_⟩
    · rw [if_pos rfl, hword, hmarker]
    · rw [hmarker, Reference.extract_unmark hclosed hafter]
    · exact Text.contains_iff.2 ⟨before, after, List.append_assoc _ _ _⟩
    · rw [hmarker]
      cases before with
      | nil => exact Text.head_trimStart after
      | cons c cs => exact hhead

theorem Canonical.reword_eq (h : Canonical raw) :
    reword raw = Scanner.removeFirst breakingMarker raw := by
  obtain ⟨hremove, -, -, hhead⟩ := h.unmarked
  obtain ⟨verb, hverb, rest, hclean, hrest⟩ := h.imperative
  dsimp only [reword]
  rw [h.openWithDeprecate_eq, hremove]
  exact Title.toImperative_of_strip hhead hverb hclean hrest

/-- It has a reference, so it gets no marker. -/
theorem Canonical.needsReference_eq (h : Canonical raw) : needsReference raw = false := by
  have hextract : Reference.extract (reword raw) ≠ [] := by
    rw [h.reword_eq, h.unmarked.2.1]
    exact h.referenced
  rw [needsReference, Reference.isHinted_of_extract hextract]
  rfl

theorem Canonical.change_eq (h : Canonical raw) : change raw = Change.ofEntry raw := by
  obtain ⟨-, hextract, hmark, -⟩ := h.unmarked
  rw [change, h.needsReference_eq, h.reword_eq, hextract, ← hmark, if_neg Bool.false_ne_true,
    List.append_nil]
  rfl

theorem Canonical.classify_eq (h : Canonical raw) :
    LegacyLine.classify ("- ".toList ++ raw) = .entry raw := by
  have hhead := Text.head_of_trim h.trimmed
  have hstart : trimStart raw = raw := Text.trimStart_of_head hhead
  have hblank : Text.allBlank raw = false := by
    rw [Bool.eq_false_iff]
    intro hblank
    have hnil : Reference.extract [] = [] := by decide +kernel
    rw [Text.trimStart_of_allBlank hblank] at hstart
    exact h.referenced (hstart ▸ hnil)
  have hitem := LegacyLine.classify_item (.inl rfl) hblank
  rwa [hstart] at hitem

/--
**Migration leaves canonical entries alone.** Where an older changelog has been read up to a
category of a release, a list item with a canonical entry adds the change to that category which the
strict reader reads from the entry: the same text, without a marker, the same references and the
same flag.
-/
theorem read_keeps_entry (rules : Rules) (content raw : Text) (release : Release)
    (category : Category) (hrelease : (read rules content).current = some release)
    (hcategory : (read rules content).category = some category) (h : Canonical raw) :
    read rules (content ++ "\n- ".toList ++ raw) =
      { read rules content with
        current := some (release.add category (Change.ofEntry raw)) } := by
  have hline : '\n' ∉ "- ".toList ++ raw := by
    rw [List.mem_append, not_or]
    exact ⟨by decide, h.oneLine⟩
  have hsplit : Text.split '\n' (content ++ "\n- ".toList ++ raw) =
      Text.split '\n' content ++ ["- ".toList ++ raw] := by
    rw [← Text.split_of_not_mem hline, ← Text.split_append]
    simp
  have hread : read rules (content ++ "\n- ".toList ++ raw) =
      (read rules content).step rules (.entry raw) := by
    rw [read, hsplit, List.map_append, List.map_singleton, List.foldl_append, h.classify_eq]
    rfl
  rw [hread]
  dsimp only [Reader.step]
  rw [hrelease, hcategory]
  dsimp only
  rw [h.change_eq, h.needsReference_eq]
  rfl

/-- An older changelog up to a category. -/
def openedSample : Text := "# History\n\n## v1.0.0\n\n### Removed\n"

/-- An entry with a reference in front of the verb, and the mark at the end of the sentence. -/
def keptSample : Text := "(#7) Remove [old](x) flag **Breaking:** no breaking news"

theorem keptSample_canonical : Canonical keptSample where
  trimmed := by decide
  oneLine := by decide
  referenced := by decide +kernel
  imperative := ⟨"Remove", by decide, " [old](x) flag no breaking news", by decide +kernel,
    Text.forall_head_cons (by rfl) _⟩
  deprecation := fun h => absurd h (by decide +kernel)
  breaking := fun _ => ⟨"(#7) Remove [old](x) flag ", " no breaking news", by decide +kernel,
    by decide +kernel, by decide, by decide⟩

theorem read_keeps_entry_keptSample :
    (read Rules.default openedSample).current = some { label := "1.0.0" } ∧
    (read Rules.default openedSample).category = some .removed ∧ Canonical keptSample ∧
    (read Rules.default (openedSample ++ "\n- ".toList ++ keptSample)).current =
      some (Release.add { label := "1.0.0" } .removed (Change.ofEntry keptSample)) ∧
    (Change.ofEntry keptSample).text = "Remove [old](x) flag no breaking news" := by
  have hrelease : (read Rules.default openedSample).current = some { label := "1.0.0" } := by
    decide +kernel
  have hcategory : (read Rules.default openedSample).category = some .removed := by
    decide +kernel
  have hread := read_keeps_entry Rules.default openedSample keptSample _ _ hrelease hcategory
    keptSample_canonical
  exact ⟨hrelease, hcategory, keptSample_canonical, congrArg Reader.current hread,
    by decide +kernel⟩

/--
Entries with a reference and a verb at the front: two that mention a deprecation or breaking in
other words, and two with the mark between brackets.
-/
def rewordedSamples : List Text :=
  ["Remove deprecated flag (#3)".toList, "Fix breaking of long lines (#4)".toList,
    "Add search (**Breaking:** #12) (#5)".toList, "Add search (#12)**Breaking:**] (#6)".toList]

theorem change_rewords_plain_entries :
    (∀ raw ∈ rewordedSamples, trim raw = raw ∧ '\n' ∉ raw ∧ Reference.extract raw ≠ [] ∧
      (defaultVerbs.any fun verb => Text.startsWith (verb ++ " ") (Change.clean raw)) ∧
      change raw ≠ Change.ofEntry raw) ∧
    (change "Remove deprecated flag (#3)").text = "Deprecate Remove deprecated flag" ∧
    (Change.ofEntry "Remove deprecated flag (#3)").text = "Remove deprecated flag" := by
  decide +kernel

end Legacy

end CommonChangelog
