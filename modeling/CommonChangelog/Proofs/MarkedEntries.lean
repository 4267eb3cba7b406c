import CommonChangelog.Proofs.BreakingMarks
import CommonChangelog.Proofs.DocumentEntries
import CommonChangelog.Proofs.ReferenceHints
import CommonChangelog.Proofs.WellCategorised

/-!
# Entries without references

Migration puts a marker at the end of an entry that mentions nothing like a reference. The marker
survives when the document is written and read again: what is removed from the text of an entry ends
with a closing parenthesis or is a mark in front, so it does not reach an end of the text in which
there is neither (`Scanner.Keeps`).

Whether there is something like a reference is decided by the loose test, and references are read
by strict forms. The loose test accepts more, so there are entries without a reference and without a
marker, but in each of them something looks like a reference.

**Theorem (`Legacy.parse_marks_entries`).** A change of a migrated document has a reference, or ends
with the marker, or stands for an entry that mentions something like a reference. Each reference
that validation misses in the document belongs to an entry of one of the two last kinds.
-/

namespace CommonChangelog

open Text (isBlank trim trimStart)
open Scanner (find removeAll removeFirst Begins Leaves Silent)

/-! ## What removing keeps at the end -/

namespace Scanner

variable {α : Type} {read : Scanner α} {m s : Text} {x : Char}

/-- Nothing is read within the end `m` of a text, and no reading reaches into it. -/
structure Keeps (read : Scanner α) (m : Text) : Prop where
  silent : Silent read m []
  suffix : ∀ s a rest, m <:+ s → read s = some (a, rest) → m <:+ rest

theorem Keeps.suffix_removeAll (h : Keeps read m) (hs : m <:+ s) : m <:+ removeAll read s := by
  induction hn : s.length using Nat.strongRecOn generalizing s with
  | _ n ih =>
    by_cases heq : s = m
    · subst heq
      have hremove := removeAll_of_silent h.silent
      rw [List.append_nil, removeAll_nil, List.append_nil] at hremove
      exact ⟨[], hremove.symm⟩
    · cases s with
      | nil => exact absurd (List.suffix_nil.1 hs).symm heq
      | cons c cs =>
        have htail : m <:+ cs := (List.suffix_cons_iff.1 hs).resolve_left (Ne.symm heq)
        rcases hf : find read (c :: cs) with _ | ⟨a, rest⟩
        · rw [removeAll_cons_of_none hf]
          exact (ih cs.length (by simp [← hn]) htail rfl).trans (List.suffix_cons c _)
        · have hrest := h.suffix _ a rest hs (read_of_find hf)
          rw [removeAll_of_find hf]
          exact ih rest.length (hn ▸ find_shorter hf) hrest rfl

theorem Keeps.suffix_removeFirst (h : Keeps read m) (hs : m <:+ s) :
    m <:+ removeFirst read s := by
  induction s with
  | nil =>
    rw [List.suffix_nil.1 hs]
    exact List.nil_suffix
  | cons c cs ih =>
    by_cases heq : c :: cs = m
    · rw [removeFirst_of_silent (heq ▸ h.silent)]
      exact hs
    · have htail : m <:+ cs := (List.suffix_cons_iff.1 hs).resolve_left (Ne.symm heq)
      rcases hf : find read (c :: cs) with _ | ⟨a, rest⟩
      · rw [removeFirst_cons_of_none hf]
        exact (ih htail).trans (List.suffix_cons c _)
      · rw [removeFirst_of_find hf]
        exact h.suffix _ a rest hs (read_of_find hf)

/-- What the scanner reads ends with the character `x`. -/
def Closes (read : Scanner α) (x : Char) : Prop :=
  ∀ s a rest, read s = some (a, rest) → x :: rest <:+ s

theorem Closes.spaced (h : Closes read x) : Closes (Reference.spaced read) x :=
  fun s a rest hr => (h _ a rest hr).trans (Text.trimStart_suffix s)

theorem Leaves.closes_parenthesized (h : Leaves read) :
    Closes (Reference.parenthesized read) ')' := by
  intro s a rest hr
  obtain ⟨t, rfl, ht⟩ := Reference.parenthesized_eq_some.1 hr
  exact (h t a _ ht).trans (List.suffix_cons '(' t)

theorem Encloses.closes {form : α → Text} {ok : α → Prop} (h : Encloses read form ok) :
    Closes read ')' := by
  intro s a rest hr
  obtain ⟨rfl, -⟩ := (h.read_iff s a rest).1 hr
  obtain ⟨c, body, hform, -⟩ := h.shape a
  exact ⟨c :: body, by rw [hform]; simp⟩

/-- An end without the closing character is kept. -/
theorem Closes.keeps (h : Closes read x) (hm : x ∉ m) : Keeps read m where
  silent := by
    intro u v huv _
    refine find_of_none (Option.eq_none_iff_forall_ne_some.2 fun ⟨a, rest⟩ hr => hm ?_)
    have hmem : x ∈ v ++ [] := (h _ a rest hr).subset List.mem_cons_self
    rw [huv]
    exact List.mem_append_right u (by simpa using hmem)
  suffix := by
    intro s a rest hs hr
    rcases List.suffix_or_suffix_of_suffix hs (h s a rest hr) with hsuffix | hsuffix
    · rcases List.suffix_cons_iff.1 hsuffix with rfl | hrest
      · exact absurd List.mem_cons_self hm
      · exact hrest
    · exact absurd (hsuffix.subset List.mem_cons_self) hm

end Scanner

/-! ## The marker -/

namespace Legacy

open Change (breakingMark breakingMarker)

variable {s : Text}

theorem suffix_trimStart (h : todoMarker <:+ s) : todoMarker <:+ trimStart s := by
  obtain ⟨p, rfl⟩ := h
  cases hp : Text.allBlank p with
  | true =>
    have hmarker : trimStart todoMarker = todoMarker := by decide
    exact ⟨[], ((Text.trimStart_append_of_allBlank hp todoMarker).trans hmarker).symm⟩
  | false =>
    rw [Text.trimStart_append hp]
    exact List.suffix_append _ _

theorem suffix_trim (h : todoMarker <:+ s) : todoMarker <:+ trim s := by
  have hmarker : ∀ c ∈ todoMarker.getLast?, isBlank c = false := by
    intro c hc
    cases hc
    rfl
  have hlast : ∀ c ∈ s.getLast?, isBlank c = false := by
    obtain ⟨p, rfl⟩ := h
    exact Text.last_append_of_ne_nil (by decide) hmarker p
  rw [Text.trim_of_last hlast]
  exact suffix_trimStart h

theorem suffix_strip (h : todoMarker <:+ s) : todoMarker <:+ Reference.strip s := by
  have hm : ')' ∉ todoMarker := by decide
  have h₁ := (Reference.begins_numberLink.leaves.closes_parenthesized.spaced.keeps
    hm).suffix_removeAll h
  have h₂ := (Reference.begins_commitLink.leaves.closes_parenthesized.spaced.keeps
    hm).suffix_removeAll h₁
  have h₃ := (Reference.encloses_bareNumber.closes.spaced.keeps hm).suffix_removeAll h₂
  have h₄ := (Reference.encloses_numberLink.closes.spaced.keeps hm).suffix_removeAll h₃
  have h₅ := (Reference.encloses_commitLink.closes.spaced.keeps hm).suffix_removeAll h₄
  exact suffix_trim h₅

/-- The mark of a breaking change neither occurs in the marker nor reaches into it. -/
theorem keeps_breakingMarker : Scanner.Keeps breakingMarker todoMarker where
  silent := Change.begins_breakingMarker.silent
    (fun h => absurd (Text.contains_iff.2 h) (by decide)) (by simp)
  suffix := by
    intro s a rest hs hr
    obtain ⟨p, rfl⟩ := hs
    obtain ⟨t, ht⟩ := Change.begins_breakingMarker _ a rest hr
    have hprefix : breakingMark <+: p ++ todoMarker := ⟨t ++ rest, by rw [ht, List.append_assoc]⟩
    have hhead : ∀ c ∈ todoMarker.head?, c ∉ breakingMark := by
      intro c hc
      cases hc
      decide
    obtain ⟨q, rfl⟩ := Scanner.prefix_of_prefix_append hhead hprefix
    rw [List.append_assoc, Change.breakingMarker_append] at hr
    cases hr
    exact suffix_trimStart (List.suffix_append q todoMarker)

/-- The marker is read again of a change without references. -/
theorem suffix_reread {change : Change} (hreferences : change.references = [])
    (h : todoMarker <:+ change.text) : todoMarker <:+ change.reread.text := by
  have hbody : change.body = change.text := by
    rw [Change.body, hreferences]
    exact List.append_nil change.text
  have hitem : todoMarker <:+ trim (change.marking ++ change.body) := by
    rw [hbody]
    exact suffix_trim (h.trans (List.suffix_append change.marking change.text))
  exact suffix_strip (keeps_breakingMarker.suffix_removeFirst hitem)

/-- An entry that mentions nothing like a reference has no reference, and gets the marker. -/
theorem change_of_needsReference {raw : Text} (h : needsReference raw) :
    (change raw).references = [] ∧ todoMarker <:+ (change raw).text := by
  have hhint : ¬Reference.isHinted (reword raw) := by
    rw [needsReference, Bool.not_eq_true'] at h
    rw [h]
    exact Bool.false_ne_true
  refine ⟨?_, ?_⟩
  · by_contra hreferences
    exact hhint (Reference.isHinted_of_extract hreferences)
  · rw [change, if_pos h]
    exact ⟨Reference.strip (reword raw) ++ " ", by simp⟩

end Legacy

/-! ## Missing references -/

section

variable {rules : Rules}

theorem Group.exists_of_missingReference {unreleased : Bool} {groups : List Group} {text : Text}
    {previous : List Category}
    (h : .missingReference text ∈ allFindings rules unreleased previous groups) :
    ∃ group ∈ groups, ∃ change ∈ group.changes, change.text = text := by
  induction groups generalizing previous with
  | nil => exact absurd h List.not_mem_nil
  | cons group groups ih =>
    rw [allFindings, List.mem_append] at h
    rcases h with h | h
    · unfold findings at h
      split at h
      · cases List.mem_singleton.1 h
      · rw [List.mem_append, List.mem_ite_nil_right, List.mem_singleton] at h
        rcases h with ⟨-, heq⟩ | h
        · cases heq
        · obtain ⟨change, hchange, h⟩ := List.mem_flatMap.1 h
          refine ⟨group, List.mem_cons_self, change, hchange, ?_⟩
          rcases Change.cases_of_mem_findings h with ⟨heq, -⟩ | heq
          · exact (Diagnostic.missingReference.inj heq).symm
          · cases heq
    · obtain ⟨other, hother, hchange⟩ := ih h
      exact ⟨other, List.mem_cons_of_mem group hother, hchange⟩

/-- A missing reference is that of a change. -/
theorem Changelog.exists_of_missingReference {changelog : Changelog} {text : Text}
    (h : .missingReference text ∈ changelog.findings rules) :
    ∃ change ∈ changelog.changes, change.text = text := by
  rcases cases_of_mem_findings h with ⟨release, hrelease, h⟩ | h | h | ⟨versions, h⟩ | h
  · rcases Release.cases_of_mem_findings h with ⟨unreleased, h⟩ | h | h | ⟨date, h⟩
    · obtain ⟨group, hgroup, change, hchange, htext⟩ := Group.exists_of_missingReference h
      exact ⟨change, List.mem_flatMap.2 ⟨release, hrelease,
        List.mem_flatMap.2 ⟨group, hgroup, hchange⟩⟩, htext⟩
    all_goals cases h
  all_goals cases h

/-- What is read of a written document are changes of the document, each read again. -/
theorem Changelog.exists_of_mem_reread {changelog : Changelog} {change : Change}
    (h : change ∈ (changelog.reread rules).changes) :
    ∃ written ∈ changelog.changes, change = written.reread := by
  obtain ⟨read, hread, h⟩ := List.mem_flatMap.1 h
  obtain ⟨release, hrelease, hread⟩ := List.mem_filterMap.1 hread
  obtain ⟨written, hwritten, hchange⟩ := Release.exists_of_mem_changes_reread? hread h
  exact ⟨written, List.mem_flatMap.2 ⟨release, hrelease, hwritten⟩, hchange⟩

end

/-! ## Migrated documents -/

namespace Legacy

/-- A change without a reference and without the marker is due to the loose test. -/
theorem change_cases (raw : Text) :
    (change raw).references ≠ [] ∨ todoMarker <:+ (change raw).text ∨
      Reference.isHinted (reword raw) ∧ Reference.extract (reword raw) = [] := by
  cases hneeds : needsReference raw with
  | true => exact .inr (.inl (change_of_needsReference hneeds).2)
  | false =>
    rw [needsReference, Bool.not_eq_false'] at hneeds
    by_cases hextract : Reference.extract (reword raw) = []
    · exact .inr (.inr ⟨hneeds, hextract⟩)
    · exact .inl hextract

theorem reread_cases (raw : Text) :
    todoMarker <:+ (change raw).reread.text ∨ Reference.isHinted (reword raw) := by
  cases hneeds : needsReference raw with
  | true =>
    obtain ⟨hreferences, hmarker⟩ := change_of_needsReference hneeds
    exact .inl (suffix_reread hreferences hmarker)
  | false =>
    rw [needsReference, Bool.not_eq_false'] at hneeds
    exact .inr hneeds

variable {rules checked : Rules} {repository : Option Text} {content text : Text}

theorem exists_entry {change : Change} (h : change ∈ (parse rules content).changes) :
    ∃ raw ∈ entries content, change = Legacy.change raw := by
  obtain ⟨raw, hraw, rfl⟩ := List.mem_map.1 ((changes_parse rules content).mem_iff.1 h)
  exact ⟨raw, hraw, rfl⟩

/-- A reference that is missing in a migrated document is that of a change that was carried over. -/
theorem exists_of_missingReference {migration : Migration}
    (hrepository : ∀ url ∈ repository, '\n' ∉ url)
    (hmigrate : migrate? rules repository content = some migration)
    (h : .missingReference text ∈ (validate checked migration.output).errors) :
    ∃ written ∈ (parse rules content).changes, written.reread.text = text := by
  have hlines : ∀ release ∈ (parse rules content).releases, release.OneLine :=
    fun release hrelease => (tidy_of_mem_parse rules content release hrelease).oneLine
  rw [output_of_migrate? hmigrate,
    Changelog.validate_render rfl hlines (Layout.plain_common hrepository)] at h
  obtain ⟨read, hread, rfl⟩ := Changelog.exists_of_missingReference (List.mem_filter.1 h).1
  obtain ⟨written, hwritten, rfl⟩ := Changelog.exists_of_mem_reread hread
  exact ⟨written, hwritten, rfl⟩

/--
**Every migrated entry has a reference, the marker, or something like a reference.** The same holds
of the entries of the migrated document in which validation misses a reference: each comes from an
entry of the older changelog, and ends with the marker unless this entry mentions something that
looks like a reference.
-/
theorem parse_marks_entries (rules : Rules) (content : Text) :
    (∀ change ∈ (parse rules content).changes, ∃ raw ∈ entries content,
      change = Legacy.change raw ∧
        (change.references ≠ [] ∨ todoMarker <:+ change.text ∨
          Reference.isHinted (reword raw) ∧ Reference.extract (reword raw) = [])) ∧
    ∀ (checked : Rules) (repository : Option Text) (migration : Migration),
      (∀ url ∈ repository, '\n' ∉ url) → migrate? rules repository content = some migration →
      ∀ text, .missingReference text ∈ (validate checked migration.output).errors →
        ∃ raw ∈ entries content, (Legacy.change raw).reread.text = text ∧
          (todoMarker <:+ text ∨ Reference.isHinted (reword raw)) := by
  refine ⟨fun change hchange => ?_, ?_⟩
  · obtain ⟨raw, hraw, rfl⟩ := exists_entry hchange
    exact ⟨raw, hraw, rfl, change_cases raw⟩
  · intro checked repository migration hrepository hmigrate text htext
    obtain ⟨written, hwritten, rfl⟩ := exists_of_missingReference hrepository hmigrate htext
    obtain ⟨raw, hraw, rfl⟩ := exists_entry hwritten
    exact ⟨raw, hraw, rfl, reread_cases raw⟩

/-- Three entries: one mentions a number, one has nothing, and one has a reference. -/
def markedSample : Text :=
  "# History\n\n## v1.0.0 - 2024-01-01\n\n### Fixed\n\n- Fix crash #12\n" ++
    "- **Breaking:** Fix leak\n- Fix search (#3)\n"

theorem parse_marks_entries_markedSample :
    ∃ migration, migrate? Rules.default none markedSample = some migration ∧
      (validate Rules.default migration.output).errors =
        [.missingReference "Fix crash #12",
          .missingReference ("Fix leak ".toList ++ todoMarker)] ∧
      ∀ text, .missingReference text ∈ (validate Rules.default migration.output).errors →
        ∃ raw ∈ entries markedSample, (Legacy.change raw).reread.text = text ∧
          (todoMarker <:+ text ∨ Reference.isHinted (reword raw)) := by
  have herrors : (migrate? Rules.default none markedSample).any fun migration =>
      (validate Rules.default migration.output).errors =
        [.missingReference "Fix crash #12",
          .missingReference ("Fix leak ".toList ++ todoMarker)] := by
    decide +kernel
  obtain ⟨migration, hmigrate, herrors⟩ := (Option.any_eq_true _ _).1 herrors
  exact ⟨migration, hmigrate, of_decide_eq_true herrors,
    (parse_marks_entries Rules.default markedSample).2 Rules.default none migration
      (fun url h => absurd h (Option.not_mem_none url)) hmigrate⟩

/-- An entry that mentions a number outside parentheses. -/
def hintedSample : Text := "## [1.0.0] - 2024-01-01\n\n### Fixed\n\n- Fix crash #12\n"

theorem parse_leaves_hinted_entries :
    (∃ change ∈ (parse Rules.default hintedSample).changes,
      change.references = [] ∧ Text.contains todoMarker change.text = false) ∧
    (migrate? Rules.default none hintedSample).any fun migration =>
      .missingReference "Fix crash #12" ∈ (validate Rules.default migration.output).errors := by
  decide +kernel

end Legacy

end CommonChangelog
