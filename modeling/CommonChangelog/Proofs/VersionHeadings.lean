import CommonChangelog.Migration
import CommonChangelog.Proofs.Numerals
import CommonChangelog.Proofs.Scanning
import Mathlib.Data.Option.Basic

/-!
# Version headings in the dialect and in migration

A text is taken for one with version headings if somewhere a line begins with one or two number
signs, blanks, and two numbers with a dot between them, perhaps behind an opening bracket. Migration
reads a release on each line that begins with two number signs and a label, which is in brackets or
begins with two such numbers. Their rules differ in three ways: the heading of the dialect may be of
the first level, its bracket need not be closed, and as line breaks are blanks it may go on in a
later line. `Dialect.isWhole` excludes just these three.

**Theorem (`Legacy.parse_reads_headings`).** Migration reads a release at a version heading exactly
if the heading is whole. So there are at least as many releases as whole headings, and a text whose
version headings are whole is not carried over without a release.
-/

namespace CommonChangelog

open Text (after? run? isDigit isBlank allBlank trimStart)

/-! ## The lines of a text and where they begin -/

namespace Text

/-- The text up to the first line break. -/
def firstLine (s : Text) : Text := s.takeWhile (· ≠ '\n')

theorem firstLine_append {s : Text} (h : '\n' ∉ s) (t : Text) :
    firstLine (s ++ t) = s ++ firstLine t :=
  List.takeWhile_append_of_pos fun _ hc => decide_eq_true fun heq => h (heq ▸ hc)

end Text

/-- The lines of a text are those that begin at its line starts. -/
theorem Dialect.map_firstLine_lineStarts (s : Text) :
    (lineStarts s).map Text.firstLine = Text.split '\n' s := by
  induction s with
  | nil => rfl
  | cons c cs ih =>
    rw [lineStarts, List.map_cons] at ih
    rw [lineStarts, List.map_cons, Text.split, laterLines, Text.firstLine]
    by_cases hc : c = '\n'
    · rw [if_pos hc, if_pos hc, List.map_cons, ih, List.takeWhile_cons_of_neg (by simpa using hc)]
    · rw [if_neg hc, if_neg hc, ← ih, List.takeWhile_cons_of_pos (by simpa using hc)]
      rfl

/-! ## The form of a version heading -/

namespace Dialect

/-- Two numbers with a dot between them, of the second one only the first digit. -/
structure Numbered (digits : Text) (d : Char) : Prop where
  ne_nil : digits ≠ []
  digits : ∀ c ∈ digits, isDigit c
  next : isDigit d

/-- What stands before the numbers: number signs, blanks, and perhaps an opening bracket. -/
structure Introduced (marks blanks opening : Text) : Prop where
  marks : marks = ['#'] ∨ marks = ['#', '#']
  blanks : allBlank blanks
  opening : opening = [] ∨ opening = ['[']

theorem ne_of_isDigit {c d : Char} (h : isDigit c) (hd : isDigit d = false) : c ≠ d := by
  rintro rfl
  rw [h] at hd
  cases hd

theorem Numbered.not_mem {digits : Text} {c d : Char} (h : Numbered digits d)
    (hc : isDigit c = false) : c ∉ digits ∧ c ≠ d :=
  ⟨fun hmem => ne_of_isDigit (h.digits c hmem) hc rfl, (ne_of_isDigit h.next hc).symm⟩

theorem Numbered.head {digits : Text} {d : Char} (h : Numbered digits d) (rest : Text) :
    ∀ c ∈ (digits ++ rest).head?, isDigit c := by
  obtain ⟨e, ds, rfl⟩ := List.exists_cons_of_ne_nil h.ne_nil
  exact Text.forall_head_cons (h.digits e List.mem_cons_self) _

/-- Behind the dot stands a number. -/
theorem Numbered.exists_run {digits : Text} {d : Char} (h : Numbered digits d) (rest : Text) :
    ∃ more tail, run? isDigit (d :: rest) = some (more, tail) := by
  rw [run?, List.takeWhile_cons_of_pos h.next]
  exact ⟨_, _, rfl⟩

/-- The numbers, with or without the bracket, begin with a character that is no blank. -/
theorem head_numbers {digits opening : Text} {d : Char} (h : Numbered digits d)
    (hopening : opening = [] ∨ opening = ['[']) (rest : Text) :
    ∀ c ∈ (opening ++ (digits ++ '.' :: d :: rest)).head?, isBlank c = false ∧ c ≠ '#' := by
  rcases hopening with rfl | rfl
  · intro c hc
    have hdigit := h.head ('.' :: d :: rest) c hc
    exact ⟨Text.isBlank_of_isDigit hdigit, ne_of_isDigit hdigit (by decide)⟩
  · exact Text.forall_head_cons (by decide) _

/-- Blanks do not go on with the number signs. -/
theorem head_ne_of_allBlank {blanks body : Text} (hblanks : allBlank blanks)
    (hbody : ∀ c ∈ body.head?, c ≠ '#') : ∀ c ∈ (blanks ++ body).head?, c ≠ '#' := by
  cases blanks with
  | nil => exact hbody
  | cons b bs =>
    have hb : isBlank b := List.all_eq_true.1 hblanks b List.mem_cons_self
    refine Text.forall_head_cons ?_ _
    rintro rfl
    exact absurd hb (by decide)

theorem headingMark_eq_some {level : Nat} {s rest : Text} :
    headingMark level s = some rest ↔ ∃ marks after, s = marks ++ after ∧ marks ≠ [] ∧
      (∀ c ∈ marks, c = '#') ∧ (∀ c ∈ after.head?, c ≠ '#') ∧ marks.length ≤ level ∧
      trimStart after = rest := by
  simp only [headingMark, Option.bind_eq_bind, Option.bind_eq_some_iff, Option.guard_eq_some',
    Text.run?_eq_some, Prod.exists, decide_eq_true_eq, decide_eq_false_iff_not]
  constructor
  · intro h
    obtain ⟨marks, after, ⟨rfl, hne, hmarks, hafter⟩, -, hlength, htrim⟩ := h
    exact ⟨marks, after, rfl, hne, hmarks, hafter, hlength, Option.some.inj htrim⟩
  · intro h
    obtain ⟨marks, after, rfl, hne, hmarks, hafter, hlength, htrim⟩ := h
    exact ⟨marks, after, ⟨rfl, hne, hmarks, hafter⟩, (), hlength, congrArg some htrim⟩

theorem exists_opening (s : Text) :
    ∃ opening, s = opening ++ Text.skipOne (· = '[') s ∧ (opening = [] ∨ opening = ['[']) := by
  obtain ⟨opening, hs, hlength, hopening⟩ := Text.exists_skipOne (· = '[') s
  refine ⟨opening, hs, ?_⟩
  match opening, hlength, hopening with
  | [], _, _ => exact .inl rfl
  | [c], _, hopening =>
    exact .inr (congrArg (fun c => [c]) (of_decide_eq_true (hopening c List.mem_cons_self)))

theorem skipOne_opening {opening s : Text} (hopening : opening = [] ∨ opening = ['['])
    (hs : ∀ c ∈ s.head?, c ≠ '[') : Text.skipOne (· = '[') (opening ++ s) = s := by
  rcases hopening with rfl | rfl
  · exact Text.skipOne_of_head fun c hc => decide_eq_false (hs c hc)
  · rfl

/-- **The form of a version heading.** -/
theorem isVersionHeading_iff {s : Text} :
    isVersionHeading s ↔ ∃ marks blanks opening digits d rest,
      s = marks ++ (blanks ++ (opening ++ (digits ++ '.' :: d :: rest))) ∧
        Introduced marks blanks opening ∧ Numbered digits d := by
  simp only [isVersionHeading, Option.isSome_iff_exists, Option.bind_eq_bind,
    Option.bind_eq_some_iff, headingMark_eq_some, Text.run?_eq_some, Text.after?_eq_some,
    Prod.exists]
  constructor
  · intro h
    obtain ⟨last, tail, body, ⟨marks, after, rfl, hne, hmarks, -, hlength, rfl⟩, digits, u,
      ⟨hdigits, hdne, hdall, -⟩, w, rfl, rfl, hlne, hlall, -⟩ := h
    obtain ⟨opening, hbody, hopening⟩ := exists_opening (trimStart after)
    obtain ⟨d, ds, rfl⟩ := List.exists_cons_of_ne_nil hlne
    have hafter : after = after.takeWhile isBlank ++ trimStart after :=
      List.takeWhile_append_dropWhile.symm
    refine ⟨marks, after.takeWhile isBlank, opening, digits, d, ds ++ tail, ?_, ⟨?_, ?_, hopening⟩,
      ⟨hdne, hdall, hlall d List.mem_cons_self⟩⟩
    · conv => lhs; rw [hafter, hbody, hdigits]
      rfl
    · match marks, hne, hmarks, hlength with
      | [a], _, hmarks, _ => exact .inl (by rw [hmarks a (by simp)])
      | [a, b], _, hmarks, _ => exact .inr (by rw [hmarks a (by simp), hmarks b (by simp)])
    · exact List.all_takeWhile
  · intro h
    obtain ⟨marks, blanks, opening, digits, d, rest, rfl, hintro, hnumbers⟩ := h
    have hbody := head_numbers hnumbers hintro.opening rest
    have htrim : trimStart (blanks ++ (opening ++ (digits ++ '.' :: d :: rest))) =
        opening ++ (digits ++ '.' :: d :: rest) := by
      rw [Text.trimStart_append_of_allBlank hintro.blanks]
      exact Text.trimStart_of_head fun c hc => (hbody c hc).1
    have hnext := head_ne_of_allBlank hintro.blanks fun c hc => (hbody c hc).2
    have hopening : Text.skipOne (· = '[') (opening ++ (digits ++ '.' :: d :: rest)) =
        digits ++ '.' :: d :: rest := by
      refine skipOne_opening hintro.opening fun c hc => ?_
      exact ne_of_isDigit (hnumbers.head _ c hc) (by decide)
    obtain ⟨more, tail, hrun⟩ := hnumbers.exists_run rest
    refine ⟨more, tail, _, ⟨marks, _, rfl, ?_, ?_, hnext, ?_, htrim⟩, digits, '.' :: d :: rest,
      ⟨hopening, hnumbers.ne_nil, hnumbers.digits, Text.forall_head_cons (by decide) _⟩, d :: rest,
      rfl, Text.run?_eq_some.1 hrun⟩
    all_goals rcases hintro.marks with rfl | rfl <;> simp

/-- A text is one with version headings only if a line begins with one. -/
theorem exists_isVersionHeading {content : Text} (h : detect content = .semverMarkdown) :
    ∃ start ∈ lineStarts content, isVersionHeading start := by
  rw [← List.any_eq_true]
  by_contra hnone
  rw [detect, if_neg hnone] at h
  split_ifs at h

/-- A bracket that opens behind the two number signs of a heading is closed on the line. -/
def closesBracket (line : Text) : Bool :=
  match trimStart (line.drop 2) with
  | '[' :: label => label.any (· = ']')
  | _ => true

/--
The heading that begins here stands on one line, has two number signs, and closes the bracket that
it opens.
-/
def isWhole (start : Text) : Bool :=
  let line := Text.firstLine start
  isVersionHeading line && Text.startsWith "##" line && closesBracket line

theorem isVersionHeading_of_isWhole {start : Text} (h : isWhole start) :
    isVersionHeading start := by
  rw [isWhole, Bool.and_eq_true, Bool.and_eq_true] at h
  obtain ⟨marks, blanks, opening, digits, d, rest, hline, hintro, hnumbers⟩ :=
    isVersionHeading_iff.1 h.1.1
  refine isVersionHeading_iff.2 ⟨marks, blanks, opening, digits, d,
    rest ++ start.dropWhile (· ≠ '\n'), ?_, hintro, hnumbers⟩
  have hstart : start = Text.firstLine start ++ start.dropWhile (· ≠ '\n') :=
    List.takeWhile_append_dropWhile.symm
  conv => lhs; rw [hstart, hline]
  simp only [List.append_assoc, List.cons_append]

end Dialect

/-! ## What migration reads at a version heading -/

namespace LegacyLine

open Dialect (Introduced Numbered isVersionHeading isWhole closesBracket)

theorem isSome_bracketedLabel (c : Char) (cs : Text) :
    (bracketedLabel ('[' :: c :: cs)).isSome = cs.any (· = ']') := by
  have hopen : after? "[" ('[' :: c :: cs) = some (c :: cs) := rfl
  have hclose : (after? "]" (cs.dropWhile (· ≠ ']'))).isSome = cs.any (· = ']') := by
    clear hopen
    induction cs with
    | nil => rfl
    | cons e es ih =>
      by_cases he : e = ']'
      · subst he
        rfl
      · rw [List.dropWhile_cons_of_pos (by simpa using he), ih, List.any_cons,
          decide_eq_false he, Bool.false_or]
  rw [bracketedLabel, hopen, ← hclose]
  dsimp only [Option.bind_eq_bind, Option.bind_some, Text.spanOf]
  cases after? "]" (cs.dropWhile (· ≠ ']')) <;> rfl

theorem isSome_bareLabel {digits : Text} {d : Char} (h : Numbered digits d) (rest : Text) :
    (bareLabel (digits ++ '.' :: d :: rest)).isSome := by
  have hskip : Text.skipOne (· = 'v') (digits ++ '.' :: d :: rest) = digits ++ '.' :: d :: rest :=
    Text.skipOne_of_head fun c hc => decide_eq_false
      (Dialect.ne_of_isDigit (h.head _ c hc) (by decide))
  have hrun : run? isDigit (digits ++ '.' :: d :: rest) = some (digits, '.' :: d :: rest) :=
    Text.run?_eq_some.2 ⟨rfl, h.ne_nil, h.digits, Text.forall_head_cons (by decide) _⟩
  have hdot : after? "." ('.' :: d :: rest) = some (d :: rest) := rfl
  obtain ⟨more, tail, hmore⟩ := h.exists_run rest
  simp only [bareLabel, dotNumber, hskip, hrun, hdot, hmore, Option.bind_eq_bind, Option.bind_some,
    Option.pure_def, Option.isSome_some]

/-- Two number signs and a body that begins with no blank. -/
theorem isSome_version? {blanks body : Text} (hblanks : allBlank blanks)
    (hbody : ∀ c ∈ body.head?, isBlank c = false) :
    (version? ('#' :: '#' :: (blanks ++ body))).isSome =
      ((bracketedLabel body).isSome || (bareLabel body).isSome) := by
  have hmarks : after? "##" ('#' :: '#' :: (blanks ++ body)) = some (blanks ++ body) := rfl
  rw [version?, hmarks, Option.bind_eq_bind, Option.bind_some,
    Text.trimStart_append_of_allBlank hblanks, Text.trimStart_of_head hbody, ← Option.isSome_or]
  dsimp only
  cases (bracketedLabel body).or (bareLabel body) <;> rfl

theorem oneLine_marks {marks : Text} (h : marks = ['#'] ∨ marks = ['#', '#']) : '\n' ∉ marks := by
  rcases h with rfl | rfl <;> decide

/-- Where no blank ends the line, the numbers stand on it. -/
theorem firstLine_heading {marks blanks opening digits : Text} {d : Char}
    (hintro : Introduced marks blanks opening) (hnumbers : Numbered digits d)
    (hblanks : '\n' ∉ blanks) (rest : Text) :
    Text.firstLine (marks ++ (blanks ++ (opening ++ (digits ++ '.' :: d :: rest)))) =
      marks ++ (blanks ++ (opening ++ (digits ++ '.' :: d :: Text.firstLine rest))) := by
  have hopening : '\n' ∉ opening := by
    rcases hintro.opening with hopen | hopen <;> rw [hopen] <;> decide
  obtain ⟨hdigits, hd⟩ := hnumbers.not_mem (c := '\n') (by decide)
  have hdot : '\n' ∉ ['.', d] := by simp [hd]
  rw [Text.firstLine_append (oneLine_marks hintro.marks), Text.firstLine_append hblanks,
    Text.firstLine_append hopening, Text.firstLine_append hdigits]
  exact congrArg (fun s => marks ++ (blanks ++ (opening ++ (digits ++ s))))
    (Text.firstLine_append hdot rest)

/-- Where blanks reach beyond the line, the line consists of what stands before them and blanks. -/
theorem exists_firstLine_of_mem {marks blanks opening : Text}
    (h : Introduced marks blanks opening) (hbreak : '\n' ∈ blanks) (s : Text) :
    ∃ before, allBlank before ∧ Text.firstLine (marks ++ (blanks ++ s)) = marks ++ before := by
  obtain ⟨before, after, rfl, hbefore⟩ := List.eq_append_cons_of_mem hbreak
  refine ⟨before, List.all_eq_true.2 fun c hc => ?_, ?_⟩
  · exact List.all_eq_true.1 h.blanks c (List.mem_append_left _ hc)
  · rw [Text.firstLine_append (oneLine_marks h.marks), List.append_assoc,
      Text.firstLine_append hbefore, List.cons_append, Text.firstLine,
      List.takeWhile_cons_of_neg (by decide), List.append_nil]

theorem isVersionHeading_append_of_allBlank {marks before : Text}
    (hmarks : marks = ['#'] ∨ marks = ['#', '#']) (hbefore : allBlank before) :
    isVersionHeading (marks ++ before) = false := by
  rw [← Bool.not_eq_true, Dialect.isVersionHeading_iff]
  rintro ⟨marks', blanks, opening, digits, d, rest, heq, -, -⟩
  have hdot : '.' ∈ marks ++ before := by rw [heq]; simp
  rw [List.mem_append] at hdot
  rcases hdot with hdot | hdot
  · rcases hmarks with rfl | rfl <;> exact absurd hdot (by decide)
  · exact absurd (List.all_eq_true.1 hbefore _ hdot) (by decide)

/-- One number sign begins no line with two. -/
theorem version?_of_oneMark {s : Text} (hs : ∀ c ∈ s.head?, c ≠ '#') :
    version? (['#'] ++ s) = none ∧ Text.startsWith "##" (['#'] ++ s) = false := by
  cases s with
  | nil => exact ⟨rfl, rfl⟩
  | cons c cs =>
    have hc : '#' ≠ c := (hs c rfl).symm
    constructor
    · simp [version?, after?, hc]
    · simp [Text.startsWith, List.isPrefixOf, hc]

theorem version?_append_of_allBlank {marks before : Text}
    (hmarks : marks = ['#'] ∨ marks = ['#', '#']) (hbefore : allBlank before) :
    version? (marks ++ before) = none := by
  rcases hmarks with rfl | rfl
  · have hnil : ∀ c ∈ ([] : Text).head?, c ≠ '#' := fun _ hc => absurd hc (Option.not_mem_none _)
    have hhead := Dialect.head_ne_of_allBlank hbefore hnil
    rw [List.append_nil] at hhead
    exact (version?_of_oneMark hhead).1
  · have hnil : ∀ c ∈ ([] : Text).head?, isBlank c = false :=
      fun _ hc => absurd hc (Option.not_mem_none _)
    have h := isSome_version? hbefore hnil
    rw [List.append_nil] at h
    exact Option.isNone_iff_eq_none.1 (Option.isSome_eq_false_iff.1 h)

/-- A line with the form of a version heading has a label if its marks and bracket allow it. -/
theorem isSome_version?_of_introduced {marks blanks opening digits line : Text} {d : Char}
    (hintro : Introduced marks blanks opening) (hnumbers : Numbered digits d) (rest : Text)
    (hline : line = marks ++ (blanks ++ (opening ++ (digits ++ '.' :: d :: rest)))) :
    (version? line).isSome = (Text.startsWith "##" line && closesBracket line) := by
  have hbody := Dialect.head_numbers hnumbers hintro.opening rest
  rcases hintro.marks with rfl | rfl
  · obtain ⟨hnone, hstart⟩ := version?_of_oneMark
      (Dialect.head_ne_of_allBlank hintro.blanks fun c hc => (hbody c hc).2)
    rw [hline, hnone, hstart]
    rfl
  · have hstart : Text.startsWith "##" line := by rw [hline]; rfl
    have htrim : trimStart (line.drop 2) = opening ++ (digits ++ '.' :: d :: rest) := by
      have hdrop : line.drop 2 = blanks ++ (opening ++ (digits ++ '.' :: d :: rest)) := by
        rw [hline]
        rfl
      rw [hdrop, Text.trimStart_append_of_allBlank hintro.blanks]
      exact Text.trimStart_of_head fun c hc => (hbody c hc).1
    have hlabel := isSome_version? hintro.blanks fun c hc => (hbody c hc).1
    have hbare := isSome_bareLabel hnumbers rest
    rw [hstart, Bool.true_and, closesBracket, htrim, hline]
    refine hlabel.trans ?_
    obtain ⟨e, es, rfl⟩ := List.exists_cons_of_ne_nil hnumbers.ne_nil
    have hdigit : isDigit e := hnumbers.digits e List.mem_cons_self
    rcases hintro.opening with rfl | rfl
    · -- The body begins with a digit, so there is no bracket to close.
      rw [List.nil_append, hbare, Bool.or_true]
      split
      · rename_i label heq
        cases heq
        exact absurd hdigit (by decide)
      · rfl
    · have hnotbare : bareLabel (['['] ++ (e :: es ++ '.' :: d :: rest)) = none := rfl
      rw [hnotbare, Option.isSome_none, Bool.or_false]
      have he : e ≠ ']' := Dialect.ne_of_isDigit hdigit (by decide)
      have hany : ((e :: es ++ '.' :: d :: rest).any (· = ']')) =
          (es ++ '.' :: d :: rest).any (· = ']') := by
        rw [List.cons_append, List.any_cons, decide_eq_false he, Bool.false_or]
      exact (isSome_bracketedLabel e _).trans hany.symm

/-- **Migration reads a release at a version heading exactly if the heading is whole.** -/
theorem isSome_version?_eq_isWhole {start : Text} (h : isVersionHeading start) :
    (version? (Text.firstLine start)).isSome = isWhole start := by
  obtain ⟨marks, blanks, opening, digits, d, rest, rfl, hintro, hnumbers⟩ :=
    Dialect.isVersionHeading_iff.1 h
  by_cases hbreak : '\n' ∈ blanks
  · obtain ⟨before, hbefore, hline⟩ := exists_firstLine_of_mem hintro hbreak
      (opening ++ (digits ++ '.' :: d :: rest))
    rw [isWhole, hline, version?_append_of_allBlank hintro.marks hbefore,
      isVersionHeading_append_of_allBlank hintro.marks hbefore]
    rfl
  · have hline := firstLine_heading hintro hnumbers hbreak rest
    have hheading := Dialect.isVersionHeading_iff.2
      ⟨marks, blanks, opening, digits, d, Text.firstLine rest, rfl, hintro, hnumbers⟩
    rw [isWhole, hline, hheading, Bool.true_and]
    exact isSome_version?_of_introduced hintro hnumbers (Text.firstLine rest) rfl

end LegacyLine

/-! ## The releases that migration reads -/

namespace Legacy

/-- The label and the date under which a line opens a release, if it does. -/
def opens? (line : LegacyLine) : Option (Text × Option Text) :=
  match line with
  | .version label date => some (normalizeLabel label, date)
  | _ => none

/-- The labels and dates of the releases that have been read. -/
def Reader.headings (reader : Reader) : List (Text × Option Text) :=
  (reader.closed ++ reader.current.toList).map fun release => (release.label, release.date)

/-- One line adds at most the heading that it is. -/
theorem Reader.headings_step (rules : Rules) (reader : Reader) (line : LegacyLine) :
    (reader.step rules line).headings = reader.headings ++ (opens? line).toList := by
  cases line with
  | version label date => simp [Reader.step, Reader.headings, opens?]
  | category word =>
    rw [Reader.step]
    split <;> exact (List.append_nil _).symm
  | entry raw =>
    rw [Reader.step]
    split
    · rename_i release category hrelease _
      simp [Reader.headings, opens?, hrelease, Release.add, Release.edit]
    · exact (List.append_nil _).symm
  | other => exact (List.append_nil _).symm

theorem Reader.headings_foldl (rules : Rules) (lines : List LegacyLine) (reader : Reader) :
    (lines.foldl (Reader.step rules) reader).headings =
      reader.headings ++ lines.filterMap opens? := by
  induction lines generalizing reader with
  | nil => exact (List.append_nil _).symm
  | cons line lines ih =>
    rw [List.foldl_cons, ih, Reader.headings_step, List.append_assoc]
    congr 1
    cases hline : opens? line with
    | none => rw [List.filterMap_cons_none hline]; rfl
    | some heading => rw [List.filterMap_cons_some hline]; rfl

theorem isSome_opens?_classify (line : Text) :
    (opens? (LegacyLine.classify line)).isSome = (LegacyLine.version? line).isSome := by
  rw [LegacyLine.classify]
  cases LegacyLine.version? line with
  | some heading => rfl
  | none =>
    cases LegacyLine.category? line with
    | some word => rfl
    | none => cases LegacyLine.entry? line <;> rfl

/-- There is one release for each line that has a label. -/
theorem length_releases_parse (rules : Rules) (content : Text) :
    (parse rules content).releases.length =
      (Text.split '\n' content).countP fun line => (LegacyLine.version? line).isSome := by
  have hread : (read rules content).headings =
      ((Text.split '\n' content).map LegacyLine.classify).filterMap opens? := by
    rw [read, Reader.headings_foldl]
    rfl
  calc (parse rules content).releases.length
      = (read rules content).headings.length := (List.length_map _).symm
    _ = (Text.split '\n' content).countP fun line => (LegacyLine.version? line).isSome := by
      rw [hread, List.length_filterMap_eq_countP, List.countP_map]
      exact List.countP_congr fun line _ => by rw [Function.comp_apply, isSome_opens?_classify]

/--
**Migration reads the whole version headings.** Of the version headings that the dialect is guessed
from, exactly the whole ones are releases to migration. So it reads at least as many releases as
there are whole headings, and at least one of a text with version headings if they all are whole.
-/
theorem parse_reads_headings (rules : Rules) (content : Text) :
    (∀ start ∈ Dialect.lineStarts content, Dialect.isVersionHeading start →
      ((LegacyLine.version? (Text.firstLine start)).isSome ↔ Dialect.isWhole start)) ∧
    (Dialect.lineStarts content).countP Dialect.isWhole ≤ (parse rules content).releases.length ∧
    (Dialect.detect content = .semverMarkdown →
      (∀ start ∈ Dialect.lineStarts content, Dialect.isVersionHeading start →
        Dialect.isWhole start) →
      (parse rules content).releases ≠ []) := by
  have hread : ∀ start ∈ Dialect.lineStarts content, Dialect.isWhole start →
      (LegacyLine.version? (Text.firstLine start)).isSome := by
    intro start _ hwhole
    rwa [LegacyLine.isSome_version?_eq_isWhole (Dialect.isVersionHeading_of_isWhole hwhole)]
  have hcount : (Dialect.lineStarts content).countP Dialect.isWhole ≤
      (parse rules content).releases.length := by
    rw [length_releases_parse, ← Dialect.map_firstLine_lineStarts, List.countP_map]
    exact List.countP_mono_left hread
  refine ⟨fun start _ hheading => ?_, hcount, fun hdetect hall hnil => ?_⟩
  · rw [LegacyLine.isSome_version?_eq_isWhole hheading]
  · obtain ⟨start, hmem, hheading⟩ := Dialect.exists_isVersionHeading hdetect
    have hpos : 0 < (Dialect.lineStarts content).countP Dialect.isWhole :=
      List.countP_pos_iff.2 ⟨start, hmem, hall start hmem hheading⟩
    rw [hnil, List.length_nil] at hcount
    exact absurd hcount (Nat.not_le.2 hpos)

end Legacy

/-- Version headings with and without brackets, and other headings between them. -/
def wholeSample : Text :=
  "# History\n\n## [2.0.0] - 2024-02-01\n\n### Added\n\n- Add search (#2)\n\n## 1.4\n\n## Notes\n"

theorem Legacy.parse_reads_headings_wholeSample :
    Dialect.detect wholeSample = .semverMarkdown ∧
    (∀ start ∈ Dialect.lineStarts wholeSample, Dialect.isVersionHeading start →
      Dialect.isWhole start) ∧
    (Dialect.lineStarts wholeSample).countP Dialect.isWhole = 2 ∧
    2 ≤ (Legacy.parse Rules.default wholeSample).releases.length ∧
    (Legacy.parse Rules.default wholeSample).releases ≠ [] := by
  have hdetect : Dialect.detect wholeSample = .semverMarkdown := by decide +kernel
  have hwhole : ∀ start ∈ Dialect.lineStarts wholeSample, Dialect.isVersionHeading start →
      Dialect.isWhole start := by decide +kernel
  have htwo : (Dialect.lineStarts wholeSample).countP Dialect.isWhole = 2 := by decide +kernel
  obtain ⟨-, hcount, hreleases⟩ := Legacy.parse_reads_headings Rules.default wholeSample
  exact ⟨hdetect, hwhole, htwo, htwo ▸ hcount, hreleases hdetect hwhole⟩

/-- A version heading of the first level. -/
def levelSample : Text := "# 1.0.0\n\n### Added\n\n- Add search (#1)\n"

/-- A text with a version heading is carried over without a release. -/
theorem Legacy.parse_loses_headings :
    Dialect.isVersionHeading levelSample ∧
    Dialect.detect levelSample = .semverMarkdown ∧
    (Legacy.parse Rules.default levelSample).releases = [] := by
  decide +kernel

end CommonChangelog
