import CommonChangelog.Document.Render
import CommonChangelog.Proofs.LineForms
import CommonChangelog.Proofs.Outline

/-!
# Written lines and their roles

Each line of a document is written with the mark of its role in front, and read as a line of that
role. What is written around the releases has no role in a document, apart from the preface, which
has none before the first release.
-/

namespace CommonChangelog

open Text (isBlank trim trimStart trimEnd allBlank run? after? afterBlanks?)

namespace Release

/-! ## The heading of a release -/

variable {release : Release} {date : Text}

theorem heading_none (h : release.date = none) :
    release.heading = '#' :: '#' :: ' ' :: '[' :: (release.label ++ [']']) := by
  obtain ⟨label, _, notice, groups⟩ := release
  cases h
  exact List.append_nil _

theorem heading_some (h : release.date = some date)
    (hversion : release.isUnreleased = false) : release.heading =
      '#' :: '#' :: ' ' :: '[' :: (release.label ++ ']' :: ' ' :: '-' :: ' ' :: date) := by
  have hdate : (if release.isUnreleased then [] else [' ', '-', ' '] ++ date) =
      [' ', '-', ' '] ++ date := if_neg (by simp [hversion])
  obtain ⟨label, _, notice, groups⟩ := release
  cases h
  refine (congrArg (['#', '#', ' ', '['] ++ label ++ [']'] ++ ·) hdate).trans ?_
  simp

theorem isUnreleased_eq_false (hundated : release.isUnreleased → release.date = none)
    (h : release.date = some date) : release.isUnreleased = false := by
  rw [Bool.eq_false_iff]
  intro hunreleased
  rw [hundated hunreleased] at h
  cases h

end Release

namespace Line

/-! ## Marks -/

variable {s : Text}

theorem ofTrimmed_title (s : Text) : ofTrimmed ('#' :: ' ' :: s) = .title (trim s) := rfl

theorem ofTrimmed_category (s : Text) :
    ofTrimmed ('#' :: '#' :: '#' :: ' ' :: s) = .category (trim s) := rfl

theorem ofTrimmed_entry (s : Text) : ofTrimmed ('-' :: ' ' :: s) = .entry (trim s) := rfl

theorem ofTrimmed_notice (s : Text) : ofTrimmed ('_' :: s ++ ['_']) = .notice (trim s) := by
  have htitle : after? "# " ('_' :: s ++ ['_']) = none := rfl
  have hversion : Text.startsWith "## " ('_' :: s ++ ['_']) = false := rfl
  have hcategory : after? "### " ('_' :: s ++ ['_']) = none := rfl
  have hnotice : noticeText? ('_' :: s ++ ['_']) = some (trim s) := by simp [noticeText?]
  rw [ofTrimmed, htitle, hversion, hcategory, hnotice]
  rfl

theorem ofTrimmed_version {label : Text} {date : Option Text}
    (h : heading? ('#' :: '#' :: ' ' :: s) = some (label, date)) :
    ofTrimmed ('#' :: '#' :: ' ' :: s) = .version label date := by
  have htitle : after? "# " ('#' :: '#' :: ' ' :: s) = none := rfl
  have hversion : Text.startsWith "## " ('#' :: '#' :: ' ' :: s) = true := rfl
  rw [ofTrimmed, htitle, hversion, h]
  rfl

/-- Behind the mark of a release heading everything is one, well formed or not. -/
theorem isHeading_ofTrimmed (s : Text) : (ofTrimmed ('#' :: '#' :: ' ' :: s)).isHeading := by
  have htitle : after? "# " ('#' :: '#' :: ' ' :: s) = none := rfl
  have hversion : Text.startsWith "## " ('#' :: '#' :: ' ' :: s) = true := rfl
  rw [ofTrimmed, htitle, hversion]
  cases heading? ('#' :: '#' :: ' ' :: s) <;> rfl

/-! ## Lines with a role -/

theorem classify_append {p : Text} (hp : p ≠ []) (hhead : ∀ c ∈ p.head?, isBlank c = false)
    (hs : trim s = s) (hne : s ≠ []) : classify (p ++ s) = ofTrimmed (p ++ s) := by
  have hblank : allBlank s = false := by
    rw [Bool.eq_false_iff]
    intro h
    rw [Text.trim_of_allBlank h] at hs
    exact hne hs.symm
  rw [classify, Text.trim_append hp hhead hblank, Text.trimEnd_of_last (Text.last_of_trim hs)]

theorem classify_title (hs : trim s = s) (hne : s ≠ []) : classify ("# " ++ s) = .title s := by
  show classify (['#', ' '] ++ s) = .title s
  rw [classify_append (by simp) (Text.forall_head_cons (by rfl) _) hs hne]
  exact (ofTrimmed_title s).trans (congrArg title hs)

theorem classify_category (hs : trim s = s) (hne : s ≠ []) :
    classify ("### " ++ s) = .category s := by
  show classify (['#', '#', '#', ' '] ++ s) = .category s
  rw [classify_append (by simp) (Text.forall_head_cons (by rfl) _) hs hne]
  exact (ofTrimmed_category s).trans (congrArg category hs)

theorem classify_notice (s : Text) : classify ("_" ++ s ++ "_") = .notice (trim s) := by
  have htrim : trim ('_' :: s ++ ['_']) = '_' :: s ++ ['_'] :=
    Text.trim_of_ends (Text.forall_head_cons (by rfl) _) (Text.forall_last_concat (by rfl) _)
  show ofTrimmed (trim ('_' :: s ++ ['_'])) = .notice (trim s)
  rw [htrim, ofTrimmed_notice]

theorem classify_entry (h : allBlank s = false) : classify ('-' :: ' ' :: s) = .entry (trim s) := by
  have htrim : trim ('-' :: ' ' :: s) = '-' :: ' ' :: trimEnd s :=
    Text.trim_append (p := ['-', ' ']) (by simp) (Text.forall_head_cons (by rfl) _) h
  rw [classify, htrim, ofTrimmed_entry, Text.trim_trimEnd]

/-! ## Headings of releases -/

theorem afterBlanks?_space (h : ∀ c ∈ s.head?, isBlank c = false) :
    afterBlanks? (' ' :: s) = some s := by
  rw [Text.afterBlanks?_cons (by rfl), Text.trimStart_of_head h]

theorem dashed?_append {date : Text} (hne : date ≠ []) (h : ∀ c ∈ date, isBlank c = false) :
    dashed? (' ' :: '-' :: ' ' :: date) = some date := by
  have hrun : run? (fun c => !isBlank c) date = some (date, []) :=
    Text.run?_eq_some.2 ⟨(List.append_nil _).symm, hne, fun c hc => by rw [h c hc]; rfl, by simp⟩
  have hhead : ∀ c ∈ date.head?, isBlank c = false := fun c hc => h c (List.mem_of_mem_head? hc)
  have hdash : after? "-" ('-' :: ' ' :: date) = some (' ' :: date) := rfl
  rw [dashed?, afterBlanks?_space (Text.forall_head_cons (by rfl) _)]
  simp only [Option.bind_eq_bind, Option.bind_some, hdash, afterBlanks?_space hhead, hrun]
  rfl

theorem heading?_append {label rest : Text} (hne : label ≠ []) (htrim : trim label = label)
    (hclosed : ']' ∉ label) :
    heading? ('#' :: '#' :: ' ' :: '[' :: (label ++ ']' :: rest)) = some (label, dashed? rest) := by
  have hrun : run? (· ≠ ']') (label ++ ']' :: rest) = some (label, ']' :: rest) := by
    refine Text.run?_eq_some.2 ⟨rfl, hne, fun c hc => ?_, Text.forall_head_cons (by rfl) _⟩
    exact decide_eq_true fun h => hclosed (h ▸ hc)
  have hmark : after? "##" ('#' :: '#' :: ' ' :: '[' :: (label ++ ']' :: rest)) =
      some (' ' :: '[' :: (label ++ ']' :: rest)) := rfl
  have hopen : after? "[" ('[' :: (label ++ ']' :: rest)) = some (label ++ ']' :: rest) := rfl
  have hclose : after? "]" (']' :: rest) = some rest := rfl
  have hhead : ∀ c ∈ ('[' :: (label ++ ']' :: rest)).head?, isBlank c = false :=
    Text.forall_head_cons (by rfl) _
  rw [heading?]
  simp only [Option.bind_eq_bind, hmark, Option.bind_some, afterBlanks?_space hhead, hopen, hrun,
    hclose, htrim]
  rfl

theorem classify_heading {release : Release} (hne : release.label ≠ [])
    (htrim : trim release.label = release.label) (hclosed : ']' ∉ release.label)
    (hdate : ∀ date ∈ release.date, date ≠ [] ∧ ∀ c ∈ date, isBlank c = false)
    (hundated : release.isUnreleased → release.date = none) :
    classify release.heading = .version release.label release.date := by
  have hends : ∀ rest, (∀ c ∈ rest.getLast?, isBlank c = false) →
      trim ('#' :: '#' :: ' ' :: '[' :: (release.label ++ ']' :: rest)) =
        '#' :: '#' :: ' ' :: '[' :: (release.label ++ ']' :: rest) := by
    intro rest hlast
    have happ : '#' :: '#' :: ' ' :: '[' :: (release.label ++ ']' :: rest) =
        '#' :: '#' :: ' ' :: '[' :: release.label ++ [']'] ++ rest := by simp
    rw [happ]
    exact Text.trim_of_ends (Text.forall_head_cons (by rfl) _)
      (Text.last_append (Text.forall_last_concat (by rfl) _) hlast)
  cases hd : release.date with
  | none =>
    rw [Release.heading_none hd, classify, hends [] (by simp),
      ofTrimmed_version (heading?_append hne htrim hclosed)]
    rfl
  | some date =>
    have hversion := Release.isUnreleased_eq_false hundated hd
    obtain ⟨hdne, hblank⟩ := hdate date hd
    have hlast : ∀ c ∈ ([' ', '-', ' '] ++ date).getLast?, isBlank c = false :=
      Text.last_append_of_ne_nil hdne (fun c hc => hblank c (List.mem_of_getLast? hc)) _
    rw [Release.heading_some hd hversion, classify, hends (' ' :: '-' :: ' ' :: date) hlast,
      ofTrimmed_version (heading?_append hne htrim hclosed), dashed?_append hdne hblank]

/-! ## Lines without a role -/

theorem hasRole_quoted (line : Text) : (classify (Changelog.quoted line)).hasRole = false := by
  have htrim : trim (Changelog.quoted line) = '>' :: trimEnd (' ' :: line) :=
    Text.trimEnd_append_of_last (p := ['>']) (Text.forall_last_concat (by rfl) []) (' ' :: line)
  rw [classify, htrim]
  rfl

theorem hasRole_bracket (s : Text) : (classify ('[' :: s)).hasRole = false := by
  have htrim : trim ('[' :: s) = '[' :: trimEnd s :=
    Text.trimEnd_append_of_last (p := ['[']) (Text.forall_last_concat (by rfl) []) s
  rw [classify, htrim]
  rfl

theorem hasRole_linkOf {repository : Text} {latest : Option Release} {release : Release}
    {line : Text} (h : Changelog.linkOf repository latest release = some line) :
    (classify line).hasRole = false := by
  rw [Changelog.linkOf] at h
  split at h
  · rw [Option.map_eq_some_iff] at h
    obtain ⟨r, -, rfl⟩ := h
    exact hasRole_bracket _
  · cases h
    exact hasRole_bracket _

/-- Only the marks of titles and of release headings begin titles and release headings. -/
theorem inert_of_not_startsWith (h₁ : Text.startsWith "# " (trim s) = false)
    (h₂ : Text.startsWith "## " (trim s) = false) :
    (classify s).title? = none ∧ (classify s).isHeading = false := by
  cases hrole : classify s with
  | title text =>
    obtain ⟨rest, htrim, -⟩ := shows_of_classify hrole
    rw [htrim] at h₁
    cases h₁
  | version label date => exact absurd (shows_of_classify hrole).1 (ne_true_of_eq_false h₂)
  | malformed text => exact absurd (shows_of_classify hrole).1 (ne_true_of_eq_false h₂)
  | _ => exact ⟨rfl, rfl⟩

end Line

end CommonChangelog
