import CommonChangelog.Proofs.SingleLines
import CommonChangelog.Proofs.VersionText
import CommonChangelog.NextVersion
import CommonChangelog.Repository.Store
import Mathlib.Data.List.TakeWhile

/-!
# What the history tells about the next version

The history has the subject of a message only: its first paragraph, on one line. A message is
conventional by its first line, and a footer anywhere in it may announce a breaking change. The
first line is the beginning of the subject, so a header in it is found again, with the same type
and the same exclamation mark. What follows the first paragraph is lost, so a footer, which usually
stands at the end of a message, does not reach the next version.

`Revision.SubjectTells` says that nothing of consequence is lost, and `Impact.subjectTells_iff` that
no weaker condition will do.

Main result: `NextVersion.suggest_of_subjectTells`, about histories of stored revisions. Every
history that a repository answers is one (`Store.exists_toHistory`).
-/

namespace CommonChangelog

/-! ## First lines -/

namespace Conventional

/-- The subject ends at the first line break, whatever terminates the line. -/
theorem subjectOf_eq (message : Text) :
    subjectOf message = Text.trim (message.takeWhile (· ≠ '\n')) := by
  obtain ⟨pieces, hsplit⟩ := Text.split_eq_cons '\n' message
  rw [subjectOf, Text.lines, hsplit]
  rcases List.eq_nil_or_concat pieces with rfl | ⟨before, last, rfl⟩
  · cases message.takeWhile (· ≠ '\n') <;> rfl
  · rw [List.concat_eq_append, ← List.cons_append, List.getLast?_concat, List.dropLast_concat]
    cases last <;> exact Text.trim_dropReturn _

theorem oneLine_subjectOf (message : Text) : '\n' ∉ subjectOf message := by
  rw [subjectOf_eq]
  exact Text.oneLine_trim (Text.not_mem_takeWhile_ne '\n' message)

theorem subjectOf_of_oneLine {s : Text} (h : '\n' ∉ s) : subjectOf s = Text.trim s := by
  have htake : s.takeWhile (· ≠ '\n') = s := by
    rw [List.takeWhile_eq_self_iff]
    intro c hc
    exact decide_eq_true fun heq => h (heq ▸ hc)
  rw [subjectOf_eq, htake]

/-! ## Headers with more behind them -/

variable {s t rest : Text}

theorem scope?_append {scope : Option Text} (h : scope? s = (scope, rest)) (hne : rest ≠ [])
    (hopen : rest.head? ≠ some '(') (t : Text) : scope? (s ++ t) = (scope, rest ++ t) := by
  unfold scope? at h
  split at h
  · split at h
    · rename_i close _ hspan
      cases h
      have hclosed := Text.spanOf_append_right hspan (List.cons_ne_nil close _) t
      rw [List.cons_append, scope?, hclosed]
      rfl
    · cases h
      exact absurd rfl hopen
  · cases h
    obtain ⟨c, cs, rfl⟩ := List.exists_cons_of_ne_nil hne
    rw [List.cons_append, scope?]
    rintro inner ⟨⟩
    exact hopen rfl

theorem exclamation?_append {exclaimed : Bool} (h : exclamation? s = (exclaimed, rest))
    (hne : s ≠ []) (t : Text) : exclamation? (s ++ t) = (exclaimed, rest ++ t) := by
  unfold exclamation? at h
  split at h
  · cases h
    rfl
  · rename_i hmark
    cases h
    obtain ⟨c, cs, rfl⟩ := List.exists_cons_of_ne_nil hne
    rw [List.cons_append, exclamation?]
    rintro behind ⟨⟩
    exact hmark cs rfl

theorem head_of_exclamation? {exclaimed : Bool} (h : exclamation? s = (exclaimed, ':' :: rest)) :
    s ≠ [] ∧ s.head? ≠ some '(' := by
  unfold exclamation? at h
  split at h
  · exact ⟨List.cons_ne_nil _ _, by simp⟩
  · cases h
    exact ⟨List.cons_ne_nil _ _, by simp⟩

theorem exists_description? (hne : s ≠ []) (hs : '\n' ∉ s) :
    ∃ description, description? s = some description := by
  unfold description?
  split
  · split
    · rename_i hlast
      exact absurd (List.getLast?_eq_none_iff.1 hlast) hne
    · rename_i hlast
      exact absurd (List.mem_of_getLast? hlast) hs
    · exact ⟨_, rfl⟩
  · exact ⟨_, if_neg fun hmem => hs ((Text.trimStart_suffix s).subset hmem)⟩

/-- More text on the same line only makes the description longer. -/
theorem header?_append {header : Header} (h : header? s = some header) (hs : '\n' ∉ s)
    (ht : '\n' ∉ t) : ∃ description, header? (s ++ t) = some { header with description } := by
  simp only [header?, Option.bind_eq_bind, Option.bind_eq_some_iff, Option.pure_def,
    Option.some.injEq, Prod.exists] at h
  obtain ⟨kind, rest, hkind, after, hafter, description, hdescription, rfl⟩ := h
  have hsuffix : after <:+ s :=
    (((Text.suffix_of_after? hafter).trans (exclamation?_suffix _)).trans
      (scope?_suffix rest)).trans (Text.suffix_of_run? hkind)
  rcases hscope : scope? rest with ⟨scope, marked⟩
  simp only [hscope] at hafter ⊢
  rcases hmark : exclamation? marked with ⟨exclaimed, behind⟩
  simp only [hmark] at hafter ⊢
  obtain rfl := Text.after?_eq_some.1 hafter
  obtain ⟨hmarked, hopen⟩ := head_of_exclamation? hmark
  have hne : after ≠ [] := by
    rintro rfl
    cases hdescription
  obtain ⟨longer, hlonger⟩ := exists_description? (s := after ++ t)
    (List.append_ne_nil_of_left_ne_nil hne t)
    (fun hmem => (List.mem_append.1 hmem).elim (fun h => hs (hsuffix.subset h)) ht)
  -- The type ends where it did, since something stands behind it already.
  have hrun : Text.run? Text.isWord (s ++ t) = some (kind, rest ++ t) := by
    obtain ⟨hsplit, hkindne, hword, hstop⟩ := Text.run?_eq_some.1 hkind
    obtain ⟨c, cs, rfl⟩ : ∃ c cs, rest = c :: cs := by
      refine List.exists_cons_of_ne_nil ?_
      rintro rfl
      cases hscope
      exact hmarked rfl
    exact Text.run?_eq_some.2 ⟨by rw [hsplit, List.append_assoc], hkindne, hword, hstop⟩
  have hcolon : Text.after? ":" (":" ++ after ++ t) = some (after ++ t) :=
    Text.after?_eq_some.2 (List.append_assoc _ after t)
  refine ⟨longer, ?_⟩
  simp only [header?, hrun, scope?_append hscope hmarked hopen, exclamation?_append hmark hmarked,
    hcolon, hlonger, Option.bind_eq_bind, Option.bind_some, Option.pure_def]

end Conventional

/-! ## Subjects in the history -/

namespace Revision

open Text (trim trimEnd isBlank allBlank)
open Conventional (header? hasBreakingFooter)

theorem isBlank_of_isSpace {c : Char} (h : isSpace c) : isBlank c := by
  have hascii : ∀ n < 0x80, isSpace (Char.ofNat n) → isBlank (Char.ofNat n) := by decide
  refine Text.forall_ascii (p := fun c => isSpace c → isBlank c) hascii ?_ h
  simp only [isSpace, Bool.or_eq_true, Bool.and_eq_true, decide_eq_true_eq, Char.le_def,
    UInt32.le_iff_toNat_le] at h
  rcases h with rfl | ⟨-, hle⟩
  · decide
  · exact Nat.lt_of_le_of_lt hle (by decide)

theorem oneLine_joinLines (spaces s : Text) : '\n' ∉ joinLines spaces s := by
  induction s generalizing spaces with
  | nil => exact List.not_mem_nil
  | cons c cs ih =>
    rw [joinLines]
    split
    · exact ih (spaces ++ [c])
    · rename_i hc
      have hne : '\n' ≠ c := by
        rintro rfl
        exact hc (by decide)
      rw [List.mem_append, List.mem_cons, not_or, not_or]
      refine ⟨?_, hne, ih []⟩
      split
      · decide
      · assumption

theorem oneLine_subjectOf (message : Text) : '\n' ∉ subjectOf message := oneLine_joinLines [] _

/-- Up to the last character of a line that is no space, the line is kept as it is. -/
theorem joinLines_append {spaces s : Text} {c : Char} (hspaces : '\n' ∉ spaces) (hs : '\n' ∉ s)
    (hc : ¬isSpace c) (t : Text) :
    joinLines spaces (s ++ c :: t) = spaces ++ s ++ c :: joinLines [] t := by
  induction s generalizing spaces with
  | nil => rw [List.nil_append, joinLines, if_neg hc, if_neg hspaces, List.append_nil]
  | cons d ds ih =>
    rw [List.mem_cons, not_or] at hs
    rw [List.cons_append, joinLines]
    by_cases hd : isSpace d
    · have hmore : '\n' ∉ spaces ++ [d] := by
        rw [List.mem_append, List.mem_singleton, not_or]
        exact ⟨hspaces, hs.1⟩
      rw [if_pos hd, ih hmore hs.2, List.append_assoc spaces, List.singleton_append]
    · rw [if_neg hd, if_neg hspaces, ih List.not_mem_nil hs.2, List.nil_append,
        List.append_assoc, List.cons_append]

theorem paragraph_append {line : Text} (h : '\n' ∉ line) (rest : Text) :
    paragraph (line ++ rest) = line ++ paragraph rest := by
  induction line with
  | nil => rfl
  | cons c cs ih =>
    rw [List.mem_cons, not_or] at h
    have hc : ¬(decide (c = '\n') && startsBlankLine (cs ++ rest)) = true := by
      rw [Bool.and_eq_true, decide_eq_true_eq]
      exact fun hboth => h.1 hboth.1.symm
    rw [List.cons_append, paragraph, if_neg hc, ih h.2, List.cons_append]

theorem exists_joinLines {line : Text} (hone : '\n' ∉ line) (h : allBlank line = false)
    (rest : Text) : ∃ more, '\n' ∉ more ∧ joinLines [] (line ++ rest) = trimEnd line ++ more := by
  obtain ⟨u, c, b, hlast, hc, rfl⟩ := Text.exists_trimEnd_concat h
  have hu : '\n' ∉ u := fun hmem => hone (List.mem_append_left _ hmem)
  have hspace : ¬isSpace c := by
    intro hspace
    rw [isBlank_of_isSpace hspace] at hc
    cases hc
  refine ⟨joinLines [] (b ++ rest), oneLine_joinLines [] _, ?_⟩
  rw [hlast, List.append_assoc, List.cons_append, joinLines_append List.not_mem_nil hu hspace,
    List.nil_append, List.append_assoc, List.singleton_append]

theorem subjectOf_append {line : Text} (hone : '\n' ∉ line) (hne : line ≠ []) (rest : Text) :
    subjectOf (line ++ rest) = joinLines [] (line ++ paragraph rest) := by
  obtain ⟨c, cs, rfl⟩ := List.exists_cons_of_ne_nil hne
  have hc : ¬decide (c = '\n') = true := by
    rw [decide_eq_true_eq]
    exact fun heq => hone (List.mem_cons.2 (.inl heq.symm))
  rw [subjectOf, List.cons_append, List.dropWhile_cons, if_neg hc, ← List.cons_append,
    paragraph_append hone]

/-- The subject of the history begins with the first line, unless this line is blank. -/
theorem exists_subjectOf {message : Text} (h : Conventional.subjectOf message ≠ []) :
    ∃ t, '\n' ∉ t ∧
      Conventional.subjectOf (subjectOf message) = Conventional.subjectOf message ++ t := by
  rw [Conventional.subjectOf_eq message] at h ⊢
  have hone := Text.not_mem_takeWhile_ne '\n' message
  have hmessage := (List.takeWhile_append_dropWhile (p := (· ≠ '\n')) (l := message)).symm
  generalize message.takeWhile (· ≠ '\n') = line at h hone hmessage ⊢
  generalize message.dropWhile (· ≠ '\n') = rest at hmessage
  subst hmessage
  have hblank : allBlank line = false := by
    rw [← Bool.not_eq_true]
    exact fun hblank => h (Text.trim_of_allBlank hblank)
  have hne : line ≠ [] := by
    rintro rfl
    cases hblank
  obtain ⟨more, hmore, hjoined⟩ := exists_joinLines hone hblank (paragraph rest)
  have hsubject : subjectOf (line ++ rest) = trimEnd line ++ more := by
    rw [subjectOf_append hone hne, hjoined]
  have hone' := oneLine_subjectOf (line ++ rest)
  rw [hsubject] at hone' ⊢
  refine ⟨trimEnd more, fun hmem => hmore ?_, ?_⟩
  · obtain ⟨b, -, hb⟩ := Text.exists_trimEnd_append more
    rw [hb]
    exact List.mem_append_left b hmem
  · rw [Conventional.subjectOf_of_oneLine hone', Text.trim_trimEnd_append hblank]

/-- A header in the first line is one in the subject, with the same type and exclamation mark. -/
theorem exists_header? {message : Text} {header : Conventional.Header}
    (h : header? (Conventional.subjectOf message) = some header) :
    ∃ description, header? (Conventional.subjectOf (subjectOf message)) =
      some { header with description } := by
  have hne : Conventional.subjectOf message ≠ [] := by
    intro hnil
    rw [hnil] at h
    cases h
  obtain ⟨t, ht, hsubject⟩ := exists_subjectOf hne
  rw [hsubject]
  exact Conventional.header?_append h (Conventional.oneLine_subjectOf message) ht

/-- What counts of a message can be read in its subject. -/
structure SubjectTells (message : Text) : Prop where
  /-- A header in the subject is one in the first line; it is not made of lines put together. -/
  header : (header? (Conventional.subjectOf (subjectOf message))).isSome →
    (header? (Conventional.subjectOf message)).isSome
  /-- A breaking footer stands in the subject, unless the exclamation mark says the same. -/
  footer : ∀ header ∈ header? (Conventional.subjectOf message), header.exclaimed = false →
    hasBreakingFooter (subjectOf message) = hasBreakingFooter message

instance (message : Text) : Decidable (SubjectTells message) :=
  decidable_of_iff (_ ∧ _) ⟨fun h => ⟨h.1, h.2⟩, fun h => ⟨h.header, h.footer⟩⟩

theorem subjectTells_of_no_header {message : Text}
    (h : header? (Conventional.subjectOf message) = none) :
    SubjectTells message ↔ header? (Conventional.subjectOf (subjectOf message)) = none := by
  rw [← Option.not_isSome_iff_eq_none]
  constructor
  · intro htells hsome
    have hfirst := htells.header hsome
    rw [h] at hfirst
    cases hfirst
  · intro hnone
    refine ⟨fun hsome => absurd hsome hnone, fun header hheader => ?_⟩
    rw [h] at hheader
    cases hheader

theorem subjectTells_of_header {message : Text} {header : Conventional.Header}
    (h : header? (Conventional.subjectOf message) = some header) :
    SubjectTells message ↔ (header.exclaimed = false →
      hasBreakingFooter (subjectOf message) = hasBreakingFooter message) := by
  constructor
  · exact fun htells => htells.footer header h
  · intro hfooter
    refine ⟨fun _ => by rw [h]; rfl, fun found hfound => ?_⟩
    rw [h] at hfound
    cases hfound
    exact hfooter

end Revision

namespace Impact

open Conventional (header? hasBreakingFooter)

variable {message : Text}

theorem ofMessage_of_header {header : Conventional.Header}
    (h : header? (Conventional.subjectOf message) = some header) (rules : Rules) :
    ofMessage rules message =
      ofCategory (rules.category header.kind) (header.exclaimed || hasBreakingFooter message) := by
  rw [ofMessage, Conventional.ofMessage?, h]
  rfl

theorem ofMessage_of_no_header (h : header? (Conventional.subjectOf message) = none)
    (rules : Rules) : ofMessage rules message = {} := by
  rw [ofMessage, Conventional.ofMessage?, h]
  rfl

theorem ofCategory_ne_empty (category : Category) (breaking : Bool) :
    ofCategory category breaking ≠ {} := by
  cases category <;> simp [ofCategory]

theorem ofCategory_inj {category : Category} {a b : Bool} :
    ofCategory category a = ofCategory category b ↔ a = b :=
  ⟨congrArg breaking, congrArg (ofCategory category)⟩

/-- A subject has the impact of its message exactly if it tells what counts. -/
theorem subjectTells_iff (rules : Rules) :
    Revision.SubjectTells message ↔
      ofMessage rules (Revision.subjectOf message) = ofMessage rules message := by
  cases hfirst : header? (Conventional.subjectOf message) with
  | none =>
    rw [Revision.subjectTells_of_no_header hfirst, ofMessage_of_no_header hfirst]
    cases hsubject : header? (Conventional.subjectOf (Revision.subjectOf message)) with
    | none => exact iff_of_true rfl (ofMessage_of_no_header hsubject rules)
    | some header =>
      rw [ofMessage_of_header hsubject]
      exact iff_of_false (Option.some_ne_none header) (ofCategory_ne_empty _ _)
  | some header =>
    obtain ⟨description, hsubject⟩ := Revision.exists_header? hfirst
    rw [Revision.subjectTells_of_header hfirst, ofMessage_of_header hfirst,
      ofMessage_of_header hsubject, ofCategory_inj]
    cases header.exclaimed <;> simp

theorem ofMessages_map_subjectOf (rules : Rules) {messages : List Text}
    (h : ∀ message ∈ messages, Revision.SubjectTells message) :
    ofMessages rules (messages.map Revision.subjectOf) = ofMessages rules messages := by
  have heach : ∀ message ∈ messages,
      (ofMessage rules ∘ Revision.subjectOf) message = ofMessage rules message :=
    fun message hmem => (subjectTells_iff rules).1 (h message hmem)
  rw [ofMessages, List.map_map, List.map_congr_left heach, ofMessages]

theorem bump_ofMessages {rules : Rules} {messages : List Text} (hmem : message ∈ messages)
    {commit : Conventional} (hcommit : Conventional.ofMessage? message = some commit)
    (hbreaking : commit.breaking) : (ofMessages rules messages).bump = .major := by
  have hone : (ofMessage rules message).breaking := by
    rw [ofMessage, hcommit]
    exact hbreaking
  have hany : (messages.map (ofMessage rules)).any breaking :=
    List.any_eq_true.2 ⟨_, List.mem_map_of_mem hmem, hone⟩
  have hall : (ofMessages rules messages).breaking := by
    rw [ofMessages, foldl_union breaking (fun _ _ => rfl), hany, Bool.or_true]
  rw [bump, hall]
  rfl

end Impact

/-! ## The history of revisions -/

namespace Revision

/-- The history of revisions that are given with their numbers. -/
def toHistory (log : List (Nat × Revision)) : List Commit :=
  log.map fun (n, revision) => revision.toCommit n

/-- The messages of the revisions that are dated after a release. -/
def messagesAfter (released : Option Text) (log : List (Nat × Revision)) : List Text :=
  (log.filter fun (n, revision) => NextVersion.isAfter released (revision.toCommit n)).map
    fun (_, revision) => revision.message

theorem subjects_commitsAfter (released : Option Text) (log : List (Nat × Revision)) :
    (NextVersion.commitsAfter released (toHistory log)).map (·.subject) =
      (messagesAfter released log).map subjectOf := by
  rw [NextVersion.commitsAfter, toHistory, List.filter_map, List.map_map, messagesAfter,
    List.map_map]
  rfl

end Revision

theorem Store.exists_toHistory {store : Store} {history : List Commit}
    (h : store.history = .ok history) :
    ∃ log, history = Revision.toHistory log ∧
      ∀ entry ∈ log, store.revisions[entry.1]? = some entry.2 := by
  unfold Store.history at h
  split at h
  · cases h
  · rename_i head _
    cases h
    refine ⟨((store.ancestors head).mergeSort fun a b => store.committed a ≤ store.committed b
      ).filterMap fun n => store.revisions[n]?.map (n, ·), ?_, ?_⟩
    · rw [Revision.toHistory, List.map_filterMap]
      simp only [Option.map_map, Function.comp_def]
    · rintro ⟨n, revision⟩ hmem
      obtain ⟨k, -, hk⟩ := List.mem_filterMap.1 hmem
      obtain ⟨found, hfound, heq⟩ := Option.map_eq_some_iff.1 hk
      cases heq
      exact hfound

namespace NextVersion

/-- The version that follows a release because of changes, or nothing if there are none. -/
def suggestFor (latest : Release) (impact : Impact) : Except Error (Option NextVersion) :=
  if impact.isEmpty then .ok none
  else match Version.following latest.label impact with
    | .error e => .error (.version e)
    | .ok next => .ok (some { current := latest.label, impact, next })

theorem suggest_eq_suggestFor {rules : Rules} {changelog : Changelog} {latest : Release}
    (h : changelog.latest? = some latest) (history : List Commit) :
    suggest rules changelog history =
      suggestFor latest (pending rules changelog latest history) := by
  rw [suggest, h]
  rfl

theorem pending_of_no_changes {changelog : Changelog}
    (h : ∀ release ∈ changelog.unreleased?, release.changes = []) (rules : Rules)
    (latest : Release) (history : List Commit) :
    pending rules changelog latest history =
      .ofMessages rules ((commitsAfter latest.date history).map (·.subject)) := by
  unfold pending
  split
  · rename_i release hrelease
    rw [h release hrelease]
    rfl
  · rfl

/-- A release of the first day of a year. -/
def releaseSample : Release := { label := "1.4.2", date := some "2024-01-01" }

/-- A document with this release and an empty unreleased section. -/
def releasedSample : Changelog where
  releases := [{ label := unreleasedLabel }, releaseSample]

/-- A revision of this time, in seconds since 1970. -/
def revisionSample (message : Text) (time : Int) : Revision where
  message
  author := "Alice"
  time
  offset := 0
  committed := time
  parents := []
  files := []

/-- A footer from before the release; afterwards one that stands in the first paragraph. -/
def tellingLog : List (Nat × Revision) :=
  [(0, revisionSample "fix: rename API field\n\nBREAKING CHANGE: from X to Y\n" 1703980800),
   (1, revisionSample "feat(api): add search\n\nOver all fields.\n" 1704967200),
   (2, revisionSample "fix: drop API field\nBREAKING CHANGE: use Y\n" 1704967200)]

/-- One commit, with a footer in its last paragraph. -/
def footerLog : List (Nat × Revision) :=
  [(0, revisionSample "fix: rename API field\n\nBREAKING CHANGE: field changed from X to Y\n"
    1704967200)]

/-- The repository that stores this commit. -/
def footerStore : Store where
  revisions := footerLog.map (·.2)
  head := some 0

end NextVersion

end CommonChangelog
