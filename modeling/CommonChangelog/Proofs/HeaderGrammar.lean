import CommonChangelog.Proofs.HistoryImpact

/-!
# The grammar of conventional headers

A conventional header is a type, perhaps a scope in parentheses, perhaps an exclamation mark, a
colon, blanks and a description (`Conventional.Form`). What a part consists of does not begin the
part behind it, and a scope ends at the first closing parenthesis. So a header can be taken apart
in one way only, except that blanks at the front of a description may count as blanks before it.
Reading finds these parts (`header?_written`), and finds none in other texts
(`exists_form_of_header?`).

Main result: `Conventional.ofMessage?_grammar`.
-/

namespace CommonChangelog

namespace Text

theorem isBlank_of_isWord {c : Char} (h : isWord c) : isBlank c = false := by
  unfold isWord at h
  split at h
  · rename_i hlt
    have hascii : ∀ n < 0x80, ((Char.ofNat n).isAlphanum || Char.ofNat n == '_') →
        isBlank (Char.ofNat n) = false := by decide
    exact forall_ascii (p := fun c => (c.isAlphanum || c == '_') → isBlank c = false) hascii hlt h
  · exact Ranges.has_eq_false (by decide +kernel) h

end Text

namespace Conventional

open Text (isBlank isWord allBlank trim trimStart)

/-! ## Headers in their parts -/

/-- A header in its parts. The description may begin with blanks, too. -/
@[ext]
structure Form where
  kind : Text
  scope : Option Text
  exclaimed : Bool
  blanks : Text
  description : Text
  kind_ne_nil : kind ≠ []
  kind_word : ∀ c ∈ kind, isWord c
  scope_closed : ∀ inner ∈ scope, ')' ∉ inner
  blanks_blank : allBlank blanks
  description_ne_nil : description ≠ []

/-- The scope between its parentheses. -/
def scopeText : Option Text → Text
  | none => []
  | some scope => '(' :: (scope ++ [')'])

/-- The exclamation mark. -/
def markText (exclaimed : Bool) : Text := if exclaimed then ['!'] else []

namespace Form

/-- What stands behind the type. -/
def rest (form : Form) : Text :=
  scopeText form.scope ++ (markText form.exclaimed ++ ':' :: (form.blanks ++ form.description))

/-- The header as it is written. -/
def written (form : Form) : Text := form.kind ++ form.rest

/-- All blanks between the colon and the description count as such. -/
def Tight (form : Form) : Prop := ∀ c ∈ form.description.head?, isBlank c = false

/-- The parts that reading keeps. -/
def header (form : Form) : Header :=
  ⟨form.kind, form.scope, form.exclaimed, trimStart form.description⟩

end Form

variable {form other : Form} {s rest : Text}

/-! ## Reading a header that is put together -/

theorem scope?_written {scope : Option Text} (h : ∀ inner ∈ scope, ')' ∉ inner)
    (hrest : rest.head? ≠ some '(') : scope? (scopeText scope ++ rest) = (scope, rest) := by
  cases scope with
  | none =>
    rw [scopeText, List.nil_append]
    unfold scope?
    split
    · exact absurd rfl hrest
    · rfl
  | some inner =>
    have hspan : Text.spanOf (· ≠ ')') (inner ++ ')' :: rest) = (inner, ')' :: rest) := by
      refine Text.spanOf_append (fun c hc => ?_) (Text.forall_head_cons (by decide) rest)
      rw [decide_eq_true_eq]
      rintro rfl
      exact h inner rfl hc
    rw [scopeText, List.cons_append, List.append_assoc, List.singleton_append, scope?, hspan]

theorem exclamation?_written (exclaimed : Bool) (s : Text) :
    exclamation? (markText exclaimed ++ ':' :: s) = (exclaimed, ':' :: s) := by
  cases exclaimed <;> rfl

theorem description?_of_settled (hone : '\n' ∉ s) (h : allBlank s = false) :
    description? s = some (trimStart s) := by
  unfold description?
  split
  · rename_i hnil
    have hall : allBlank s = true := List.all_eq_true.2 (List.dropWhile_eq_nil_iff.1 hnil)
    rw [h] at hall
    cases hall
  · exact if_neg fun hmem => hone ((Text.trimStart_suffix s).subset hmem)

theorem Form.head_rest (form : Form) : ∀ c ∈ form.rest.head?, isWord c = false := by
  intro c hc
  rw [Form.rest] at hc
  cases hscope : form.scope with
  | some inner =>
    rw [hscope] at hc
    cases hc
    decide
  | none =>
    rw [hscope] at hc
    cases hmark : form.exclaimed <;> rw [hmark] at hc <;> cases hc <;> decide

theorem head_marked (exclaimed : Bool) (s : Text) :
    (markText exclaimed ++ ':' :: s).head? ≠ some '(' := by
  cases exclaimed <;> exact fun h => absurd (Option.some.inj h) (by decide)

/-- **A header is read in its parts**, if it is one line and does not end with a blank. -/
theorem header?_written (hone : '\n' ∉ form.written)
    (hlast : ∀ c ∈ form.description.getLast?, isBlank c = false) :
    header? form.written = some form.header := by
  have hrun : Text.run? isWord form.written = some (form.kind, form.rest) :=
    Text.run?_eq_some.2 ⟨rfl, form.kind_ne_nil, form.kind_word, form.head_rest⟩
  have hcolon : Text.after? ":" (':' :: (form.blanks ++ form.description)) =
      some (form.blanks ++ form.description) := Text.after?_eq_some.2 rfl
  have hdescription : description? (form.blanks ++ form.description) =
      some (trimStart form.description) := by
    rw [description?_of_settled, Text.trimStart_append_of_allBlank form.blanks_blank]
    · exact fun hmem => hone (by simp [Form.written, Form.rest, List.mem_append.1 hmem])
    · have hlast' := List.getLast?_eq_some_getLast form.description_ne_nil
      rw [allBlank, List.all_append, Bool.and_eq_false_iff]
      refine .inr (List.all_eq_false.2 ⟨_, List.getLast_mem form.description_ne_nil, ?_⟩)
      rw [hlast _ hlast']
      exact Bool.false_ne_true
  rw [header?, hrun]
  simp only [Form.rest, scope?_written form.scope_closed (head_marked _ _), exclamation?_written,
    hcolon, hdescription, Option.bind_eq_bind, Option.bind_some, Option.pure_def, Form.header]

/-! ## Taking a header apart -/

theorem exists_of_scope? {scope : Option Text} (h : scope? s = (scope, rest)) :
    s = scopeText scope ++ rest ∧ ∀ inner ∈ scope, ')' ∉ inner := by
  unfold scope? at h
  split at h
  · rename_i inner
    split at h
    · rename_i found c behind hspan
      cases h
      obtain ⟨rfl, hdrop⟩ := Prod.mk.inj hspan
      have hc : c = ')' := by
        have hnot := List.head?_dropWhile_not (· ≠ ')') inner
        rw [hdrop] at hnot
        simpa using hnot
      have hinner := List.takeWhile_append_dropWhile (p := (· ≠ ')')) (l := inner)
      rw [hdrop, hc] at hinner
      refine ⟨?_, fun _ hmem => ?_⟩
      · rw [scopeText, List.cons_append, List.append_assoc, List.singleton_append, hinner]
      · cases hmem
        exact Text.not_mem_takeWhile_ne ')' inner
    · cases h
      exact ⟨rfl, fun _ hmem => absurd hmem (Option.not_mem_none _)⟩
  · cases h
    exact ⟨rfl, fun _ hmem => absurd hmem (Option.not_mem_none _)⟩

theorem eq_of_exclamation? {exclaimed : Bool} (h : exclamation? s = (exclaimed, rest)) :
    s = markText exclaimed ++ rest := by
  unfold exclamation? at h
  split at h <;> cases h <;> rfl

/-- What is described comes after blanks, if the text does not end with one. -/
theorem exists_of_description? {description : Text} (h : description? s = some description)
    (hlast : ∀ c ∈ s.getLast?, isBlank c = false) :
    ∃ blanks, allBlank blanks ∧ s = blanks ++ description ∧ description = trimStart s ∧
      description ≠ [] := by
  unfold description? at h
  split at h
  · rename_i hnil
    split at h
    · cases h
    · cases h
    · rename_i c _ hc
      have hall : isBlank c := List.dropWhile_eq_nil_iff.1 hnil c (List.mem_of_getLast? hc)
      rw [hlast c hc] at hall
      cases hall
  · rename_i hne
    split at h
    · cases h
    · cases h
      exact ⟨s.takeWhile isBlank, List.all_takeWhile, List.takeWhile_append_dropWhile.symm, rfl,
        hne⟩

/-- **What is read is a header in its parts.** -/
theorem exists_form_of_header? {header : Header} (h : header? s = some header)
    (hlast : ∀ c ∈ s.getLast?, isBlank c = false) :
    ∃ form : Form, s = form.written ∧ form.Tight ∧ form.header = header := by
  simp only [header?, Option.bind_eq_bind, Option.bind_eq_some_iff, Option.pure_def,
    Option.some.injEq, Prod.exists] at h
  obtain ⟨kind, rest, hkind, after, hafter, description, hdescription, rfl⟩ := h
  obtain ⟨rfl, hne, hword, -⟩ := Text.run?_eq_some.1 hkind
  rcases hscope : scope? rest with ⟨scope, marked⟩
  rcases hmark : exclamation? marked with ⟨exclaimed, behind⟩
  simp only [hscope, hmark] at hafter ⊢
  obtain ⟨rfl, hclosed⟩ := exists_of_scope? hscope
  obtain rfl := eq_of_exclamation? hmark
  obtain rfl := Text.after?_eq_some.1 hafter
  have hafter' : ∀ c ∈ after.getLast?, isBlank c = false := by
    intro c hc
    obtain ⟨t, rfl⟩ := List.getLast?_eq_some_iff.1 hc
    refine hlast c ?_
    simp only [← List.append_assoc, List.getLast?_concat]
    rfl
  obtain ⟨blanks, hblanks, hsplit, htrim, hdescription⟩ :=
    exists_of_description? hdescription hafter'
  have htight : ∀ c ∈ description.head?, isBlank c = false := by
    rw [htrim]
    exact Text.head_trimStart after
  refine ⟨⟨kind, scope, exclaimed, blanks, description, hne, hword, hclosed, hblanks,
    hdescription⟩, ?_, htight, ?_⟩
  · rw [Form.written, Form.rest, ← hsplit]
    rfl
  · rw [Form.header, Text.trimStart_of_head htight]

/-! ## One decomposition -/

/-- The headers have the same parts, up to where the blanks end. -/
structure Form.Agrees (form other : Form) : Prop where
  kind : form.kind = other.kind
  scope : form.scope = other.scope
  exclaimed : form.exclaimed = other.exclaimed
  description : form.blanks ++ form.description = other.blanks ++ other.description

/-- **A text is a header in one way only**, up to where the blanks end. -/
theorem Form.agrees_of_written (h : form.written = other.written) : form.Agrees other := by
  have hrun : ∀ form : Form, Text.run? isWord form.written = some (form.kind, form.rest) :=
    fun form => Text.run?_eq_some.2 ⟨rfl, form.kind_ne_nil, form.kind_word, form.head_rest⟩
  have hscope : ∀ form : Form, scope? form.rest = (form.scope, _) :=
    fun form => scope?_written form.scope_closed (head_marked _ _)
  have hfound := hrun form
  rw [h, hrun other, Option.some.injEq, Prod.mk.injEq] at hfound
  obtain ⟨hkind, hrest⟩ := hfound
  have hmarked := hscope form
  rw [← hrest, hscope other, Prod.mk.injEq] at hmarked
  obtain ⟨hscope, hmarked⟩ := hmarked
  have hbehind := exclamation?_written form.exclaimed (form.blanks ++ form.description)
  rw [← hmarked, exclamation?_written, Prod.mk.injEq, List.cons.injEq] at hbehind
  exact ⟨hkind.symm, hscope.symm, hbehind.1.symm, hbehind.2.2.symm⟩

theorem Form.Agrees.eq_of_tight (h : form.Agrees other) (hform : form.Tight)
    (hother : other.Tight) : form = other := by
  have hdescription : form.description = other.description := by
    have htrim := congrArg trimStart h.description
    rwa [Text.trimStart_append_of_allBlank form.blanks_blank,
      Text.trimStart_append_of_allBlank other.blanks_blank, Text.trimStart_of_head hform,
      Text.trimStart_of_head hother] at htrim
  have hblanks := h.description
  rw [hdescription, List.append_cancel_right_eq] at hblanks
  exact Form.ext h.kind h.scope h.exclaimed hblanks hdescription

/-! ## Messages -/

/-- The commit is what a message with this header says. -/
structure Form.Yields (form : Form) (message : Text) (commit : Conventional) : Prop where
  kind : commit.kind = form.kind
  scope : ∀ scope, commit.scope = some scope ↔ form.scope = some scope ∧ scope ≠ []
  description : commit.description = trim form.description
  breaking : commit.breaking ↔ form.exclaimed ∨
    ("BREAKING CHANGE:" : Text) <:+: message ∨ ("BREAKING-CHANGE:" : Text) <:+: message

theorem Form.last_description (h : ∀ c ∈ form.written.getLast?, isBlank c = false) :
    ∀ c ∈ form.description.getLast?, isBlank c = false := by
  intro c hc
  obtain ⟨t, ht⟩ := List.getLast?_eq_some_iff.1 hc
  refine h c ?_
  rw [Form.written, Form.rest, ht]
  simp only [← List.append_assoc, ← List.cons_append, List.getLast?_concat]
  rfl

theorem exists_yields_of_header? {message : Text}
    (h : header? (subjectOf message) = some form.header) :
    ∃ commit, ofMessage? message = some commit ∧ form.Yields message commit := by
  refine ⟨_, by rw [ofMessage?, h]; rfl, rfl, fun scope => ?_, ?_, ?_⟩
  · rw [Option.filter_eq_some_iff, Bool.not_eq_true', List.isEmpty_eq_false_iff]
    rfl
  · exact Text.trim_trimStart form.description
  · rw [Bool.or_eq_true, hasBreakingFooter, Bool.or_eq_true, Text.contains_iff,
      Text.contains_iff]
    rfl

theorem header?_subjectOf {message : Text} (h : subjectOf message = form.written) :
    header? (subjectOf message) = some form.header := by
  have hone := oneLine_subjectOf message
  have hlast : ∀ c ∈ (subjectOf message).getLast?, isBlank c = false := by
    rw [subjectOf]
    exact Text.last_trimEnd _
  rw [h] at hone hlast ⊢
  exact header?_written hone (Form.last_description hlast)

theorem subjectOf_written (hone : '\n' ∉ form.written)
    (htrim : trim form.description = form.description) : subjectOf form.written = form.written := by
  rw [subjectOf_of_oneLine hone]
  refine Text.trim_of_ends ?_ ?_
  · intro c hc
    obtain ⟨d, ds, hkind⟩ := List.exists_cons_of_ne_nil form.kind_ne_nil
    rw [Form.written, hkind] at hc
    cases hc
    exact Text.isBlank_of_isWord (form.kind_word _ (hkind ▸ List.mem_cons_self))
  · rw [Form.written, Form.rest, ← List.append_assoc, ← List.append_assoc, ← List.cons_append,
      ← List.append_assoc]
    exact Text.last_append_of_ne_nil form.description_ne_nil (Text.last_of_trim htrim) _

/--
**A message is conventional exactly if its first line is a conventional header.** The header has one
decomposition: any two agree in all parts, up to where the blanks before the description end, and
exactly one has none of them in the description. Whichever one takes, the commit has its type, its
scope unless that is empty, and its trimmed description. It is breaking exactly if the exclamation
mark is there or the message has one of the two footers. So a header that is put together from
parts, on one line and with a trimmed description, is read as these parts.
-/
theorem ofMessage?_grammar :
    (∀ message : Text,
      ((ofMessage? message).isSome ↔ ∃ form : Form, subjectOf message = form.written) ∧
      ((ofMessage? message).isSome →
        ∃! form : Form, form.Tight ∧ subjectOf message = form.written) ∧
      (∀ form other : Form, subjectOf message = form.written →
        subjectOf message = other.written → form.Agrees other) ∧
      (∀ form : Form, subjectOf message = form.written →
        ∃ commit, ofMessage? message = some commit ∧ form.Yields message commit)) ∧
    (∀ form : Form, '\n' ∉ form.written → trim form.description = form.description →
      ∃ commit, ofMessage? form.written = some commit ∧ form.Yields form.written commit ∧
        commit.description = form.description) := by
  have hyields : ∀ (message : Text) (form : Form), subjectOf message = form.written →
      ∃ commit, ofMessage? message = some commit ∧ form.Yields message commit :=
    fun message form h => exists_yields_of_header? (header?_subjectOf h)
  have hform : ∀ message, (ofMessage? message).isSome →
      ∃ form : Form, form.Tight ∧ subjectOf message = form.written := by
    intro message hsome
    obtain ⟨commit, hcommit⟩ := Option.isSome_iff_exists.1 hsome
    obtain ⟨header, hheader, -⟩ := Option.bind_eq_some_iff.1 hcommit
    obtain ⟨form, hwritten, htight, -⟩ :=
      exists_form_of_header? hheader (by rw [subjectOf]; exact Text.last_trimEnd _)
    exact ⟨form, htight, hwritten⟩
  have hagrees : ∀ (message : Text) (form other : Form), subjectOf message = form.written →
      subjectOf message = other.written → form.Agrees other :=
    fun message form other h h' => Form.agrees_of_written (h.symm.trans h')
  refine ⟨fun message => ⟨⟨fun hsome => ?_, ?_⟩, fun hsome => ?_, hagrees message,
    hyields message⟩, ?_⟩
  · obtain ⟨form, -, hwritten⟩ := hform message hsome
    exact ⟨form, hwritten⟩
  · rintro ⟨form, hwritten⟩
    obtain ⟨commit, hcommit, -⟩ := hyields message form hwritten
    exact Option.isSome_iff_exists.2 ⟨commit, hcommit⟩
  · obtain ⟨form, htight, hwritten⟩ := hform message hsome
    refine ⟨form, ⟨htight, hwritten⟩, ?_⟩
    rintro other ⟨hother, hwritten'⟩
    exact (hagrees message other form hwritten' hwritten).eq_of_tight hother htight
  · intro form hone htrim
    obtain ⟨commit, hcommit, h⟩ := hyields form.written form (subjectOf_written hone htrim)
    exact ⟨commit, hcommit, h, h.description.trans htrim⟩

/-- A header with the marks of a header in its scope and in its description. -/
def nestedForm : Form where
  kind := "feat"
  scope := some "api(v2!:"
  exclaimed := false
  blanks := " "
  description := "drop (old): fields!"
  kind_ne_nil := by decide
  kind_word := List.all_eq_true.1 (by decide +kernel)
  scope_closed := by decide
  blanks_blank := by decide
  description_ne_nil := by decide

/-- A message with this header between blanks, and with a footer. -/
def nestedMessage : Text := "  " ++ nestedForm.written ++ " \r\n\nBREAKING-CHANGE: use v3\n"

theorem ofMessage?_grammar_nestedSample :
    subjectOf nestedMessage = nestedForm.written ∧ nestedForm.Tight ∧
      (∃! form : Form, form.Tight ∧ subjectOf nestedMessage = form.written) ∧
      (∃ commit, ofMessage? nestedMessage = some commit ∧
        nestedForm.Yields nestedMessage commit ∧ commit.breaking) ∧
      ∃ commit, ofMessage? nestedForm.written = some commit ∧
        nestedForm.Yields nestedForm.written commit ∧
        commit.description = nestedForm.description := by
  have hsubject : subjectOf nestedMessage = nestedForm.written := by decide +kernel
  have htight : nestedForm.Tight := Text.forall_head_cons (by decide) _
  obtain ⟨hiff, hunique, -, hyields⟩ := ofMessage?_grammar.1 nestedMessage
  obtain ⟨commit, hcommit, h⟩ := hyields nestedForm hsubject
  have hfooter : ("BREAKING-CHANGE:" : Text) <:+: nestedMessage := by decide +kernel
  exact ⟨hsubject, htight, hunique (hiff.2 ⟨nestedForm, hsubject⟩),
    ⟨commit, hcommit, h, h.breaking.2 (.inr (.inr hfooter))⟩,
    ofMessage?_grammar.2 nestedForm (by decide) (by decide)⟩

end Conventional

end CommonChangelog
