import CommonChangelog.Proofs.HeaderGrammar
import CommonChangelog.Proofs.ImportedNumbers
import CommonChangelog.Retrofit

/-!
# Decorated subjects

A subject may carry emoji and the key of a ticket in front of its conventional header. Emoji and the
blanks around them go with the first step, the key and the separators behind it with the second, and
both stop at the type of the header, which consists of word characters. So the category, the
breaking flag and the text of the entry are those of the subject alone.

Main result: `Retrofit.categorize_decorated`.
-/

namespace CommonChangelog

open Text (isBlank isDigit isWord allBlank trim trimStart trimEnd)

namespace Text

theorem exists_trim (s : Text) :
    ∃ before after, allBlank before ∧ allBlank after ∧ s = before ++ (trim s ++ after) := by
  obtain ⟨after, hafter, hs⟩ := exists_trimEnd_append (trimStart s)
  refine ⟨s.takeWhile isBlank, after, List.all_takeWhile, hafter, ?_⟩
  rw [trim, ← hs]
  exact List.takeWhile_append_dropWhile.symm

theorem not_mem_of_allBlank {c : Char} {s : Text} (hc : isBlank c = false) (h : allBlank s) :
    c ∉ s := by
  intro hmem
  have hblank := List.all_eq_true.1 h c hmem
  rw [hc] at hblank
  cases hblank

theorem infix_trim_iff {c d : Char} {w m s : Text} (hc : isBlank c = false)
    (hd : isBlank d = false) (hm : c :: w = m ++ [d]) : c :: w <:+: trim s ↔ c :: w <:+: s := by
  obtain ⟨before, after, hbefore, hafter, hs⟩ := exists_trim s
  constructor
  · intro h
    rw [hs]
    exact h.trans ⟨before, after, List.append_assoc _ _ _⟩
  · intro h
    rw [hs] at h
    have hright := infix_right_of_not_mem (not_mem_of_allBlank hc hbefore) h
    rw [hm] at hright ⊢
    exact infix_left_of_not_mem (not_mem_of_allBlank hd hafter) hright

end Text

/-! ## Headers and the blanks around them -/

namespace Conventional

variable {s : Text}

theorem Form.exists_written (form : Form) : ∃ k ks, form.written = k :: ks ∧ isWord k := by
  obtain ⟨k, ks, hkind⟩ := List.exists_cons_of_ne_nil form.kind_ne_nil
  refine ⟨k, ks ++ form.rest, by rw [written, hkind, List.cons_append], ?_⟩
  exact form.kind_word k (hkind ▸ List.mem_cons_self)

/-- Behind the type comes a parenthesis, an exclamation mark or a colon. -/
theorem Form.head_rest_ne (form : Form) : form.rest.head? ≠ some '-' := by
  rw [Form.rest]
  cases form.scope with
  | some inner => exact fun h => absurd (Option.some.inj h) (by decide)
  | none => cases form.exclaimed <;> exact fun h => absurd (Option.some.inj h) (by decide)

theorem ofMessage?_trim (hone : '\n' ∉ s) : ofMessage? (trim s) = ofMessage? s := by
  have hsubject : subjectOf (trim s) = subjectOf s := by
    rw [subjectOf_of_oneLine (Text.oneLine_trim hone), subjectOf_of_oneLine hone, Text.trim_trim]
  have hcontains : ∀ middle : Text, Text.contains ('B' :: (middle ++ [':'])) (trim s) =
      Text.contains ('B' :: (middle ++ [':'])) s := by
    intro middle
    rw [Bool.eq_iff_iff, Text.contains_iff, Text.contains_iff]
    exact Text.infix_trim_iff (m := 'B' :: middle) (by decide) (by decide) rfl
  have hfooter : hasBreakingFooter (trim s) = hasBreakingFooter s :=
    congrArg₂ or (hcontains "REAKING CHANGE") (hcontains "REAKING-CHANGE")
  rw [ofMessage?, hsubject, hfooter, ← ofMessage?]

theorem exists_form_of_ofMessage? (hone : '\n' ∉ s) {commit : Conventional}
    (h : ofMessage? s = some commit) : ∃ form : Form, trim s = form.written := by
  obtain ⟨header, hheader, -⟩ := Option.bind_eq_some_iff.1 h
  rw [subjectOf_of_oneLine hone] at hheader
  obtain ⟨form, hwritten, -⟩ := exists_form_of_header? hheader (Text.last_trimEnd _)
  exact ⟨form, hwritten⟩

end Conventional

/-! ## Tickets -/

/-- The parts of the key of a ticket. -/
structure Ticket where
  letters : Text
  digits : Text
  two_le_letters : 2 ≤ letters.length
  letters_capital : ∀ c ∈ letters, Reference.isKeyLetter c
  digits_ne_nil : digits ≠ []
  digits_digit : ∀ c ∈ digits, isDigit c

namespace Ticket

theorem letters_ne_nil (ticket : Ticket) : ticket.letters ≠ [] := by
  intro hnil
  have hlength := ticket.two_le_letters
  rw [hnil] at hlength
  exact absurd hlength (by decide)

/-- What sets a key off from the text behind it. -/
inductive Style where
  | bracketed
  | colon
  | dash
  deriving DecidableEq, Repr

/-- The key, as in `EN-12`. -/
def key (ticket : Ticket) : Text := ticket.letters ++ '-' :: ticket.digits

/-- The key in front of a text: `[EN-12] `, `EN-12: ` or `EN-12 - `. -/
def written (ticket : Ticket) : Style → Text
  | .bracketed => '[' :: (ticket.key ++ "] ")
  | .colon => ticket.key ++ ": "
  | .dash => ticket.key ++ " - "

end Ticket

namespace Reference

variable {c : Char} {s rest : Text}

theorem lt_of_isKeyLetter (h : isKeyLetter c) : c.toNat < 0x80 := by
  rw [isKeyLetter, Bool.and_eq_true, decide_eq_true_eq, decide_eq_true_eq] at h
  exact Nat.lt_of_le_of_lt (UInt32.le_iff_toNat_le.1 h.2) (by decide)

theorem isWord_of_isKeyLetter (h : isKeyLetter c) : isWord c := by
  have hascii : ∀ n < 0x80, isKeyLetter (Char.ofNat n) → isWord (Char.ofNat n) := by decide
  exact Text.forall_ascii (p := fun c => isKeyLetter c → isWord c) hascii (lt_of_isKeyLetter h) h

/-- What is read is a key, as far as its digits go. -/
theorem ticketKey_eq_some :
    ticketKey s = some ((), rest) ↔
      ∃ ticket : Ticket, s = ticket.key ++ rest ∧ ∀ c ∈ rest.head?, isDigit c = false := by
  simp only [ticketKey, Option.bind_eq_bind, Option.bind_eq_some_iff, Option.pure_def,
    Option.some.injEq, Prod.mk.injEq, Prod.exists, Text.after?_eq_some, Text.run?_eq_some,
    Option.guard_eq_some']
  constructor
  · rintro ⟨letters, behind, ⟨rfl, -, hletters, -⟩, -, hlength, numbered, rfl, digits, after,
      ⟨rfl, hdigits, hall, hrest⟩, -, rfl⟩
    exact ⟨⟨letters, digits, hlength, hletters, hdigits, hall⟩, by simp [Ticket.key], hrest⟩
  · rintro ⟨ticket, rfl, hrest⟩
    refine ⟨ticket.letters, '-' :: (ticket.digits ++ rest), ⟨by simp [Ticket.key],
      ticket.letters_ne_nil, ticket.letters_capital, Text.forall_head_cons (by decide) _⟩, (),
      ticket.two_le_letters, ticket.digits ++ rest, rfl, ticket.digits, rest,
      ⟨rfl, ticket.digits_ne_nil, ticket.digits_digit, hrest⟩, trivial, rfl⟩

end Reference

theorem Ticket.exists_key (ticket : Ticket) :
    ∃ c cs, ticket.key = c :: cs ∧ Reference.isKeyLetter c := by
  obtain ⟨c, cs, hletters⟩ := List.exists_cons_of_ne_nil ticket.letters_ne_nil
  refine ⟨c, cs ++ '-' :: ticket.digits, by rw [key, hletters, List.cons_append], ?_⟩
  exact ticket.letters_capital c (hletters ▸ List.mem_cons_self)

theorem Ticket.exists_written (ticket : Ticket) (style : Style) :
    ∃ c cs, ticket.written style = c :: cs ∧ isBlank c = false := by
  obtain ⟨c, cs, hkey, hc⟩ := ticket.exists_key
  have hblank : isBlank c = false := Text.isBlank_of_isWord (Reference.isWord_of_isKeyLetter hc)
  cases style with
  | bracketed => exact ⟨'[', ticket.key ++ "] ", rfl, by decide⟩
  | colon => exact ⟨c, cs ++ ": ", by rw [written, hkey, List.cons_append], hblank⟩
  | dash => exact ⟨c, cs ++ " - ", by rw [written, hkey, List.cons_append], hblank⟩

namespace Title

variable {c : Char} {s : Text}

/-! ## Reading a ticket in front of a text -/

theorem isSeparator_of_isWord (h : isWord c) : isSeparator c = false := by
  have hcolon : c ≠ ':' := by
    rintro rfl
    exact absurd h (by decide)
  have hhyphen : c ≠ '-' := by
    rintro rfl
    exact absurd h (by decide)
  rw [isSeparator, Text.isBlank_of_isWord h, beq_false_of_ne hcolon, beq_false_of_ne hhyphen]
  rfl

theorem isSeparator_of_isBlank (h : isBlank c) : isSeparator c := by
  rw [isSeparator, h, Bool.or_true]

theorem skipOne_bracket (h : isWord c) (s : Text) : Text.skipOne (· = '[') (c :: s) = c :: s := by
  have hne : c ≠ '[' := by
    rintro rfl
    exact absurd h (by decide)
  exact Text.skipOne_of_head (Text.forall_head_cons (decide_eq_false hne) s)

/-- A key with its bracket, if it has one, and the separators behind it are read. -/
theorem leadingTicket_written (ticket : Ticket) (style : Ticket.Style) (s : Text) :
    leadingTicket (ticket.written style ++ s) = some ((), afterSeparators s) := by
  obtain ⟨c, cs, hkey, hc⟩ := ticket.exists_key
  have hskip : ∀ t, Text.skipOne (· = '[') (ticket.key ++ t) = ticket.key ++ t := by
    intro t
    rw [hkey]
    exact skipOne_bracket (Reference.isWord_of_isKeyLetter hc) (cs ++ t)
  have hread : ∀ d t, isDigit d = false →
      Reference.ticketKey (ticket.key ++ d :: t) = some ((), d :: t) :=
    fun d t hd => Reference.ticketKey_eq_some.2 ⟨ticket, rfl, Text.forall_head_cons hd t⟩
  cases style with
  | bracketed =>
    have hopen : Text.skipOne (· = '[') (ticket.written .bracketed ++ s) =
        ticket.key ++ ']' :: ' ' :: s := by
      simp [Ticket.written, Text.skipOne, Text.afterOne?]
    rw [leadingTicket, hopen, hread ']' _ (by decide)]
    rfl
  | colon =>
    have hwritten : ticket.written .colon ++ s = ticket.key ++ ':' :: ' ' :: s := by
      simp [Ticket.written]
    rw [leadingTicket, hwritten, hskip, hread ':' _ (by decide)]
    rfl
  | dash =>
    have hwritten : ticket.written .dash ++ s = ticket.key ++ ' ' :: '-' :: ' ' :: s := by
      simp [Ticket.written]
    rw [leadingTicket, hwritten, hskip, hread ' ' _ (by decide)]
    rfl

/-- A header does not begin with a ticket: behind its type comes no hyphen. -/
theorem leadingTicket_of_form (form : Conventional.Form) : leadingTicket form.written = none := by
  obtain ⟨k, ks, hwritten, hk⟩ := form.exists_written
  have hskip : Text.skipOne (· = '[') form.written = form.written := by
    rw [hwritten]
    exact skipOne_bracket hk ks
  have hkey : Reference.ticketKey form.written = none := by
    rw [Option.eq_none_iff_forall_ne_some]
    rintro ⟨⟨⟩, rest⟩ hread
    obtain ⟨ticket, hticket, -⟩ := Reference.ticketKey_eq_some.1 hread
    -- The type is the longest run of word characters, and so are the letters of the key.
    have hrun : Text.run? isWord form.written = some (form.kind, form.rest) :=
      Text.run?_eq_some.2 ⟨rfl, form.kind_ne_nil, form.kind_word, form.head_rest⟩
    have hletters : Text.run? isWord form.written =
        some (ticket.letters, '-' :: (ticket.digits ++ rest)) := by
      refine Text.run?_eq_some.2 ⟨by rw [hticket, Ticket.key, List.append_assoc]; rfl,
        ticket.letters_ne_nil,
        fun c hc => Reference.isWord_of_isKeyLetter (ticket.letters_capital c hc),
        Text.forall_head_cons (by decide) _⟩
    rw [hrun, Option.some.injEq, Prod.mk.injEq] at hletters
    exact form.head_rest_ne (by rw [hletters.2]; rfl)
  rw [leadingTicket, hskip, hkey]
  rfl

/-! ## Emoji -/

theorem plain_of_all (h : s.all fun c => !isEmoji c) : ∀ c ∈ s, isEmoji c = false := by
  intro c hc
  rw [← Bool.not_eq_true']
  exact List.all_eq_true.1 h c hc

theorem isEmoji_of_lt (h : c.toNat < 0x80) : isEmoji c = false := by
  have hlow : ∀ range ∈ emojiRanges, 0x80 ≤ range.1 := by decide
  rw [isEmoji, Ranges.has, List.any_eq_false]
  intro range hrange hboth
  rw [Bool.and_eq_true, decide_eq_true_eq] at hboth
  exact absurd (Nat.le_trans (hlow range hrange) hboth.1) (Nat.not_le.2 h)

theorem isEmoji_of_isDigit (h : isDigit c) : isEmoji c = false := by
  unfold isDigit at h
  split at h
  · rename_i hlt
    exact isEmoji_of_lt hlt
  · exact Ranges.has_eq_false (by decide +kernel) h

theorem isEmoji_of_mem_written {ticket : Ticket} {style : Ticket.Style}
    (h : c ∈ ticket.written style) : isEmoji c = false := by
  have hkey : ∀ c ∈ ticket.key, isEmoji c = false := by
    rw [Ticket.key, List.forall_mem_append, List.forall_mem_cons]
    exact ⟨fun c hc => isEmoji_of_lt (Reference.lt_of_isKeyLetter (ticket.letters_capital c hc)),
      by decide, fun c hc => isEmoji_of_isDigit (ticket.digits_digit c hc)⟩
  have hall : ∀ c ∈ ticket.written style, isEmoji c = false := by
    cases style with
    | bracketed =>
      rw [Ticket.written, List.forall_mem_cons, List.forall_mem_append]
      exact ⟨by decide, hkey, plain_of_all (by decide)⟩
    | colon =>
      rw [Ticket.written, List.forall_mem_append]
      exact ⟨hkey, plain_of_all (by decide)⟩
    | dash =>
      rw [Ticket.written, List.forall_mem_append]
      exact ⟨hkey, plain_of_all (by decide)⟩
  exact hall c h

theorem removeEmoji_of_plain (h : ∀ c ∈ s, isEmoji c = false) : removeEmoji s = trim s := by
  rw [removeEmoji, List.filter_eq_self.2 fun c hc => by rw [h c hc]; rfl]

/-- Emoji and blanks in front of a text go with the emoji. -/
theorem removeEmoji_append {e : Text} (h : ∀ c ∈ e, isEmoji c ∨ isBlank c) (s : Text) :
    removeEmoji (e ++ s) = removeEmoji s := by
  have hblank : allBlank (e.filter fun c => !isEmoji c) := by
    rw [allBlank, List.all_eq_true]
    intro c hc
    obtain ⟨hmem, hplain⟩ := List.mem_filter.1 hc
    refine (h c hmem).resolve_left fun hemoji => ?_
    rw [hemoji] at hplain
    cases hplain
  rw [removeEmoji, List.filter_append, trim, Text.trimStart_append_of_allBlank hblank, ← trim,
    ← removeEmoji]

end Title

namespace Retrofit

open Title (removeEmoji dropTicket isEmoji)

variable {s e : Text} {form : Conventional.Form}

/-! ## Subjects -/

theorem undecorated_append (h : ∀ c ∈ e, isEmoji c ∨ isBlank c) (s : Text) :
    undecorated (e ++ s) = undecorated s := by
  rw [undecorated, Title.removeEmoji_append h, ← undecorated]

/-- A header alone stays as it is between its blanks. -/
theorem undecorated_of_form (hplain : ∀ c ∈ s, isEmoji c = false) (h : trim s = form.written) :
    undecorated s = trim s := by
  rw [undecorated, Title.removeEmoji_of_plain hplain, dropTicket, Scanner.removeStart, h,
    Title.leadingTicket_of_form, ← h]
  exact Text.trim_trim s

/-- Behind a ticket, the blanks before a header are separators, and its type is not. -/
theorem afterSeparators_trimEnd (h : trim s = form.written) :
    Title.afterSeparators (trimEnd s) = trim s := by
  obtain ⟨before, after, hbefore, hafter, hs⟩ := Text.exists_trim s
  obtain ⟨k, ks, hwritten, hk⟩ := form.exists_written
  have htrim : trim s = k :: ks := h.trans hwritten
  have hne : trim s ≠ [] := htrim ▸ List.cons_ne_nil k ks
  have hend : trimEnd s = before ++ trim s := by
    conv => lhs; rw [hs, ← List.append_assoc, Text.trimEnd_append_of_allBlank hafter]
    exact Text.trimEnd_of_last (Text.last_append_of_ne_nil hne (Text.last_trimEnd _) before)
  have hseparators : ∀ c ∈ before, Title.isSeparator c :=
    fun c hc => Title.isSeparator_of_isBlank (List.all_eq_true.1 hbefore c hc)
  rw [hend, Title.afterSeparators, List.dropWhile_append_of_pos hseparators, htrim,
    List.dropWhile_cons_of_neg (by rw [Title.isSeparator_of_isWord hk]; exact Bool.false_ne_true)]

/-- A ticket in front of a header goes, and nothing else does. -/
theorem undecorated_written (hplain : ∀ c ∈ s, isEmoji c = false) (h : trim s = form.written)
    (ticket : Ticket) (style : Ticket.Style) :
    undecorated (ticket.written style ++ s) = trim s := by
  have hall : ∀ c ∈ ticket.written style ++ s, isEmoji c = false := by
    rw [List.forall_mem_append]
    exact ⟨fun c hc => Title.isEmoji_of_mem_written hc, hplain⟩
  have hsettled : allBlank s = false := by
    rw [Bool.eq_false_iff]
    intro hblank
    rw [Text.trim_of_allBlank hblank] at h
    exact form.kind_ne_nil (List.append_eq_nil_iff.1 h.symm).1
  obtain ⟨c, cs, hwritten, hc⟩ := ticket.exists_written style
  have hne : ticket.written style ≠ [] := hwritten ▸ List.cons_ne_nil c cs
  have hhead : ∀ c ∈ (ticket.written style).head?, isBlank c = false :=
    hwritten ▸ Text.forall_head_cons hc cs
  rw [undecorated, Title.removeEmoji_of_plain hall, Text.trim_append hne hhead hsettled, dropTicket,
    Scanner.removeStart, Title.leadingTicket_written, Option.map_some, Option.getD_some,
    afterSeparators_trimEnd h, Text.trim_trim]

/-- What is left of a subject decides, if it is conventional. -/
theorem categorize_of_undecorated (rules : Rules) {subject : Text} {commit : Conventional}
    (hone : '\n' ∉ s) (h : Conventional.ofMessage? s = some commit)
    (hsubject : undecorated subject = trim s) :
    categorize rules subject =
      { category := commit.category rules
        breaking := Title.looksBreaking (trim s) || commit.breaking
        text := Title.clean commit.description } := by
  -- The equation of the definition would take the reading of the header apart.
  delta categorize
  simp only [hsubject, Conventional.ofMessage?_trim hone, h]

/--
**Decoration does not change how a commit is categorised.** For a conventional subject on one line
and without emoji, whatever emoji and blanks and whatever key of a ticket stand in front of it, the
category, the breaking flag and the text are those of the subject alone: they come from the header,
the flag also from the trimmed subject.
-/
theorem categorize_decorated (rules : Rules) {s e : Text} {commit : Conventional}
    (hone : '\n' ∉ s) (hplain : ∀ c ∈ s, isEmoji c = false)
    (h : Conventional.ofMessage? s = some commit) (he : ∀ c ∈ e, isEmoji c ∨ isBlank c)
    (ticket : Ticket) (style : Ticket.Style) :
    categorize rules (e ++ ticket.written style ++ s) = categorize rules s ∧
      categorize rules (e ++ s) = categorize rules s ∧
      categorize rules (ticket.written style ++ s) = categorize rules s ∧
      categorize rules s =
        { category := commit.category rules
          breaking := Title.looksBreaking (trim s) || commit.breaking
          text := Title.clean commit.description } := by
  obtain ⟨form, hform⟩ := Conventional.exists_form_of_ofMessage? hone h
  have halone := undecorated_of_form hplain hform
  have hticket := undecorated_written hplain hform ticket style
  have hall : ∀ subject, undecorated subject = trim s →
      categorize rules subject = categorize rules s := by
    intro subject hsubject
    rw [categorize_of_undecorated rules hone h hsubject,
      categorize_of_undecorated rules hone h halone]
  refine ⟨hall _ ?_, hall _ ?_, hall _ hticket, categorize_of_undecorated rules hone h halone⟩
  · rw [List.append_assoc, undecorated_append he, hticket]
  · rw [undecorated_append he, halone]

/-- The key of a ticket with digits of two scripts. -/
def mixedTicket : Ticket where
  letters := "EN"
  digits := "1٢"
  two_le_letters := by decide
  letters_capital := List.all_eq_true.1 (by decide)
  digits_ne_nil := by decide
  digits_digit := List.all_eq_true.1 (by decide +kernel)

/-- A subject with blanks around it, and with a second ticket and a shortcode inside. -/
def crowdedSubject : Text := "  feat(API-7)!:  :boom: drop [EN-2] v1 (#12) - "

theorem categorize_decorated_crowdedSample :
    '\n' ∉ crowdedSubject ∧ (∀ c ∈ crowdedSubject, isEmoji c = false) ∧
      (∀ c ∈ ("🚀 ✨" : Text), isEmoji c ∨ isBlank c) ∧
      (Conventional.ofMessage? crowdedSubject).isSome ∧
      categorize Rules.default ("🚀 ✨" ++ mixedTicket.written .dash ++ crowdedSubject) =
        { category := .added, breaking := true, text := "Drop v1" } ∧
      categorize Rules.default (mixedTicket.written .bracketed ++ crowdedSubject) =
        { category := .added, breaking := true, text := "Drop v1" } := by
  have hone : '\n' ∉ crowdedSubject := by decide
  have hplain : ∀ c ∈ crowdedSubject, isEmoji c = false := Title.plain_of_all (by decide +kernel)
  have he : ∀ c ∈ ("🚀 ✨" : Text), isEmoji c ∨ isBlank c := by
    have hall : ("🚀 ✨" : Text).all fun c => isEmoji c || isBlank c := by decide +kernel
    exact fun c hc => Bool.or_eq_true_iff.1 (List.all_eq_true.1 hall c hc)
  have hread : Conventional.ofMessage? crowdedSubject =
      some ⟨"feat", some "API-7", ":boom: drop [EN-2] v1 (#12) -", true⟩ := by decide +kernel
  have halone : categorize Rules.default crowdedSubject =
      { category := .added, breaking := true, text := "Drop v1" } := by decide +kernel
  have hdash := categorize_decorated Rules.default hone hplain hread he mixedTicket .dash
  have hbracketed := categorize_decorated Rules.default hone hplain hread he mixedTicket .bracketed
  exact ⟨hone, hplain, he, by rw [hread]; rfl, hdash.1.trans halone,
    hbracketed.2.2.1.trans halone⟩

end Retrofit

end CommonChangelog
