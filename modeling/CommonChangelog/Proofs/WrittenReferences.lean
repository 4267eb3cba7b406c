import CommonChangelog.Proofs.Numerals
import CommonChangelog.Proofs.ReferenceForms

/-!
# Writing references and reading them again

The references of an entry are written behind its text, each after a space. Extraction goes
through the entry three times, once for each form, and removal passes over the forms one after
another. Neither mixes up the parts: the form of one reference begins with a mark that neither the
text nor the other forms contain (`not_infix_render`).

Main results: `extract_written` and `strip_written`.
-/

namespace CommonChangelog

open Text (isDigit isBlank trimStart)
open Scanner (find all removeAll Begins Silent)

namespace Reference

/-! ## Canonical references -/

/-- The three written forms of a reference. -/
inductive Form where
  | link | bare | commit
  deriving DecidableEq, Repr

namespace Form

/-- How the form begins, apart from a parenthesis around it. -/
def mark : Form → Text
  | link => ['[', '#']
  | bare => ['(', '#']
  | commit => ['[', '`']

/-- The place in the order of extraction. -/
def rank : Form → Nat
  | link => 0
  | bare => 1
  | commit => 2

theorem mark_injective {f g : Form} (h : f.mark = g.mark) : f = g := by
  cases f <;> cases g <;> first | rfl | exact absurd h (by decide)

theorem mark_ne_nil (f : Form) : f.mark ≠ [] := by
  cases f <;> exact List.cons_ne_nil _ _

theorem space_not_mem_mark (f : Form) : ' ' ∉ f.mark := by
  cases f <;> decide

end Form

/-- The form that a reference is written in. -/
def form : Reference → Form
  | pullRequest _ url | issue _ url => if url.isEmpty then .bare else .link
  | commit _ _ => .commit

/-- What neither texts nor addresses may contain. -/
def reserved : List Text :=
  [Form.link.mark, Form.bare.mark, Form.commit.mark, Change.breakingMark]

theorem Form.mark_mem_reserved (f : Form) : f.mark ∈ reserved := by
  cases f <;> decide

/-- The text contains nothing that the reader of entries looks for. -/
def Markless (s : Text) : Prop := ∀ mark ∈ reserved, Text.contains mark s = false

instance (s : Text) : Decidable (Markless s) :=
  inferInstanceAs (Decidable (∀ mark ∈ reserved, Text.contains mark s = false))

/-- An address that can stand in a link. -/
structure Address (url : Text) : Prop where
  nonempty : url ≠ []
  oneLine : '\n' ∉ url
  closed : ')' ∉ url
  noNumber : url.head? ≠ some '#'
  markless : Markless url

instance (url : Text) : Decidable (Address url) :=
  decidable_of_iff
    (url ≠ [] ∧ '\n' ∉ url ∧ ')' ∉ url ∧ url.head? ≠ some '#' ∧ Markless url)
    ⟨fun ⟨h₁, h₂, h₃, h₄, h₅⟩ => ⟨h₁, h₂, h₃, h₄, h₅⟩,
      fun ⟨h₁, h₂, h₃, h₄, h₅⟩ => ⟨h₁, h₂, h₃, h₄, h₅⟩⟩

/-- A reference that its written form determines. -/
inductive Canonical : Reference → Prop
  | link (number : UInt64) {url : Text} : Address url → Canonical (ofLink number url)
  | bare (number : UInt64) : Canonical (pullRequest number [])
  | commit {hash url : Text} : isHashLength hash.length → (∀ c ∈ hash, isHashDigit c) →
      Address url → Canonical (commit hash url)

/-- References in the order of extraction, no bare number repeating an earlier number. -/
structure InOrder (references : List Reference) : Prop where
  sorted : references.Pairwise fun a b => a.form.rank ≤ b.form.rank
  fresh : references.Pairwise fun a b => b.form = .bare → a.number? ≠ b.number?

/-- References as they stand behind the text of an entry. -/
def written (references : List Reference) : Text :=
  references.flatMap fun reference => ' ' :: reference.render

/-! ## The written forms -/

variable {r : Reference} {n : UInt64} {hash url : Text}

/-- A link with this label, in parentheses. -/
def framed (label url : Text) : Text := '(' :: '[' :: (label ++ ']' :: '(' :: (url ++ [')', ')']))

theorem form_ofLink (h : url ≠ []) : (ofLink n url).form = .link := by
  have hne : url.isEmpty = false := List.isEmpty_eq_false_iff.2 h
  unfold ofLink
  split <;> simp only [form, hne] <;> rfl

theorem render_pullRequest (h : url ≠ []) :
    (pullRequest n url).render = framed ('#' :: Text.ofWord n) url := by
  refine (if_neg (by simpa using h)).trans ?_
  show ['(', '[', '#'] ++ Text.ofWord n ++ [']', '('] ++ url ++ [')', ')'] = _
  simp [framed]

theorem render_ofLink (h : url ≠ []) :
    (ofLink n url).render = framed ('#' :: Text.ofWord n) url := by
  unfold ofLink
  split
  · exact render_pullRequest h
  · exact render_pullRequest h

theorem render_bare : (pullRequest n []).render = '(' :: '#' :: (Text.ofWord n ++ [')']) := rfl

theorem render_commit : (commit hash url).render = framed ('`' :: (hash ++ ['`'])) url := by
  show ['(', '[', '`'] ++ hash ++ ['`', ']', '('] ++ url ++ [')', ')'] = _
  simp [framed]

/-! ## No form occurs in another one -/

theorem not_mem_ofWord {c : Char} (hc : Text.isAsciiDigit c = false) : c ∉ Text.ofWord n := by
  intro h
  rw [Text.isAsciiDigit_of_mem_ofNat h] at hc
  exact Bool.noConfusion hc

theorem not_mem_hash {c : Char} (h : ∀ d ∈ hash, isHashDigit d) (hc : isHashDigit c = false) :
    c ∉ hash := by
  intro hmem
  rw [h c hmem] at hc
  exact Bool.noConfusion hc

theorem Markless.not_contains {s m : Text} (h : Markless s) (hm : m ∈ reserved) : ¬m <:+: s := by
  intro hinf
  have hc := h m hm
  rw [Text.contains_iff.2 hinf] at hc
  exact Bool.noConfusion hc

theorem breakingMark_eq : Change.breakingMark =
    ['*', '*', 'B', 'r', 'e', 'a', 'k', 'i', 'n', 'g', ':', '*', '*'] := by
  decide

theorem eq_of_mem_reserved {m : Text} (hm : m ∈ reserved) :
    m = ['[', '#'] ∨ m = ['(', '#'] ∨ m = ['[', '`'] ∨
      m = ['*', '*', 'B', 'r', 'e', 'a', 'k', 'i', 'n', 'g', ':', '*', '*'] := by
  rw [reserved, breakingMark_eq] at hm
  simpa only [Form.mark, List.mem_cons, List.not_mem_nil, or_false] using hm

theorem Address.not_contains (h : Address url) {m : Text} (hm : m ∈ reserved) :
    ¬m <:+: url ++ [')', ')'] := by
  have hparen : ')' ∉ m := by
    rcases eq_of_mem_reserved hm with rfl | rfl | rfl | rfl <;> decide
  intro hinf
  rcases Text.infix_append_sep hparen hinf with hinf | hinf
  · exact h.markless.not_contains hm hinf
  · rcases eq_of_mem_reserved hm with rfl | rfl | rfl | rfl <;> exact absurd hinf (by decide)

/-- An address does not complete the mark of a bare number. -/
theorem Address.not_begins (h : Address url) {m : Text} (hm : m ∈ reserved) :
    ¬m <+: '(' :: (url ++ [')', ')']) := by
  obtain ⟨c, cs, rfl⟩ := List.exists_cons_of_ne_nil h.nonempty
  have hc : c ≠ '#' := fun hc => h.noNumber (by rw [hc]; rfl)
  rcases eq_of_mem_reserved hm with rfl | rfl | rfl | rfl
  · simp
  · simpa using hc.symm
  · simp
  · simp

/-- What occurs in a link in parentheses begins at its bracket. -/
theorem not_infix_framed {x : Char} {m label : Text} (hm : x :: m ∈ reserved) (hurl : Address url)
    (hlabel : x ∉ label) (hstart : ∀ t, ¬x :: m <+: '[' :: (label ++ t)) :
    ¬x :: m <:+: framed label url := by
  have hopen : ∀ t, ¬x :: m <+: '(' :: '[' :: t := by
    rcases eq_of_mem_reserved hm with h | h | h | h <;> cases h <;> simp
  have hclose : ']' ∉ x :: m := by
    rcases eq_of_mem_reserved hm with h | h | h | h <;> rw [h] <;> decide
  intro h
  rw [framed, List.infix_cons_iff, List.infix_cons_iff] at h
  rcases h with h | h | h
  · exact hopen _ h
  · exact hstart _ h
  · rcases Text.infix_append_sep hclose h with h | h
    · exact hlabel (h.subset List.mem_cons_self)
    · rcases List.infix_cons_iff.1 h with h | h
      · exact hurl.not_begins hm h
      · exact hurl.not_contains hm h

theorem Canonical.not_infix_render (h : Canonical r) {m : Text} (hm : m ∈ reserved)
    (hown : m ≠ r.form.mark) : ¬m <:+: r.render := by
  cases h with
  | @link n url h =>
    rw [form_ofLink h.nonempty] at hown
    rw [render_ofLink h.nonempty]
    have hlabel : ∀ {c}, Text.isAsciiDigit c = false → c ≠ '#' → c ∉ '#' :: Text.ofWord n := by
      intro c hc hne hmem
      exact not_mem_ofWord hc ((List.mem_cons.1 hmem).resolve_left hne)
    rcases eq_of_mem_reserved hm with rfl | rfl | rfl | rfl
    · exact absurd rfl hown
    · exact not_infix_framed hm h (hlabel rfl (by decide)) (by simp)
    · exact not_infix_framed hm h (hlabel rfl (by decide)) (by simp)
    · exact not_infix_framed hm h (hlabel rfl (by decide)) (by simp)
  | bare n =>
    rw [render_bare]
    intro hinf
    have hchars : ∀ {c}, Text.isAsciiDigit c = false → c ∉ ['(', '#', ')'] →
        c ∉ '(' :: '#' :: (Text.ofWord n ++ [')']) := by
      intro c hc hne hmem
      have hn := not_mem_ofWord (n := n) hc
      simp_all
    rcases eq_of_mem_reserved hm with rfl | rfl | rfl | rfl
    · exact hchars rfl (by decide) (hinf.subset List.mem_cons_self)
    · exact absurd rfl hown
    · exact hchars rfl (by decide) (hinf.subset List.mem_cons_self)
    · exact hchars rfl (by decide) (hinf.subset List.mem_cons_self)
  | @commit hash url hlen hdigits h =>
    rw [render_commit]
    have hlabel : ∀ {c}, isHashDigit c = false → c ≠ '`' → c ∉ '`' :: (hash ++ ['`']) := by
      intro c hc hne hmem
      simp only [List.mem_cons, List.mem_append, List.not_mem_nil, or_false] at hmem
      rcases hmem with h | h | h
      · exact hne h
      · exact not_mem_hash hdigits hc h
      · exact hne h
    rcases eq_of_mem_reserved hm with rfl | rfl | rfl | rfl
    · exact not_infix_framed hm h (hlabel rfl (by decide)) (by simp)
    · exact not_infix_framed hm h (hlabel rfl (by decide)) (by simp)
    · exact absurd rfl hown
    · exact not_infix_framed hm h (hlabel rfl (by decide)) (by simp)

theorem Canonical.not_infix_mark (h : Canonical r) {f : Form} (hf : r.form ≠ f) :
    ¬f.mark <:+: r.render :=
  h.not_infix_render f.mark_mem_reserved fun hmark => hf (Form.mark_injective hmark).symm

/-! ## A written form is read -/

variable {s : Text}

theorem framed_append (label url s : Text) :
    framed label url ++ s = '(' :: '[' :: (label ++ ']' :: '(' :: (url ++ ')' :: ')' :: s)) := by
  simp [framed]

theorem isDigit_of_mem_ofWord : ∀ c ∈ Text.ofWord n, isDigit c := fun _ hc =>
  Text.isDigit_of_isAsciiDigit (Text.isAsciiDigit_of_mem_ofNat hc)

theorem numberLink_written (h : Address url) :
    numberLink ('[' :: ('#' :: Text.ofWord n ++ ']' :: '(' :: (url ++ ')' :: s))) =
      some ((Text.ofWord n, url), s) :=
  numberLink_eq_some.2
    ⟨by simp, Text.ofNat_ne_nil _, isDigit_of_mem_ofWord, h.nonempty, h.closed⟩

theorem parenthesized_numberLink_render (h : Address url) :
    parenthesized numberLink ((ofLink n url).render ++ s) = some ((Text.ofWord n, url), s) := by
  rw [render_ofLink h.nonempty, framed_append]
  exact parenthesized_eq_some.2 ⟨_, rfl, numberLink_written h⟩

theorem commitLink_written (hlen : isHashLength hash.length) (hd : ∀ c ∈ hash, isHashDigit c)
    (h : Address url) :
    commitLink ('[' :: ('`' :: (hash ++ ['`']) ++ ']' :: '(' :: (url ++ ')' :: s))) =
      some ((hash, url), s) :=
  commitLink_eq_some.2 ⟨by simp, hlen, hd, h.nonempty, h.closed⟩

theorem parenthesized_commitLink_render (hlen : isHashLength hash.length)
    (hd : ∀ c ∈ hash, isHashDigit c) (h : Address url) :
    parenthesized commitLink ((commit hash url).render ++ s) = some ((hash, url), s) := by
  rw [render_commit, framed_append]
  exact parenthesized_eq_some.2 ⟨_, rfl, commitLink_written hlen hd h⟩

theorem bareNumber_render :
    bareNumber ((pullRequest n []).render ++ s) = some (Text.ofWord n, s) := by
  rw [render_bare]
  exact bareNumber_eq_some.2 ⟨by simp, Text.ofNat_ne_nil _, isDigit_of_mem_ofWord⟩

/-! ## Extraction -/

/-- What follows a reference, if anything does, is a space. -/
def AtSpace (s : Text) : Prop := ∀ c ∈ s.head?, c = ' '

theorem atSpace_written (references : List Reference) : AtSpace (written references) := by
  cases references with
  | nil => simp [AtSpace, written]
  | cons r rs => exact Text.forall_head_cons (by rfl) _

variable {α : Type} {read : Scanner α} {start : Text}

/-- A scanner for one form is silent on a text without the mark of that form. -/
theorem silent_of_atSpace (h : Begins read start) (hspace : ' ' ∉ start) {p : Text}
    (hp : ¬start <:+: p) (hs : AtSpace s) : Silent read p s :=
  h.silent hp fun c hc hmem => hspace (hs c hc ▸ hmem)

theorem all_cons_of_ne {x c : Char} {m : Text} (h : Begins read (x :: m)) (hc : x ≠ c) (s : Text) :
    all read (c :: s) = all read s :=
  Scanner.all_cons_of_none (h.find_eq_none fun hp => hc (List.cons_prefix_cons.1 hp).1)

theorem all_of_eq_some (h : Begins read start) (hne : start ≠ []) {a : α} {rest : Text}
    (hr : read s = some (a, rest)) : all read s = (a, rest) :: all read rest :=
  Scanner.all_of_find (by rw [h.find_eq hne, hr])

/-- A reference in another form is passed over. -/
theorem all_of_other_form {f : Form} (h : Begins read f.mark) (hr : r.Canonical)
    (hf : r.form ≠ f) (hs : AtSpace s) :
    all read (' ' :: (r.render ++ s)) = all read s := by
  have hhead : ¬f.mark <+: ' ' :: (r.render ++ s) := by cases f <;> simp [Form.mark]
  rw [Scanner.all_cons_of_none (h.find_eq_none hhead),
    Scanner.all_of_silent (silent_of_atSpace h f.space_not_mem_mark (hr.not_infix_mark hf) hs)]

theorem links_cons (hr : r.Canonical) (hs : AtSpace s) :
    links (' ' :: (r.render ++ s)) = (Option.guard (·.form = .link) r).toList ++ links s := by
  by_cases hf : r.form = .link
  · cases hr with
    | @link n url h =>
      rw [render_ofLink h.nonempty, framed_append, links, Option.guard, decide_eq_true hf,
        all_cons_of_ne begins_numberLink (by decide), all_cons_of_ne begins_numberLink (by decide),
        all_of_eq_some begins_numberLink (by simp) (numberLink_written h),
        all_cons_of_ne begins_numberLink (by decide), List.filterMap_cons]
      simp only [Text.number?_ofWord]
      rfl
    | bare n => exact absurd hf Form.noConfusion
    | commit _ _ _ => exact absurd hf Form.noConfusion
  · rw [links, all_of_other_form begins_numberLink hr hf hs, Option.guard, decide_eq_false hf]
    rfl

theorem bareNumbers_cons (hr : r.Canonical) (hs : AtSpace s) :
    bareNumbers (' ' :: (r.render ++ s)) =
      ((Option.guard (·.form = .bare) r).bind number?).toList ++ bareNumbers s := by
  by_cases hf : r.form = .bare
  · cases hr with
    | link n h => rw [form_ofLink h.nonempty] at hf; exact absurd hf Form.noConfusion
    | bare n =>
      have hhead : s.head? ≠ some ']' := fun h => absurd (hs _ h) (by decide)
      rw [bareNumbers, all_cons_of_ne begins_bareNumber (by decide),
        all_of_eq_some begins_bareNumber (by simp) bareNumber_render, List.filterMap_cons]
      simp only [if_neg hhead, Text.number?_ofWord]
      rfl
    | commit _ _ _ => exact absurd hf Form.noConfusion
  · rw [bareNumbers, all_of_other_form begins_bareNumber hr hf hs, Option.guard, decide_eq_false hf]
    rfl

theorem commits_cons (hr : r.Canonical) (hs : AtSpace s) :
    commits (' ' :: (r.render ++ s)) = (Option.guard (·.form = .commit) r).toList ++ commits s := by
  by_cases hf : r.form = .commit
  · cases hr with
    | link n h => rw [form_ofLink h.nonempty] at hf; exact absurd hf Form.noConfusion
    | bare n => exact absurd hf Form.noConfusion
    | commit hlen hd h =>
      rw [render_commit, framed_append, commits, Option.guard, decide_eq_true hf,
        all_cons_of_ne begins_commitLink (by decide), all_cons_of_ne begins_commitLink (by decide),
        all_of_eq_some begins_commitLink (by simp) (commitLink_written hlen hd h),
        all_cons_of_ne begins_commitLink (by decide), List.map_cons]
      rfl
  · rw [commits, all_of_other_form begins_commitLink hr hf hs, Option.guard, decide_eq_false hf]
    rfl

variable {references : List Reference}

theorem written_cons (r : Reference) (rs : List Reference) :
    written (r :: rs) = ' ' :: (r.render ++ written rs) := by
  rw [written, List.flatMap_cons, List.cons_append, written]

theorem written_append (as bs : List Reference) : written (as ++ bs) = written as ++ written bs :=
  List.flatMap_append

/-- What is collected from each reference is collected from all. -/
theorem collect_written {β : Type} {f : Text → List β} {g : Reference → Option β}
    (hnil : f [] = [])
    (hcons : ∀ {r s}, Canonical r → AtSpace s → f (' ' :: (r.render ++ s)) = (g r).toList ++ f s)
    (h : ∀ r ∈ references, r.Canonical) : f (written references) = references.filterMap g := by
  induction references with
  | nil => exact hnil
  | cons r rs ih =>
    rw [List.forall_mem_cons] at h
    rw [written_cons, hcons h.1 (atSpace_written rs), ih h.2, List.filterMap_cons]
    cases g r <;> rfl

theorem links_written (h : ∀ r ∈ references, r.Canonical) :
    links (written references) = references.filter (·.form = .link) := by
  have hnil : links [] = [] := by rw [links, Scanner.all_nil]; rfl
  rw [collect_written hnil links_cons h, List.filterMap_eq_filter]

theorem bareNumbers_written (h : ∀ r ∈ references, r.Canonical) :
    bareNumbers (written references) = (references.filter (·.form = .bare)).filterMap number? := by
  have hnil : bareNumbers [] = [] := by rw [bareNumbers, Scanner.all_nil]; rfl
  rw [collect_written hnil bareNumbers_cons h, ← List.filterMap_eq_filter, List.filterMap_filterMap]

theorem commits_written (h : ∀ r ∈ references, r.Canonical) :
    commits (written references) = references.filter (·.form = .commit) := by
  have hnil : commits [] = [] := by rw [commits, Scanner.all_nil]; rfl
  rw [collect_written hnil commits_cons h, List.filterMap_eq_filter]

/-- Bare numbers are put behind the links, since none repeats an earlier number. -/
theorem foldl_addBare {rs bares : List Reference} (h : ∀ r ∈ bares, r.Canonical)
    (hform : ∀ r ∈ bares, r.form = .bare)
    (hfresh : (rs ++ bares).Pairwise fun a b => b.form = .bare → a.number? ≠ b.number?) :
    (bares.filterMap number?).foldl addBare rs = rs ++ bares := by
  -- On the bare numbers still to come; those already read have joined `rs`.
  induction bares generalizing rs with
  | nil => rw [List.append_nil]; rfl
  | cons b bs ih =>
    rw [List.forall_mem_cons] at h hform
    obtain ⟨n, rfl⟩ : ∃ n, b = pullRequest n [] := by
      cases h.1 with
      | link n hurl => rw [form_ofLink hurl.nonempty] at hform; exact Form.noConfusion hform.1
      | bare n => exact ⟨n, rfl⟩
      | commit _ _ _ => exact Form.noConfusion hform.1
    have hnew : rs.any (·.number? = some n) = false := by
      rw [List.any_eq_false]
      intro r hr
      have hne := (List.pairwise_append.1 hfresh).2.2 r hr _ List.mem_cons_self rfl
      rwa [decide_eq_true_eq]
    have hadd : addBare rs n = rs ++ [pullRequest n []] := by
      rw [addBare, hnew]
      rfl
    rw [List.filterMap_cons_some (f := number?) rfl, List.foldl_cons, hadd,
      ih h.2 hform.2 (by rwa [List.append_assoc]), List.append_assoc]
    rfl

/-- Sorted references are their links, their bare numbers and their commits. -/
theorem filter_form_append (h : references.Pairwise fun a b => a.form.rank ≤ b.form.rank) :
    references.filter (·.form = .link) ++ references.filter (·.form = .bare) ++
      references.filter (·.form = .commit) = references := by
  induction references with
  | nil => rfl
  | cons r rs ih =>
    obtain ⟨hr, hrs⟩ := List.pairwise_cons.1 h
    -- A form that ranks before the first reference cannot come later.
    have hnone : ∀ f : Form, f.rank < r.form.rank → rs.filter (·.form = f) = [] := by
      intro f hf
      rw [List.filter_eq_nil_iff]
      intro b hb
      have hle := hr b hb
      rw [decide_eq_true_eq]
      rintro rfl
      omega
    specialize ih hrs
    cases hform : r.form with
    | link => simpa [List.filter_cons, hform] using ih
    | bare =>
      have hl := hnone .link (by rw [hform]; decide)
      rw [hl] at ih
      simpa [List.filter_cons, hform, hl] using ih
    | commit =>
      have hl := hnone .link (by rw [hform]; decide)
      have hb := hnone .bare (by rw [hform]; decide)
      rw [hl, hb] at ih
      simpa [List.filter_cons, hform, hl, hb] using ih

/-- A text without marks is passed over. -/
theorem extract_append {p : Text} (hp : ∀ f : Form, ¬f.mark <:+: p) (hs : AtSpace s) :
    extract (p ++ s) = extract s := by
  have hl : all numberLink (p ++ s) = all numberLink s := Scanner.all_of_silent
    (silent_of_atSpace begins_numberLink (by decide) (hp .link) hs)
  have hb : all bareNumber (p ++ s) = all bareNumber s := Scanner.all_of_silent
    (silent_of_atSpace begins_bareNumber (by decide) (hp .bare) hs)
  have hc : all commitLink (p ++ s) = all commitLink s := Scanner.all_of_silent
    (silent_of_atSpace begins_commitLink (by decide) (hp .commit) hs)
  simp only [extract, links, bareNumbers, commits, hl, hb, hc]

/-- **Extraction reads the references that were written.** -/
theorem extract_written {text : Text} (ht : Markless text) (h : ∀ r ∈ references, r.Canonical)
    (ho : InOrder references) : extract (text ++ written references) = references := by
  have hsub := List.sublist_append_left
    (references.filter (·.form = .link) ++ references.filter (·.form = .bare))
    (references.filter (·.form = .commit))
  rw [filter_form_append ho.sorted] at hsub
  rw [extract_append (fun f => ht.not_contains f.mark_mem_reserved) (atSpace_written references),
    extract, links_written h, bareNumbers_written h, commits_written h,
    foldl_addBare (fun r hr => h r (List.mem_filter.1 hr).1)
      (fun r hr => of_decide_eq_true (List.mem_filter.1 hr).2) (ho.fresh.sublist hsub),
    filter_form_append ho.sorted]

/-! ## Removal -/

/-- The written form of a reference stands in parentheses. -/
theorem exists_render (r : Reference) : ∃ t, r.render = '(' :: (t ++ [')']) := by
  have hframed : ∀ label url, ∃ t, framed label url = '(' :: (t ++ [')']) := by
    intro label url
    exact ⟨'[' :: (label ++ ']' :: '(' :: (url ++ [')'])), by simp [framed]⟩
  cases r with
  | pullRequest n url | issue n url =>
    by_cases hurl : url = []
    · rw [hurl]
      exact ⟨'#' :: Text.ofWord n, rfl⟩
    · obtain ⟨t, ht⟩ := hframed ('#' :: Text.ofWord n) url
      exact ⟨t, (render_pullRequest hurl).trans ht⟩
  | commit hash url =>
    rw [render_commit]
    exact hframed _ url

theorem trimStart_render (r : Reference) (s : Text) :
    trimStart (' ' :: (r.render ++ s)) = r.render ++ s := by
  obtain ⟨t, ht⟩ := exists_render r
  rw [ht]
  rfl

theorem last_render (r : Reference) : ∀ c ∈ (' ' :: r.render).getLast?, isBlank c = false := by
  obtain ⟨t, ht⟩ := exists_render r
  rw [ht, ← List.cons_append, ← List.cons_append]
  exact Text.forall_last_concat (by rfl) _

variable {text : Text}

section Pass

/-! A pass for one form is made by a scanner for that form, alone or in parentheses. -/

variable {α : Type} {read : Scanner α} {start : Text} {f : Form}
variable (hb : Begins read start) (hmark : f.mark <:+ start) (hspace : ' ' ∉ start)
include hb hmark hspace

/-- A pass keeps a text without the mark. -/
theorem removeAll_of_unmarked {p : Text} (hp : ¬f.mark <:+: p)
    (hlast : ∀ c ∈ p.getLast?, isBlank c = false) (hs : AtSpace s) :
    removeAll (spaced read) (p ++ s) = p ++ removeAll (spaced read) s := by
  have hne : start ≠ [] := by
    rintro rfl
    exact f.mark_ne_nil (List.suffix_nil.1 hmark)
  refine Scanner.removeAll_of_silent (silent_spaced hb hne ?_ hlast ?_)
  · exact fun hinf => hp (hmark.isInfix.trans hinf)
  · exact fun c hc hmem => hspace (hs c hc ▸ hmem)

/-- A pass removes the references in its form and keeps the others. -/
theorem removeAll_written (h : ∀ r ∈ references, r.Canonical)
    (hown : ∀ r ∈ references, r.form = f → ∀ s, ∃ a, read (r.render ++ s) = some (a, s)) :
    removeAll (spaced read) (written references) = written (references.filter (·.form ≠ f)) := by
  have hne : start ≠ [] := by
    rintro rfl
    exact f.mark_ne_nil (List.suffix_nil.1 hmark)
  induction references with
  | nil => exact Scanner.removeAll_nil
  | cons r rs ih =>
    rw [List.forall_mem_cons] at h hown
    specialize ih h.2 hown.2
    by_cases hr : r.form = f
    · obtain ⟨a, ha⟩ := hown.1 hr (written rs)
      have hfind : find (spaced read) (' ' :: (r.render ++ written rs)) = some (a, written rs) := by
        rw [find_spaced hb hne, trimStart_render, ha]
      rw [written_cons, Scanner.removeAll_of_find hfind, ih, List.filter_cons_of_neg (by simpa)]
    · have hkeep : ¬f.mark <:+: ' ' :: r.render := by
        intro hinf
        rcases Text.infix_append_sep (s := []) f.space_not_mem_mark hinf with hinf | hinf
        · exact f.mark_ne_nil (List.infix_nil.1 hinf)
        · exact h.1.not_infix_mark hr hinf
      rw [written_cons, ← List.cons_append,
        removeAll_of_unmarked hb hmark hspace hkeep (last_render r) (atSpace_written rs), ih,
        List.filter_cons_of_pos (by simpa), written_cons, List.cons_append]

theorem removeAll_text_written (ht : Markless text)
    (hlast : ∀ c ∈ text.getLast?, isBlank c = false) (h : ∀ r ∈ references, r.Canonical)
    (hown : ∀ r ∈ references, r.form = f → ∀ s, ∃ a, read (r.render ++ s) = some (a, s)) :
    removeAll (spaced read) (text ++ written references) =
      text ++ written (references.filter (·.form ≠ f)) := by
  have htext := ht.not_contains f.mark_mem_reserved
  rw [removeAll_of_unmarked hb hmark hspace htext hlast (atSpace_written references),
    removeAll_written hb hmark hspace h hown]

end Pass

theorem Canonical.read_link (h : r.Canonical) (hf : r.form = .link) (s : Text) :
    ∃ a, parenthesized numberLink (r.render ++ s) = some (a, s) := by
  cases h with
  | link n hurl => exact ⟨_, parenthesized_numberLink_render hurl⟩
  | bare n => exact Form.noConfusion hf
  | commit _ _ _ => exact Form.noConfusion hf

theorem Canonical.read_commit (h : r.Canonical) (hf : r.form = .commit) (s : Text) :
    ∃ a, parenthesized commitLink (r.render ++ s) = some (a, s) := by
  cases h with
  | link n hurl => rw [form_ofLink hurl.nonempty] at hf; exact Form.noConfusion hf
  | bare n => exact Form.noConfusion hf
  | commit hlen hd hurl => exact ⟨_, parenthesized_commitLink_render hlen hd hurl⟩

theorem Canonical.read_bare (h : r.Canonical) (hf : r.form = .bare) (s : Text) :
    ∃ a, bareNumber (r.render ++ s) = some (a, s) := by
  cases h with
  | link n hurl => rw [form_ofLink hurl.nonempty] at hf; exact Form.noConfusion hf
  | bare n => exact ⟨_, bareNumber_render⟩
  | commit _ _ _ => exact Form.noConfusion hf

/-- **Removal leaves the text in front of the references.** -/
theorem strip_written (ht : Markless text) (htrim : Text.trim text = text)
    (h : ∀ r ∈ references, r.Canonical) : strip (text ++ written references) = text := by
  have hlast := Text.last_of_trim htrim
  let unlinked := references.filter (·.form ≠ .link)
  let bares := unlinked.filter (·.form ≠ .commit)
  have hunlinked : ∀ r ∈ unlinked, r.Canonical := fun r hr => h r (List.mem_filter.1 hr).1
  have hbares : ∀ r ∈ bares, r.Canonical := fun r hr => hunlinked r (List.mem_filter.1 hr).1
  have hnone : bares.filter (·.form ≠ .bare) = [] := by
    rw [List.filter_filter, List.filter_filter, List.filter_eq_nil_iff]
    intro r _
    cases r.form <;> decide
  have h₁ := removeAll_text_written (f := .link) (begins_parenthesized begins_numberLink)
    (List.suffix_cons _ _) (by decide) ht hlast h fun r hr hf => (h r hr).read_link hf
  have h₂ := removeAll_text_written (f := .commit) (begins_parenthesized begins_commitLink)
    (List.suffix_cons _ _) (by decide) ht hlast hunlinked
    fun r hr hf => (hunlinked r hr).read_commit hf
  have h₃ := removeAll_text_written (f := .bare) begins_bareNumber List.suffix_rfl (by decide)
    ht hlast hbares fun r hr hf => (hbares r hr).read_bare hf
  -- No reference is left for the last two passes, which see the text alone.
  have h₄ : removeAll (spaced numberLink) (text ++ written []) = text ++ written [] :=
    removeAll_text_written (f := .link) begins_numberLink List.suffix_rfl (by decide) ht hlast
      (by simp) (by simp)
  have h₅ : removeAll (spaced commitLink) (text ++ written []) = text ++ written [] :=
    removeAll_text_written (f := .commit) begins_commitLink List.suffix_rfl (by decide) ht hlast
      (by simp) (by simp)
  rw [hnone] at h₃
  show Text.trim (removeAll (spaced commitLink) (removeAll (spaced numberLink)
    (removeAll (spaced bareNumber) (removeAll (spaced (parenthesized commitLink))
    (removeAll (spaced (parenthesized numberLink)) (text ++ written references)))))) = text
  rw [h₁, h₂, h₃, h₄, h₅, written, List.flatMap_nil, List.append_nil, htrim]

end Reference

end CommonChangelog
