import CommonChangelog.Proofs.FlatTexts
import CommonChangelog.Proofs.SingleLines

/-!
# Numbers of imported items

An item of release notes becomes a change that refers to one pull request at most, while all numbers
in parentheses are taken out of its text. The number that is kept is that of the address at the end
of the item, else the first one behind a number sign (`ReleaseNotes.Counts`). So an item that has
only one number keeps it, and an item that has more loses all others.

Main result: `ReleaseNotes.item_keeps_number_iff`.
-/

namespace CommonChangelog

namespace Text

variable {s rest : Text}

theorem afterBlanks?_eq_some :
    afterBlanks? s = some rest ↔
      ∃ blanks, s = blanks ++ rest ∧ blanks ≠ [] ∧ (∀ c ∈ blanks, isBlank c) ∧
        ∀ c ∈ rest.head?, isBlank c = false := by
  simp only [afterBlanks?, Option.map_eq_some_iff, Prod.exists, run?_eq_some, exists_eq_right]

theorem infix_right_of_not_mem {c : Char} {w u v : Text} (hc : c ∉ u) (h : c :: w <:+: u ++ v) :
    c :: w <:+: v := by
  induction u with
  | nil => exact h
  | cons d u ih =>
    rw [List.mem_cons, not_or] at hc
    rw [List.cons_append, List.infix_cons_iff] at h
    rcases h with hstart | hin
    · exact absurd (List.cons_prefix_cons.1 hstart).1 hc.1
    · exact ih hc.2 hin

theorem infix_left_of_not_mem {c : Char} {w u v : Text} (hc : c ∉ v) (h : w ++ [c] <:+: u ++ v) :
    w ++ [c] <:+: u := by
  rw [← List.reverse_infix, List.reverse_append] at h ⊢
  rw [List.reverse_append] at h
  exact infix_right_of_not_mem (by simpa using hc) h

end Text

namespace ReleaseNotes

open Text (isBlank isDigit allBlank)

variable {text digits : Text}

/-! ## The address at the end -/

/-- The end of an item that has the address of a pull request, as in ` in https://host/pull/12`. -/
structure AddressEnd where
  gap : Text
  space : Text
  scheme : Text
  host : Text
  digits : Text
  blanks : Text
  gap_ne_nil : gap ≠ []
  gap_blank : ∀ c ∈ gap, isBlank c
  space_ne_nil : space ≠ []
  space_blank : ∀ c ∈ space, isBlank c
  scheme_eq : scheme = "http://" ∨ scheme = "https://"
  host_ne_nil : host ≠ []
  host_solid : ∀ c ∈ host, isBlank c = false
  digits_ne_nil : digits ≠ []
  digits_digit : ∀ c ∈ digits, isDigit c
  blanks_blank : ∀ c ∈ blanks, isBlank c

/-- The end as it is written. -/
def AddressEnd.written (address : AddressEnd) : Text :=
  address.gap ++ ("in" ++ (address.space ++ (address.scheme ++
    (address.host ++ ("/pull/" ++ (address.digits ++ address.blanks))))))

/-- The item ends in an address, and these are the digits of its number. -/
def EndsInAddress (text digits : Text) : Prop :=
  ∃ (before : Text) (address : AddressEnd),
    text = before ++ address.written ∧ address.digits = digits

/-- The digits at the end, before blanks. -/
def lastDigits (text : Text) : Text :=
  ((text.reverse.dropWhile isBlank).takeWhile isDigit).reverse

theorem lastDigits_append {blanks : Text} (hne : digits ≠ []) (hdigits : ∀ c ∈ digits, isDigit c)
    (hblanks : ∀ c ∈ blanks, isBlank c) (front : Text) :
    lastDigits (front ++ '/' :: (digits ++ blanks)) = digits := by
  obtain ⟨d, ds, hreverse⟩ := List.exists_cons_of_ne_nil (List.reverse_ne_nil_iff.2 hne)
  have hd : isBlank d = false := by
    refine Text.isBlank_of_isDigit (hdigits d (List.mem_reverse.1 ?_))
    rw [hreverse]
    exact List.mem_cons_self
  have hdrop : (front ++ '/' :: (digits ++ blanks)).reverse.dropWhile isBlank =
      digits.reverse ++ '/' :: front.reverse := by
    rw [List.reverse_append, List.reverse_cons, List.reverse_append, List.append_assoc,
      List.append_assoc, List.dropWhile_append_of_pos (by simpa using hblanks), hreverse,
      List.cons_append, List.dropWhile_cons_of_neg (by simp [hd])]
    rfl
  rw [lastDigits, hdrop, List.takeWhile_append_of_pos (by simpa using hdigits),
    List.takeWhile_cons_of_neg (by decide), List.append_nil, List.reverse_reverse]

theorem lastDigits_written (before : Text) (address : AddressEnd) :
    lastDigits (before ++ address.written) = address.digits := by
  let front := before ++ (address.gap ++ ("in" ++ (address.space ++ (address.scheme ++
    (address.host ++ "/pull")))))
  have hfront : before ++ address.written =
      front ++ '/' :: (address.digits ++ address.blanks) := by
    have hpull : ("/pull/" : Text) = "/pull" ++ ['/'] := rfl
    simp only [front, AddressEnd.written, hpull, List.append_assoc, List.singleton_append]
  rw [hfront]
  exact lastDigits_append address.digits_ne_nil address.digits_digit address.blanks_blank front

theorem EndsInAddress.unique {other : Text} (h : EndsInAddress text digits)
    (hother : EndsInAddress text other) : digits = other := by
  obtain ⟨before, address, rfl, rfl⟩ := h
  obtain ⟨before', address', htext, rfl⟩ := hother
  rw [← lastDigits_written before, htext, lastDigits_written]

theorem lastSplit?_eq_none {part s : Text} (h : ¬part <:+: s) : lastSplit? part s = none := by
  induction s with
  | nil => rfl
  | cons c cs ih =>
    have hafter : Text.after? part (c :: cs) = none := by
      rw [Option.eq_none_iff_forall_ne_some]
      exact fun rest hrest => h ⟨[], rest, (Text.after?_eq_some.1 hrest).symm⟩
    rw [lastSplit?, ih fun hcs => h (hcs.trans (List.suffix_cons c cs).isInfix), hafter]
    rfl

theorem eq_of_lastSplit? {part s before after : Text}
    (h : lastSplit? part s = some (before, after)) : s = before ++ part ++ after := by
  induction s generalizing before with
  | nil => cases h
  | cons c cs ih =>
    rw [lastSplit?] at h
    rcases hcs : lastSplit? part cs with _ | ⟨before', after'⟩
    · rw [hcs] at h
      obtain ⟨rest, hrest, heq⟩ := Option.map_eq_some_iff.1 h
      cases heq
      exact Text.after?_eq_some.1 hrest
    · rw [hcs] at h
      cases h
      rw [ih hcs]
      rfl

theorem lastSplit?_pull (host : Text) (h : ∀ c ∈ digits, isDigit c) :
    lastSplit? "/pull/" (host ++ ("/pull/" ++ digits)) = some (host, digits) := by
  induction host with
  | nil =>
    have hnone : lastSplit? "/pull/" ("pull/" ++ digits) = none := by
      refine lastSplit?_eq_none fun hin => ?_
      -- There are two slashes in the part, and one in the text.
      have hcount := hin.sublist.count_le '/'
      have hdigits : List.count '/' digits = 0 :=
        List.count_eq_zero.2 (Text.not_mem_of_isDigit (by decide) h)
      rw [List.count_append, hdigits] at hcount
      exact absurd hcount (by decide)
    have hafter : Text.after? "/pull/" ("/pull/" ++ digits) = some digits :=
      Text.after?_eq_some.2 rfl
    show lastSplit? "/pull/" ('/' :: ("pull/" ++ digits)) = _
    rw [lastSplit?, hnone]
    exact congrArg (Option.map _) hafter
  | cons c host ih =>
    rw [List.cons_append, lastSplit?, ih]

/-- The two schemes are what is read between the blanks and the host. -/
theorem exists_skipOne_scheme (address : AddressEnd) (rest : Text) :
    ∃ t, address.scheme ++ rest = "http" ++ t ∧ Text.skipOne (· = 's') t = "://" ++ rest := by
  rcases address.scheme_eq with h | h
  · exact ⟨"://" ++ rest, by rw [h]; rfl, rfl⟩
  · exact ⟨"s://" ++ rest, by rw [h]; rfl, rfl⟩

theorem pullRequestSuffix_written (address : AddressEnd) :
    pullRequestSuffix address.written = some (address.digits, []) := by
  let path := address.host ++ ("/pull/" ++ address.digits)
  obtain ⟨t, ht, hskip⟩ := exists_skipOne_scheme address (path ++ address.blanks)
  have hwritten : address.written =
      address.gap ++ ("in" ++ (address.space ++ ("http" ++ t))) := by
    rw [AddressEnd.written, ← ht]
    simp only [path, List.append_assoc]
  have hslashes : ("/pull/" : Text).all (!isBlank ·) := by decide
  have hpath : ∀ c ∈ path, (!isBlank c) = true := by
    intro c hc
    rcases List.mem_append.1 hc with hc | hc
    · rw [address.host_solid c hc, Bool.not_false]
    rcases List.mem_append.1 hc with hc | hc
    · exact List.all_eq_true.1 hslashes c hc
    · rw [Text.isBlank_of_isDigit (address.digits_digit c hc), Bool.not_false]
  have hblank : ∀ c ∈ address.blanks.head?, (!isBlank c) = false := by
    intro c hc
    rw [address.blanks_blank c (List.mem_of_mem_head? hc)]
    rfl
  have hguard : (!address.host.isEmpty && !address.digits.isEmpty &&
      address.digits.all isDigit && allBlank address.blanks) = true := by
    simp only [Bool.and_eq_true, Bool.not_eq_true', List.isEmpty_eq_false_iff, List.all_eq_true]
    exact ⟨⟨⟨address.host_ne_nil, address.digits_ne_nil⟩, address.digits_digit⟩,
      List.all_eq_true.2 address.blanks_blank⟩
  simp only [pullRequestSuffix, Option.bind_eq_bind, Option.bind_eq_some_iff, Option.pure_def,
    Option.some.injEq, Prod.mk.injEq, Prod.exists, Text.after?_eq_some, Text.run?_eq_some,
    Text.afterBlanks?_eq_some, Option.guard_eq_some']
  exact ⟨_, ⟨address.gap, hwritten, address.gap_ne_nil, address.gap_blank,
      Text.forall_head_cons (by decide) _⟩, _, rfl, _, ⟨address.space, rfl, address.space_ne_nil,
      address.space_blank, Text.forall_head_cons (by decide) _⟩, t, rfl, _, hskip, path,
      address.blanks, ⟨rfl, by simp [path, address.host_ne_nil], hpath, hblank⟩, address.host,
      address.digits, lastSplit?_pull address.host address.digits_digit, (), hguard, rfl, trivial⟩

theorem exists_of_pullRequestSuffix {s rest : Text}
    (h : pullRequestSuffix s = some (digits, rest)) :
    ∃ address : AddressEnd, s = address.written ∧ address.digits = digits ∧ rest = [] := by
  simp only [pullRequestSuffix, Option.bind_eq_bind, Option.bind_eq_some_iff, Option.pure_def,
    Option.some.injEq, Prod.mk.injEq, Prod.exists, Text.after?_eq_some, Text.run?_eq_some,
    Text.afterBlanks?_eq_some, Option.guard_eq_some'] at h
  obtain ⟨_, ⟨gap, rfl, hgap, hgap', -⟩, _, rfl, _, ⟨space, rfl, hspace, hspace', -⟩, t, rfl, _,
    hskip, path, blanks, ⟨rfl, -, hsolid, -⟩, host, d, hlast, -, hguard, rfl, rfl⟩ := h
  obtain ⟨skipped, ht, hlength, hall⟩ := Text.exists_skipOne (· = 's') t
  obtain rfl := eq_of_lastSplit? hlast
  simp only [Bool.and_eq_true, Bool.not_eq_true', List.isEmpty_eq_false_iff, List.all_eq_true]
    at hguard
  obtain ⟨⟨⟨hhost, hdigits⟩, hdigits'⟩, hblanks⟩ := hguard
  have hscheme : "http" ++ (skipped ++ "://") = ("http://" : Text) ∨
      "http" ++ (skipped ++ "://") = ("https://" : Text) := by
    cases skipped with
    | nil => exact .inl rfl
    | cons c cs =>
      obtain rfl : cs = [] := by simpa using hlength
      obtain rfl : c = 's' := by simpa using hall c List.mem_cons_self
      exact .inr rfl
  refine ⟨⟨gap, space, "http" ++ (skipped ++ "://"), host, d, blanks, hgap, hgap', hspace, hspace',
    hscheme, hhost, fun c hc => ?_, hdigits, hdigits', List.all_eq_true.1 hblanks⟩, ?_, rfl, rfl⟩
  · simpa using hsolid c (by simp [hc])
  · rw [ht, hskip, AddressEnd.written]
    simp only [List.append_assoc]

/-! ## The number of an item -/

theorem first?_pullRequestSuffix_iff :
    (∃ before rest, Scanner.first? pullRequestSuffix text = some (before, digits, rest)) ↔
      EndsInAddress text digits := by
  have hends : ∀ {before digits rest},
      Scanner.first? pullRequestSuffix text = some (before, digits, rest) →
        EndsInAddress text digits := by
    intro before digits rest hfirst
    obtain ⟨t, rfl, ht, -⟩ := Scanner.first?_eq_some_iff.1 hfirst
    obtain ⟨address, rfl, rfl, -⟩ := exists_of_pullRequestSuffix (Scanner.read_of_find ht)
    exact ⟨before, address, rfl, rfl⟩
  constructor
  · intro h
    obtain ⟨before, rest, hfirst⟩ := h
    exact hends hfirst
  · intro h
    have hunique : ∀ other, EndsInAddress text other → digits = other := fun _ => h.unique
    obtain ⟨before, address, rfl, rfl⟩ := h
    have hfind : Scanner.find pullRequestSuffix address.written = some (address.digits, []) := by
      refine Scanner.find_of_some (pullRequestSuffix_written address) (List.length_pos_iff.2 ?_)
      exact List.append_ne_nil_of_left_ne_nil address.gap_ne_nil _
    obtain ⟨⟨before', other, rest⟩, hfirst⟩ := Scanner.exists_first?_of_find hfind before
    obtain rfl := hunique _ (hends hfirst)
    exact ⟨before', rest, hfirst⟩

variable {n : UInt64}

theorem number?_first?_eq_some_iff {read : Scanner Text} :
    (do let (_, digits, _) ← Scanner.first? read text; Text.number? digits) = some n ↔
      ∃ digits, (∃ before rest, Scanner.first? read text = some (before, digits, rest)) ∧
        Text.number? digits = some n := by
  simp only [Option.bind_eq_bind, Option.bind_eq_some_iff, Prod.exists]
  constructor
  · intro h
    obtain ⟨before, digits, rest, hfirst, hn⟩ := h
    exact ⟨digits, ⟨before, rest, hfirst⟩, hn⟩
  · intro h
    obtain ⟨digits, ⟨before, rest, hfirst⟩, hn⟩ := h
    exact ⟨before, digits, rest, hfirst, hn⟩

theorem suffixNumber?_eq_some_iff :
    suffixNumber? text = some n ↔
      ∃ digits, EndsInAddress text digits ∧ Text.number? digits = some n := by
  simp only [suffixNumber?, number?_first?_eq_some_iff, first?_pullRequestSuffix_iff]

theorem firstNumber?_eq_some_iff :
    firstNumber? text = some n ↔
      ∃ digits, Reference.FirstHashNumber text digits ∧ Text.number? digits = some n := by
  simp only [firstNumber?, number?_first?_eq_some_iff, Reference.first?_hashNumber_iff]

/--
The number that counts: that of the address at the end, or else, if there is no address or its
number does not fit 64 bits, the one behind the first number sign.
-/
def Counts (text : Text) (n : UInt64) : Prop :=
  (∃ digits, EndsInAddress text digits ∧ Text.number? digits = some n) ∨
    (∀ digits, EndsInAddress text digits → Text.number? digits = none) ∧
      ∃ digits, Reference.FirstHashNumber text digits ∧ Text.number? digits = some n

theorem itemNumber?_eq_some_iff : itemNumber? text = some n ↔ Counts text n := by
  have hnone : suffixNumber? text = none ↔
      ∀ digits, EndsInAddress text digits → Text.number? digits = none := by
    rw [Option.eq_none_iff_forall_ne_some]
    simp only [ne_eq, suffixNumber?_eq_some_iff, not_exists, not_and]
    constructor
    · intro h digits hends
      exact Option.eq_none_iff_forall_ne_some.2 fun m => h m digits hends
    · intro h m digits hends hm
      rw [h digits hends] at hm
      cases hm
  rw [itemNumber?, Option.or_eq_some_iff, suffixNumber?_eq_some_iff, firstNumber?_eq_some_iff,
    hnone, Counts]

/-! ## What becomes of a number -/

/-- The change has a reference with this number. -/
def Records (change : Change) (n : UInt64) : Prop :=
  ∃ reference ∈ change.references, reference.number? = some n

/-- The number in parentheses, as it is written. -/
def mention (digits : Text) : Text := "(#" ++ digits ++ ")"

theorem records_item_iff {repository : Option Text} :
    Records (item repository text) n ↔ Counts text n := by
  rw [← itemNumber?_eq_some_iff, Records, item]
  cases itemNumber? text with
  | none => simp
  | some m => simp [Reference.number?]

theorem mention_infix_of_capitalize {s : Text} (h : mention digits <:+: Text.capitalize s) :
    mention digits <:+: s := by
  cases s with
  | nil => exact h
  | cons c cs =>
    by_cases hc : c = '('
    · rwa [hc] at h ⊢
    · have hcapital : '(' ∉ Text.upperChar c := Text.not_mem_upperChar (by decide) (by decide) hc
      exact (Text.infix_right_of_not_mem hcapital h).trans (List.suffix_cons c cs).isInfix

/-- The marker behind a text brings no number. -/
theorem mention_infix_of_marked {s : Text} (h : mention digits <:+: s ++ " " ++ todoMarker) :
    mention digits <:+: s := by
  have hmarker : ')' ∉ " " ++ todoMarker := by decide
  rw [List.append_assoc] at h
  exact Text.infix_left_of_not_mem hmarker h

/-- **No number in parentheses is left of a flat item.** -/
theorem not_mention_infix_item (repository : Option Text) (hflat : Text.Flat text)
    (hn : Text.number? digits = some n) : ¬mention digits <:+: (item repository text).text := by
  obtain ⟨hne, hdigits⟩ := Text.isDigit_of_number? hn
  have h₁ := readsToEnd_pullRequestSuffix.removeFirst_isPrefix text
  have h₂ := (readsToEnd_trailingNumber.removeFirst_isPrefix _).trans h₁
  have h₃ := (readsToEnd_authorSuffix.removeFirst_isPrefix _).trans h₂
  have h₄ := (leaves_commitHeader.removeStart_suffix _).isInfix.trans h₃.isInfix
  have h₅ := (Text.trim_isInfix _).trans h₄
  have hitem : ¬mention digits <:+: itemText text := by
    intro h
    have hstrip := mention_infix_of_capitalize h
    refine Reference.not_infix_strip (hflat.of_infix h₅) hne hdigits ?_
    simpa [mention] using hstrip
  intro h
  rw [item] at h
  split at h
  · exact hitem h
  · exact hitem (mention_infix_of_marked h)

/-- Behind a number sign of the item stand these digits. -/
def HasNumber (text digits : Text) : Prop :=
  ∃ before after, text = before ++ ("#" ++ digits ++ after) ∧ digits ≠ [] ∧
    (∀ c ∈ digits, isDigit c) ∧ ∀ c ∈ after.head?, isDigit c = false

theorem exists_firstHashNumber (hn : Text.number? digits = some n)
    (h : mention digits <:+: text) :
    ∃ first, Reference.FirstHashNumber text first ∧ HasNumber text first := by
  obtain ⟨before, after, rfl⟩ := h
  obtain ⟨hne, hdigits⟩ := Text.isDigit_of_number? hn
  have hread : Reference.hashNumber ("#" ++ digits ++ (")" ++ after)) =
      some (digits, ")" ++ after) :=
    Reference.hashNumber_eq_some.2
      ⟨rfl, hne, hdigits, Text.forall_head_cons (by decide) after⟩
  obtain ⟨⟨earlier, first, rest⟩, hfirst⟩ := Scanner.exists_first?_of_find
    ((Reference.opens_hashNumber.find_eq _).trans hread) (before ++ "(")
  have htext : before ++ mention digits ++ after =
      before ++ "(" ++ ("#" ++ digits ++ (")" ++ after)) := by
    have hopen : ("(#" : Text) = "(" ++ "#" := rfl
    simp only [mention, hopen, List.append_assoc]
  rw [htext]
  refine ⟨first, Reference.first?_hashNumber_iff.1 ⟨earlier, rest, hfirst⟩, ?_⟩
  obtain ⟨before', after', hsplit, hok, -⟩ :=
    Reference.first?_hashNumber_iff.1 ⟨earlier, rest, hfirst⟩
  exact ⟨before', after', hsplit, hok⟩

/--
**An item keeps the number that counts, and no other.** A change made of an item in which a number
stands in parentheses refers to that number exactly if it counts. If parentheses do not nest in the
item, the number does not stay in the text either, so that it is lost if it does not count. An item
in which all numbers are the same keeps it.
-/
theorem item_keeps_number_iff (repository : Option Text) (hn : Text.number? digits = some n)
    (h : mention digits <:+: text) :
    let change := item repository text
    (Records change n ↔ Counts text n) ∧
      (Text.Flat text → (Records change n ∨ mention digits <:+: change.text ↔ Counts text n)) ∧
      ((∀ other, EndsInAddress text other ∨ HasNumber text other →
        Text.number? other = some n) → Records change n) := by
  intro change
  refine ⟨records_item_iff, fun hflat => ?_, fun hsame => ?_⟩
  · rw [or_iff_left (not_mention_infix_item repository hflat hn), records_item_iff]
  · obtain ⟨first, hfirst, hhas⟩ := exists_firstHashNumber hn h
    rw [records_item_iff]
    by_cases haddress : ∃ other, EndsInAddress text other
    · obtain ⟨other, hends⟩ := haddress
      exact .inl ⟨other, hends, hsame other (.inl hends)⟩
    · exact .inr ⟨fun other hends => absurd ⟨other, hends⟩ haddress, first, hfirst,
        hsame first (.inr hhas)⟩

/-- An item with two numbers, neither of them in an address. -/
def pairSample : Text := "Fix crash (#1) and leak (#2)"

theorem item_pairSample :
    item none pairSample =
      { text := "Fix crash and leak", references := [.pullRequest 1 []] } := by
  decide +kernel

/-- The second number does not count, and is lost. -/
theorem item_keeps_number_iff_pairSample :
    Text.number? "2" = some 2 ∧ mention "2" <:+: pairSample ∧ Text.Flat pairSample ∧
      ¬Counts pairSample 2 := by
  have hn : Text.number? "2" = some 2 := by decide
  have hmention : mention "2" <:+: pairSample := by decide
  have hflat : Text.Flat pairSample := by decide
  have hkept := (item_keeps_number_iff none hn hmention).2.1 hflat
  rw [item_pairSample] at hkept
  refine ⟨hn, hmention, hflat, fun hcounts => ?_⟩
  rcases hkept.2 hcounts with ⟨reference, hmem, hnumber⟩ | htext
  · rw [List.mem_singleton.1 hmem] at hnumber
    exact absurd hnumber (by decide)
  · exact absurd htext (by decide)

/-- A number in parentheses is neither recorded nor left in the text. -/
theorem item_loses_second_number :
    mention "2" <:+: pairSample ∧
      ¬((∃ reference ∈ (item none pairSample).references, reference.number? = some 2) ∨
        mention "2" <:+: (item none pairSample).text) := by
  rw [item_pairSample]
  decide

end ReleaseNotes

end CommonChangelog
