import CommonChangelog.Proofs.Numerals
import CommonChangelog.Proofs.Scanning
import CommonChangelog.Version.Bump

/-!
# The texts of versions

Numerals are written without leading zeros, and a number ends where the dot stands. A list of
identifiers ends where a character stands that is none of theirs. So the grammar reads the parts of
a version as they were written. Conversely each step of the grammar takes from the text what is
written for the part it reads. Hence it accepts the texts of well-formed versions and no others, and
a text stands for one version (`Version.text_correspondence`). As each step accepts few characters,
the text of a version begins with a digit and has no blanks or brackets in it
(`Version.forall_mem_of_isVersion`).

Everything follows from `Version.read_eq_ok_iff`.
-/

namespace CommonChangelog

namespace Text

theorem head?_ofNat_ne {n : Nat} (h : n ≠ 0) : (ofNat n).head? ≠ some '0' := by
  induction n using Nat.strongRecOn with
  | _ n ih =>
    unfold ofNat
    by_cases hlt : n < 10
    · rw [Nat.toDigits_of_lt_base hlt]
      have hdigits : ∀ d < 10, d ≠ 0 → [d.digitChar].head? ≠ some '0' := by decide
      exact hdigits n hlt h
    · have hhead := ih (n / 10) (by omega) (by omega)
      obtain ⟨c, cs, hcs⟩ := List.exists_cons_of_ne_nil (ofNat_ne_nil (n / 10))
      rw [Nat.toDigits_of_base_le (by decide) (by omega), ← ofNat, hcs]
      rw [hcs] at hhead
      exact hhead

end Text

namespace Version

theorem hasLeadingZero_ofNat (n : Nat) : hasLeadingZero (Text.ofNat n) = false := by
  by_cases h : n = 0
  · rw [h]
    rfl
  · have hhead := Text.head?_ofNat_ne h
    unfold hasLeadingZero
    split
    · rename_i heq
      rw [heq] at hhead
      exact absurd rfl hhead
    · rfl

variable {part : Part} {s rest : Text}

theorem exists_of_bind_eq_ok {α β : Type} {x : Except Fault α} {f : α → Except Fault β} {b : β}
    (h : x >>= f = .ok b) : ∃ a, x = .ok a ∧ f a = .ok b := by
  cases x with
  | error fault => cases h
  | ok a => exact ⟨a, rfl, h⟩

/-! ## Numbers -/

/-- A numeral is read up to the first character that is no digit. -/
theorem number_ofWord (part : Part) (n : UInt64) {rest : Text}
    (hrest : ∀ c ∈ rest.head?, Text.isAsciiDigit c = false) :
    number part (Text.ofWord n ++ rest) = .ok (n, rest) := by
  have hspan : Text.spanOf Text.isAsciiDigit (Text.ofWord n ++ rest) = (Text.ofWord n, rest) :=
    Text.spanOf_append (fun c hc => Text.isAsciiDigit_of_mem_ofNat hc) hrest
  have hzero : hasLeadingZero (Text.ofWord n) = false := hasLeadingZero_ofNat n.toNat
  have hne : Text.ofWord n ≠ [] := Text.ofNat_ne_nil n.toNat
  unfold number
  rw [hspan]
  split
  · rename_i heq
    exact absurd (congrArg Prod.fst heq) hne
  · rename_i heq
    exact absurd (congrArg Prod.fst heq) hne
  · rename_i heq
    cases heq
    rw [hzero, Text.number?_ofWord]
    rfl

theorem head?_ne_of_hasLeadingZero {digits : Text} (h : hasLeadingZero digits = false)
    (hlen : 1 < digits.length) : digits.head? ≠ some '0' := by
  intro hzero
  obtain ⟨rest, rfl⟩ := List.head?_eq_some_iff.1 hzero
  cases rest with
  | nil => exact absurd hlen (Nat.lt_irrefl 1)
  | cons c cs => cases h

theorem number_eq_ok {n : UInt64} (h : number part s = .ok (n, rest)) :
    s = Text.ofWord n ++ rest := by
  have hspan : s = (Text.spanOf Text.isAsciiDigit s).1 ++ (Text.spanOf Text.isAsciiDigit s).2 :=
    List.takeWhile_append_dropWhile.symm
  unfold number at h
  split at h
  · cases h
  · cases h
  · rename_i digits after hnil hcons heq
    rw [heq] at hspan
    split at h
    · cases h
    · rename_i hzero
      split at h
      · cases h
      · rename_i hnumber
        cases h
        rw [Text.ofWord_of_number? hnumber
          (head?_ne_of_hasLeadingZero (Bool.eq_false_iff.2 hzero))]
        exact hspan

theorem dot_eq_ok (h : dot part s = .ok rest) : s = '.' :: rest := by
  cases s with
  | nil => cases h
  | cons c cs =>
    rw [dot] at h
    split at h
    · rename_i hc
      cases h
      rw [hc]
    · cases h

/-! ## Identifiers -/

/-- Letters, digits and hyphens, at least one; a number in a prerelease has no leading zero. -/
structure IsIdentifierOf (part : Part) (s : Text) : Prop where
  ne_nil : s ≠ []
  chars : ∀ c ∈ s, isIdentifierChar c
  no_leading_zero : part = .prerelease → (∀ c ∈ s, Text.isAsciiDigit c) →
    s.head? = some '0' → s = ['0']

/-- Identifiers of a part with dots between them, at least one. -/
def Dotted (part : Part) (text : Text) : Prop :=
  ∃ identifiers, identifiers ≠ [] ∧ (∀ i ∈ identifiers, IsIdentifierOf part i) ∧
    text = Text.join ['.'] identifiers

theorem hasLeadingZero_eq_false_iff :
    hasLeadingZero s = false ↔ (s.head? = some '0' → s = ['0']) := by
  unfold hasLeadingZero
  split
  · simp
  · rename_i hshort
    simp only [true_iff]
    intro hhead
    obtain ⟨rest, rfl⟩ := List.head?_eq_some_iff.1 hhead
    cases rest with
    | nil => rfl
    | cons c cs => exact absurd rfl (hshort c cs)

theorem identifierFault?_eq_none_iff : identifierFault? part s = none ↔ s ≠ [] ∧
    (part = .prerelease → (∀ c ∈ s, Text.isAsciiDigit c) → s.head? = some '0' → s = ['0']) := by
  unfold identifierFault?
  rw [← hasLeadingZero_eq_false_iff, ← List.all_eq_true]
  by_cases hnil : s = []
  · simp [hnil]
  · rw [if_neg (by simpa using hnil)]
    simp [hnil]

theorem IsIdentifierOf.identifierFault? (h : IsIdentifierOf part s) :
    identifierFault? part s = none :=
  identifierFault?_eq_none_iff.2 ⟨h.ne_nil, h.no_leading_zero⟩

theorem IsIdentifierOf.not_mem_dot (h : IsIdentifierOf part s) : '.' ∉ s :=
  fun hmem => absurd (h.chars '.' hmem) (by decide)

theorem dotted_iff : Dotted part s ↔ ∀ i ∈ Text.split '.' s, IsIdentifierOf part i := by
  constructor
  · rintro ⟨identifiers, hne, hall, rfl⟩
    rwa [Text.split_join hne fun i hi => (hall i hi).not_mem_dot]
  · intro h
    exact ⟨Text.split '.' s, Text.split_ne_nil '.' s, h, (Text.join_split '.' s).symm⟩

/-- A character that lists of identifiers consist of. -/
def isListChar (c : Char) : Bool := isIdentifierChar c || c == '.'

theorem Dotted.isListChar (h : Dotted part s) : ∀ c ∈ s, isListChar c := by
  obtain ⟨identifiers, -, hall, rfl⟩ := h
  intro c hc
  rcases Text.eq_or_mem_of_mem_join hc with rfl | ⟨i, hi, hc⟩
  · rfl
  · rw [Version.isListChar, (hall i hi).chars c hc, Bool.true_or]

/-- **The identifiers that the grammar reads are the longest dotted list at the front.** -/
theorem identifiers_eq_ok_iff {run : Text} : identifiers part s = .ok (run, rest) ↔
    s = run ++ rest ∧ Dotted part run ∧ ∀ c ∈ rest.head?, isListChar c = false := by
  constructor
  · intro h
    dsimp only [identifiers, Text.spanOf] at h
    split at h
    · cases h
    · rename_i hfault
      cases h
      refine ⟨List.takeWhile_append_dropWhile.symm, dotted_iff.2 fun i hi => ?_, ?_⟩
      · obtain ⟨hne, hzero⟩ :=
          identifierFault?_eq_none_iff.1 (List.findSome?_eq_none_iff.1 hfault i hi)
        refine ⟨hne, fun c hc => ?_, hzero⟩
        have hlist := List.all_eq_true.1 List.all_takeWhile c (Text.subset_of_mem_split hi hc)
        have hdot : c ≠ '.' := fun hdot => Text.not_mem_of_mem_split hi (hdot ▸ hc)
        simpa [hdot] using hlist
      · intro c hc
        have hhead := List.head?_dropWhile_not isListChar s
        rw [show (s.dropWhile isListChar).head? = some c from hc] at hhead
        simpa using hhead
  · rintro ⟨rfl, hdotted, hrest⟩
    have hspan : Text.spanOf (fun c => isIdentifierChar c || c == '.') (run ++ rest) =
        (run, rest) := Text.spanOf_append hdotted.isListChar hrest
    have hfault : (Text.split '.' run).findSome? (Version.identifierFault? part) = none :=
      List.findSome?_eq_none_iff.2 fun i hi => (dotted_iff.1 hdotted i hi).identifierFault?
    rw [identifiers, hspan]
    dsimp only
    rw [hfault]

theorem identifiersAfter_eq_ok {mark : Char} {found : Option Text}
    (h : identifiersAfter mark part s = .ok (found, rest)) :
    s = tailText mark found ++ rest ∧ ∀ text ∈ found, Dotted part text := by
  unfold identifiersAfter at h
  split at h
  · cases h
    exact ⟨rfl, fun _ htext => absurd htext (Option.not_mem_none _)⟩
  · split at h
    · rename_i hc
      obtain ⟨⟨run, after⟩, hrun, h⟩ := exists_of_bind_eq_ok h
      cases h
      obtain ⟨rfl, hdotted, -⟩ := identifiers_eq_ok_iff.1 hrun
      subst hc
      exact ⟨rfl, fun _ htext => Option.some.inj htext ▸ hdotted⟩
    · cases h
      exact ⟨rfl, fun _ htext => absurd htext (Option.not_mem_none _)⟩

/-- Written identifiers are read up to a character that cannot go on with them. -/
theorem identifiersAfter_tailText {mark : Char} {found : Option Text}
    (hfound : ∀ text ∈ found, Dotted part text)
    (hrest : ∀ c ∈ rest.head?, c ≠ mark ∧ isListChar c = false) :
    identifiersAfter mark part (tailText mark found ++ rest) = .ok (found, rest) := by
  cases found with
  | none =>
    cases rest with
    | nil => rfl
    | cons c cs =>
      rw [tailText, List.nil_append, identifiersAfter, if_neg (hrest c rfl).1]
  | some text =>
    have hrun := identifiers_eq_ok_iff.2
      ⟨rfl, hfound text rfl, fun c hc => (hrest c hc).2⟩
    rw [tailText, List.cons_append, identifiersAfter, if_pos rfl, hrun]
    rfl

/-! ## Versions -/

/-- The lists of a version consist of identifiers, and it was read from its own text. -/
structure WellFormed (v : Version) : Prop where
  prerelease : ∀ text ∈ v.prerelease, Dotted .prerelease text
  build : ∀ text ∈ v.build, Dotted .build text
  source : v.source = v.text

theorem text_eq (v : Version) :
    v.text = Text.ofWord v.major ++ '.' :: (Text.ofWord v.minor ++ '.' :: (Text.ofWord v.patch ++
      (tailText '-' v.prerelease ++ (tailText '+' v.build ++ [])))) := by
  simp [text, coreText]

/-- What stands in front of the next part ends the one before it. -/
theorem head_tailText {p : Char → Prop} {mark : Char} {found : Option Text}
    (hmark : p mark) (hrest : ∀ c ∈ rest.head?, p c) :
    ∀ c ∈ (tailText mark found ++ rest).head?, p c := by
  cases found with
  | none => exact hrest
  | some text => exact Text.forall_head_cons hmark _

theorem wellFormed_of_read {v : Version} (h : read s = .ok v) : v.WellFormed ∧ v.text = s := by
  unfold read at h
  split at h
  · cases h
  · obtain ⟨⟨major, s₁⟩, h₁, h⟩ := exists_of_bind_eq_ok h
    obtain ⟨s₂, h₂, h⟩ := exists_of_bind_eq_ok h
    obtain ⟨⟨minor, s₃⟩, h₃, h⟩ := exists_of_bind_eq_ok h
    obtain ⟨s₄, h₄, h⟩ := exists_of_bind_eq_ok h
    obtain ⟨⟨patch, s₅⟩, h₅, h⟩ := exists_of_bind_eq_ok h
    obtain ⟨⟨prerelease, s₆⟩, h₆, h⟩ := exists_of_bind_eq_ok h
    obtain ⟨⟨build, s₇⟩, h₇, h⟩ := exists_of_bind_eq_ok h
    obtain rfl := number_eq_ok h₁
    obtain rfl := dot_eq_ok h₂
    obtain rfl := number_eq_ok h₃
    obtain rfl := dot_eq_ok h₄
    obtain rfl := number_eq_ok h₅
    obtain ⟨rfl, hprerelease⟩ := identifiersAfter_eq_ok h₆
    obtain ⟨rfl, hbuild⟩ := identifiersAfter_eq_ok h₇
    cases s₇ with
    | cons c cs => cases h
    | nil =>
      cases h
      exact ⟨⟨hprerelease, hbuild, by rw [text_eq]⟩, text_eq _⟩

/-- **A well-formed version is read back from its text.** -/
theorem WellFormed.read_text {v : Version} (h : v.WellFormed) : read v.text = .ok v := by
  have hdot : ∀ rest : Text, ∀ c ∈ ('.' :: rest).head?, Text.isAsciiDigit c = false :=
    Text.forall_head_cons (by decide)
  have hbuild : ∀ c ∈ (tailText '+' v.build ++ []).head?, c ≠ '-' ∧ isListChar c = false :=
    head_tailText (by decide) (by simp)
  have hpatch : ∀ c ∈ (tailText '-' v.prerelease ++ (tailText '+' v.build ++ [])).head?,
      Text.isAsciiDigit c = false :=
    head_tailText (by decide) (head_tailText (by decide) (by simp))
  have hend : ∀ c ∈ ([] : Text).head?, c ≠ '+' ∧ isListChar c = false := nofun
  have hne : v.text.isEmpty = false := by
    rw [text_eq]
    simp
  rw [read, hne, text_eq, number_ofWord .major v.major (hdot _)]
  simp only [dot, bind, Except.bind, pure, Except.pure, if_true, Bool.false_eq_true, if_false]
  rw [number_ofWord .minor v.minor (hdot _)]
  simp only [if_true]
  rw [number_ofWord .patch v.patch hpatch]
  simp only [identifiersAfter_tailText h.prerelease hbuild, identifiersAfter_tailText h.build hend]
  rw [← text_eq, ← h.source]

/-- **The grammar reads the texts of well-formed versions and no others.** -/
theorem read_eq_ok_iff {v : Version} : read s = .ok v ↔ v.WellFormed ∧ v.text = s := by
  constructor
  · exact wellFormed_of_read
  · rintro ⟨h, rfl⟩
    exact h.read_text

theorem ofText_eq_ok_iff {v : Version} : ofText s = .ok v ↔ read s = .ok v := by
  unfold ofText
  cases read s <;> simp

theorem wellFormed_plain (major minor patch : UInt64) : (plain major minor patch).WellFormed where
  prerelease := nofun
  build := nofun
  source := by simp [text, plain, tailText]

theorem read_plain (major minor patch : UInt64) :
    read (plain major minor patch).text = .ok (plain major minor patch) :=
  (wellFormed_plain major minor patch).read_text

theorem text_congr {v w : Version} (hmajor : v.major = w.major) (hminor : v.minor = w.minor)
    (hpatch : v.patch = w.patch) (hprerelease : v.prerelease = w.prerelease)
    (hbuild : v.build = w.build) : v.text = w.text := by
  rw [text, text, hmajor, hminor, hpatch, hprerelease, hbuild]

/--
**Version texts and versions correspond.** A version is written as the text it was read from, and
this text is its source. Three numbers and two lists of identifiers, each of which may be missing,
are read back from what is written for them. So different texts are read as different versions, and
the texts that are read are those of well-formed versions.
-/
theorem text_correspondence :
    (∀ s v, ofText s = .ok v → v.text = s ∧ v.source = s) ∧
    (∀ v : Version, (∀ text ∈ v.prerelease, Dotted .prerelease text) →
      (∀ text ∈ v.build, Dotted .build text) → ofText v.text = .ok { v with source := v.text }) ∧
    (∀ s t v w, ofText s = .ok v → ofText t = .ok w → v.major = w.major → v.minor = w.minor →
      v.patch = w.patch → v.prerelease = w.prerelease → v.build = w.build → s = t) ∧
    (∀ s, (∃ v, ofText s = .ok v) ↔ ∃ v, WellFormed v ∧ v.text = s) := by
  simp only [ofText_eq_ok_iff]
  refine ⟨?_, ?_, ?_, ?_⟩
  · intro s v hv
    obtain ⟨hwf, rfl⟩ := wellFormed_of_read hv
    exact ⟨rfl, hwf.source⟩
  · intro v hprerelease hbuild
    have hwf : WellFormed { v with source := v.text } := ⟨hprerelease, hbuild, rfl⟩
    exact hwf.read_text
  · intro s t v w hv hw hmajor hminor hpatch hprerelease hbuild
    calc s = v.text := (wellFormed_of_read hv).2.symm
      _ = w.text := text_congr hmajor hminor hpatch hprerelease hbuild
      _ = t := (wellFormed_of_read hw).2
  · intro s
    simp only [read_eq_ok_iff]

/-- Hyphens in identifiers, a number in the build with a leading zero, and the largest number. -/
example : (ofText "0.18446744073709551615.1--.0a-b+007.-").isOk := by decide +kernel

/-! ## The characters of a version -/

/-- A character that versions consist of. -/
def isVersionChar (c : Char) : Bool := isIdentifierChar c || c == '.' || c == '+'

theorem isVersionChar_of_isAsciiDigit {c : Char} (h : Text.isAsciiDigit c) : isVersionChar c := by
  rw [Text.isAsciiDigit_eq_isDigit] at h
  simp [isVersionChar, isIdentifierChar, Char.isAlphanum, h]

theorem lt_of_isVersionChar {c : Char} (h : isVersionChar c) : c.toNat < 0x80 := by
  have hbound : ∀ last : Char, last.toNat < 0x80 → c.val ≤ last.val → c.toNat < 0x80 :=
    fun last hlast hle => Nat.lt_of_le_of_lt (UInt32.le_iff_toNat_le.1 hle) hlast
  simp only [isVersionChar, isIdentifierChar, Char.isAlphanum, Bool.or_eq_true, beq_iff_eq] at h
  rcases h with (((h | hdigit) | rfl) | rfl) | rfl
  · rcases Bool.or_eq_true_iff.1 h with hupper | hlower
    · have hrange : 'A'.val ≤ c.val ∧ c.val ≤ 'Z'.val := of_decide_eq_true hupper
      exact hbound 'Z' (by decide) hrange.2
    · exact hbound 'z' (by decide) (of_decide_eq_true (Bool.and_eq_true_iff.1 hlower).2)
  · exact hbound '9' (by decide) (of_decide_eq_true (Bool.and_eq_true_iff.1 hdigit).2)
  · decide
  · decide
  · decide

theorem isVersionChar_of_isListChar {c : Char} (h : isListChar c) : isVersionChar c := by
  rw [isVersionChar, ← isListChar, h, Bool.true_or]

theorem isVersionChar_of_mem_tailText {mark : Char} {found : Option Text}
    (hmark : isVersionChar mark) (h : ∀ text ∈ found, Dotted part text) :
    ∀ c ∈ tailText mark found, isVersionChar c := by
  cases found with
  | none => exact fun _ hc => absurd hc List.not_mem_nil
  | some text =>
    refine List.forall_mem_cons.2 ⟨hmark, fun c hc => ?_⟩
    exact isVersionChar_of_isListChar ((h text rfl).isListChar c hc)

theorem text_of_read {v : Version} (h : read s = .ok v) :
    v.text = s ∧ ∀ c ∈ v.text, isVersionChar c := by
  obtain ⟨hwf, hs⟩ := wellFormed_of_read h
  have hword : ∀ n : UInt64, ∀ c ∈ Text.ofWord n, isVersionChar c := fun n c hc =>
    isVersionChar_of_isAsciiDigit (Text.isAsciiDigit_of_mem_ofNat hc)
  have hdot : isVersionChar '.' := by decide
  refine ⟨hs, ?_⟩
  rw [text_eq]
  simp only [List.forall_mem_append, List.forall_mem_cons]
  exact ⟨hword v.major, hdot, hword v.minor, hdot, hword v.patch,
    isVersionChar_of_mem_tailText (by decide) hwf.prerelease,
    isVersionChar_of_mem_tailText (by decide) hwf.build, nofun⟩

theorem text_of_read? {v : Version} (h : read? s = some v) :
    v.text = s ∧ ∀ c ∈ v.text, isVersionChar c := by
  rw [read?] at h
  cases hread : read s with
  | error fault => rw [hread] at h; cases h
  | ok w =>
    rw [hread] at h
    cases h
    exact text_of_read hread

/-- **A version begins with a digit and consists of characters of versions.** -/
theorem forall_mem_of_isVersion (h : isVersion s) :
    (∃ c ∈ s.head?, Text.isAsciiDigit c) ∧ ∀ c ∈ s, isVersionChar c := by
  obtain ⟨v, hv⟩ := Option.isSome_iff_exists.1 h
  obtain ⟨rfl, hchars⟩ := text_of_read? hv
  refine ⟨?_, hchars⟩
  obtain ⟨c, cs, hword⟩ := List.exists_cons_of_ne_nil (Text.ofNat_ne_nil v.major.toNat)
  have hdigit : Text.isAsciiDigit c :=
    Text.isAsciiDigit_of_mem_ofNat (n := v.major.toNat) (hword ▸ List.mem_cons_self)
  refine ⟨c, ?_, hdigit⟩
  rw [text, coreText, Text.ofWord, hword]
  rfl

end Version

end CommonChangelog
