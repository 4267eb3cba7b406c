import CommonChangelog.Proofs.VersionOrder
import CommonChangelog.Proofs.VersionText
import Mathlib.Algebra.Group.Nat.Defs

/-!
# The order of versions is that of Semantic Versioning

Semantic Versioning compares what identifiers mean: numbers by value, whatever their size, and
words by their characters. `Version.rank` decodes a version into its numbers and the meanings of
its prerelease, and `Version.RanksBelow` is the lexicographic order on ranks. The library compares
written identifiers instead, numbers by length and then as texts. Both come to the same because the
grammar accepts no number with a leading zero.

**Theorem (`Version.precedence_agrees`).** Comparing two versions that were read from texts says
how their ranks stand to each other.
-/

namespace CommonChangelog

/-! ## Comparisons and orders -/

/-- The outcome of a comparison says how two values stand to each other. -/
structure Agrees {α : Type} (outcome : Ordering) (below : α → α → Prop) (x y : α) : Prop where
  lt : outcome = .lt ↔ below x y
  eq : outcome = .eq ↔ x = y
  gt : outcome = .gt ↔ below y x

namespace Agrees

variable {α β : Type} {below : α → α → Prop} {below' : β → β → Prop} {x y : α} {x' y' : β}

theorem of_lt {outcome : Ordering} (h : outcome = .lt) (hlt : below x y) (hne : x ≠ y)
    (hgt : ¬below y x) : Agrees outcome below x y := by
  subst h
  exact ⟨⟨fun _ => hlt, fun _ => rfl⟩, ⟨nofun, fun h => absurd h hne⟩,
    ⟨nofun, fun h => absurd h hgt⟩⟩

theorem of_gt {outcome : Ordering} (h : outcome = .gt) (hgt : below y x) (hne : x ≠ y)
    (hlt : ¬below x y) : Agrees outcome below x y := by
  subst h
  exact ⟨⟨nofun, fun h => absurd h hlt⟩, ⟨nofun, fun h => absurd h hne⟩,
    ⟨fun _ => hgt, fun _ => rfl⟩⟩

theorem compare_nat (m n : Nat) : Agrees (compare m n) (· < ·) m n :=
  ⟨Nat.compare_eq_lt, Nat.compare_eq_eq, Nat.compare_eq_gt⟩

/-- Values that decide first and values that decide second. -/
theorem lex {first second : Ordering} (h : Agrees first below x y)
    (h' : Agrees second below' x' y') :
    Agrees (first.then second) (Prod.Lex below below') (x, x') (y, y') := by
  have hlex := @Prod.lex_def _ _ below below'
  cases first with
  | lt =>
    have hne : x ≠ y := fun hxy => absurd (h.eq.2 hxy) nofun
    have hgt : ¬below y x := fun hyx => absurd (h.gt.2 hyx) nofun
    refine of_lt rfl (hlex.2 (.inl (h.lt.1 rfl))) (fun hxy => hne (Prod.ext_iff.1 hxy).1) ?_
    exact fun hyx => (hlex.1 hyx).elim hgt fun hyx => hne hyx.1.symm
  | eq =>
    have hxy : x = y := h.eq.1 rfl
    have hlt : ¬below x y := fun hlt => absurd (h.lt.2 hlt) nofun
    have hgt : ¬below y x := fun hgt => absurd (h.gt.2 hgt) nofun
    refine ⟨?_, ?_, ?_⟩
    · rw [hlex, or_iff_right hlt, and_iff_right hxy]
      exact h'.lt
    · rw [Prod.mk.injEq, and_iff_right hxy]
      exact h'.eq
    · rw [hlex, or_iff_right hgt, and_iff_right hxy.symm]
      exact h'.gt
  | gt =>
    have hne : x ≠ y := fun hxy => absurd (h.eq.2 hxy) nofun
    have hlt : ¬below x y := fun hlt => absurd (h.lt.2 hlt) nofun
    refine of_gt rfl (hlex.2 (.inl (h.gt.1 rfl))) (fun hxy => hne (Prod.ext_iff.1 hxy).1) ?_
    exact fun hyx => (hlex.1 hyx).elim hlt fun hyx => hne hyx.1

/-- The heads of two lists decide first, and then their tails. -/
theorem cons {xs ys : List α} {first second : Ordering} (h : Agrees first below x y)
    (hs : Agrees second (List.Lex below) xs ys) :
    Agrees (first.then second) (List.Lex below) (x :: xs) (y :: ys) := by
  have hpair := h.lex hs
  have hlex : ∀ {a b : α} {as bs : List α},
      Prod.Lex below (List.Lex below) (a, as) (b, bs) ↔ List.Lex below (a :: as) (b :: bs) := by
    intro a b as bs
    rw [Prod.lex_def, List.cons_lex_cons_iff]
  exact ⟨hpair.lt.trans hlex, hpair.eq.trans (by simp), hpair.gt.trans hlex⟩

end Agrees

namespace Text

/-! ## Texts and numerals -/

theorem order_agrees (s t : Text) : Agrees (order s t) (List.Lex (· < ·)) s t := by
  induction s generalizing t with
  | nil =>
    cases t with
    | nil => exact ⟨⟨nofun, nofun⟩, ⟨fun _ => rfl, fun _ => rfl⟩, ⟨nofun, nofun⟩⟩
    | cons d ds => exact .of_lt rfl .nil nofun nofun
  | cons c cs ih =>
    cases t with
    | nil => exact .of_gt rfl .nil nofun nofun
    | cons d ds =>
      have hchar : Agrees (compare c.toNat d.toNat) (· < ·) c d :=
        ⟨Nat.compare_eq_lt, Nat.compare_eq_eq.trans Char.toNat_inj, Nat.compare_eq_gt⟩
      exact hchar.cons (ih ds)

/-- The value of an ASCII digit. -/
def digitValue (d : Char) : Nat := d.toNat - '0'.toNat

theorem digitsValue_cons (d : Char) (ds : Text) :
    digitsValue (d :: ds) = digitValue d * 10 ^ ds.length + digitsValue ds := by
  induction ds using List.reverseRecOn with
  | nil => simp [digitsValue, digitValue]
  | append_singleton ds e ih =>
    rw [← List.cons_append, digitsValue_concat, ih, digitsValue_concat, List.length_append,
      List.length_singleton, Nat.pow_succ, Nat.add_mul, Nat.mul_assoc, Nat.add_assoc]

theorem digitsValue_lt {ds : Text} (h : ∀ d ∈ ds, isAsciiDigit d) :
    digitsValue ds < 10 ^ ds.length := by
  induction ds with
  | nil => decide
  | cons d ds ih =>
    rw [List.forall_mem_cons] at h
    have hdigit : digitValue d < 10 := (digitChar_of_isAsciiDigit h.1).1
    have hds := ih h.2
    have hfirst : digitValue d * 10 ^ ds.length ≤ 9 * 10 ^ ds.length :=
      Nat.mul_le_mul_right _ (Nat.le_of_lt_succ hdigit)
    rw [digitsValue_cons, List.length_cons, Nat.pow_succ]
    omega

theorem pow_le_digitsValue {d : Char} {ds : Text} (h : isAsciiDigit d) (hzero : d ≠ '0') :
    10 ^ ds.length ≤ digitsValue (d :: ds) := by
  have hpos : 0 < digitValue d := by
    rw [Nat.pos_iff_ne_zero]
    intro hvalue
    have hchar := (digitChar_of_isAsciiDigit h).2
    rw [← digitValue, hvalue] at hchar
    exact hzero hchar.symm
  have hfirst := Nat.mul_le_mul_right (10 ^ ds.length) hpos
  rw [digitsValue_cons]
  omega

/-- Numerals of equal length stand to each other as their values do. -/
theorem order_agrees_digitsValue {s t : Text} (hs : ∀ d ∈ s, isAsciiDigit d)
    (ht : ∀ d ∈ t, isAsciiDigit d) (hlen : s.length = t.length) :
    Agrees (order s t) (· < ·) (digitsValue s) (digitsValue t) := by
  induction s generalizing t with
  | nil =>
    obtain rfl := List.length_eq_zero_iff.1 hlen.symm
    exact .compare_nat 0 0
  | cons c cs ih =>
    cases t with
    | nil => cases hlen
    | cons d ds =>
      rw [List.forall_mem_cons] at hs ht
      have hlen : cs.length = ds.length := Nat.succ.inj hlen
      have htail := ih hs.2 ht.2 hlen
      have hcs := digitsValue_lt hs.2
      have hds := digitsValue_lt ht.2
      have hzero : '0'.toNat ≤ c.toNat ∧ '0'.toNat ≤ d.toNat := by
        have h := hs.1
        have h' := ht.1
        rw [isAsciiDigit, Bool.and_eq_true, decide_eq_true_eq, decide_eq_true_eq] at h h'
        exact ⟨UInt32.le_iff_toNat_le.1 h.1, UInt32.le_iff_toNat_le.1 h'.1⟩
      rw [order, digitsValue_cons, digitsValue_cons, hlen]
      rw [hlen] at hcs
      rcases Nat.lt_trichotomy c.toNat d.toNat with hlt | heq | hgt
      · have hfirst : (digitValue c + 1) * 10 ^ ds.length ≤ digitValue d * 10 ^ ds.length :=
          Nat.mul_le_mul_right _ (by unfold digitValue; omega)
        rw [Nat.add_one_mul] at hfirst
        rw [Nat.compare_eq_lt.2 hlt]
        exact .of_lt rfl (by omega) (by omega) (by omega)
      · have hfirst : digitValue c = digitValue d := by rw [digitValue, heq, digitValue]
        rw [Nat.compare_eq_eq.2 heq, hfirst]
        refine ⟨htail.lt.trans ?_, htail.eq.trans ?_, htail.gt.trans ?_⟩ <;> omega
      · have hfirst : (digitValue d + 1) * 10 ^ ds.length ≤ digitValue c * 10 ^ ds.length :=
          Nat.mul_le_mul_right _ (by unfold digitValue; omega)
        rw [Nat.add_one_mul] at hfirst
        rw [Nat.compare_eq_gt.2 hgt]
        exact .of_gt rfl (by omega) (by omega) (by omega)

end Text

namespace Version

/-! ## Identifiers -/

/-- What an identifier of a prerelease means. -/
inductive Identifier where
  | number (value : Nat)
  | word (text : Text)
  deriving DecidableEq, Repr

namespace Identifier

/-- An identifier of digits means their value, and any other one its characters. -/
def ofText (s : Text) : Identifier :=
  if s.all Text.isAsciiDigit then number (Text.digitsValue s) else word s

/-- Numbers stand below words; numbers are ordered by value, and words by their characters. -/
inductive Below : Identifier → Identifier → Prop
  | numbers {m n : Nat} : m < n → Below (number m) (number n)
  | numberWord (m : Nat) (s : Text) : Below (number m) (word s)
  | words {s t : Text} : List.Lex (· < ·) s t → Below (word s) (word t)

end Identifier

/-- Nothing is wrong with an identifier of a prerelease. -/
def IsIdentifier (s : Text) : Prop := identifierFault? .prerelease s = none

theorem IsIdentifier.ne_nil {s : Text} (h : IsIdentifier s) : s ≠ [] := by
  rintro rfl
  cases h

theorem IsIdentifier.hasLeadingZero {s : Text} (h : IsIdentifier s)
    (hdigits : s.all Text.isAsciiDigit) : hasLeadingZero s = false := by
  have hne := List.isEmpty_eq_false_iff.2 h.ne_nil
  rw [IsIdentifier, identifierFault?, if_neg (Bool.eq_false_iff.1 hne)] at h
  rw [Bool.eq_false_iff]
  intro hzero
  rw [if_pos ⟨rfl, hdigits, hzero⟩] at h
  cases h

/-- Of two numerals without leading zeros the longer one has the greater value. -/
theorem digitsValue_lt_of_shorter {a b : Text} (hne : a ≠ [])
    (ha : ∀ d ∈ a, Text.isAsciiDigit d) (hb : ∀ d ∈ b, Text.isAsciiDigit d)
    (hzero : hasLeadingZero b = false) (h : a.length < b.length) :
    Text.digitsValue a < Text.digitsValue b := by
  have hlen : 1 < b.length := Nat.lt_of_le_of_lt (List.length_pos_iff.2 hne) h
  have hhead := head?_ne_of_hasLeadingZero hzero hlen
  cases b with
  | nil => cases h
  | cons d ds =>
    have hd : d ≠ '0' := fun hd => hhead (congrArg some hd)
    calc Text.digitsValue a < 10 ^ a.length := Text.digitsValue_lt ha
      _ ≤ 10 ^ ds.length := Nat.pow_le_pow_right (by decide) (Nat.le_of_lt_succ h)
      _ ≤ Text.digitsValue (d :: ds) :=
        Text.pow_le_digitsValue (hb d List.mem_cons_self) hd

/-- Numerals without leading zeros stand to each other as their values do. -/
theorem compareNumerals_agrees {a b : Text} (ha : IsIdentifier a) (hb : IsIdentifier b)
    (hda : a.all Text.isAsciiDigit) (hdb : b.all Text.isAsciiDigit) :
    Agrees (compareNumerals a b) (· < ·) (Text.digitsValue a) (Text.digitsValue b) := by
  have hall := List.all_eq_true.1 hda
  have hall' := List.all_eq_true.1 hdb
  show Agrees ((compare a.length b.length).then (Text.order a b)) _ _ _
  rcases Nat.lt_trichotomy a.length b.length with hlt | heq | hgt
  · have hvalue := digitsValue_lt_of_shorter ha.ne_nil hall hall' (hb.hasLeadingZero hdb) hlt
    rw [Nat.compare_eq_lt.2 hlt]
    exact .of_lt rfl hvalue (Nat.ne_of_lt hvalue) (Nat.lt_asymm hvalue)
  · rw [Nat.compare_eq_eq.2 heq]
    exact Text.order_agrees_digitsValue hall hall' heq
  · have hvalue := digitsValue_lt_of_shorter hb.ne_nil hall' hall (ha.hasLeadingZero hda) hgt
    rw [Nat.compare_eq_gt.2 hgt]
    exact .of_gt rfl hvalue (Nat.ne_of_gt hvalue) (Nat.lt_asymm hvalue)

theorem isNumeric_eq {s : Text} (h : IsIdentifier s) :
    isNumeric s = s.all Text.isAsciiDigit := by
  rw [isNumeric, List.isEmpty_eq_false_iff.2 h.ne_nil, Bool.not_false, Bool.true_and]

/-- **Written identifiers stand to each other as what they mean.** -/
theorem compareIdentifier_agrees {a b : Text} (ha : IsIdentifier a) (hb : IsIdentifier b) :
    Agrees (compareIdentifier a b) Identifier.Below (.ofText a) (.ofText b) := by
  rw [compareIdentifier_eq, isNumeric_eq ha, isNumeric_eq hb, Identifier.ofText,
    Identifier.ofText]
  cases hda : a.all Text.isAsciiDigit <;> cases hdb : b.all Text.isAsciiDigit
  · have h := Text.order_agrees a b
    exact ⟨h.lt.trans ⟨.words, fun | .words h => h⟩, h.eq.trans (by simp),
      h.gt.trans ⟨.words, fun | .words h => h⟩⟩
  · exact .of_gt rfl (.numberWord _ _) nofun nofun
  · exact .of_lt rfl (.numberWord _ _) nofun nofun
  · have h := compareNumerals_agrees ha hb hda hdb
    exact ⟨h.lt.trans ⟨.numbers, fun | .numbers h => h⟩, h.eq.trans (by simp),
      h.gt.trans ⟨.numbers, fun | .numbers h => h⟩⟩

/-- Lists of identifiers stand to each other as in a dictionary. -/
theorem compareIdentifiers_agrees {as bs : List Text} (ha : ∀ a ∈ as, IsIdentifier a)
    (hb : ∀ b ∈ bs, IsIdentifier b) :
    Agrees (compareIdentifiers as bs) (List.Lex Identifier.Below) (as.map .ofText)
      (bs.map .ofText) := by
  induction as generalizing bs with
  | nil =>
    cases bs with
    | nil => exact ⟨⟨nofun, nofun⟩, ⟨fun _ => rfl, fun _ => rfl⟩, ⟨nofun, nofun⟩⟩
    | cons b bs => exact .of_lt rfl .nil nofun nofun
  | cons a as ih =>
    cases bs with
    | nil => exact .of_gt rfl .nil nofun nofun
    | cons b bs =>
      rw [List.forall_mem_cons] at ha hb
      exact (compareIdentifier_agrees ha.1 hb.1).cons (ih ha.2 hb.2)

/-! ## Prereleases -/

/-- The identifiers of a prerelease, or none for a release. -/
abbrev Stage := Option (List Identifier)

/-- What a prerelease text means. -/
def stageOf (prerelease : Option Text) : Stage :=
  prerelease.map fun text => (Text.split '.' text).map .ofText

/-- Prereleases stand below the release, and among each other as their identifiers do. -/
inductive Stage.Below : Stage → Stage → Prop
  | release (identifiers : List Identifier) : Below (some identifiers) none
  | prereleases {a b : List Identifier} : List.Lex Identifier.Below a b → Below (some a) (some b)

theorem comparePrerelease_agrees {p q : Option Text}
    (hp : ∀ text ∈ p, ∀ identifier ∈ Text.split '.' text, IsIdentifier identifier)
    (hq : ∀ text ∈ q, ∀ identifier ∈ Text.split '.' text, IsIdentifier identifier) :
    Agrees (comparePrerelease p q) Stage.Below (stageOf p) (stageOf q) := by
  cases p with
  | none =>
    cases q with
    | none => exact ⟨⟨nofun, nofun⟩, ⟨fun _ => rfl, fun _ => rfl⟩, ⟨nofun, nofun⟩⟩
    | some b => exact .of_gt rfl (.release _) nofun nofun
  | some a =>
    cases q with
    | none => exact .of_lt rfl (.release _) nofun nofun
    | some b =>
      have h := compareIdentifiers_agrees (hp a rfl) (hq b rfl)
      exact ⟨h.lt.trans ⟨.prereleases, fun | .prereleases h => h⟩,
        h.eq.trans (Option.some_inj (a := _)).symm,
        h.gt.trans ⟨.prereleases, fun | .prereleases h => h⟩⟩

/-! ## Versions -/

/-- The rank of a version: its three numbers, and what its prerelease means. -/
def rank (v : Version) : Nat × Nat × Nat × Stage :=
  (v.major.toNat, v.minor.toNat, v.patch.toNat, stageOf v.prerelease)

/-- The order of Semantic Versioning: the first number that differs decides, then the stage. -/
def RanksBelow : Nat × Nat × Nat × Stage → Nat × Nat × Nat × Stage → Prop :=
  Prod.Lex (· < ·) (Prod.Lex (· < ·) (Prod.Lex (· < ·) Stage.Below))

theorem compare_word (m n : UInt64) : compare m n = compare m.toNat n.toNat := by
  show compareOfLessAndEq m n = compareOfLessAndEq m.toNat n.toNat
  simp only [compareOfLessAndEq, UInt64.lt_iff_toNat_lt, UInt64.toNat_inj]

theorem isIdentifier_of_read {s : Text} {v : Version} (h : read s = .ok v) :
    ∀ text ∈ v.prerelease, ∀ identifier ∈ Text.split '.' text, IsIdentifier identifier := by
  intro text htext identifier hidentifier
  have hdotted : Dotted .prerelease text := (wellFormed_of_read h).1.prerelease text htext
  exact (dotted_iff.1 hdotted identifier hidentifier).identifierFault?

/--
**The order of versions is that of Semantic Versioning.** Of two versions that were read, the one
that ranks below the other is the one that precedence puts below it, and they are equal exactly if
their ranks are: their numbers agree, and their prereleases mean the same.
-/
theorem precedence_agrees {s t : Text} {v w : Version} (hv : read s = .ok v)
    (hw : read t = .ok w) : Agrees (precedence v w) RanksBelow v.rank w.rank := by
  rw [precedence, compare_word, compare_word, compare_word]
  have hstage := comparePrerelease_agrees (isIdentifier_of_read hv) (isIdentifier_of_read hw)
  have hpatch := (Agrees.compare_nat v.patch.toNat w.patch.toNat).lex hstage
  have hminor := (Agrees.compare_nat v.minor.toNat w.minor.toNat).lex hpatch
  exact (Agrees.compare_nat v.major.toNat w.major.toNat).lex hminor

/-- A prerelease with a number that has more than 64 bits, and one with a word in its place. -/
theorem precedence_agrees_largeNumbers :
    ∃ v w, read "1.0.0-rc.18446744073709551616" = .ok v ∧ read "1.0.0-rc.9a+b" = .ok w ∧
      Agrees (precedence v w) RanksBelow v.rank w.rank ∧ RanksBelow v.rank w.rank := by
  have hv : read "1.0.0-rc.18446744073709551616" =
      .ok ⟨1, 0, 0, some "rc.18446744073709551616", none, "1.0.0-rc.18446744073709551616"⟩ := by
    decide +kernel
  have hw : read "1.0.0-rc.9a+b" =
      .ok ⟨1, 0, 0, some "rc.9a", some "b", "1.0.0-rc.9a+b"⟩ := by
    decide +kernel
  have h := precedence_agrees hv hw
  exact ⟨_, _, hv, hw, h, h.lt.1 (by decide +kernel)⟩

end Version

end CommonChangelog
