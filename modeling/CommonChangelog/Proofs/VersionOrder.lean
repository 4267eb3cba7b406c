import CommonChangelog.Proofs.StableSort
import CommonChangelog.Version.Order

/-!
# The order of versions is a total preorder

Each comparison is shown to be transitive from the one it is built on: characters, texts,
identifiers, identifier lists, prereleases, versions, labels. Up to prereleases equal rank means
equal text; versions of equal rank may differ in their build, and labels that are no versions all
have the same rank.

Main statement: `newestFirst_preorder`. Sorting needs of it only `mayPrecede_trans` and
`mayPrecede_total`.
-/

namespace CommonChangelog

open Std

namespace Text

/-! ## Texts -/

theorem order_eq_compareLex (s t : Text) :
    order s t = List.compareLex (compareOn Char.toNat) s t := by
  induction s generalizing t with
  | nil => cases t <;> rfl
  | cons c cs ih =>
    cases t with
    | nil => rfl
    | cons d ds => rw [order, List.compareLex_cons_cons, ih]; rfl

theorem order_eq : order = List.compareLex (compareOn Char.toNat) :=
  funext fun s => funext fun t => order_eq_compareLex s t

instance : LawfulEqCmp (compareOn Char.toNat) where
  eq_of_compare h := Char.toNat_inj.1 (Nat.compare_eq_eq.1 h)

instance : TransCmp order := by rw [order_eq]; infer_instance

instance : LawfulEqCmp order := by rw [order_eq]; infer_instance

theorem split_injective {sep : Char} {s t : Text} (h : split sep s = split sep t) : s = t := by
  rw [← join_split sep s, h, join_split]

end Text

namespace Version

/-! ## Identifiers -/

/-- The order of numerals without leading zeros. -/
def compareNumerals (a b : Text) : Ordering :=
  compareLex (compareOn List.length) Text.order a b

instance : TransCmp compareNumerals :=
  inferInstanceAs (TransCmp (compareLex (compareOn List.length) Text.order))

theorem compareNumerals_eq_eq {a b : Text} (h : compareNumerals a b = .eq) : a = b :=
  LawfulEqCmp.eq_of_compare (compareLex_eq_eq.1 h).2

theorem compareIdentifier_eq (a b : Text) :
    compareIdentifier a b =
      match isNumeric a, isNumeric b with
      | true, true => compareNumerals a b
      | true, false => .lt
      | false, true => .gt
      | false, false => Text.order a b := rfl

instance : TransCmp compareIdentifier where
  eq_swap {a b} := by
    rw [compareIdentifier_eq, compareIdentifier_eq]
    cases isNumeric a <;> cases isNumeric b
    · show Text.order a b = (Text.order b a).swap
      exact OrientedCmp.eq_swap
    · rfl
    · rfl
    · show compareNumerals a b = (compareNumerals b a).swap
      exact OrientedCmp.eq_swap
  isLE_trans {a b c} hab hbc := by
    rw [compareIdentifier_eq] at hab hbc ⊢
    cases ha : isNumeric a <;> cases hb : isNumeric b <;> cases hc : isNumeric c <;>
      simp only [ha, hb, hc] at hab hbc ⊢
    all_goals first
      | exact TransCmp.isLE_trans hab hbc
      | rfl
      | exact absurd hab Bool.false_ne_true
      | exact absurd hbc Bool.false_ne_true

instance : LawfulEqCmp compareIdentifier where
  eq_of_compare {a b} h := by
    rw [compareIdentifier_eq] at h
    cases ha : isNumeric a <;> cases hb : isNumeric b <;> simp only [ha, hb] at h
    · exact LawfulEqCmp.eq_of_compare h
    · cases h
    · cases h
    · exact compareNumerals_eq_eq h

theorem compareIdentifiers_eq_compareLex (as bs : List Text) :
    compareIdentifiers as bs = List.compareLex compareIdentifier as bs := by
  induction as generalizing bs with
  | nil => cases bs <;> rfl
  | cons a as ih =>
    cases bs with
    | nil => rfl
    | cons b bs => rw [compareIdentifiers, List.compareLex_cons_cons, ih]

theorem compareIdentifiers_eq : compareIdentifiers = List.compareLex compareIdentifier :=
  funext fun as => funext fun bs => compareIdentifiers_eq_compareLex as bs

instance : TransCmp compareIdentifiers := by rw [compareIdentifiers_eq]; infer_instance

instance : LawfulEqCmp compareIdentifiers := by rw [compareIdentifiers_eq]; infer_instance

/-! ## Prereleases -/

theorem comparePrerelease_some (a b : Text) :
    comparePrerelease (some a) (some b) =
      compareIdentifiers (Text.split '.' a) (Text.split '.' b) := rfl

instance : TransCmp comparePrerelease where
  eq_swap {p q} := by
    cases p <;> cases q
    · rfl
    · rfl
    · rfl
    · rw [comparePrerelease_some, comparePrerelease_some]
      exact OrientedCmp.eq_swap
  isLE_trans {p q r} hpq hqr := by
    cases p <;> cases q <;> cases r
    all_goals first
      | rw [comparePrerelease_some] at hpq hqr ⊢
        exact TransCmp.isLE_trans hpq hqr
      | rfl
      | exact absurd hpq Bool.false_ne_true
      | exact absurd hqr Bool.false_ne_true

instance : LawfulEqCmp comparePrerelease where
  compare_self {p} := ReflCmp.compare_self
  eq_of_compare {p q} h := by
    cases p with
    | none =>
      cases q with
      | none => rfl
      | some b => cases h
    | some a =>
      cases q with
      | none => cases h
      | some b =>
        rw [comparePrerelease_some] at h
        rw [Text.split_injective (LawfulEqCmp.eq_of_compare h)]

/-! ## Versions -/

/-- Only the prereleases are compared. -/
def compareTails (v w : Version) : Ordering := comparePrerelease v.prerelease w.prerelease

instance : TransCmp compareTails := transCmp_comap prerelease

theorem precedence_eq : precedence =
    compareLex (compareOn major) (compareLex (compareOn minor)
      (compareLex (compareOn patch) compareTails)) := rfl

instance : TransCmp precedence := by rw [precedence_eq]; infer_instance

theorem precedence_eq_eq {v w : Version} :
    precedence v w = .eq ↔
      v.major = w.major ∧ v.minor = w.minor ∧ v.patch = w.patch ∧ v.prerelease = w.prerelease := by
  rw [precedence_eq, compareLex_eq_eq, compareLex_eq_eq, compareLex_eq_eq]
  simp only [compareOn, compareTails, LawfulEqCmp.compare_eq_iff_eq]

/-! ## Labels -/

instance : TransCmp newestFirst where
  eq_swap {a b} := by
    unfold newestFirst
    cases read? a <;> cases read? b
    · rfl
    · rfl
    · rfl
    · rename_i v w
      show precedence w v = (precedence v w).swap
      exact OrientedCmp.eq_swap
  isLE_trans {a b c} hab hbc := by
    unfold newestFirst at hab hbc ⊢
    cases ha : read? a <;> cases hb : read? b <;> cases hc : read? c <;>
      simp only [ha, hb, hc] at hab hbc ⊢
    all_goals first
      | exact TransCmp.isLE_trans hbc hab
      | rfl
      | exact absurd hab Bool.false_ne_true
      | exact absurd hbc Bool.false_ne_true

theorem newestFirst_eq_eq {a b : Text} :
    newestFirst a b = .eq ↔
      (read? a = none ∧ read? b = none) ∨
        ∃ v w, read? a = some v ∧ read? b = some w ∧ v.major = w.major ∧ v.minor = w.minor ∧
          v.patch = w.patch ∧ v.prerelease = w.prerelease := by
  unfold newestFirst
  cases ha : read? a <;> cases hb : read? b
  · simp
  · simp
  · simp
  · simp only [precedence_eq_eq, reduceCtorEq, and_self, false_or, Option.some.injEq]
    constructor
    · intro h
      obtain ⟨h₁, h₂, h₃, h₄⟩ := h
      exact ⟨_, _, rfl, rfl, h₁.symm, h₂.symm, h₃.symm, h₄.symm⟩
    · intro h
      obtain ⟨_, _, rfl, rfl, h₁, h₂, h₃, h₄⟩ := h
      exact ⟨h₁.symm, h₂.symm, h₃.symm, h₄.symm⟩

theorem mayPrecede_trans (a b c : Text) (hab : mayPrecede a b) (hbc : mayPrecede b c) :
    mayPrecede a c := by
  unfold mayPrecede at hab hbc ⊢
  exact TransCmp.isLE_trans hab hbc

theorem mayPrecede_total (a b : Text) : mayPrecede a b || mayPrecede b a :=
  isLE_total a b

theorem labelsSorted_iff (labels : List Text) :
    labelsSorted labels ↔ labels.Pairwise fun a b => mayPrecede a b := by
  induction labels with
  | nil => exact ⟨fun _ => .nil, fun _ => rfl⟩
  | cons a rest ih =>
    cases rest with
    | nil => exact ⟨fun _ => List.pairwise_singleton _ a, fun _ => rfl⟩
    | cons b rest =>
      rw [labelsSorted, Bool.and_eq_true, ih, List.pairwise_cons (l := b :: rest)]
      refine and_congr_left fun hrest => ?_
      constructor
      · intro hab c hc
        rcases List.mem_cons.1 hc with rfl | hc
        · exact hab
        · exact mayPrecede_trans a b c hab ((List.pairwise_cons.1 hrest).1 c hc)
      · intro h
        exact h b List.mem_cons_self

/--
**Labels are totally preordered.** Comparing is reflexive, reverses with its arguments and is
transitive, whether or not the labels are versions. Two labels rank equal exactly if neither is a
version, or both are and agree in their numbers and their prerelease.
-/
theorem newestFirst_preorder (a b c : Text) :
    newestFirst a a = .eq ∧
    newestFirst a b = (newestFirst b a).swap ∧
    (newestFirst a b ≠ .gt → newestFirst b c ≠ .gt → newestFirst a c ≠ .gt) ∧
    (newestFirst a b = .eq ↔
      (isVersion a = false ∧ isVersion b = false) ∨
        ∃ v w, read? a = some v ∧ read? b = some w ∧ v.major = w.major ∧ v.minor = w.minor ∧
          v.patch = w.patch ∧ v.prerelease = w.prerelease) := by
  refine ⟨ReflCmp.compare_self, OrientedCmp.eq_swap, fun hab hbc => ?_, ?_⟩
  · rw [ne_eq, Ordering.ne_gt_iff_isLE] at hab hbc ⊢
    exact TransCmp.isLE_trans hab hbc
  · rw [newestFirst_eq_eq]
    simp only [isVersion, Option.isSome_eq_false_iff, Option.isNone_iff_eq_none]

end Version

end CommonChangelog
