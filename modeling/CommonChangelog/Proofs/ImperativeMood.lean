import CommonChangelog.Proofs.UpperCase
import Mathlib.Logic.Function.Iterate

/-!
# Openings that are left after rephrasing

The openings are rephrased once each, in a fixed order, and the first letter goes into upper case
last. What is written for an opening with a verb is in the imperative and matches no opening again.
The lead-in `This release includes` leaves only what follows it, and its turn comes last, so an
opening right behind it stays. Upper case takes the ligature of `f` and `i` apart, so an opening can
come up there that was none before. These are the only ways in which a second pass changes anything.

Main result: `Title.settled_toImperative_iff`.
-/

namespace CommonChangelog.Title

open Text (afterFold? capitalize fold upperChar)

/-! ## Openings -/

/-- The text begins with none of the narrative openings. -/
def Settled (s : Text) : Prop := ∀ r ∈ rephrasings, opening [] r.words s = none

instance : DecidablePred Settled := fun s =>
  inferInstanceAs (Decidable (∀ r ∈ rephrasings, opening [] r.words s = none))

/-- The opening that is dropped without a verb in its place. -/
def leadIn : Rephrasing :=
  { words := [.fixed "this", .fixed "release", .fixed "includes"], verb := "" }

/-- The text is a lead-in and this rest. -/
def LeadsIn (s rest : Text) : Prop := ∃ word, opening [] leadIn.words s = some (word, rest)

/-- The text is a past tense whose first two letters are one character. -/
def LigatureOpens (s : Text) : Prop :=
  ∃ cs, s = 'ﬁ' :: cs ∧ (opening [] [.fixed "xed"] cs).isSome

theorem rephrasings_eq : rephrasings = rephrasings.dropLast ++ [leadIn] := rfl

theorem mem_rephrasings_of_mem_dropLast {r : Rephrasing} (h : r ∈ rephrasings.dropLast) :
    r ∈ rephrasings :=
  List.dropLast_subset rephrasings h

theorem verb_ne_nil : ∀ r ∈ rephrasings.dropLast, r.verb ≠ [] := by decide

/-! ## The first word of an opening -/

/-- The word that an opening begins with. -/
def Rephrasing.firstWord (r : Rephrasing) : Text :=
  match r.words with
  | .fixed word :: _ => word
  | _ => []

theorem words_eq : ∀ r ∈ rephrasings, r.words = .fixed r.firstWord :: r.words.tail := by decide

/-- The two words differ at a place that both have. -/
def clash : Text → Text → Bool
  | p :: ps, c :: cs => p != c || clash ps cs
  | _, _ => false

theorem afterFold?_of_clash {word w : Text} (h : clash word (w.map fold)) (t : Text) :
    afterFold? word (w ++ t) = none := by
  induction word generalizing w with
  | nil => exact absurd h (by cases w <;> exact Bool.false_ne_true)
  | cons p ps ih =>
    cases w with
    | nil => cases h
    | cons c cs =>
      rw [List.map_cons, clash, Bool.or_eq_true, bne_iff_ne] at h
      rw [List.cons_append, afterFold?]
      split
      · rename_i hp
        exact ih (h.resolve_left fun hne => hne hp)
      · rfl

variable {r : Rephrasing} {s : Text}

theorem opening_of_clash (hr : r ∈ rephrasings) {w : Text} (h : clash r.firstWord (w.map fold))
    (t : Text) : opening [] r.words (w ++ t) = none := by
  rw [words_eq r hr, opening, afterFold?_of_clash h]
  rfl

/-- The number of characters that the fixed words of an opening have. -/
def width : List OpeningWord → Nat
  | [] => 0
  | .fixed word :: words => word.length + width words
  | .any :: words => width words

theorem length_of_opening {captured word rest : Text} {words : List OpeningWord}
    (h : opening captured words s = some (word, rest)) :
    rest.length + width words ≤ s.length := by
  induction words generalizing captured s with
  | nil =>
    cases h
    exact Nat.le_refl _
  | cons first words ih =>
    cases first with
    | fixed text =>
      obtain ⟨t, ht, h⟩ := Option.bind_eq_some_iff.1 h
      obtain ⟨u, hu, h⟩ := Option.bind_eq_some_iff.1 h
      have hblanks := (Text.suffix_of_afterBlanks? hu).length_le
      have hrest := ih h
      obtain ⟨w, rfl, rfl⟩ := Text.afterFold?_eq_some.1 ht
      rw [width, List.length_map, List.length_append]
      omega
    | any =>
      obtain ⟨⟨open_, t⟩, ht, h⟩ := Option.bind_eq_some_iff.1 h
      obtain ⟨u, hu, h⟩ := Option.bind_eq_some_iff.1 h
      have hsuffix := ((Text.suffix_of_afterBlanks? hu).trans (Text.suffix_of_run? ht)).length_le
      have hrest := ih h
      rw [width]
      omega

theorem LeadsIn.length_add_le {rest : Text} (h : LeadsIn s rest) : rest.length + 19 ≤ s.length := by
  obtain ⟨word, h⟩ := h
  exact length_of_opening h

/-- What is written for an opening with a verb begins with no opening. -/
theorem settled_verb (hr : r ∈ rephrasings.dropLast) (t : Text) : Settled (r.verb ++ t) := by
  have hclash : ∀ q ∈ rephrasings, ∀ r ∈ rephrasings.dropLast,
      clash q.firstWord (r.verb.map fold) := by decide
  exact fun q hq => opening_of_clash hq (hclash q hq r hr) t

theorem LeadsIn.opening_eq_none {rest : Text} (h : LeadsIn s rest) :
    ∀ r ∈ rephrasings.dropLast, opening [] r.words s = none := by
  have hclash : ∀ r ∈ rephrasings.dropLast, clash r.firstWord leadIn.firstWord := by decide
  obtain ⟨word, h⟩ := h
  obtain ⟨t, ht, -⟩ := Option.bind_eq_some_iff.1 h
  obtain ⟨w, rfl, hw⟩ := Text.afterFold?_eq_some.1 ht
  intro r hr
  refine opening_of_clash (mem_rephrasings_of_mem_dropLast hr) ?_ t
  rw [hw]
  exact hclash r hr

/-! ## One pass -/

theorem Rephrasing.apply_of_none (h : opening [] r.words s = none) : r.apply s = s := by
  rw [apply, h]

theorem Rephrasing.exists_apply {found : Text × Text} (h : opening [] r.words s = some found) :
    ∃ t, r.apply s = r.verb ++ t := by
  obtain ⟨word, rest⟩ := found
  rw [apply, h]
  exact ⟨_, List.append_assoc _ _ _⟩

theorem leadIn_apply {word rest : Text} (h : opening [] leadIn.words s = some (word, rest)) :
    leadIn.apply s = rest := by
  rw [Rephrasing.apply, h]
  rfl

theorem foldl_apply_of_none {list : List Rephrasing}
    (h : ∀ r ∈ list, opening [] r.words s = none) :
    list.foldl (fun t r => r.apply t) s = s := by
  induction list with
  | nil => rfl
  | cons r list ih =>
    rw [List.forall_mem_cons] at h
    rw [List.foldl_cons, Rephrasing.apply_of_none h.1, ih h.2]

/-- The first opening that is there is rephrased, and then no other is there. -/
theorem foldl_apply_cases {list : List Rephrasing} (hlist : list ⊆ rephrasings.dropLast)
    (s : Text) :
    (∀ r ∈ list, opening [] r.words s = none) ∨
    ∃ r ∈ list, ∃ t, list.foldl (fun t r => r.apply t) s = r.verb ++ t := by
  induction list with
  | nil => exact .inl fun _ hr => absurd hr List.not_mem_nil
  | cons r list ih =>
    rw [List.cons_subset] at hlist
    rw [List.foldl_cons, List.forall_mem_cons]
    cases hr : opening [] r.words s with
    | none =>
      rw [Rephrasing.apply_of_none hr]
      rcases ih hlist.2 with hnone | ⟨q, hq, t, ht⟩
      · exact .inl ⟨rfl, hnone⟩
      · exact .inr ⟨q, List.mem_cons_of_mem r hq, t, ht⟩
    | some found =>
      obtain ⟨t, ht⟩ := Rephrasing.exists_apply hr
      refine .inr ⟨r, List.mem_cons_self, t, ?_⟩
      rw [ht]
      exact foldl_apply_of_none fun q hq =>
        settled_verb hlist.1 t q (mem_rephrasings_of_mem_dropLast (hlist.2 hq))

theorem capitalize_verb (hr : r ∈ rephrasings.dropLast) (t : Text) :
    capitalize (r.verb ++ t) = r.verb ++ t := by
  have hcapital : ∀ r ∈ rephrasings.dropLast, (r.verb.head?.map upperChar) =
      r.verb.head?.map fun c => [c] := by decide
  obtain ⟨c, cs, hverb⟩ := List.exists_cons_of_ne_nil (verb_ne_nil r hr)
  have hc := hcapital r hr
  rw [hverb, List.head?_cons, Option.map_some, Option.map_some, Option.some.injEq] at hc
  rw [hverb, List.cons_append, capitalize, hc, List.singleton_append]

theorem toImperative_of_settled (h : Settled s) : toImperative s = capitalize s := by
  rw [toImperative, foldl_apply_of_none h]

/-- A pass writes a verb, drops a lead-in, or finds no opening. -/
theorem toImperative_cases (s : Text) :
    (∃ r ∈ rephrasings.dropLast, ∃ t, toImperative s = r.verb ++ t) ∨
    (∃ rest, LeadsIn s rest ∧ toImperative s = capitalize rest) ∨ Settled s := by
  rw [toImperative, rephrasings_eq, List.foldl_append, List.foldl_cons, List.foldl_nil]
  rcases foldl_apply_cases (List.Subset.refl _) s with hnone | ⟨r, hr, t, ht⟩
  · rw [foldl_apply_of_none hnone]
    cases hlead : opening [] leadIn.words s with
    | none =>
      refine .inr (.inr ?_)
      rw [Settled, rephrasings_eq, List.forall_mem_append, List.forall_mem_singleton]
      exact ⟨hnone, hlead⟩
    | some found =>
      obtain ⟨word, rest⟩ := found
      exact .inr (.inl ⟨rest, ⟨word, hlead⟩, by rw [leadIn_apply hlead]⟩)
  · refine .inl ⟨r, hr, t, ?_⟩
    have hleadIn : leadIn ∈ rephrasings := by rw [rephrasings_eq]; simp
    rw [ht, Rephrasing.apply_of_none (settled_verb hr t leadIn hleadIn), capitalize_verb hr]

theorem toImperative_of_leadsIn {rest : Text} (h : LeadsIn s rest) :
    toImperative s = capitalize rest := by
  obtain ⟨word, hlead⟩ := id h
  rw [toImperative, rephrasings_eq, List.foldl_append, foldl_apply_of_none h.opening_eq_none,
    List.foldl_cons, List.foldl_nil, leadIn_apply hlead]

/-! ## Openings in upper case -/

/-- The first letter of an opening has no other small or capital forms than the two of ASCII. -/
theorem exists_firstWord (hr : r ∈ rephrasings) :
    ∃ p ps, r.firstWord = p :: ps ∧ Text.isPlainLetter p ∧ p ≠ 'i' ∧ p ≠ 'k' := by
  have hfirst : ∀ r ∈ rephrasings, r.firstWord.head?.any fun p =>
      Text.isPlainLetter p && p != 'i' && p != 'k' := by decide
  obtain ⟨p, hp, h⟩ := (Option.any_eq_true _ _).1 (hfirst r hr)
  obtain ⟨ps, hword⟩ := List.head?_eq_some_iff.1 hp
  rw [Bool.and_eq_true, Bool.and_eq_true, bne_iff_ne, bne_iff_ne] at h
  exact ⟨p, ps, hword, h.1.1, h.1.2, h.2⟩

/-- An opening is read in a text whatever the case of its first letter. -/
theorem opening_cons_congr {c d : Char} (h : upperChar c = [d]) (hr : r ∈ rephrasings)
    (cs : Text) : opening [] r.words (d :: cs) = opening [] r.words (c :: cs) := by
  obtain ⟨p, ps, hword, hletter, hi, hk⟩ := exists_firstWord hr
  have hiff := Text.fold_eq_iff_of_upperChar h hletter hi hk
  have hfold : afterFold? r.firstWord (d :: cs) = afterFold? r.firstWord (c :: cs) := by
    rw [hword, afterFold?, afterFold?]
    exact if_congr ((eq_comm.trans hiff).trans eq_comm) rfl rfl
  rw [words_eq r hr, opening, opening, hfold]

theorem settled_cons_of_le {c : Char} (hc : 0x80 ≤ c.toNat) (cs : Text) : Settled (c :: cs) := by
  intro r hr
  obtain ⟨p, ps, hword, hletter, -, hk⟩ := exists_firstWord hr
  have hne : p ≠ fold c := by
    rintro rfl
    exact absurd (Text.lt_of_fold hletter hk) (Nat.not_lt.2 hc)
  rw [words_eq r hr, opening, hword, afterFold?, if_neg hne]
  rfl

/-- The table of longer upper cases begins beyond ASCII, and one ligature begins an opening. -/
theorem upperSpecial_eq : ∀ entry ∈ Text.upperSpecial, 0x80 ≤ entry.1 ∧
    (entry.1 = 'ﬁ'.toNat ∨
      ∀ r ∈ rephrasings, clash r.firstWord ((entry.2.map Char.ofNat).map fold)) := by
  decide +kernel

theorem settled_ligature_iff {cs : Text} :
    Settled ('F' :: 'I' :: cs) ↔ opening [] [.fixed "xed"] cs = none := by
  have hrules : ∀ r ∈ rephrasings, r.words = [.fixed "fixed"] ∨ clash r.firstWord "fi" := by decide
  constructor
  · intro h
    exact h { words := [.fixed "fixed"], verb := "Fix " } (by simp [rephrasings])
  · intro h r hr
    rcases hrules r hr with hwords | hclash
    · rw [hwords]
      exact h
    · exact opening_of_clash hr (w := "FI") hclash cs

/-- Only a ligature becomes an opening when its letter goes into upper case. -/
theorem settled_capitalize_iff : Settled (capitalize s) ↔ Settled s ∧ ¬LigatureOpens s := by
  cases s with
  | nil =>
    refine (and_iff_left ?_).symm
    rintro ⟨cs, hcs, -⟩
    cases hcs
  | cons c cs =>
    by_cases hligature : c = 'ﬁ'
    · subst hligature
      have hsettled : Settled ('ﬁ' :: cs) := settled_cons_of_le (by decide) cs
      have hupper : capitalize ('ﬁ' :: cs) = 'F' :: 'I' :: cs := by
        rw [capitalize, show upperChar 'ﬁ' = ['F', 'I'] by decide +kernel]
        rfl
      rw [hupper, settled_ligature_iff, and_iff_right hsettled, ← Option.not_isSome_iff_eq_none,
        not_iff_not]
      constructor
      · exact fun h => ⟨cs, rfl, h⟩
      · rintro ⟨ds, hds, h⟩
        cases hds
        exact h
    · have hnone : ¬LigatureOpens (c :: cs) := by
        rintro ⟨ds, hds, -⟩
        exact hligature (List.cons.inj hds).1
      rw [and_iff_left hnone, capitalize]
      have hsingle : ∀ d, upperChar c = [d] →
          (Settled (upperChar c ++ cs) ↔ Settled (c :: cs)) := by
        intro d hd
        rw [hd, List.singleton_append]
        exact forall₂_congr fun r hr => by rw [opening_cons_congr hd hr]
      rcases Text.upperChar_cases c with ⟨-, hd⟩ | ⟨-, hd⟩ | ⟨entry, hentry, hcode, hupper⟩
      · exact hsingle _ hd
      · exact hsingle _ hd
      · obtain ⟨hge, hentry⟩ := upperSpecial_eq entry hentry
        have hclash := hentry.resolve_left fun h =>
          hligature (Char.toNat_inj.1 (hcode.trans h))
        rw [hupper]
        exact iff_of_true (fun r hr => opening_of_clash hr (hclash r hr) cs)
          (settled_cons_of_le (hcode ▸ hge) cs)

/-! ## Passes -/

theorem capitalize_toImperative (s : Text) : capitalize (toImperative s) = toImperative s :=
  Text.capitalize_capitalize _

/-- A pass changes what an earlier pass left only if there is an opening in it. -/
theorem toImperative_toImperative_iff :
    toImperative (toImperative s) = toImperative s ↔ Settled (toImperative s) := by
  constructor
  · intro h
    rcases toImperative_cases (toImperative s) with ⟨r, hr, t, ht⟩ | ⟨rest, hrest, ht⟩ | hsettled
    · rw [← h, ht]
      exact settled_verb hr t
    · have hle := hrest.length_add_le
      have hcapital := Text.length_capitalize_le rest
      rw [← ht, h] at hcapital
      omega
    · exact hsettled
  · intro h
    rw [toImperative_of_settled h, capitalize_toImperative]

/-- What a pass leaves has an opening only if upper case made one or a lead-in hid one. -/
theorem settled_toImperative :
    Settled (toImperative s) ↔
      ¬LigatureOpens s ∧ ∀ rest, LeadsIn s rest → Settled rest ∧ ¬LigatureOpens rest := by
  constructor
  · intro h
    refine ⟨fun hligature => ?_, fun rest hrest => ?_⟩
    · obtain ⟨cs, rfl, -⟩ := id hligature
      rw [toImperative_of_settled (settled_cons_of_le (by decide) cs)] at h
      exact (settled_capitalize_iff.1 h).2 hligature
    · rw [toImperative_of_leadsIn hrest] at h
      exact settled_capitalize_iff.1 h
  · rintro ⟨hligature, hlead⟩
    rcases toImperative_cases s with ⟨r, hr, t, ht⟩ | ⟨rest, hrest, ht⟩ | hsettled
    · rw [ht]
      exact settled_verb hr t
    · rw [ht]
      exact settled_capitalize_iff.2 (hlead rest hrest)
    · rw [toImperative_of_settled hsettled]
      exact settled_capitalize_iff.2 ⟨hsettled, hligature⟩

/-- After some passes no opening is left: whatever else they do, they drop one lead-in each. -/
theorem exists_settled (s : Text) : ∃ n, Settled (toImperative^[n + 1] s) := by
  induction hlength : s.length using Nat.strongRecOn generalizing s with
  | ind length ih =>
    have hbehind : ∀ u rest, u.length ≤ s.length + 2 → LeadsIn u rest →
        ∃ n, Settled (toImperative^[n + 1] (capitalize rest)) := by
      intro u rest hu hrest
      have hle := hrest.length_add_le
      have hcapital := Text.length_capitalize_le rest
      exact ih _ (by omega) _ rfl
    rcases toImperative_cases s with ⟨r, hr, t, ht⟩ | ⟨rest, hrest, ht⟩ | hsettled
    · exact ⟨0, by rw [Function.iterate_one, ht]; exact settled_verb hr t⟩
    · obtain ⟨n, hn⟩ := hbehind s rest (Nat.le_add_right _ _) hrest
      exact ⟨n + 1, by rwa [Function.iterate_succ_apply, ht]⟩
    · -- Upper case may have made an opening, which the next pass looks at.
      have hshort : (toImperative s).length ≤ s.length + 2 := by
        rw [toImperative_of_settled hsettled]
        exact Text.length_capitalize_le s
      rcases toImperative_cases (toImperative s) with
        ⟨r, hr, t, ht⟩ | ⟨rest, hrest, ht⟩ | hsettled'
      · refine ⟨1, ?_⟩
        rw [Function.iterate_succ_apply, Function.iterate_one, ht]
        exact settled_verb hr t
      · obtain ⟨n, hn⟩ := hbehind _ rest hshort hrest
        exact ⟨n + 2, by rwa [Function.iterate_succ_apply, Function.iterate_succ_apply, ht]⟩
      · exact ⟨0, hsettled'⟩

/--
**One pass leaves no opening exactly if upper case makes none and a lead-in hides none.** That is,
the text is no past tense written with a ligature, and if it begins with `This release includes`,
what follows is neither that nor begins with an opening. A second pass changes nothing exactly if
the first one left no opening. From every text finitely many passes lead to one without an opening,
and there they stop.
-/
theorem settled_toImperative_iff (s : Text) :
    (Settled (toImperative s) ↔
      ¬LigatureOpens s ∧ ∀ rest, LeadsIn s rest → Settled rest ∧ ¬LigatureOpens rest) ∧
    (toImperative (toImperative s) = toImperative s ↔ Settled (toImperative s)) ∧
    ∃ n, Settled (toImperative^[n + 1] s) ∧ toImperative^[n + 2] s = toImperative^[n + 1] s := by
  refine ⟨settled_toImperative, toImperative_toImperative_iff, ?_⟩
  obtain ⟨n, hn⟩ := exists_settled s
  refine ⟨n, hn, ?_⟩
  rw [Function.iterate_succ_apply'] at hn ⊢
  rw [Function.iterate_succ_apply', toImperative_toImperative_iff]
  exact hn

/-- A lead-in hides a past tense: the first pass leaves it, and a second one rephrases it. -/
theorem toImperative_leaves_opening :
    toImperative "This release includes added caching" = "Added caching" ∧
      ¬Settled "Added caching" ∧ toImperative "Added caching" = "Add caching" := by
  decide +kernel

end CommonChangelog.Title
