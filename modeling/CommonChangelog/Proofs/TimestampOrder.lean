import CommonChangelog.Proofs.Calendar
import CommonChangelog.Proofs.SemanticPrecedence
import CommonChangelog.Proofs.VersionOrder

/-!
# Timestamps in the order of texts

A timestamp is made of numerals of fixed widths, the greatest unit first, so as texts two timestamps
compare like what their clocks show, and if that is the same, like their offsets. What a clock shows
is the instant shifted by the offset, and offsets compare in an order of their own, in which those
behind UTC come last, since `+` comes before `-`. Years have to have four digits: a sign stands
before any other.

Main result: `Timestamp.order_render`.
-/

namespace CommonChangelog

open Std

namespace Text

/-- Texts of equal length decide before what stands behind them. -/
theorem order_append {a b : Text} (h : a.length = b.length) (s t : Text) :
    order (a ++ s) (b ++ t) = (order a b).then (order s t) := by
  induction a generalizing b with
  | nil =>
    obtain rfl := List.length_eq_zero_iff.1 h.symm
    rfl
  | cons c cs ih =>
    cases b with
    | nil => cases h
    | cons d ds =>
      rw [List.cons_append, List.cons_append, order, order, ih (Nat.succ.inj h),
        Ordering.then_assoc]

theorem order_cons (c : Char) (s t : Text) : order (c :: s) (c :: t) = order s t := by
  rw [order, Nat.compare_eq_eq.2 rfl]
  rfl

end Text

namespace Timestamp

open Text (order)

/-- An outcome is that of a comparison if it is less and equal in the same cases. -/
theorem eq_compare {α : Type} [Ord α] [LT α] [LE α] [LawfulOrderOrd α] [LawfulOrderLT α]
    [LawfulEqOrd α] {outcome : Ordering} {x y : α} (hlt : outcome = .lt ↔ x < y)
    (heq : outcome = .eq ↔ x = y) : outcome = compare x y := by
  cases hcompare : compare x y with
  | lt => exact hlt.2 (Std.compare_eq_lt.1 hcompare)
  | eq => exact heq.2 (Std.compare_eq_iff_eq.1 hcompare)
  | gt =>
    cases houtcome : outcome with
    | lt => exact (Std.compare_eq_lt.2 (hlt.1 houtcome)).symm.trans hcompare
    | eq => exact (Std.compare_eq_iff_eq.2 (heq.1 houtcome)).symm.trans hcompare
    | gt => rfl

/-! ## Numerals of fixed width -/

section Padded

variable {width n m : Nat}

theorem isAsciiDigit_of_mem_padded (width n : Nat) :
    ∀ c ∈ padded width n, Text.isAsciiDigit c := by
  intro c hc
  rcases List.mem_append.1 hc with hc | hc
  · rw [(List.mem_replicate.1 hc).2]
    rfl
  · exact Text.isAsciiDigit_of_mem_ofNat hc

theorem length_padded (hwidth : 0 < width) (hn : n < 10 ^ width) :
    (padded width n).length = width := by
  have hle : (Text.ofNat n).length ≤ width :=
    (Nat.length_toDigits_le_iff (by decide) hwidth).2 hn
  simp only [padded, List.length_append, List.length_replicate]
  omega

theorem digitsValue_padded : Text.digitsValue (padded width n) = n := by
  have hzeros : ∀ k, Text.digitsValue (List.replicate k '0' ++ Text.ofNat n) = n := by
    intro k
    induction k with
    | zero => exact Text.digitsValue_ofNat n
    | succ k ih =>
      rw [List.replicate_succ, List.cons_append, Text.digitsValue_cons, ih]
      simp [Text.digitValue]
  exact hzeros _

theorem order_padded (hwidth : 0 < width) (hn : n < 10 ^ width) (hm : m < 10 ^ width) :
    order (padded width n) (padded width m) = compare n m := by
  have hlength := (length_padded hwidth hn).trans (length_padded hwidth hm).symm
  have hagrees := Text.order_agrees_digitsValue (isAsciiDigit_of_mem_padded width n)
    (isAsciiDigit_of_mem_padded width m) hlength
  rw [digitsValue_padded, digitsValue_padded] at hagrees
  exact eq_compare hagrees.lt hagrees.eq

/-- A field of fixed width with a separator behind it decides first. -/
theorem order_field (hwidth : 0 < width) (hn : n < 10 ^ width) (hm : m < 10 ^ width)
    (sep s t : Text) :
    order (padded width n ++ (sep ++ s)) (padded width m ++ (sep ++ t)) =
      (compare n m).then (order s t) := by
  have hlength := (length_padded hwidth hn).trans (length_padded hwidth hm).symm
  have hsep : order sep sep = .eq := ReflCmp.compare_self
  rw [Text.order_append hlength, Text.order_append rfl, order_padded hwidth hn hm, hsep,
    Ordering.then]

end Padded

/-! ## Times of day -/

/-- Numbers compare like their sixtieths, and then like what is left. -/
theorem compare_sixtieths (n m : Nat) :
    (compare (n / 60) (m / 60)).then (compare (n % 60) (m % 60)) = compare n m := by
  refine eq_compare ?_ ?_
  · simp only [Ordering.then_eq_lt, Nat.compare_eq_lt, Nat.compare_eq_eq]
    omega
  · simp only [Ordering.then_eq_eq, Nat.compare_eq_eq]
    omega

theorem order_clockText {n m : Nat} (hn : n < 86400) (hm : m < 86400) :
    order (clockText n) (clockText m) = compare n m := by
  have hours : ∀ k : Nat, k / 3600 = k / 60 / 60 := fun k => by omega
  simp only [clockText, List.append_assoc]
  rw [order_field (by decide) (by omega) (by omega), order_field (by decide) (by omega) (by omega),
    order_padded (by decide) (by omega) (by omega), ← Ordering.then_assoc, hours, hours,
    compare_sixtieths, compare_sixtieths]

theorem length_clockText {n : Nat} (hn : n < 86400) : (clockText n).length = 8 := by
  simp only [clockText, List.length_append]
  rw [length_padded (by decide) (by omega), length_padded (by decide) (by omega),
    length_padded (by decide) (by omega)]
  rfl

/-! ## Dates -/

/-- The year is written in four digits. -/
def HasFourDigits (year : Int) : Prop := 0 ≤ year ∧ year ≤ 9999

instance (year : Int) : Decidable (HasFourDigits year) := inferInstanceAs (Decidable (_ ∧ _))

theorem yearText_of_hasFourDigits {year : Int} (h : HasFourDigits year) :
    yearText year = padded 4 year.toNat := if_pos h

theorem order_dateText {d e : Date} (hd : d.Regular) (he : e.Regular)
    (hdy : HasFourDigits d.year) (hey : HasFourDigits e.year) :
    order (dateText d) (dateText e) = compare d.place e.place := by
  obtain ⟨hd₁, hd₂, hd₃, hd₄⟩ := hd
  obtain ⟨he₁, he₂, he₃, he₄⟩ := he
  obtain ⟨hdy₁, hdy₂⟩ := hdy
  obtain ⟨hey₁, hey₂⟩ := hey
  have hfields : order (dateText d) (dateText e) =
      (compare d.year.toNat e.year.toNat).then ((compare d.month.toNat e.month.toNat).then
        (compare d.day.toNat e.day.toNat)) := by
    simp only [dateText, List.append_assoc]
    rw [yearText_of_hasFourDigits ⟨hdy₁, hdy₂⟩, yearText_of_hasFourDigits ⟨hey₁, hey₂⟩,
      order_field (by decide) (by omega) (by omega), order_field (by decide) (by omega) (by omega),
      order_padded (by decide) (by omega) (by omega)]
  rw [hfields, Date.place, Date.place]
  refine eq_compare ?_ ?_
  · simp only [Ordering.then_eq_lt, Nat.compare_eq_lt, Nat.compare_eq_eq]
    omega
  · simp only [Ordering.then_eq_eq, Nat.compare_eq_eq]
    omega

theorem length_dateText {d : Date} (hd : d.Regular) (hdy : HasFourDigits d.year) :
    (dateText d).length = 10 := by
  obtain ⟨hd₁, hd₂, hd₃, hd₄⟩ := hd
  obtain ⟨hdy₁, hdy₂⟩ := hdy
  simp only [dateText, List.length_append, yearText_of_hasFourDigits ⟨hdy₁, hdy₂⟩]
  rw [length_padded (by decide) (by omega), length_padded (by decide) (by omega),
    length_padded (by decide) (by omega)]
  rfl

theorem order_dateText_dateOfDays {a b : Int} (ha : HasFourDigits (dateOfDays a).year)
    (hb : HasFourDigits (dateOfDays b).year) :
    order (dateText (dateOfDays a)) (dateText (dateOfDays b)) = compare a b := by
  rw [order_dateText (regular_dateOfDays a) (regular_dateOfDays b) ha hb]
  have hle := place_le_place_iff a b
  have hge := place_le_place_iff b a
  refine eq_compare ?_ ?_
  · rw [Std.compare_eq_lt]
    omega
  · rw [Std.compare_eq_iff_eq]
    omega

/-! ## Clocks -/

/-- What the clock shows in an offset, in seconds since 1970. -/
def clock (seconds minutes : Int) : Int := seconds + minutes * 60

/-- The written form of what a clock shows. -/
def clockFace (here : Int) : Text :=
  dateText (dateOfDays (here.fdiv daySeconds)) ++ "T" ++ clockText (here.fmod daySeconds).toNat

/-- The year that a clock shows. -/
def clockYear (here : Int) : Int := (dateOfDays (here.fdiv daySeconds)).year

theorem fmod_daySeconds_lt (here : Int) : (here.fmod daySeconds).toNat < 86400 := by
  rw [daySeconds, Int.fmod_eq_emod_of_nonneg _ (by decide)]
  omega

theorem length_clockFace {here : Int} (h : HasFourDigits (clockYear here)) :
    (clockFace here).length = 19 := by
  simp only [clockFace, List.length_append]
  rw [length_dateText (regular_dateOfDays _) h, length_clockText (fmod_daySeconds_lt here)]
  rfl

theorem order_clockFace {here there : Int} (h : HasFourDigits (clockYear here))
    (h' : HasFourDigits (clockYear there)) :
    order (clockFace here) (clockFace there) = compare here there := by
  have hlength := (length_dateText (regular_dateOfDays (here.fdiv daySeconds)) h).trans
    (length_dateText (regular_dateOfDays (there.fdiv daySeconds)) h').symm
  have hfields : order (clockFace here) (clockFace there) =
      (compare (here.fdiv daySeconds) (there.fdiv daySeconds)).then
        (compare (here.fmod daySeconds).toNat (there.fmod daySeconds).toNat) := by
    have hsep : order "T" "T" = .eq := rfl
    simp only [clockFace, List.append_assoc]
    rw [Text.order_append hlength, Text.order_append rfl, hsep, order_dateText_dateOfDays h h',
      order_clockText (fmod_daySeconds_lt here) (fmod_daySeconds_lt there), Ordering.then]
  rw [hfields, daySeconds, Int.fdiv_eq_ediv_of_nonneg _ (by decide),
    Int.fdiv_eq_ediv_of_nonneg _ (by decide), Int.fmod_eq_emod_of_nonneg _ (by decide),
    Int.fmod_eq_emod_of_nonneg _ (by decide)]
  refine eq_compare ?_ ?_
  · simp only [Ordering.then_eq_lt, Std.compare_eq_lt, Std.compare_eq_iff_eq]
    omega
  · simp only [Ordering.then_eq_eq, Std.compare_eq_iff_eq]
    omega

/-! ## Offsets -/

/-- The place of an offset in the order of texts: those behind UTC come last, the nearest first. -/
def offsetRank (minutes : Int) : Int := if minutes < 0 then 1440 - minutes else minutes

theorem order_minutes {n m : Nat} (hn : n < 1440) (hm : m < 1440) :
    order (padded 2 (n / 60) ++ (":" ++ padded 2 (n % 60)))
      (padded 2 (m / 60) ++ (":" ++ padded 2 (m % 60))) = compare n m := by
  rw [order_field (by decide) (by omega) (by omega), order_padded (by decide) (by omega) (by omega),
    compare_sixtieths]

theorem compare_nat_eq {n m : Nat} {x y : Int} (h : (n : Int) - m = x - y) :
    compare n m = compare x y := by
  refine eq_compare ?_ ?_
  · rw [Std.compare_eq_lt]
    omega
  · rw [Std.compare_eq_iff_eq]
    omega

theorem order_offsetText {m m' : Int} (h : isOffset m) (h' : isOffset m') :
    order (offsetText m) (offsetText m') = compare (offsetRank m) (offsetRank m') := by
  simp only [isOffset, Bool.and_eq_true, decide_eq_true_eq] at h h'
  have hsame := order_minutes (show m.natAbs < 1440 by omega) (show m'.natAbs < 1440 by omega)
  simp only [offsetText, offsetRank, List.append_assoc]
  by_cases hm : m < 0 <;> by_cases hm' : m' < 0
  · rw [if_pos hm, if_pos hm', if_pos hm, if_pos hm', Text.order_cons, hsame]
    exact compare_nat_eq (by omega)
  · rw [if_pos hm, if_neg hm', if_pos hm, if_neg hm']
    exact (Std.compare_eq_gt.2 (by omega)).symm
  · rw [if_neg hm, if_pos hm', if_neg hm, if_pos hm']
    exact (Std.compare_eq_lt.2 (by omega)).symm
  · rw [if_neg hm, if_neg hm', if_neg hm, if_neg hm', Text.order_cons, hsame]
    exact compare_nat_eq (by omega)

/-! ## Timestamps -/

/-- Around the days of years with four digits there is a calendar. -/
theorem isYear_of_hasFourDigits {days near : Int} (h : HasFourDigits (dateOfDays near).year)
    (hfrom : near - 1 ≤ days) (hto : days ≤ near + 1) : isYear (dateOfDays days).year := by
  obtain ⟨hmonth, hmonths, hday, hdays⟩ := regular_dateOfDays near
  obtain ⟨hmonth', hmonths', hday', hdays'⟩ := regular_dateOfDays days
  obtain ⟨hyear, hyears⟩ := h
  -- The first and the last of these days, and the days next to them.
  have hfirst : (dateOfDays (-719528)).place = 33 := by decide
  have hlast : (dateOfDays 2932896).place = 3840031 := by decide
  have hlow : -719528 ≤ near := by
    rw [← place_le_place_iff, hfirst, Date.place]
    omega
  have hhigh : near ≤ 2932896 := by
    rw [← place_le_place_iff, hlast, Date.place]
    omega
  have hbefore : (dateOfDays (-719529)).place ≤ (dateOfDays days).place :=
    (place_le_place_iff _ _).2 (by omega)
  have hafter : (dateOfDays days).place ≤ (dateOfDays 2932897).place :=
    (place_le_place_iff _ _).2 (by omega)
  rw [show (dateOfDays (-719529)).place = 31 by decide, Date.place] at hbefore
  rw [show (dateOfDays 2932897).place = 3840033 by decide, Date.place] at hafter
  rw [isYear, Bool.and_eq_true, decide_eq_true_eq, decide_eq_true_eq]
  omega

variable {s m s' m' : Int}

theorem render?_eq (h : isOffset m) (hyear : HasFourDigits (clockYear (clock s m))) :
    render? s m = some (clockFace (clock s m) ++ offsetText m) := by
  have hcalendar : isYear (dateOfDays (s.fdiv daySeconds)).year := by
    rw [isOffset, Bool.and_eq_true, decide_eq_true_eq, decide_eq_true_eq] at h
    refine isYear_of_hasFourDigits hyear ?_ ?_ <;>
      simp only [clock, daySeconds, Int.fdiv_eq_ediv_of_nonneg _ (show (0 : Int) ≤ 86400 by decide)]
        <;> omega
  rw [render?, h, hcalendar]
  rfl

/-- **Timestamps compare like their clocks, and those of equal clocks like their offsets.** -/
theorem order_render (h : isOffset m) (h' : isOffset m')
    (hyear : HasFourDigits (clockYear (clock s m)))
    (hyear' : HasFourDigits (clockYear (clock s' m'))) :
    order (clockFace (clock s m) ++ offsetText m) (clockFace (clock s' m') ++ offsetText m') =
      (compare (clock s m) (clock s' m')).then (compare (offsetRank m) (offsetRank m')) := by
  have hlength := (length_clockFace hyear).trans (length_clockFace hyear').symm
  rw [Text.order_append hlength, order_clockFace hyear hyear', order_offsetText h h']

end Timestamp

end CommonChangelog
