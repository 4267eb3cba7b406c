import CommonChangelog.Migration
import CommonChangelog.Proofs.LowerCase
import CommonChangelog.Proofs.Occurrences
import CommonChangelog.Proofs.WrittenChanges
import Mathlib.Data.List.Basic

/-!
# The mark of a breaking change

A changelog marks a breaking change by `**Breaking:**`; migration takes any mention of the word for
a mark, in any case. Both drop the first mark from the text of the entry, with the blanks behind it,
and they drop the same where the first mention of the word is a mark.

The references of an entry are read with the mark by the strict reader, and without it by migration.
That is the same if no bracket is open where the mark stands (`Reference.isClosed`), for a reference
is enclosed: it begins with an opening bracket and ends with the next closing parenthesis.

Main results: `Legacy.removeFirst_breakingWord` and `Reference.extract_unmark`.
-/

namespace CommonChangelog

open Text (isBlank fold lower trimStart)
open Scanner (find all Begins Silent)

/-! ## The first mark -/

namespace Legacy

open Change (breakingMark breakingMarker)

theorem breakingWord_append (s : Text) :
    breakingWord (breakingMark ++ s) = some ((), trimStart s) := rfl

theorem find_of_mark {read : Scanner Unit} {s : Text}
    (h : read (breakingMark ++ s) = some ((), trimStart s)) :
    find read (breakingMark ++ s) = some ((), trimStart s) := by
  refine Scanner.find_of_some h ?_
  have hle : (trimStart s).length ≤ s.length := (List.dropWhile_suffix isBlank).length_le
  have hmark : 0 < breakingMark.length := by decide
  rw [List.length_append]
  omega

theorem exists_of_breakingWord {s rest : Text} (h : breakingWord s = some ((), rest)) :
    ∃ stars w after, s = stars ++ (w ++ after) ∧ stars.length ≤ 2 ∧ (∀ c ∈ stars, c = '*') ∧
      w.map fold = "breaking".toList := by
  obtain ⟨t, ht, -⟩ := Option.bind_eq_some_iff.1 h
  obtain ⟨w, hw, hfold⟩ := Text.afterFold?_eq_some.1 ht
  obtain ⟨a, ha, hashort, hastars⟩ := Text.exists_skipOne (· = '*') s
  obtain ⟨b, hb, hbshort, hbstars⟩ := Text.exists_skipOne (· = '*') (Text.skipOne (· = '*') s)
  refine ⟨a ++ b, w, t, ?_, ?_, ?_, hfold⟩
  · rw [List.append_assoc, ← hw, ← hb, ← ha]
  · rw [List.length_append]
    exact Nat.add_le_add hashort hbshort
  · rw [List.forall_mem_append]
    exact ⟨fun c hc => of_decide_eq_true (hastars c hc),
      fun c hc => of_decide_eq_true (hbstars c hc)⟩

/-- A word without asterisks in front of a text that begins with one ends before that text. -/
theorem prefix_of_star {v w x rest : Text} (hw : '*' ∉ w) (h : v ++ '*' :: x = w ++ rest) :
    w <+: v := by
  rcases List.append_eq_append_iff.1 h with ⟨t, rfl, ht⟩ | ⟨t, rfl, -⟩
  · cases t with
    | nil => exact ⟨[], by simp⟩
    | cons c t =>
      rw [List.cons_append, List.cons.injEq] at ht
      exact absurd (List.mem_append_right v (ht.1 ▸ List.mem_cons_self)) hw
  · exact List.prefix_append w t

/-- In front of two asterisks the word is only read where it stands. -/
theorem infix_of_stars {v stars w x rest : Text} (hv : v ≠ []) (hstars : ∀ c ∈ stars, c = '*')
    (hshort : stars.length ≤ 2) (hw : '*' ∉ w) (hne : w ≠ [])
    (h : v ++ '*' :: '*' :: x = stars ++ (w ++ rest)) : w <:+: v := by
  obtain ⟨c, cs, rfl⟩ := List.exists_cons_of_ne_nil hv
  match stars, hshort with
  | [], _ => exact (prefix_of_star hw h).isInfix
  | [a], _ =>
    rw [List.cons_append, List.singleton_append, List.cons.injEq] at h
    exact (prefix_of_star hw h.2).isInfix.trans (List.suffix_cons c cs).isInfix
  | [a, b], _ =>
    cases cs with
    | nil =>
      -- Only the second asterisk is left to be read as the word.
      simp only [List.cons_append, List.nil_append, List.cons.injEq] at h
      obtain ⟨-, -, h⟩ := h
      have hprefix := prefix_of_star (v := []) hw h
      exact absurd (List.prefix_nil.1 hprefix) hne
    | cons d ds =>
      simp only [List.cons_append, List.nil_append, List.cons.injEq] at h
      have hsuffix : ds <:+ c :: d :: ds := ⟨[c, d], rfl⟩
      exact (prefix_of_star hw h.2.2).isInfix.trans hsuffix.isInfix

/-- In front of a mark, the word is not read in a text that does not mention it. -/
theorem silent_breakingWord {before : Text} (h : Text.contains "breaking" (lower before) = false)
    (after : Text) : Silent breakingWord before (breakingMark ++ after) := by
  intro u v huv hv
  refine Scanner.find_of_none (Option.eq_none_iff_forall_ne_some.2 fun ⟨(), rest⟩ hread => ?_)
  obtain ⟨stars, w, t, heq, hshort, hstars, hfold⟩ := exists_of_breakingWord hread
  have hw : '*' ∉ w := by
    intro hmem
    have hmem : fold '*' ∈ w.map fold := List.mem_map_of_mem hmem
    rw [hfold] at hmem
    exact absurd hmem (by decide)
  have hne : w ≠ [] := by
    rintro rfl
    cases hfold
  have hinfix : w <:+: before := by
    rw [huv]
    exact (infix_of_stars hv hstars hshort hw hne heq).trans (List.suffix_append u v).isInfix
  rw [Text.contains_lower (by decide) hfold hinfix] at h
  exact Bool.noConfusion h

theorem silent_breakingMarker {p s : Text} (h : Silent breakingWord p s) :
    Silent breakingMarker p s := by
  intro u v huv hv
  refine Scanner.find_of_none (Option.eq_none_iff_forall_ne_some.2 fun ⟨(), rest⟩ hread => ?_)
  obtain ⟨t, ht⟩ := Change.begins_breakingMarker _ _ _ hread
  have hword := h u v huv hv
  rw [ht, List.append_assoc, find_of_mark (breakingWord_append _)] at hword
  cases hword

/-- **The first mention of the word is dropped like the first mark, if it is one.** -/
theorem removeFirst_breakingWord {before : Text}
    (h : Text.contains "breaking" (lower before) = false) (after : Text) :
    Scanner.removeFirst breakingWord (before ++ (breakingMark ++ after)) =
        before ++ trimStart after ∧
      Scanner.removeFirst breakingMarker (before ++ (breakingMark ++ after)) =
        before ++ trimStart after := by
  have hsilent := silent_breakingWord h after
  have hword := find_of_mark (breakingWord_append after)
  have hmark := find_of_mark (Change.breakingMarker_append after)
  rw [Scanner.removeFirst_append_of_silent hsilent, Scanner.removeFirst_of_find hword,
    Scanner.removeFirst_append_of_silent (silent_breakingMarker hsilent),
    Scanner.removeFirst_of_find hmark]
  exact ⟨rfl, rfl⟩

theorem isMarkedBreaking_of_isBreaking {raw : Text} (h : isBreaking raw = false) :
    Change.isMarkedBreaking raw = false := by
  rw [Change.isMarkedBreaking, Bool.eq_false_iff]
  intro hmark
  have hword : "Breaking".toList <:+: breakingMark := ⟨['*', '*'], [':', '*', '*'], rfl⟩
  have hinfix := hword.trans (Text.contains_iff.1 hmark)
  rw [isBreaking, Text.contains_lower (by decide) (by decide) hinfix] at h
  exact Bool.noConfusion h

end Legacy

/-! ## References without the mark -/

namespace Scanner

/--
What the scanner reads is a form of what is read, whatever follows. The form begins with an opening
bracket and ends with the next closing parenthesis.
-/
structure Encloses {α : Type} (read : Scanner α) (form : α → Text) (ok : α → Prop) : Prop where
  read_iff : ∀ s a rest, read s = some (a, rest) ↔ s = form a ++ rest ∧ ok a
  shape : ∀ a, ∃ c body, form a = c :: (body ++ [')']) ∧ (c = '(' ∨ c = '[') ∧
    (ok a → ')' ∉ body)

end Scanner

namespace Reference

/-- No bracket is open at the end: behind each opening one stands a closing parenthesis. -/
def isClosed : Text → Bool
  | [] => true
  | c :: cs => ((c != '(' && c != '[') || cs.contains ')') && isClosed cs

theorem isClosed_of_append {s t : Text} (h : isClosed (s ++ t)) : isClosed t := by
  induction s with
  | nil => exact h
  | cons c s ih =>
    rw [List.cons_append, isClosed, Bool.and_eq_true] at h
    exact ih h.2

end Reference

namespace Scanner.Encloses

variable {α : Type} {read : Scanner α} {form : α → Text} {ok : α → Prop} {a : α}

theorem find_eq (h : Encloses read form ok) (s : Text) : find read s = read s := by
  rcases hr : read s with _ | ⟨a, rest⟩
  · exact find_of_none hr
  · refine find_of_some hr ?_
    obtain ⟨rfl, -⟩ := (h.read_iff s a rest).1 hr
    obtain ⟨c, body, hform, -⟩ := h.shape a
    rw [hform, List.length_append, List.length_cons]
    omega

theorem exists_of_closed (h : Encloses read form ok) {c : Char} {cs s rest : Text}
    (hclosed : Reference.isClosed (c :: cs)) (hr : read (c :: cs ++ s) = some (a, rest)) :
    ∃ r, rest = r ++ s ∧ read (c :: cs) = some (a, r) := by
  obtain ⟨heq, hok⟩ := (h.read_iff _ a rest).1 hr
  obtain ⟨d, body, hform, hopen, hbody⟩ := h.shape a
  rw [hform, List.cons_append, List.cons_append, List.append_assoc, List.singleton_append,
    List.cons.injEq] at heq
  obtain ⟨rfl, heq⟩ := heq
  rw [Reference.isClosed, Bool.and_eq_true, Bool.or_eq_true] at hclosed
  have hmem : ')' ∈ cs := by
    rcases hclosed.1 with hc | hc
    · rcases hopen with rfl | rfl <;> exact absurd hc (by decide)
    · simpa using hc
  rcases List.append_eq_append_iff.1 heq with ⟨t, rfl, -⟩ | ⟨t, rfl, ht⟩
  · exact absurd (List.mem_append_left t hmem) (hbody hok)
  · cases t with
    | nil =>
      rw [List.append_nil] at hmem
      exact absurd hmem (hbody hok)
    | cons e t =>
      rw [List.cons_append, List.cons.injEq] at ht
      obtain ⟨rfl, rfl⟩ := ht
      exact ⟨t, rfl, (h.read_iff _ a t).2 ⟨by rw [hform]; simp, hok⟩⟩

/-- What is read in a text without open brackets is read whatever follows, and nothing else is. -/
theorem all_append (h : Encloses read form ok) {p : Text} (hclosed : Reference.isClosed p)
    (s : Text) :
    all read (p ++ s) = ((all read p).map fun (a, rest) => (a, rest ++ s)) ++ all read s := by
  induction hn : p.length using Nat.strongRecOn generalizing p with
  | _ n ih =>
    cases p with
    | nil => rw [List.nil_append, all_nil, List.map_nil, List.nil_append]
    | cons c cs =>
      have htail : Reference.isClosed cs := Reference.isClosed_of_append (s := [c]) hclosed
      rcases hr : read (c :: cs ++ s) with _ | ⟨a, rest⟩
      · have hnone : find read (c :: (cs ++ s)) = none := (h.find_eq _).trans hr
        have hnone' : find read (c :: cs) = none := by
          rw [h.find_eq, Option.eq_none_iff_forall_ne_some]
          intro ⟨a, r⟩ hread
          obtain ⟨heq, hok⟩ := (h.read_iff _ a r).1 hread
          rw [(h.read_iff _ a (r ++ s)).2 ⟨by rw [heq, List.append_assoc], hok⟩] at hr
          cases hr
        rw [List.cons_append, all_cons_of_none hnone, all_cons_of_none hnone',
          ih cs.length (by simp [← hn]) htail rfl]
      · obtain ⟨r, rfl, hread⟩ := h.exists_of_closed hclosed hr
        have hlt : r.length < (c :: cs).length := find_shorter ((h.find_eq _).trans hread)
        have hrest : Reference.isClosed r := by
          obtain ⟨heq, -⟩ := (h.read_iff _ a r).1 hread
          rw [heq] at hclosed
          exact Reference.isClosed_of_append hclosed
        rw [all_of_find ((h.find_eq _).trans hr), all_of_find ((h.find_eq _).trans hread),
          ih r.length (by omega) hrest rfl, List.map_cons, List.cons_append]

end Scanner.Encloses

namespace Reference

open Text (isDigit)
open Change (breakingMark)

theorem encloses_numberLink : Scanner.Encloses numberLink
    (fun a => '[' :: '#' :: a.1 ++ ']' :: '(' :: a.2 ++ [')'])
    fun a => a.1 ≠ [] ∧ (∀ c ∈ a.1, isDigit c) ∧ a.2 ≠ [] ∧ ')' ∉ a.2 where
  read_iff := by
    intro s a rest
    rw [numberLink_eq_some]
    simp
  shape := by
    intro a
    refine ⟨'[', '#' :: a.1 ++ ']' :: '(' :: a.2, by simp, .inr rfl, fun hok => ?_⟩
    have hdigits : ')' ∉ a.1 := Text.not_mem_of_isDigit (by decide) hok.2.1
    simp [hdigits, hok.2.2.2]

theorem encloses_bareNumber : Scanner.Encloses bareNumber
    (fun digits => '(' :: '#' :: digits ++ [')'])
    fun digits => digits ≠ [] ∧ ∀ c ∈ digits, isDigit c where
  read_iff := by
    intro s a rest
    rw [bareNumber_eq_some]
    simp
  shape := by
    intro digits
    refine ⟨'(', '#' :: digits, by simp, .inl rfl, fun hok => ?_⟩
    have hdigits : ')' ∉ digits := Text.not_mem_of_isDigit (by decide) hok.2
    simp [hdigits]

theorem encloses_commitLink : Scanner.Encloses commitLink
    (fun a => '[' :: '`' :: a.1 ++ '`' :: ']' :: '(' :: a.2 ++ [')'])
    fun a => isHashLength a.1.length ∧ (∀ c ∈ a.1, isHashDigit c) ∧ a.2 ≠ [] ∧ ')' ∉ a.2 where
  read_iff := by
    intro s a rest
    rw [commitLink_eq_some]
    simp
  shape := by
    intro a
    refine ⟨'[', '`' :: a.1 ++ '`' :: ']' :: '(' :: a.2, by simp, .inr rfl, fun hok => ?_⟩
    have hhash : ')' ∉ a.1 := fun hmem => absurd (hok.2.1 _ hmem) (by decide)
    simp [hhash, hok.2.2.2]

variable {p s : Text}

/-! ### The references of what is put together -/

theorem links_append (h : isClosed p) (s : Text) : links (p ++ s) = links p ++ links s := by
  rw [links, encloses_numberLink.all_append h, List.filterMap_append, List.filterMap_map]
  rfl

theorem commits_append (h : isClosed p) (s : Text) : commits (p ++ s) = commits p ++ commits s := by
  rw [commits, encloses_commitLink.all_append h, List.map_append, List.map_map]
  rfl

/-- A closing bracket at the front of the second text would change what its end means. -/
theorem bareNumbers_append (h : isClosed p) (hs : s.head? ≠ some ']') :
    bareNumbers (p ++ s) = bareNumbers p ++ bareNumbers s := by
  rw [bareNumbers, encloses_bareNumber.all_append h, List.filterMap_append, List.filterMap_map]
  refine congrArg (· ++ bareNumbers s) (List.filterMap_congr fun found _ => ?_)
  obtain ⟨digits, rest⟩ := found
  cases rest with
  | nil => simp [hs]
  | cons c rest => rfl

/-- **A mark where no bracket is open makes no difference to the references.** -/
theorem extract_unmark {before after : Text} (hbefore : isClosed before)
    (hafter : (trimStart after).head? ≠ some ']') :
    extract (before ++ (breakingMark ++ after)) = extract (before ++ trimStart after) := by
  have hall : ∀ {α : Type} {read : Scanner α} {start : Text} {c : Char},
      Begins read (c :: start) → isBlank c = false → c ∉ breakingMark →
      all read (breakingMark ++ after) = all read (trimStart after) := by
    intro α read start c hbegins hblank hmark
    rw [Scanner.all_of_silent (hbegins.silent_of_not_mem hmark after),
      all_trimStart hbegins hblank]
  have hlinks : links (breakingMark ++ after) = links (trimStart after) := by
    rw [links, hall begins_numberLink (by decide) (by decide), links]
  have hbare : bareNumbers (breakingMark ++ after) = bareNumbers (trimStart after) := by
    rw [bareNumbers, hall begins_bareNumber (by decide) (by decide), bareNumbers]
  have hcommits : commits (breakingMark ++ after) = commits (trimStart after) := by
    rw [commits, hall begins_commitLink (by decide) (by decide), commits]
  have hmark : (breakingMark ++ after).head? ≠ some ']' := by
    rw [breakingMark_eq]
    exact fun h => absurd (Option.some.inj h) (by decide)
  rw [extract, extract, links_append hbefore, links_append hbefore, commits_append hbefore,
    commits_append hbefore, bareNumbers_append hbefore hmark, bareNumbers_append hbefore hafter,
    hlinks, hbare, hcommits]

end Reference

end CommonChangelog
