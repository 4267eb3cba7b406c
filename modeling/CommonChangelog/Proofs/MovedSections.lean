import CommonChangelog.Proofs.SortedSections
import Mathlib.Data.List.Chain

/-!
# Sorting moves whole sections

Sorting works on the sections into which a text is cut, so what it does to the text is what it does
to the list of sections, provided that a text is cut in one way only (`Section.Cuts.cut_eq`). Then
the sorted text has the same sections in another order (`Section.cuts_sortReleases`), equal texts
have equal sections, and the fixed points of sorting are the texts whose sections are in order.

Main result: `sortReleases_moves_sections`.
-/

namespace CommonChangelog

open Std

namespace Section

/-! ## One way to cut a text -/

/-- The lines are lines without a version heading, followed by the lines of the sections. -/
structure Cuts (lines header : List Text) (sections : List Section) : Prop where
  lines_eq : lines = header ++ sections.flatMap (·.lines)
  no_version : ∀ line ∈ header, (Line.classify line).isVersion = false
  wellFormed : ∀ s ∈ sections, s.WellFormed

variable {lines header : List Text} {sections : List Section}

theorem cuts_cut (lines : List Text) : Cuts lines (cut lines).1 (cut lines).2 :=
  ⟨(cut_lines lines).symm, cut_header lines, cut_wellFormed lines⟩

/-- Lines without a version heading stay with what comes before the first section. -/
theorem cut_append (h : ∀ line ∈ header, (Line.classify line).isVersion = false)
    (rest : List Text) : cut (header ++ rest) = (header ++ (cut rest).1, (cut rest).2) := by
  induction header with
  | nil => rfl
  | cons line header ih =>
    rw [List.forall_mem_cons] at h
    rw [List.cons_append, cut_cons h.1, ih h.2, List.cons_append]

theorem cut_flatMap (h : ∀ s ∈ sections, s.WellFormed) :
    cut (sections.flatMap (·.lines)) = ([], sections) := by
  induction sections with
  | nil => rfl
  | cons s sections ih =>
    rw [List.forall_mem_cons] at h
    obtain ⟨heading, date, body, hlines, hheading, hbody⟩ := h.1
    rw [List.flatMap_cons, hlines, List.cons_append, cut_cons_version hheading, cut_append hbody,
      ih h.2, List.append_nil, ← hlines]

/-- **There is one way to cut a text.** -/
theorem Cuts.cut_eq (h : Cuts lines header sections) : cut lines = (header, sections) := by
  rw [h.lines_eq, cut_append h.no_version, cut_flatMap h.wellFormed, List.append_nil]

theorem Cuts.perm {moved : List Section} (h : Cuts lines header sections)
    (hperm : moved.Perm sections) : Cuts (header ++ moved.flatMap (·.lines)) header moved :=
  ⟨rfl, h.no_version, fun s hs => h.wellFormed s (hperm.mem_iff.1 hs)⟩

theorem Cuts.lines_perm {sorted : List Text} {moved : List Section}
    (hmoved : Cuts sorted header moved) (h : Cuts lines header sections)
    (hperm : moved.Perm sections) : sorted.Perm lines := by
  rw [hmoved.lines_eq, h.lines_eq]
  exact (hperm.flatMap_right _).append_left header

/-! ## Sections in order -/

/-- The comparison of sections by their labels. -/
def newestFirst (a b : Section) : Ordering := Version.newestFirst a.label b.label

instance : TransCmp newestFirst := transCmp_comap Section.label

/-- The second section is not newer than the first. -/
def MayPrecede (a b : Section) : Prop := newestFirst b a ≠ .lt

theorem mayPrecede_iff {a b : Section} : MayPrecede a b ↔ (newestFirst a b).isLE := by
  have hswap : newestFirst b a = (newestFirst a b).swap := OrientedCmp.eq_swap
  rw [MayPrecede, hswap]
  cases newestFirst a b <;> decide

instance : Trans MayPrecede MayPrecede MayPrecede where
  trans hab hbc := by
    rw [mayPrecede_iff] at hab hbc ⊢
    exact TransCmp.isLE_trans hab hbc

/--
Every unreleased section stands before every versioned one, and of two versioned sections that
follow each other the second is not newer.
-/
structure InOrder (sections : List Section) : Prop where
  unreleased_first : sections.Pairwise fun a b => b.isUnreleased → a.isUnreleased
  newest_first : (sections.filter (!·.isUnreleased)).IsChain MayPrecede

theorem arrange_eq (sections : List Section) :
    arrange sections = sections.filter isUnreleased ++
      (sections.filter (!·.isUnreleased)).mergeSort fun a b => (newestFirst a b).isLE := rfl

theorem inOrder_arrange (sections : List Section) : InOrder (arrange sections) where
  unreleased_first := by
    rw [arrange_eq, List.pairwise_append]
    have hfirst : ∀ a ∈ sections.filter isUnreleased, a.isUnreleased := fun a ha =>
      (List.mem_filter.1 ha).2
    have hlast : ∀ b ∈ (sections.filter (!·.isUnreleased)).mergeSort
        (fun a b => (newestFirst a b).isLE), b.isUnreleased = false := fun b hb => by
      simpa using (List.mem_filter.1 (List.mem_mergeSort.1 hb)).2
    refine ⟨?_, ?_, fun a ha b _ _ => hfirst a ha⟩
    · exact List.pairwise_of_forall_mem_list fun a ha b _ _ => hfirst a ha
    · exact List.pairwise_of_forall_mem_list fun a _ b hb hu => by
        rw [hlast b hb] at hu
        exact absurd hu Bool.false_ne_true
  newest_first := by
    rw [arrange_eq, filter_not_filter_append_mergeSort, List.isChain_iff_pairwise]
    refine (List.pairwise_mergeSort (fun a b c => TransCmp.isLE_trans) isLE_total _).imp ?_
    exact mayPrecede_iff.2

theorem arrange_eq_self_iff : arrange sections = sections ↔ InOrder sections := by
  constructor
  · intro h
    rw [← h]
    exact inOrder_arrange sections
  · intro h
    have hsorted := List.isChain_iff_pairwise.1 h.newest_first
    rw [arrange_eq, List.mergeSort_of_pairwise (hsorted.imp mayPrecede_iff.1)]
    exact (eq_filter_append_filter h.unreleased_first).symm

end Section

/-! ## The sorted text -/

/-- The sorted text has the sections of the text, arranged. -/
theorem Section.cuts_sortReleases {content : Text} {header : List Text} {sections : List Section}
    (h : Cuts (Text.split '\n' content) header sections) :
    Cuts (Text.split '\n' (sortReleases content)) header (arrange sections) := by
  rw [split_sortReleases, h.cut_eq]
  exact h.perm (arrange_perm sections)

theorem sortReleases_eq_self_iff {content : Text} {header : List Text} {sections : List Section}
    (h : Section.Cuts (Text.split '\n' content) header sections) :
    sortReleases content = content ↔ Section.InOrder sections := by
  rw [← Section.arrange_eq_self_iff]
  constructor
  · intro heq
    have hsorted := Section.cuts_sortReleases h
    rw [heq] at hsorted
    have hcuts := hsorted.cut_eq.symm.trans h.cut_eq
    exact congrArg Prod.snd hcuts
  · intro heq
    have hpieces : Text.split '\n' (sortReleases content) = Text.split '\n' content := by
      rw [(Section.cuts_sortReleases h).lines_eq, heq, ← h.lines_eq]
    exact Text.split_injective hpieces

/--
**Sorting moves whole sections and stops when they are in order.** A text is cut into the lines
before its first release and its sections. The lines of the sorted text are those of the text: the
same lines first, then the same sections, each with its lines as they stood. Sorting leaves a text
as it is exactly if every unreleased section stands before every versioned one and no version is
newer than the version just before it; and sorting a second time changes nothing.
-/
theorem sortReleases_moves_sections (content : Text) :
    let lines := Text.split '\n' content
    let sorted := Text.split '\n' (sortReleases content)
    sorted.Perm lines ∧
    (∃ header sections moved, Section.Cuts lines header sections ∧
      Section.Cuts sorted header moved ∧ moved.Perm sections ∧
      (sortReleases content = content ↔ Section.InOrder sections)) ∧
    sortReleases (sortReleases content) = sortReleases content := by
  intro lines sorted
  have hcuts : Section.Cuts lines (Section.cut lines).1 (Section.cut lines).2 :=
    Section.cuts_cut lines
  have hmoved := Section.cuts_sortReleases hcuts
  have hperm := Section.arrange_perm (Section.cut lines).2
  refine ⟨hmoved.lines_perm hcuts hperm,
    ⟨_, _, _, hcuts, hmoved, hperm, sortReleases_eq_self_iff hcuts⟩, ?_⟩
  exact (sortReleases_eq_self_iff hmoved).2 (Section.inOrder_arrange _)

end CommonChangelog
