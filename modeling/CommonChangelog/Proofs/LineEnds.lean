import CommonChangelog.Proofs.MovedSections
import Mathlib.Data.List.Permutation

/-!
# How the lines of a sorted text end

A text in which every line is ended in the same way is cut at its newlines into the lines and one
empty piece behind the last newline. Sorting takes this piece for a line of the last section. So it
moves with that section, and the text ends with whatever piece the section has that stands last
afterwards.

All lines of the sorted text are ended as before exactly if its last piece is empty again
(`terminated_iff_of_perm`). With carriage returns there is but one empty piece, and its section has
to stay at the end. With newlines alone every empty line will do.

Main results: `terminated_sortReleases_iff`, and `sortReleases_loses_terminator` for texts that do
not meet the condition.
-/

namespace CommonChangelog

/-- What ends a line. -/
inductive Terminator where
  | newline
  /-- A carriage return and a newline. -/
  | returnNewline
  deriving DecidableEq, Repr

/-- With a newline behind it the piece is a line that is ended in this way. -/
def Terminator.Ends (t : Terminator) (piece : Text) : Prop :=
  piece.getLast? = some '\r' ↔ t = .returnNewline

instance (t : Terminator) (piece : Text) : Decidable (t.Ends piece) :=
  inferInstanceAs (Decidable (_ ↔ _))

/-- The text consists of lines that are all ended in this way, the last one included. -/
def Terminated (t : Terminator) (s : Text) : Prop :=
  ∃ pieces : List Text, (∀ piece ∈ pieces, '\n' ∉ piece ∧ t.Ends piece) ∧ s = Text.unlines pieces

/-! ## The last piece -/

theorem Text.split_unlines {pieces : List Text} (h : ∀ piece ∈ pieces, '\n' ∉ piece) :
    split '\n' (unlines pieces) = pieces ++ [[]] := by
  induction pieces with
  | nil => rfl
  | cons piece pieces ih =>
    rw [List.forall_mem_cons] at h
    have hcons : unlines (piece :: pieces) = piece ++ '\n' :: unlines pieces := by simp [unlines]
    rw [hcons, split_append_sep h.1, ih h.2, List.cons_append]

variable {t : Terminator} {s : Text}

theorem terminated_iff_exists :
    Terminated t s ↔
      ∃ pieces, Text.split '\n' s = pieces ++ [[]] ∧ ∀ piece ∈ pieces, t.Ends piece := by
  constructor
  · intro h
    obtain ⟨pieces, hpieces, rfl⟩ := h
    exact ⟨pieces, Text.split_unlines fun piece hp => (hpieces piece hp).1,
      fun piece hp => (hpieces piece hp).2⟩
  · intro h
    obtain ⟨pieces, hsplit, hends⟩ := h
    have hlines : ∀ piece ∈ pieces, '\n' ∉ piece := fun piece hp =>
      Text.not_mem_of_mem_split (hsplit ▸ List.mem_append_left _ hp)
    refine ⟨pieces, fun piece hp => ⟨hlines piece hp, hends piece hp⟩, ?_⟩
    exact Text.split_injective (hsplit.trans (Text.split_unlines hlines).symm)

theorem terminated_iff :
    Terminated t s ↔ (Text.split '\n' s).getLast? = some [] ∧
      ∀ piece ∈ (Text.split '\n' s).dropLast, t.Ends piece := by
  rw [terminated_iff_exists, List.getLast?_eq_some_iff]
  constructor
  · intro h
    obtain ⟨pieces, hsplit, hends⟩ := h
    refine ⟨⟨pieces, hsplit⟩, ?_⟩
    rwa [hsplit, List.dropLast_concat]
  · intro h
    obtain ⟨⟨pieces, hsplit⟩, hends⟩ := h
    rw [hsplit, List.dropLast_concat] at hends
    exact ⟨pieces, hsplit, hends⟩

instance (t : Terminator) (s : Text) : Decidable (Terminated t s) :=
  decidable_of_iff' _ terminated_iff

/-- If the pieces change their places, only the last one decides. -/
theorem terminated_iff_of_perm {other : Text} (h : Terminated t s)
    (hperm : (Text.split '\n' other).Perm (Text.split '\n' s)) :
    Terminated t other ↔ (Text.split '\n' other).getLast? = some [] := by
  rw [terminated_iff]
  refine and_iff_left_of_imp fun hlast => ?_
  obtain ⟨pieces, hsplit, hends⟩ := terminated_iff_exists.1 h
  obtain ⟨moved, hmoved⟩ := List.getLast?_eq_some_iff.1 hlast
  rw [hmoved, hsplit, List.perm_append_right_iff] at hperm
  rw [hmoved, List.dropLast_concat]
  exact fun piece hp => hends piece (hperm.mem_iff.1 hp)

/-! ## The last section -/

namespace Section

variable {lines header : List Text} {sections : List Section}

theorem WellFormed.lines_ne_nil {s : Section} (h : s.WellFormed) : s.lines ≠ [] := by
  obtain ⟨heading, date, body, hlines, -⟩ := h
  rw [hlines]
  exact List.cons_ne_nil heading body

theorem Cuts.getLast?_lines (h : Cuts lines header sections) :
    lines.getLast? = sections.getLast?.elim header.getLast? (·.lines.getLast?) := by
  rw [h.lines_eq]
  rcases List.eq_nil_or_concat' sections with rfl | ⟨before, last, rfl⟩
  · rw [List.flatMap_nil, List.append_nil]
    rfl
  · have hne := (h.wellFormed last (by simp)).lines_ne_nil
    have hlast : last.lines.getLast? = some (last.lines.getLast hne) :=
      List.getLast?_eq_some_getLast hne
    simp [hlast]

/-- If all lines but the last are not empty, the last section is the one with an empty line. -/
theorem Cuts.getLast?_of_mem (h : Cuts lines header sections) {s : Section} (hs : s ∈ sections)
    (hempty : [] ∈ s.lines) (hne : [] ∉ lines.dropLast) : sections.getLast? = some s := by
  obtain ⟨before, last, rfl⟩ := List.eq_nil_or_concat' sections |>.resolve_left
    (List.ne_nil_of_mem hs)
  rw [List.getLast?_concat]
  rcases List.mem_append.1 hs with hs | hs
  · -- The line would stand before the lines of the last section.
    have hlast := (h.wellFormed last (by simp)).lines_ne_nil
    rw [h.lines_eq, List.flatMap_append, ← List.append_assoc, List.flatMap_singleton,
      List.dropLast_append_of_ne_nil hlast] at hne
    refine absurd ?_ hne
    exact List.mem_append_left _ (List.mem_append_right _ (List.mem_flatMap.2 ⟨s, hs, hempty⟩))
  · rw [List.mem_singleton.1 hs]

/--
The last piece is empty again exactly if the last section is the same, or if lines are ended by
newlines alone and the section that is last now ends with an empty line.
-/
theorem Cuts.getLast?_eq_nil_iff {t : Terminator} {sorted : List Text} {moved : List Section}
    (hmoved : Cuts sorted header moved) (h : Cuts lines header sections)
    (hperm : moved.Perm sections) (hlast : lines.getLast? = some [])
    (hends : ∀ piece ∈ lines.dropLast, t.Ends piece) :
    sorted.getLast? = some [] ↔
      moved.getLast? = sections.getLast? ∨
        t = .newline ∧ ∀ last ∈ moved.getLast?, last.lines.getLast? = some [] := by
  rw [h.getLast?_lines] at hlast
  rw [hmoved.getLast?_lines]
  cases hend : moved.getLast? with
  | none =>
    -- There are no sections, so nothing has moved.
    obtain rfl := List.getLast?_eq_none_iff.1 hend
    obtain rfl := hperm.nil_eq
    exact iff_of_true hlast (.inl rfl)
  | some last =>
    have hmem : last ∈ sections := hperm.mem_iff.1 (List.mem_of_getLast? hend)
    rw [Option.elim_some]
    constructor
    · intro hempty
      cases t with
      | newline => exact .inr ⟨rfl, fun _ h => Option.some.inj h ▸ hempty⟩
      | returnNewline =>
        -- An empty piece is no line that is ended with a carriage return.
        have hne : [] ∉ lines.dropLast := fun hmem => absurd (hends [] hmem) (by decide)
        exact .inl (h.getLast?_of_mem hmem (List.mem_of_getLast? hempty) hne).symm
    · intro hcases
      rcases hcases with hstays | ⟨-, hempty⟩
      · rw [← hstays] at hlast
        exact hlast
      · exact hempty last rfl

end Section

/--
**Sorting keeps the ends of lines exactly if the text still ends with an empty piece.** Let all
lines of a text be ended in the same way. Then so are all lines of the sorted text if the section
that stands last in it stood last before, or if lines are ended by newlines alone and this section
ends with an empty line. Otherwise they are not.
-/
theorem terminated_sortReleases_iff (t : Terminator) (content : Text) (h : Terminated t content) :
    let sections := (Section.cut (Text.split '\n' content)).2
    let moved := (Section.cut (Text.split '\n' (sortReleases content))).2
    Terminated t (sortReleases content) ↔
      moved.getLast? = sections.getLast? ∨
        t = .newline ∧ ∀ last ∈ moved.getLast?, last.lines.getLast? = some [] := by
  intro sections moved
  have hcuts := Section.cuts_cut (Text.split '\n' content)
  have hsorted := Section.cuts_sortReleases hcuts
  have hmoved : moved = Section.arrange sections := congrArg Prod.snd hsorted.cut_eq
  have hperm := Section.arrange_perm sections
  obtain ⟨hlast, hends⟩ := terminated_iff.1 h
  rw [terminated_iff_of_perm h (hsorted.lines_perm hcuts hperm), hmoved]
  exact hsorted.getLast?_eq_nil_iff hcuts hperm hlast hends

/-- The newer version stands last, and an empty line before it. -/
def spacedSample : Text :=
  "# Changelog\n\n## [1.0.0] - 2024-01-01\n\n## [2.0.0] - 2024-02-01\n"

theorem terminated_sortReleases_spacedSample :
    Terminated .newline spacedSample ∧ Terminated .newline (sortReleases spacedSample) := by
  have h : Terminated .newline spacedSample := by decide +kernel
  have hsorted : sortReleases spacedSample =
      ("# Changelog\n\n## [2.0.0] - 2024-02-01\n\n## [1.0.0] - 2024-01-01\n" : Text) := by cbv
  refine ⟨h, (terminated_sortReleases_iff .newline spacedSample h).2 (.inr ⟨rfl, ?_⟩)⟩
  rw [hsorted]
  decide +kernel

/-- The same without the empty line. -/
def tightSample : Text :=
  "# Changelog\n\n## [1.0.0] - 2024-01-01\n## [2.0.0] - 2024-02-01\n"

/-- With an empty line, and with carriage returns. -/
def returnedSample : Text :=
  "# Changelog\r\n\r\n## [1.0.0] - 2024-01-01\r\n\r\n## [2.0.0] - 2024-02-01\r\n"

/-- Sorting takes the last newline away, or puts a newline alone between carriage returns. -/
theorem sortReleases_loses_terminator :
    (Terminated .newline tightSample ∧ ¬Terminated .newline (sortReleases tightSample)) ∧
      Terminated .returnNewline returnedSample ∧
        ¬Terminated .returnNewline (sortReleases returnedSample) := by
  have htight : sortReleases tightSample =
      ("# Changelog\n\n## [2.0.0] - 2024-02-01\n\n## [1.0.0] - 2024-01-01" : Text) := by cbv
  have hreturned : sortReleases returnedSample =
      ("# Changelog\r\n\r\n## [2.0.0] - 2024-02-01\r\n\n" ++
        "## [1.0.0] - 2024-01-01\r\n\r" : Text) := by cbv
  rw [htight, hreturned]
  decide +kernel

end CommonChangelog
