import CommonChangelog.Proofs.WrittenLines
import CommonChangelog.Proofs.WrittenReferences

/-!
# Writing a change and reading it again

The list item of a change holds the mark of a breaking change, the text and the references. The
line is trimmed before it is read, so the item may have lost a space at its front, when there is
nothing before the first reference, or the space after the mark, when there is nothing behind it.

Main result: `ofEntry_trim`, the change read from what is written of it.
-/

namespace CommonChangelog

open Text (isBlank trim trimStart trimEnd)
open Reference (Markless InOrder AtSpace written reserved)

namespace Reference

variable {references : List Reference}

/-- What neither the text nor a reference contains is not in both together. -/
theorem infix_append_written {m : Text} (hspace : ' ' ∉ m)
    (h : ∀ r ∈ references, ¬m <:+: r.render) {s : Text} (hm : m <:+: s ++ written references) :
    m <:+: s := by
  induction references generalizing s with
  | nil => rwa [written, List.flatMap_nil, List.append_nil] at hm
  | cons r rs ih =>
    rw [List.forall_mem_cons] at h
    rw [written_cons] at hm
    rcases Text.infix_append_sep hspace hm with hm | hm
    · exact hm
    · exact absurd (ih h.2 hm) h.1

theorem last_append_written {s : Text} (hs : ∀ c ∈ s.getLast?, isBlank c = false) :
    ∀ c ∈ (s ++ written references).getLast?, isBlank c = false := by
  induction references generalizing s with
  | nil => rwa [written, List.flatMap_nil, List.append_nil]
  | cons r rs ih =>
    have happ : s ++ written (r :: rs) = s ++ ' ' :: r.render ++ written rs := by
      rw [written_cons, List.append_assoc, List.cons_append]
    rw [happ]
    exact ih (Text.last_append hs (last_render r))

theorem last_written (h : references ≠ []) (s : Text) :
    ∀ c ∈ (s ++ written references).getLast?, isBlank c = false := by
  obtain ⟨r, rs, rfl⟩ := List.exists_cons_of_ne_nil h
  have happ : s ++ written (r :: rs) = s ++ ' ' :: r.render ++ written rs := by
    rw [written_cons, List.append_assoc, List.cons_append]
  have hlast : ∀ c ∈ (s ++ ' ' :: r.render).getLast?, isBlank c = false :=
    Text.last_append_of_ne_nil (List.cons_ne_nil _ _) (last_render r) s
  rw [happ]
  exact last_append_written hlast

end Reference

namespace Change

/-- A change that its list item determines. -/
structure Canonical (change : Change) : Prop where
  nonempty : change.text ≠ [] ∨ change.references ≠ [] ∨ change.breaking
  trimmed : trim change.text = change.text
  oneLine : '\n' ∉ change.text
  markless : Markless change.text
  references : ∀ r ∈ change.references, r.Canonical
  inOrder : InOrder change.references

/-- The text of a change and its references. -/
def body (change : Change) : Text := change.text ++ written change.references

/-- The mark of a breaking change and a space. -/
def marking (change : Change) : Text := if change.breaking then breakingMark ++ [' '] else []

variable {change : Change}

theorem render_eq (change : Change) :
    change.render = '-' :: ' ' :: (change.marking ++ change.body) := by
  simp [render, marking, body, written]

namespace Canonical

theorem last_body (h : change.Canonical) : ∀ c ∈ change.body.getLast?, isBlank c = false :=
  Reference.last_append_written (Text.last_of_trim h.trimmed)

theorem extract_body (h : change.Canonical) : Reference.extract change.body = change.references :=
  Reference.extract_written h.markless h.references h.inOrder

theorem strip_body (h : change.Canonical) : Reference.strip change.body = change.text :=
  Reference.strip_written h.markless h.trimmed h.references

theorem not_infix_body (h : change.Canonical) : ¬breakingMark <:+: change.body := by
  have hmem : breakingMark ∈ reserved := by simp [reserved]
  have hspace : ' ' ∉ breakingMark := by rw [Reference.breakingMark_eq]; decide
  intro hinf
  refine h.markless.not_contains hmem (Reference.infix_append_written hspace ?_ hinf)
  intro r hr
  refine (h.references r hr).not_infix_render hmem ?_
  rw [Reference.breakingMark_eq]
  cases r.form <;> decide

end Canonical

theorem breakingMarker_append (s : Text) :
    breakingMarker (breakingMark ++ s) = some ((), trimStart s) := by
  rw [breakingMarker, Text.after?_eq_some.2 rfl]
  rfl

theorem begins_breakingMarker : Scanner.Begins breakingMarker breakingMark := by
  intro s a rest h
  rw [breakingMarker, Option.map_eq_some_iff] at h
  obtain ⟨t, ht, hrest⟩ := h
  obtain ⟨-, rfl⟩ := Prod.mk.inj hrest
  obtain ⟨b, hb⟩ := List.dropWhile_suffix (l := t) isBlank
  refine ⟨b, ?_⟩
  rw [Text.after?_eq_some.1 ht, List.append_assoc]
  exact congrArg (breakingMark ++ ·) hb.symm

/-- A change without the mark is read from its body without the blanks at the front. -/
theorem ofEntry_unmarked (h : change.Canonical) (hb : change.breaking = false) :
    ofEntry (trimStart change.body) = change := by
  have hsuffix : trimStart change.body <:+ change.body := List.dropWhile_suffix isBlank
  have hnone : ¬breakingMark <:+: trimStart change.body :=
    fun hinf => h.not_infix_body (hinf.trans hsuffix.isInfix)
  have hremove : Scanner.removeFirst breakingMarker (trimStart change.body) =
      trimStart change.body :=
    Scanner.removeFirst_of_silent (begins_breakingMarker.silent hnone (by simp))
  have htext : clean (trimStart change.body) = change.text := by
    rw [clean, hremove, Reference.strip_trimStart, h.strip_body]
  have hreferences : Reference.extract (trimStart change.body) = change.references := by
    rw [Reference.extract_trimStart, h.extract_body]
  have hbreaking : isMarkedBreaking (trimStart change.body) = false := by
    rw [isMarkedBreaking, Bool.eq_false_iff]
    exact fun hc => hnone (Text.contains_iff.1 hc)
  rw [ofEntry, htext, hreferences, hbreaking, ← hb]

/-- A change with the mark is read from the mark and what follows, without blanks at the end. -/
theorem ofEntry_marked (h : change.Canonical) (hb : change.breaking) {s : Text} (hs : AtSpace s)
    (htrim : trimStart s = trimStart change.body) : ofEntry (breakingMark ++ s) = change := by
  have hfirst : Scanner.removeFirst breakingMarker (breakingMark ++ s) = trimStart s := by
    have hne : breakingMark ≠ [] := by rw [Reference.breakingMark_eq]; exact List.cons_ne_nil _ _
    refine Scanner.removeFirst_of_find (a := ()) ?_
    rw [begins_breakingMarker.find_eq hne, breakingMarker_append]
  have htext : clean (breakingMark ++ s) = change.text := by
    rw [clean, hfirst, htrim, Reference.strip_trimStart, h.strip_body]
  have hreferences : Reference.extract (breakingMark ++ s) = change.references := by
    have hmark : ∀ f : Reference.Form, ¬f.mark <:+: breakingMark := by
      intro f
      rw [Reference.breakingMark_eq]
      cases f <;> decide
    rw [Reference.extract_append hmark hs, ← Reference.extract_trimStart, htrim,
      Reference.extract_trimStart, h.extract_body]
  have hbreaking : isMarkedBreaking (breakingMark ++ s) = true :=
    Text.contains_iff.2 (List.prefix_append _ _).isInfix
  rw [ofEntry, htext, hreferences, hbreaking, ← hb]

/-- **A change is read from its list item.** -/
theorem ofEntry_trim (h : change.Canonical) :
    ofEntry (trim (change.marking ++ change.body)) = change := by
  cases hb : change.breaking with
  | false =>
    have hmarking : change.marking = [] := by rw [marking, hb]; rfl
    rw [hmarking, List.nil_append, Text.trim_of_last h.last_body, ofEntry_unmarked h hb]
  | true =>
    have hmarking : change.marking = breakingMark ++ [' '] := by rw [marking, hb]; rfl
    have htrim : trim (change.marking ++ change.body) =
        breakingMark ++ trimEnd (' ' :: change.body) := by
      have hlast : ∀ c ∈ breakingMark.getLast?, isBlank c = false := by
        rw [Reference.breakingMark_eq]
        exact Text.forall_last_concat (by rfl)
          ['*', '*', 'B', 'r', 'e', 'a', 'k', 'i', 'n', 'g', ':', '*']
      have hhead : ∀ c ∈ (breakingMark ++ ' ' :: change.body).head?, isBlank c = false := by
        rw [Reference.breakingMark_eq]
        exact Text.forall_head_cons (by rfl) _
      rw [hmarking, List.append_assoc, List.singleton_append, trim, Text.trimStart_of_head hhead,
        Text.trimEnd_append_of_last hlast]
    rw [htrim]
    -- With nothing behind it, the space after the mark is trimmed with the line.
    by_cases hbody : change.body = []
    · have hnil : trimEnd (' ' :: change.body) = [] := by rw [hbody]; rfl
      rw [hnil]
      exact ofEntry_marked h hb (by simp [AtSpace]) (by rw [hbody])
    · have hlast : ∀ c ∈ (' ' :: change.body).getLast?, isBlank c = false := by
        rw [List.getLast?_cons_of_ne_nil hbody]
        exact h.last_body
      rw [Text.trimEnd_of_last hlast]
      exact ofEntry_marked h hb (Text.forall_head_cons (by rfl) _) rfl

end Change

end CommonChangelog
