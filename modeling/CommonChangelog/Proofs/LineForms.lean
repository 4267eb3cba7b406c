import CommonChangelog.Document.Line
import CommonChangelog.Proofs.Scanning

/-!
# The forms of lines

The role of a line is read off the mark at its front, once the blanks around it are gone. So the
role says what the line looks like (`Line.Shows`): a title, a category and an entry are the rest of
the line behind the mark, trimmed, and only what begins with two number signs and a space is a
heading of the second level, well formed or not.

Main result: `Line.shows_ofTrimmed`.
-/

namespace CommonChangelog

open Text (allBlank trim startsWith after?_eq_some)

namespace Line

/-- The form that a line has if it is read in this role. -/
def Shows (line : Text) : Line → Prop
  | title text => ∃ rest, line = '#' :: ' ' :: rest ∧ text = trim rest
  | version label date => startsWith "## " line ∧ heading? line = some (label, date)
  | malformed text => startsWith "## " line ∧ text = line
  | category heading => ∃ rest, line = '#' :: '#' :: '#' :: ' ' :: rest ∧ heading = trim rest
  | notice text => noticeText? line = some text
  | entry text => ∃ bullet rest, (bullet = '-' ∨ bullet = '*') ∧ line = bullet :: ' ' :: rest ∧
      text = trim rest
  | blank => line = []
  | other text => text = line

variable {line : Text}

theorem exists_of_entryText? {rest : Text} (h : entryText? line = some rest) :
    ∃ bullet, (bullet = '-' ∨ bullet = '*') ∧ line = bullet :: ' ' :: rest := by
  rcases Option.or_eq_some_iff.1 h with h | ⟨-, h⟩
  · exact ⟨'-', .inl rfl, after?_eq_some.1 h⟩
  · exact ⟨'*', .inr rfl, after?_eq_some.1 h⟩

/-- **A line has the form of its role.** -/
theorem shows_ofTrimmed (line : Text) : Shows line (ofTrimmed line) := by
  -- One case for each mark, in the order in which they are tried.
  unfold ofTrimmed
  split
  · rename_i hnil
    exact List.isEmpty_iff.1 hnil
  split
  · rename_i rest hrest
    exact ⟨rest, after?_eq_some.1 hrest, rfl⟩
  split
  · rename_i hstart
    split
    · rename_i hheading
      exact ⟨hstart, hheading⟩
    · exact ⟨hstart, rfl⟩
  split
  · rename_i rest hrest
    exact ⟨rest, after?_eq_some.1 hrest, rfl⟩
  split
  · rename_i hnotice
    exact hnotice
  split
  · rename_i rest hrest
    obtain ⟨bullet, hbullet, hline⟩ := exists_of_entryText? hrest
    exact ⟨bullet, rest, hbullet, hline, rfl⟩
  · rfl

theorem shows_of_classify {role : Line} (h : classify line = role) : Shows (trim line) role :=
  h ▸ shows_ofTrimmed (trim line)

/-- The form of a heading with a label in brackets. -/
theorem exists_of_heading? {label : Text} {date : Option Text}
    (h : heading? line = some (label, date)) :
    ∃ blanks name rest, line = '#' :: '#' :: (blanks ++ '[' :: (name ++ ']' :: rest)) ∧
      allBlank blanks ∧ name ≠ [] ∧ ']' ∉ name := by
  simp only [heading?, Text.afterBlanks?, Option.bind_eq_bind, Option.bind_eq_some_iff,
    Option.map_eq_some_iff, Text.after?_eq_some, Text.run?_eq_some, Prod.exists] at h
  obtain ⟨s₁, rfl, s₂, ⟨blanks, s₃, ⟨rfl, -, hblanks, -⟩, rfl⟩, s₄, rfl, name, s₅,
    ⟨rfl, hne, hname, -⟩, rest, rfl, -⟩ := h
  refine ⟨blanks, name, rest, by simp, List.all_eq_true.2 hblanks, hne, fun hmem => ?_⟩
  exact absurd (hname ']' hmem) (by decide)

end Line

end CommonChangelog
