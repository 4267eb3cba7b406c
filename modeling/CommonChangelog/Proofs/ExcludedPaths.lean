import CommonChangelog.Proofs.Lines
import CommonChangelog.UpdateCheck

/-!
# Exclusions by the components of paths

An exclusion that ends in a slash is compared with a path as a text: at its front, or anywhere
behind a slash. A slash cuts a path in the same way wherever it stands, and the components between
the slashes are what is left. So the comparison of texts is one of components: the components of
the directory stand one after another among those of the path, and at least one component of the
path follows them (`Exclusions.LeadsThrough`). In particular the directory never matches a part of
a component, nor the file itself.

A table of exclusions is only asked whether one of its patterns matches, so neither the groups nor
the order of the patterns matter.

Main result: `Exclusions.excludes_iff_components`.
-/

namespace CommonChangelog

namespace Text

variable {sep : Char}

theorem join_append {ps qs : List Text} (hps : ps ≠ []) (hqs : qs ≠ []) :
    join [sep] (ps ++ qs) = join [sep] ps ++ sep :: join [sep] qs := by
  obtain ⟨q, qs, rfl⟩ := List.exists_cons_of_ne_nil hqs
  induction ps with
  | nil => exact absurd rfl hps
  | cons p ps ih =>
    cases ps with
    | nil => rw [List.singleton_append, join_cons_cons, join_singleton]
    | cons r ps =>
      rw [List.cons_append, List.cons_append, join_cons_cons, ← List.cons_append,
        ih (List.cons_ne_nil r ps), join_cons_cons, List.append_assoc, List.cons_append]

theorem eq_of_split_append {s t : Text} {ps : List Text} (hps : ps ≠ [])
    (h : split sep s = split sep t ++ ps) : s = t ++ sep :: join [sep] ps := by
  rw [← join_split sep s, h, join_append (split_ne_nil sep t) hps, join_split]

end Text

namespace Exclusions

open Text (split join)

variable {directory path pattern : Text}

/-- What a path or a directory consists of between its slashes. A component may be empty. -/
def components (path : Text) : List Text := split '/' path

/--
The path leads through the directory: the components of the directory stand one after another
among those of the path, and a component follows them.
-/
def LeadsThrough (directory path : List Text) : Prop :=
  ∃ before after, path = before ++ directory ++ after ∧ after ≠ []

/-- The slash at the end of a directory has an empty component behind it. -/
theorem components_concat (directory : Text) :
    components (directory ++ ['/']) = components directory ++ [[]] :=
  Text.split_append directory []

theorem prefix_iff_components :
    directory ++ ['/'] <+: path ↔
      ∃ after, components path = components directory ++ after ∧ after ≠ [] := by
  constructor
  · rintro ⟨rest, rfl⟩
    refine ⟨components rest, ?_, Text.split_ne_nil '/' rest⟩
    rw [List.append_assoc]
    exact Text.split_append directory rest
  · rintro ⟨after, hpath, hafter⟩
    rw [Text.eq_of_split_append hafter hpath]
    exact ⟨join ['/'] after, by rw [List.append_assoc, List.singleton_append]⟩

theorem infix_iff_components :
    '/' :: (directory ++ ['/']) <:+: path ↔
      ∃ before after, components path = before ++ components directory ++ after ∧
        before ≠ [] ∧ after ≠ [] := by
  constructor
  · rintro ⟨front, rest, hpath⟩
    have hcut : path = front ++ '/' :: (directory ++ '/' :: rest) := by simp [← hpath]
    refine ⟨components front, components rest, ?_, Text.split_ne_nil '/' front,
      Text.split_ne_nil '/' rest⟩
    rw [hcut, List.append_assoc]
    exact (Text.split_append front _).trans (congrArg _ (Text.split_append directory rest))
  · rintro ⟨before, after, hpath, hbefore, hafter⟩
    have hne : components directory ++ after ≠ [] := List.append_ne_nil_of_right_ne_nil _ hafter
    have hjoin : path = join ['/'] before ++ '/' :: (directory ++ '/' :: join ['/'] after) := by
      calc path = join ['/'] (components path) := (Text.join_split '/' path).symm
        _ = join ['/'] before ++ '/' :: join ['/'] (components directory ++ after) := by
          rw [hpath, List.append_assoc, Text.join_append hbefore hne]
        _ = _ := by
          rw [components, Text.join_append (Text.split_ne_nil '/' directory) hafter,
            Text.join_split]
    exact ⟨join ['/'] before, join ['/'] after, by simp [hjoin]⟩

/-- **A directory matches the paths that lead through it.** -/
theorem matchesPath_iff_leadsThrough (h : Text.endsWith "/" pattern) :
    matchesPath pattern path ↔ LeadsThrough (components pattern).dropLast (components path) := by
  obtain ⟨directory, rfl⟩ := List.isSuffixOf_iff_suffix.1 h
  have hslash : ("/" : String).toList = ['/'] := rfl
  rw [matchesPath, if_pos h, Bool.or_eq_true, Text.startsWith_iff, Text.contains_iff, hslash,
    List.singleton_append, prefix_iff_components, infix_iff_components, components_concat,
    List.dropLast_concat]
  constructor
  · rintro (⟨after, hpath, hafter⟩ | ⟨before, after, hpath, -, hafter⟩)
    · exact ⟨[], after, hpath, hafter⟩
    · exact ⟨before, after, hpath, hafter⟩
  · rintro ⟨before, after, hpath, hafter⟩
    cases before with
    | nil => exact .inl ⟨after, hpath, hafter⟩
    | cons p ps => exact .inr ⟨p :: ps, after, hpath, List.cons_ne_nil p ps, hafter⟩

theorem excludes_iff {exclusions : Exclusions} :
    exclusions.excludes path ↔ ∃ pattern ∈ exclusions.patterns, matchesPath pattern path :=
  List.any_eq_true

theorem excludes_of_patterns_eq {exclusions : Exclusions} (h : exclusions.patterns = [pattern]) :
    exclusions.excludes path = matchesPath pattern path := by
  rw [excludes, h, List.any_cons, List.any_nil, Bool.or_false]

/--
**A directory excludes the paths that lead through it, and a table what one of its patterns
excludes.** A table whose only pattern ends in a slash excludes a path exactly if the components of
the pattern are consecutive components of the path and end before its last one. Any table excludes
a path exactly if one of its patterns does so alone. So tables with the same patterns, in whatever
groups and order and however often, exclude the same paths.
-/
theorem excludes_iff_components (path : Text) :
    (∀ (exclusions : Exclusions) (pattern : Text), exclusions.patterns = [pattern] →
      Text.endsWith "/" pattern →
      (exclusions.excludes path ↔
        LeadsThrough (components pattern).dropLast (components path))) ∧
    (∀ exclusions : Exclusions, exclusions.excludes path ↔
      ∃ group ∈ exclusions, ∃ pattern ∈ group.2,
        Exclusions.excludes [(group.1, [pattern])] path) ∧
    ∀ exclusions others : Exclusions,
      (∀ pattern, pattern ∈ exclusions.patterns ↔ pattern ∈ others.patterns) →
      exclusions.excludes path = others.excludes path := by
  refine ⟨fun exclusions pattern honly hslash => ?_, fun exclusions => ?_,
    fun exclusions others hsame => ?_⟩
  · rw [excludes_of_patterns_eq honly, matchesPath_iff_leadsThrough hslash]
  · have hsingle : ∀ name pattern, Exclusions.excludes [(name, [pattern])] path =
        matchesPath pattern path := fun name pattern => excludes_of_patterns_eq rfl
    simp only [excludes_iff, hsingle, patterns, List.mem_flatMap, ← exists_and_right]
    rw [exists_comm]
    simp only [and_assoc, exists_and_left]
  · rw [Bool.eq_iff_iff, excludes_iff, excludes_iff]
    exact exists_congr fun pattern => and_congr_left' (hsame pattern)

/-- A table with one directory, between empty groups. -/
def skillsOnly : Exclusions :=
  [("docs", []), ("generated", [".claude/skills/"]), ("tests", [])]

/-- The directory is found behind an empty component, and not in the middle of one. -/
theorem excludes_iff_components_skillsOnly :
    skillsOnly.patterns = [(".claude/skills/" : Text)] ∧ Text.endsWith "/" ".claude/skills/" ∧
      (components ".claude/skills/").dropLast = [".claude", "skills"].map String.toList ∧
      LeadsThrough (components ".claude/skills/").dropLast
        (components "apps//.claude/skills/notes.md") ∧
      ¬LeadsThrough (components ".claude/skills/").dropLast
        (components "apps/x.claude/skills/notes.md") ∧
      ¬LeadsThrough (components ".claude/skills/").dropLast (components "apps/.claude/skills") ∧
      (∃ group ∈ defaultExclusions, ∃ pattern ∈ group.2,
        Exclusions.excludes [(group.1, [pattern])] "apps//.claude/skills/notes.md") ∧
      Exclusions.excludes defaultExclusions.reverse "apps//.claude/skills/notes.md" := by
  have honly : skillsOnly.patterns = [(".claude/skills/" : Text)] := rfl
  have hslash : Text.endsWith "/" ".claude/skills/" := by decide
  have hiff := fun path => (excludes_iff_components path).1 skillsOnly _ honly hslash
  obtain ⟨-, htable, hsame⟩ := excludes_iff_components "apps//.claude/skills/notes.md"
  have hexcluded : defaultExclusions.excludes "apps//.claude/skills/notes.md" := by
    decide +kernel
  refine ⟨honly, hslash, by decide +kernel, (hiff _).1 (by decide +kernel),
    mt (hiff _).2 (by decide +kernel), mt (hiff _).2 (by decide +kernel),
    (htable _).1 hexcluded, ?_⟩
  rw [← hsame defaultExclusions defaultExclusions.reverse fun pattern => ?_]
  · exact hexcluded
  · simp only [patterns, List.mem_flatMap, List.mem_reverse]

end Exclusions

end CommonChangelog
