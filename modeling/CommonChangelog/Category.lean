import CommonChangelog.Text.Basic

/-!
# Categories

The four categories of Common Changelog, in the order in which they stand inside a release. Other
vocabularies (headings of Keep a Changelog, types of conventional commits) are mapped to them by an
alias table, whose built-in form is `Category.defaultAliases`.
-/

namespace CommonChangelog

/-- The kinds of change that a release is divided into. -/
inductive Category where
  | changed | added | removed | fixed
  deriving DecidableEq, Repr

namespace Category

/-- Every category, in canonical order. -/
def all : List Category := [changed, added, removed, fixed]

/-- The canonical name, which is also the heading of a group. -/
def name : Category → Text
  | changed => "Changed"
  | added => "Added"
  | removed => "Removed"
  | fixed => "Fixed"

/-- The place in the canonical order. -/
def rank : Category → Nat
  | changed => 0
  | added => 1
  | removed => 2
  | fixed => 3

instance : LE Category := ⟨fun a b => a.rank ≤ b.rank⟩
instance : LT Category := ⟨fun a b => a.rank < b.rank⟩
instance (a b : Category) : Decidable (a ≤ b) := inferInstanceAs (Decidable (a.rank ≤ b.rank))
instance (a b : Category) : Decidable (a < b) := inferInstanceAs (Decidable (a.rank < b.rank))

/-- The category with exactly this canonical name. -/
def ofName? (s : Text) : Option Category := all.find? fun c => c.name = s

/-- The canonical names in order, as diagnostics list them. -/
def nameList (separator : Text) : Text := Text.join separator (all.map name)

theorem ofName?_name (c : Category) : ofName? c.name = some c := by
  cases c <;> decide

theorem name_of_ofName? {s : Text} {c : Category} (h : ofName? s = some c) : c.name = s := by
  simpa using List.find?_some h

/-- The built-in alias table, in the order of the names. -/
def defaultAliases : List (Text × Category) :=
  [("add", added), ("added", added), ("breaking", changed), ("bugfix", fixed),
   ("build", changed), ("changed", changed), ("chore", changed), ("ci", changed),
   ("deprecate", removed), ("deprecated", changed), ("docs", changed), ("feat", added),
   ("feature", added), ("fix", fixed), ("fixed", fixed), ("hotfix", fixed), ("perf", changed),
   ("refactor", changed), ("remove", removed), ("removed", removed), ("revert", changed),
   ("security", fixed), ("style", changed), ("test", changed)]

end Category

end CommonChangelog
