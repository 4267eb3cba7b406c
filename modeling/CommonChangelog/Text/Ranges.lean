import CommonChangelog.Text.Basic

/-!
# Sets of characters as ranges of code points

The properties of characters that the rules speak of (digit, word character, cased letter) are
tables of ranges. A `Ranges` lists inclusive ranges in rising order.
-/

namespace CommonChangelog

/-- Inclusive ranges of code points, in rising order. -/
abbrev Ranges := List (Nat × Nat)

namespace Ranges

/-- The character lies in one of the ranges. -/
def has (table : Ranges) (c : Char) : Bool :=
  table.any fun range => range.1 ≤ c.toNat && c.toNat ≤ range.2

end Ranges

end CommonChangelog
