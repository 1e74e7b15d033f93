/-!
# Classes of characters as ranges of code points

A class of characters is a list of closed ranges. This file fixes

* `Ranges` -- the classes;
* `inRanges` -- membership.
-/

namespace MarkdownTemplate.Text

/-- A class of characters: closed ranges of code points. -/
abbrev Ranges := List (Nat × Nat)

/-- The code point `n` lies in one of the ranges. -/
def inRanges (table : Ranges) (n : Nat) : Bool :=
  table.any fun r => r.1 ≤ n && n ≤ r.2

end MarkdownTemplate.Text
