import MarkdownTemplate.Text.Basic

/-!
# Integers in texts

An integer in plain form is a minus sign or none, then `0` or digits that do not begin with `0`.
Other forms are brought into plain form, in this order:

* `trimMargin` -- the blanks at both ends are dropped;
* `dropPlus?` -- one plus sign is dropped, unless a minus sign follows it;
* `dropLeadingZeros?` -- leading zeros are dropped, in front of a minus sign or behind it;
* `dropZeroFraction` -- a point with nothing but zeros behind it is dropped;
* `dropUnderscores` -- underscores that stand alone are dropped.

`Numeral.plain` reads the plain form, `Numeral.read` any form.
-/

namespace MarkdownTemplate.Numeral

/-- Why a text is not read as an integer. -/
inductive Fault where
  | malformed
  /-- There are more digits than are read. -/
  | tooLong
  deriving DecidableEq

/-! ## 1. The plain form -/

/-- The most digits that are read, a minus sign counted as one. -/
def longest : Nat := 4300

/-- The value of decimal digits. -/
def digitsValue (digits : Text) : Nat :=
  digits.foldl (fun n c => 10 * n + (c.toNat - '0'.toNat)) 0

/-- The number that digits denote, when `room` digits are read at most. That there are too many is
    noticed before what stands behind them. -/
def unsigned (room : Nat) (s : Text) : Except Fault Nat :=
  let digits := s.takeWhile Char.isDigit
  if s = ['0'] then .ok 0
  else if digits.head?.all (· == '0') then .error .malformed
  else if digits.length > room then .error .tooLong
  else if digits = s then .ok (digitsValue digits)
  else .error .malformed

/-- The integer that a text in plain form denotes. -/
def plain : Text → Except Fault Int
  | '-' :: s => (unsigned (longest - 1) s).map fun n => -(n : Int)
  | s => (unsigned longest s).map fun n => (n : Int)

/-! ## 2. Other forms -/

/-- The blanks that may stand around an integer: those of Unicode, without the four separators
    of ASCII. -/
def isMargin (c : Char) : Bool :=
  Text.isSpace c && !(0x1C ≤ c.toNat && c.toNat ≤ 0x1F)

/-- The text without the blanks around it. -/
def trimMargin (s : Text) : Text :=
  dropTrailing isMargin (s.dropWhile isMargin)

/-- The text without a plus sign in front; there may not be a minus sign as well. -/
def dropPlus? : Text → Option Text
  | '+' :: '-' :: _ => none
  | '+' :: s => some s
  | s => some s

/-- A digit other than zero, or a minus sign: what an integer may begin with. -/
def beginsInteger (c : Char) : Bool :=
  ('1' ≤ c && c ≤ '9') || c == '-'

/-- The text without the zeros in front. The zeros may be mixed with underscores, and the last of
    these characters stays if a point or nothing follows. -/
def dropZerosInFront? (s : Text) : Option Text :=
  if s.head? = some '0' then
    let zeros := s.takeWhile fun c => c == '0' || c == '_'
    let rest := s.dropWhile fun c => c == '0' || c == '_'
    if rest.head?.all (· == '.') then some (zeros.getLast?.toList ++ rest)
    else if rest.head?.any beginsInteger then some rest
    else none
  else if s.head?.any beginsInteger then some s
  else none

/-- The text without leading zeros; a minus sign in front of them stays. -/
def dropLeadingZeros? : Text → Option Text
  | '-' :: s => (dropZerosInFront? s).map ('-' :: ·)
  | s => dropZerosInFront? s

/-- The text without a fraction of zeros: without the first point and what is behind it, if that
    is one zero or more and nothing else. -/
def dropZeroFraction (s : Text) : Text :=
  let fraction := (s.dropWhile (· != '.')).drop 1
  if fraction ≠ [] ∧ fraction.all (· == '0') then s.takeWhile (· != '.') else s

/-- The text without its underscores, if none of them is first, last or next to another. -/
def dropUnderscores (s : Text) : Text :=
  let groups := Text.pieces '_' s
  if groups.all (· != []) then groups.flatten else s

/-- The plain form of a text. -/
def plainForm? (s : Text) : Option Text :=
  ((dropPlus? (trimMargin s)).bind dropLeadingZeros?).map fun t =>
    dropUnderscores (dropZeroFraction t)

/-- The integer that a text denotes. -/
def read (s : Text) : Except Fault Int :=
  match plainForm? s with
  | some t => plain t
  | none => .error .malformed

end MarkdownTemplate.Numeral
