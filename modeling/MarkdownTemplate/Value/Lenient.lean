import MarkdownTemplate.Numeral
import MarkdownTemplate.Value

/-!
# Lenient readings of values

Where a truth value or an integer is asked for, some values of other kinds are taken for one:

* `Value.truth?` -- truth values, the numbers 0 and 1, and the common words for yes and no;
* `Value.integer?` -- integers, truth values, whole numbers, and texts that denote an integer.
-/

namespace MarkdownTemplate.Value

/-! ## 1. Truth values -/

/-- The words for yes. -/
def yesWords : List Text :=
  ["1", "on", "t", "true", "y", "yes"].map String.toList

/-- The words for no. -/
def noWords : List Text :=
  ["0", "off", "f", "false", "n", "no"].map String.toList

/-- The truth value that a value stands for. Words count in any mix of small and capital ASCII
    letters. -/
def truth? : Value → Option Bool
  | truth b => some b
  | int n => if n = 0 then some false else if n = 1 then some true else none
  | float x => if x == 0 then some false else if x == 1 then some true else none
  | text s =>
    if yesWords.contains s.lowerAscii then some true
    else if noWords.contains s.lowerAscii then some false
    else none
  | _ => none

/-! ## 2. Integers -/

/-- Why a value is not read as an integer. -/
inductive IntFault where
  /-- The value is of a kind that is never read as an integer. -/
  | kind
  /-- The text is no integer. -/
  | text
  /-- The number has a fraction. -/
  | fraction
  /-- The number is not finite. -/
  | infinite
  /-- The number or the text is too large to be read. -/
  | size
  deriving DecidableEq

/-- The integer that a value stands for. -/
def integer? : Value → Except IntFault Int
  | truth b => .ok (if b then 1 else 0)
  | int n => .ok n
  | float x =>
    if x.isNaN || x.isInf then .error .infinite
    else
      match Decimal.integer? x with
      | none => .error .fraction
      | some n => if n.natAbs < Nat.pow 2 63 then .ok n else .error .size
  | text s =>
    match Numeral.read s with
    | .ok n => .ok n
    | .error .malformed => .error .text
    | .error .tooLong => .error .size
  | _ => .error .kind

end MarkdownTemplate.Value
