import MarkdownTemplate.Decimal
import MarkdownTemplate.Text.Quoted

/-!
# Values of options and fields

An option or a field is given as a value of a data format. This file fixes

* `Value` -- the values: nothing, truth values, integers, numbers of double precision, texts,
  lists and objects whose fields keep their order;
* `Value.literal?` -- a value as it is shown in messages, if it can be shown: an integer of more
  than 4300 digits cannot, nor can a list or an object that holds one.
-/

namespace MarkdownTemplate

/-- A value given for an option or a field. -/
inductive Value where
  | null
  | truth (b : Bool)
  | int (n : Int)
  | float (x : Float)
  | text (s : Text)
  | list (items : List Value)
  | object (fields : List (Text × Value))
  deriving Inhabited

namespace Value

/-- There is no value. -/
def isNull : Value → Bool
  | null => true
  | _ => false

/-- The most digits of an integer that can be shown. -/
def longestShown : Nat := 4300

/-- An integer as it is shown. -/
def shownInt? (n : Int) : Option Text :=
  if (Text.ofNat n.natAbs).length ≤ longestShown then some (Text.ofInt n) else none

mutual

/-- A value as it is shown in messages: texts quoted, lists in brackets, objects in braces. -/
def literal? : Value → Option Text
  | null => some "None".toList
  | truth true => some "True".toList
  | truth false => some "False".toList
  | int n => shownInt? n
  | float x => some (Decimal.text x)
  | text s => some (Text.quoted s)
  | list items =>
    (itemLiterals? items).map fun shown => '[' :: Text.joined ", ".toList shown ++ [']']
  | object fields =>
    (fieldLiterals? fields).map fun shown => '\x7b' :: Text.joined ", ".toList shown ++ ['\x7d']

/-- The items of a list, each as it is shown. -/
def itemLiterals? : List Value → Option (List Text)
  | [] => some []
  | v :: rest => (literal? v).bind fun shown => (itemLiterals? rest).map (shown :: ·)

/-- The fields of an object, each as it is shown. -/
def fieldLiterals? : List (Text × Value) → Option (List Text)
  | [] => some []
  | (name, v) :: rest =>
    (literal? v).bind fun shown =>
      (fieldLiterals? rest).map ((Text.quoted name ++ ": ".toList ++ shown) :: ·)

end

/-- What is said when a value cannot be shown. -/
def unshownMessage : Text :=
  "Exceeds the limit (4300 digits) for integer string conversion; ".toList ++
    "use sys.set_int_max_str_digits() to increase the limit".toList

end Value

end MarkdownTemplate
