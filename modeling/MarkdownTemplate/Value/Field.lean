import MarkdownTemplate.Value.Lenient

/-!
# Fields

Headings and frames may be given by fields that hold any values. This file fixes

* `FieldFault` -- what can be wrong with a field;
* `Value.integerField`, `Value.textField` -- reading a field: integers are read leniently, texts
  are not.
-/

namespace MarkdownTemplate

/-- What is wrong with a field. -/
inductive FieldFault where
  | missing
  | integer (fault : Value.IntFault)
  /-- The number is smaller than the least one allowed. -/
  | tooSmall
  /-- The number is larger than the greatest one allowed. -/
  | tooLarge
  | notText
  deriving DecidableEq

namespace Value

/-- The integer that a field holds. -/
def integerField (v : Value) : Except FieldFault Int :=
  v.integer?.mapError .integer

/-- The text that a field holds. -/
def textField : Value → Except FieldFault Text
  | text s => .ok s
  | _ => .error .notText

/-- A field that may be left out, or be null to the same effect. -/
def optionalField {α : Type} (read : Value → Except FieldFault α) :
    Option Value → Except FieldFault (Option α)
  | none => .ok none
  | some null => .ok none
  | some v => (read v).map some

end Value

end MarkdownTemplate
