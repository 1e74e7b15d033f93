import MarkdownTemplate.Heading
import MarkdownTemplate.Value.Field

/-!
# Headings from fields

A heading may be given as an object with a level and a text. The level is read leniently and must
lie between one and six, the text must be a text, and other fields are ignored. All faults are
reported together, that of the level first.
-/

namespace MarkdownTemplate

/-- The fields of a heading. -/
inductive HeadingField where
  | level
  | text
  deriving DecidableEq

namespace Heading

/-- The names of the fields. -/
def fieldName : HeadingField → Text
  | .level => "level".toList
  | .text => "text".toList

/-- The level that a field gives. -/
def levelOf (field : Option Value) : Except FieldFault { n : Nat // 1 ≤ n ∧ n ≤ 6 } :=
  match field.map Value.integerField with
  | none => .error .missing
  | some (.error fault) => .error fault
  | some (.ok n) =>
    if n < 1 then .error .tooSmall
    else if h : 1 ≤ n.toNat ∧ n.toNat ≤ 6 then .ok ⟨n.toNat, h⟩
    else .error .tooLarge

/-- The text that a field gives. -/
def textOf (field : Option Value) : Except FieldFault Text :=
  (field.map Value.textField).getD (.error .missing)

/-- The heading that fields give, or everything that is wrong with them. -/
def ofFields (fields : List (Text × Value)) :
    Except (List (HeadingField × FieldFault)) Heading :=
  match levelOf (fields.lookup (fieldName .level)), textOf (fields.lookup (fieldName .text)) with
  | .ok ⟨n, h⟩, .ok s => .ok ⟨n, s, h.1, h.2⟩
  | .error e, .ok _ => .error [(.level, e)]
  | .ok _, .error e => .error [(.text, e)]
  | .error e, .error e' => .error [(.level, e), (.text, e')]

end Heading

end MarkdownTemplate
