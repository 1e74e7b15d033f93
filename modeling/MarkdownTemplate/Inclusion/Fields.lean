import MarkdownTemplate.Inclusion
import MarkdownTemplate.Value.Field

/-!
# Frames from fields

The line and the directive of a frame may be given as values of any kind. The line is read
leniently, the directive must be a text, and either may be left out. All faults are reported
together, that of the line first.
-/

namespace MarkdownTemplate

/-- The fields of a frame that are given as values. -/
inductive FrameField where
  | line
  | directive
  deriving DecidableEq

namespace Frame

/-- The names of the fields. -/
def fieldName : FrameField → Text
  | .line => "line_number".toList
  | .directive => "directive".toList

/-- The frame that fields give, or everything that is wrong with them. -/
def ofFields (template : Path) (output : Option Path) (line directive : Option Value)
    (includee : Option Path) : Except (List (FrameField × FieldFault)) Frame :=
  match Value.optionalField Value.integerField line,
    Value.optionalField Value.textField directive with
  | .ok line, .ok directive => .ok ⟨template, output, line, directive, includee⟩
  | .error e, .ok _ => .error [(.line, e)]
  | .ok _, .error e => .error [(.directive, e)]
  | .error e, .error e' => .error [(.line, e), (.directive, e')]

end Frame

end MarkdownTemplate
