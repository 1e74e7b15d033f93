import MarkdownTemplate.Path

/-!
# Inclusions

While a file is expanded, the directives that led to it are kept on a stack. This file fixes

* `Frame` -- one entry: the file being read, and the directive in it that is taken up;
* `Stack` -- the frames, outermost first, with `push`, `pop?` and `find?`;
* `Stack.backtrace` -- how messages show the directives, innermost first.
-/

namespace MarkdownTemplate

/-- An entry of the inclusion stack. -/
structure Frame where
  /-- The file being read. -/
  template : Path
  /-- The file being written, if it is known. -/
  output : Option Path
  /-- The line of the directive, counted from one. -/
  line : Option Int
  /-- The directive as written; the outermost frame of an expansion has none. -/
  directive : Option Text
  /-- The file that the directive cites. -/
  includee : Option Path
  deriving DecidableEq

namespace Frame

/-- The frame of the file that an expansion starts with. -/
def outermost (template : Path) (output : Option Path) : Frame :=
  ⟨template, output, none, none, none⟩

/-- The frame of a directive. -/
def ofDirective (template : Path) (line : Nat) (directive : Text) (includee : Path) : Frame :=
  ⟨template, none, some line, some directive, some includee⟩

/-- The frame belongs to a directive. -/
def isDirective (f : Frame) : Bool :=
  f.directive.isSome

end Frame

/-- The inclusion stack, outermost frame first. -/
abbrev Stack := List Frame

namespace Stack

/-- The stack with one frame more. -/
def push (s : Stack) (f : Frame) : Stack :=
  s ++ [f]

/-- The innermost frame, and the stack without it. -/
def pop? (s : Stack) : Option (Frame × Stack) :=
  s.getLast?.map fun f => (f, s.dropLast)

@[simp] theorem pop?_push (s : Stack) (f : Frame) : (s.push f).pop? = some (f, s) := by
  simp [push, pop?]

/-- The outermost frame that reads `template`. -/
def find? (s : Stack) (template : Path) : Option Frame :=
  List.find? (fun f => f.template == template) s

/-- A level of the backtrace: where the directive stands, and the directive. -/
def levelLines (root : Option Path) (level : Nat) (f : Frame) : List Text :=
  ["Level ".toList ++ Text.ofNat level ++ [':'],
   "  Site: ".toList ++ f.template.display root ++
     ':' :: (f.line.map Text.ofInt).getD "None".toList,
   "  Directive: ".toList ++ f.directive.getD "None".toList]

/-- The levels of directive frames, innermost first; the outermost one has level zero. -/
def levels (root : Option Path) (frames : List Frame) : List Text :=
  (frames.zipIdx.reverse.map fun (f, level) => levelLines root level f).flatten

/-- The backtrace: a heading, and three lines for each directive on the stack. -/
def backtrace (s : Stack) (root : Option Path) : Text :=
  Text.joined ['\n']
    ("Inclusion backtrace, innermost first:".toList :: levels root (s.filter Frame.isDirective)) ++
    ['\n']

end Stack

end MarkdownTemplate
