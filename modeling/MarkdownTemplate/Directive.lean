import MarkdownTemplate.Text.Lines
import MarkdownTemplate.Text.Word

/-!
# Directives

A directive is a line of the form `@[treatment](target)`. This file fixes

* `Treatment` -- what a directive does with its target;
* `Directive.parse?` -- the directive a line is, if it is one;
* `Directive.verbatim?` -- the lines that quote a file's content.
-/

namespace MarkdownTemplate

/-- What is done with the target of a directive. -/
inductive Treatment where
  /-- The target is a template and is expanded in place. -/
  | markdown
  /-- The target is quoted between fences. -/
  | codeBlock
  /-- The target is quoted between comment marks. -/
  | comment
  /-- The target is quoted as preformatted text. -/
  | pre
  /-- The target is the title of the page's table of contents. -/
  | pageToc
  /-- The target is quoted between fences that name a language. -/
  | language
  deriving DecidableEq

namespace Treatment

/-- The word for a treatment. -/
def word : Treatment → Text
  | markdown => "markdown".toList
  | codeBlock => "code_block".toList
  | comment => "comment".toList
  | pre => "pre".toList
  | pageToc => "page_toc".toList
  | language => "language".toList

/-- The treatments that a directive selects by their word. -/
def keywords : List Treatment :=
  [markdown, codeBlock, comment, pre, pageToc]

/-- The treatment that a name selects; a name that is no keyword is a language. -/
def ofName (name : Text) : Treatment :=
  (keywords.find? fun t => t.word == name).getD language

/-- What is said about a treatment that quotes nothing. -/
def notQuoting (t : Treatment) : Text :=
  "Treatment ".toList ++ t.word ++ " does not render verbatim".toList

end Treatment

/-- A directive as it stands on a line. -/
structure Directive where
  treatment : Treatment
  /-- The cited path, or the title of the table of contents. -/
  target : Text
  /-- The directive as written, without trailing blanks. -/
  text : Text
  /-- The name of the language, for the treatment that needs one. -/
  language : Option Text
  deriving DecidableEq

namespace Directive

/-! ## 1. Reading a line -/

/-- The characters of a treatment's name. -/
def isNameChar (c : Char) : Bool :=
  Text.isWord c || c == '.' || c == '+' || c == '#' || c == '-'

/-- The name in front of a closing bracket and a parenthesised target, and the target. -/
def splitBody (s : Text) : Option (Text × Text) :=
  let name := s.takeWhile isNameChar
  match s.dropWhile isNameChar with
  | ']' :: '(' :: rest =>
    if name ≠ [] ∧ rest.getLast? = some ')' ∧ '\n' ∉ rest then some (name, rest.dropLast)
    else none
  | _ => none

/-- The name and the target of a directive's text; a colon before the name is allowed. -/
def split? : Text → Option (Text × Text)
  | '@' :: '[' :: ':' :: rest => splitBody rest
  | '@' :: '[' :: rest => splitBody rest
  | _ => none

/-- The directive a line is. It starts at the start of the line, only blanks follow it, and only
    the table of contents may have an empty target. -/
def parse? (line : Text) : Option Directive :=
  let text := Text.trimRight line
  match split? text with
  | none => none
  | some (name, target) =>
    let treatment := Treatment.ofName name
    if target = [] ∧ treatment ≠ .pageToc then none
    else some ⟨treatment, target, text, if treatment = .language then some name else none⟩

/-- The directive's target is expanded as a template. -/
def isRecursive (d : Directive) : Bool :=
  d.treatment == .markdown

/-- The directive's target is a file. -/
def citesFile (d : Directive) : Bool :=
  d.treatment != .pageToc

/-! ## 2. Quoting -/

/-- The lines of quoted content; the last line is ended if it is not. -/
def contentLines (content : Text) : List Text :=
  Text.splitLines Text.isBreak (if content = [] then [] else Text.terminated content)

/-- The line before and the line after the content quoted by a treatment. -/
def wrapper? (language : Option Text) : Treatment → Option (Text × Text)
  | .codeBlock => some ("```\n".toList, "```\n".toList)
  | .language =>
    some ("```".toList ++ language.getD "None".toList ++ ['\n'], "```\n".toList)
  | .comment => some ("<!--\n".toList, "-->\n".toList)
  | .pre => some ("<pre>\n".toList, "</pre>\n".toList)
  | .markdown => none
  | .pageToc => none

/-- The lines that quote `content`; two treatments quote nothing. -/
def verbatim? (treatment : Treatment) (language : Option Text) (content : Text) :
    Option (List Text) :=
  (wrapper? language treatment).map fun w => w.1 :: contentLines content ++ [w.2]

end Directive

end MarkdownTemplate
