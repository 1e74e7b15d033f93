import MarkdownTemplate.FileTree
import MarkdownTemplate.Inclusion
import MarkdownTemplate.Value

/-!
# Errors

Everything that can stop an assembly, one constructor for each cause. This file fixes

* `Error` -- the causes;
* `Error.message` -- what is said about them;
* `Error.isReported` -- the causes that a user is told about. The others are requests that make no
  sense: a path that holds a null character, is too long or leads through a directory that may not
  be searched, an encoding that does not exist, an output that is no path, a value that cannot even
  be shown.
-/

namespace MarkdownTemplate

/-- A cause that stops an assembly. -/
inductive Error where
  | unknownOption (name : Text)
  /-- The value is given as messages show it. -/
  | optionValue (name value : Text)
  /-- The value of an option is refused, but cannot be shown. -/
  | unshownValue
  | unreadableTemplate (path : Path)
  | unwritableOutput (path : Path)
  /-- The stack holds the directive that cites the file; `root` is where shown paths begin. -/
  | unreadableIncludee (root : Option Path) (includee : Path) (stack : Stack)
  /-- The file is being expanded already. -/
  | circularInclusion (root : Option Path) (includee : Path) (stack : Stack)
  | severalContents
  | contentsTitle (title : Text)
  | misplacedContents
  /-- A path holds a null character. -/
  | nullCharacter
  /-- The system refuses to follow the path. -/
  | barred (b : Barrier) (path : Path)
  /-- The name of the encoding holds a null character. -/
  | nullInEncoding
  | unknownEncoding (name : Text)
  /-- The text holds a character that the encoding of the output lacks. -/
  | unencodable
  /-- Nothing is left of the argument that should be the output. -/
  | lostOutput
  deriving DecidableEq

namespace Error

/-- What is said about an error inside an inclusion: the file as shown, and how it was reached. -/
def inclusionMessage (summary : String) (root : Option Path) (includee : Path) (stack : Stack) :
    Text :=
  summary.toList ++ ": ".toList ++ includee.display root ++ '\n' :: stack.backtrace root

/-- What is said about a path that is not followed. -/
def barrierMessage : Barrier → Text
  | .tooLong => "[Errno 36] File name too long".toList
  | .sealed => "[Errno 13] Permission denied".toList

/-- What is said about an error. -/
def message : Error → Text
  | unknownOption name => "Unknown option: ".toList ++ name
  | optionValue name value =>
    "Invalid value for option ".toList ++ name ++ ": ".toList ++ value
  | unshownValue => Value.unshownMessage
  | unreadableTemplate path => "Could not read template file:\n".toList ++ path.text ++ ['\n']
  | unwritableOutput path => "Could not write markdown file:\n".toList ++ path.text ++ ['\n']
  | unreadableIncludee root includee stack =>
    inclusionMessage "Could not read includee file" root includee stack
  | circularInclusion root includee stack =>
    inclusionMessage "Circular inclusion" root includee stack
  | severalContents => "Only one page TOC allowed.".toList
  | contentsTitle title => "TOC title must be a valid markdown header, not ".toList ++ title
  | misplacedContents => "Page TOC must be in outermost markdown file.".toList
  | nullCharacter => "embedded null byte".toList
  | barred b path => barrierMessage b ++ ": ".toList ++ Text.quoted path.text
  | nullInEncoding => "embedded null character".toList
  | unknownEncoding name => "unknown encoding: ".toList ++ name
  | unencodable => "text cannot be encoded".toList
  | lostOutput => "expected str, bytes or os.PathLike object, not list".toList

/-- The error is one that a user is told about. -/
def isReported : Error → Bool
  | unshownValue => false
  | nullCharacter => false
  | barred _ _ => false
  | nullInEncoding => false
  | unknownEncoding _ => false
  | unencodable => false
  | lostOutput => false
  | _ => true

end Error

end MarkdownTemplate
