import MarkdownTemplate.Encoding
import MarkdownTemplate.FileTree
import MarkdownTemplate.Text.Lines

/-!
# Sources

A source is a file that has been opened for reading as text. This file fixes

* `Source.ofPath` -- opening, and the ways it fails;
* `Source.reading` -- the lines a reader that works its way through the file gets to see, and
  whether it comes to the end;
* `Source.text?` -- the whole text, for a reader that takes all or nothing.

The line reader decodes block by block. A bad byte is noticed with the block it lies in, so the
lines before it count only as far as earlier blocks complete them. A character that is cut off by
the end of the file is noticed at the end, after every whole line.
-/

namespace MarkdownTemplate

/-- A file opened for reading as text. -/
structure Source where
  encoding : Encoding
  content : List UInt8
  deriving DecidableEq

/-- Why a file cannot be opened as text. -/
inductive SourceFault where
  /-- The name of the encoding holds a null character. -/
  | nullInEncoding
  /-- The path holds a null character. -/
  | nullCharacter
  | refused
  /-- The file could be opened, but no encoding has this name. -/
  | unknownEncoding (name : Text)
  deriving DecidableEq

/-- What a line reader gets to see of a file. -/
structure Reading where
  lines : List Text
  /-- The reader comes to the end of the file. -/
  complete : Bool
  deriving DecidableEq

namespace Source

/-- Opens the file that a path names. The name of the encoding must be one at all; which encoding
    it denotes matters only when the file is there. -/
def ofPath (tree : FileTree) (encoding : Text) (p : Path) : Except SourceFault Source :=
  if encoding.hasNull then .error .nullInEncoding
  else
    match tree.read p with
    | .error .nullCharacter => .error .nullCharacter
    | .error .refused => .error .refused
    | .ok content =>
      match Encoding.ofName? encoding with
      | none => .error (.unknownEncoding encoding)
      | some e => .ok ⟨e, content⟩

/-- How many bytes the line reader decodes at a time. -/
def blockSize : Nat := 8192

/-- The content as far as the blocks before byte `i` reach. -/
def blocksBefore (s : Source) (i : Nat) : List UInt8 :=
  s.content.take (i / blockSize * blockSize)

/-- The lines a reader gets to see, and whether it comes to the end. -/
def reading (s : Source) : Reading :=
  match s.encoding.firstBad? s.content with
  | some i =>
    ⟨Text.wholeLines (((s.encoding.run (s.blocksBefore i)).map Prod.snd).getD []), false⟩
  | none =>
    match s.encoding.run s.content with
    | some (state, text) =>
      if state.mayEnd then ⟨Text.splitLines Text.isLineEnd text, true⟩
      else ⟨Text.wholeLines text, false⟩
    | none => ⟨[], false⟩

/-- The whole text. -/
def text? (s : Source) : Option Text :=
  s.encoding.decode s.content

end Source

end MarkdownTemplate
