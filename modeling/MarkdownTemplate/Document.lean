import MarkdownTemplate.Text.Basic

/-!
# Documents

A document is the lines written so far. With the tidy policy, blank lines are dropped where an
inclusion meets its surroundings. This file fixes

* `Line` -- a line of text or a marker for the table of contents;
* `Document.write`, `Document.beginInclusion`, `Document.endInclusion?` -- the operations;
* `tidied` -- the lines of an inclusion after its end: no blank line in front if a blank line
  precedes, and no second blank line at the end.

Lines that are not blank are never dropped.
-/

namespace MarkdownTemplate

/-- A line of a document. -/
structure Line where
  /-- The line with the characters that end it. -/
  text : Text
  /-- How many inclusions of templates the line lies inside. -/
  depth : Int
  /-- The title of the table of contents, for a line that marks its place. -/
  title : Option Text
  deriving DecidableEq

namespace Line

/-- The line marks the place of the table of contents. -/
def isMarker (l : Line) : Bool :=
  l.title.isSome

/-- The line is no marker and holds only blanks. -/
def isBlank (l : Line) : Bool :=
  !l.isMarker && Text.isBlank l.text

end Line

/-! ## 1. Seams -/

/-- The lines without the blank ones in front. -/
def dropLeadingBlanks (lines : List Line) : List Line :=
  lines.dropWhile Line.isBlank

/-- The lines with the run of blank ones at their end cut to its first. -/
def cutTrailingBlanks (lines : List Line) : List Line :=
  dropTrailing Line.isBlank lines ++ (takeTrailing Line.isBlank lines).take 1

/-- There is no line, or the last one is blank. -/
def endsBlank (lines : List Line) : Bool :=
  match lines.getLast? with
  | none => true
  | some l => l.isBlank

/-- The lines of an inclusion after its end, when `before` stands in front of them. -/
def tidied (before segment : List Line) : List Line :=
  cutTrailingBlanks (if endsBlank before then dropLeadingBlanks segment else segment)

/-! ## 2. Documents -/

/-- The lines written so far. -/
structure Document where
  /-- Blank lines are dropped at the seams of inclusions. -/
  tidy : Bool
  lines : List Line
  /-- An inclusion has ended and no line has been written since that is not blank. -/
  afterInclusion : Bool
  deriving DecidableEq

namespace Document

/-- The document without lines. -/
def empty (tidy : Bool) : Document :=
  ⟨tidy, [], false⟩

/-- Writes a line. Right after an inclusion a blank line is dropped if it would follow a blank
    line or stand at the start. -/
def write (d : Document) (l : Line) : Document :=
  if d.afterInclusion && l.isBlank then
    if endsBlank d.lines then d else { d with lines := d.lines ++ [l] }
  else { d with lines := d.lines ++ [l], afterInclusion := false }

/-- Where the lines of an inclusion that begins now will start. -/
def beginInclusion (d : Document) : Nat :=
  d.lines.length

/-- Ends the inclusion whose lines start at `start`. Without the tidy policy nothing happens; with
    it there is no such inclusion if `start` lies beyond the end. -/
def endInclusion? (d : Document) (start : Nat) : Option Document :=
  if !d.tidy then some d
  else if start ≤ d.lines.length then
    let before := d.lines.take start
    some { d with
      lines := before ++ tidied before (d.lines.drop start)
      afterInclusion := true }
  else none

/-- The lines that mark the place of the table of contents. -/
def markers (d : Document) : List Line :=
  d.lines.filter Line.isMarker

/-- The texts of the lines, put together. -/
def text (d : Document) : Text :=
  (d.lines.map Line.text).flatten

end Document

end MarkdownTemplate
