import MarkdownTemplate.Document
import MarkdownTemplate.Error
import MarkdownTemplate.Heading
import MarkdownTemplate.Text.Lines

/-!
# Tables of contents

A document may hold one marker for a table of contents. This file fixes

* `Contents.render` -- the title and one item for each heading, indented by level;
* `Document.render` -- the text of a document with the table in place of the marker, or what is
  wrong with the markers.

The faults are looked for in this order: more than one marker, a title that is no heading, a
marker inside an inclusion.
-/

namespace MarkdownTemplate

namespace Contents

/-- The line end of the table: that of the marker's line if it ends in carriage return and line
    feed, else a line feed. -/
def lineEnd (marker : Line) : Text :=
  if ['\r', '\n'].isSuffixOf marker.text then ['\r', '\n'] else ['\n']

/-- The smallest level among headings. -/
def topLevel : List Heading → Nat
  | [] => 1
  | [h] => h.level
  | h :: rest => min h.level (topLevel rest)

/-- The item for a heading, two spaces further in for each level below the top. -/
def item (top : Nat) (h : Heading) : Text :=
  List.replicate (2 * (h.level - top)) ' ' ++ '-' :: ' ' :: h.link

/-- The lines of the table, without their line ends. -/
def lines (marker : Line) (headings : List Heading) : List Text :=
  Text.trim (marker.title.getD []) :: headings.map (item (topLevel headings))

/-- The table of contents. -/
def render (marker : Line) (headings : List Heading) : Text :=
  ((lines marker headings).map (· ++ lineEnd marker)).flatten

end Contents

namespace Document

/-- The headings on the lines that are no markers. -/
def headings (d : Document) : List Heading :=
  Heading.all ((d.lines.filter fun l => !l.isMarker).map Line.text)

/-- The text of the document with the table of contents in place of its marker. -/
def render (d : Document) : Except Error Text :=
  match d.markers with
  | [] => .ok d.text
  | [marker] =>
    let title := marker.title.getD []
    if (Heading.parse? title).isNone then .error (.contentsTitle title)
    else if marker.depth ≠ 0 then .error .misplacedContents
    else
      let table := Contents.render marker d.headings
      .ok ((d.lines.map fun l => if l.isMarker then table else l.text).flatten)
  | _ => .error .severalContents

end Document

end MarkdownTemplate
