import MarkdownTemplate.Text.Lines

/-!
# Headings

A heading is written with one to six hashes in front of its title. This file fixes

* `Heading` -- a level from 1 to 6 and a title;
* `Heading.parse?` -- the heading a line holds, if it holds one;
* `Heading.slug`, `Heading.link` -- the anchor of a heading and the link to it;
* `Heading.all` -- the headings among lines, in order.
-/

namespace MarkdownTemplate

/-- A heading: its level and its title. -/
structure Heading where
  /-- The number of hashes. -/
  level : Nat
  /-- The title, without the hashes and without blanks at its ends. -/
  text : Text
  one_le_level : 1 ≤ level
  level_le_six : level ≤ 6
  deriving DecidableEq

namespace Heading

/-! ## 1. Reading a line -/

/-- The text without the spaces at both ends; other blanks stay. -/
def stripSpaces (s : Text) : Text :=
  dropTrailing (· == ' ') (s.dropWhile (· == ' '))

/-- A title without its closing run. The run is hashes with at least one space before them;
    hashes that touch the title belong to it. -/
def dropClosing (s : Text) : Text :=
  let front := dropTrailing (· == '#') s
  if front ≠ s ∧ front.getLast? = some ' ' then dropTrailing (· == ' ') front else s

/-- What follows the hashes of a heading line, read as a title. -/
def titleOf (rest : Text) : Text :=
  Text.trim (dropClosing (stripSpaces rest))

/-- The heading on a line, with or without its line end. A heading line has at most three spaces
    of indentation, one to six hashes, a space, and a title that is not blank. -/
def parse? (line : Text) : Option Heading :=
  let s := dropTrailing Text.isLineEnd line
  let indent := s.takeWhile (· == ' ')
  let body := s.dropWhile (· == ' ')
  let hashes := body.takeWhile (· == '#')
  let rest := body.dropWhile (· == '#')
  if h : 1 ≤ hashes.length ∧ hashes.length ≤ 6 then
    if indent.length ≤ 3 ∧ rest.head? = some ' ' ∧ '\n' ∉ rest ∧ titleOf rest ≠ [] then
      some ⟨hashes.length, titleOf rest, h.1, h.2⟩
    else none
  else none

/-- The headings among lines, in order. -/
def all (lines : List Text) : List Heading :=
  lines.filterMap parse?

/-! ## 2. Anchors and links -/

/-- What a character that is not blank adds to a slug: a hyphen, a digit, or the ASCII letter its
    lower-case form begins with; other characters add nothing. -/
def slugChar? (c : Char) : Option Char :=
  if c.isAlphanum || c == '-' then some c.toLower
  else if c = '\u0130' then some 'i'
  else if c = '\u212A' then some 'k'
  else none

/-- Every run of blanks becomes one hyphen, every other character what it adds to a slug. -/
def slugOf : Text → Text
  | [] => []
  | c :: rest =>
    if Text.isSpace c then
      if rest.head?.any Text.isSpace then slugOf rest else '-' :: slugOf rest
    else
      match slugChar? c with
      | some a => a :: slugOf rest
      | none => slugOf rest

/-- The anchor of a heading. -/
def slug (h : Heading) : Text :=
  slugOf (Text.trim h.text)

/-- The link to a heading. -/
def link (h : Heading) : Text :=
  '[' :: h.text ++ "](#".toList ++ h.slug ++ [')']

end Heading

end MarkdownTemplate
