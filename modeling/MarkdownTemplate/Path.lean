import MarkdownTemplate.Text.Basic

/-!
# Paths

A path is where it starts and the names it passes through. This file fixes

* `Path.ofText`, `Path.text` -- reading and writing: empty names and `.` are dropped, `..` stays,
  and the path without names is written `.`;
* `Path.normal` -- `..` taken back by the name before it;
* `Path.absolute` -- a text as a path from the working directory;
* `Path.resolve` -- a cited path, seen from the file that cites it;
* `Path.display` -- how messages show a path, relative to a root if it lies below it.

No link is ever followed: paths are compared and normalised by their names alone.
-/

namespace MarkdownTemplate

/-- Where a path starts. -/
inductive Anchor where
  /-- At a directory that is not named. -/
  | here
  /-- At the root, written with one slash. -/
  | root
  /-- At the root, written with exactly two slashes: the same place, but another path. -/
  | doubleRoot
  deriving DecidableEq

/-- A path: where it starts and the names it passes through. -/
structure Path where
  anchor : Anchor
  names : List Text
  deriving DecidableEq

namespace Path

/-! ## 1. Reading and writing -/

/-- Where a text that is read as a path starts: the number of leading slashes decides. -/
def anchorOf (s : Text) : Anchor :=
  match (s.takeWhile (· == '/')).length with
  | 0 => .here
  | 2 => .doubleRoot
  | _ => .root

/-- The names in a text that is read as a path. -/
def namesOf (s : Text) : List Text :=
  (Text.pieces '/' s).filter fun name => name != [] && name != ['.']

/-- The path that a text denotes. -/
def ofText (s : Text) : Path :=
  ⟨anchorOf s, namesOf s⟩

/-- The slashes a path starts with. -/
def slashes : Anchor → Text
  | .here => []
  | .root => ['/']
  | .doubleRoot => ['/', '/']

/-- The text of a path. -/
def text (p : Path) : Text :=
  if p.anchor = .here ∧ p.names = [] then ['.']
  else slashes p.anchor ++ Text.joined ['/'] p.names

/-- The path starts at the root. -/
def isAbsolute (p : Path) : Bool :=
  p.anchor != .here

/-! ## 2. Moving through directories -/

/-- The directory a path lies in; a path without names lies in itself. -/
def parent (p : Path) : Path :=
  ⟨p.anchor, p.names.dropLast⟩

/-- The second path as seen from the first; an absolute path is the same from everywhere. -/
def join (dir p : Path) : Path :=
  if p.isAbsolute then p else ⟨dir.anchor, dir.names ++ p.names⟩

/-- One name more on the names passed so far, innermost first. A `..` takes back the name before
    it, is lost at the root, and stays where there is nothing to take back. -/
def climb (anchor : Anchor) (passed : List Text) (name : Text) : List Text :=
  if name = ['.', '.'] then
    match passed with
    | [] => if anchor = .here then [name] else []
    | top :: rest => if top = ['.', '.'] then name :: passed else rest
  else name :: passed

/-- The path with every `..` taken back that can be. -/
def normal (p : Path) : Path :=
  ⟨p.anchor, (p.names.foldl (climb p.anchor) []).reverse⟩

/-- The path that a text denotes in the working directory `cwd`. -/
def absolute (cwd : Path) (s : Text) : Path :=
  (cwd.join (ofText s)).normal

/-- The path that `cited` denotes in the directory of the file `includer`. -/
def resolve (includer : Path) (cited : Text) : Path :=
  absolute includer.parent cited

/-! ## 3. Showing a path -/

/-- The path as seen from `root`, if it lies below it or is it. -/
def relativeTo? (root p : Path) : Option Path :=
  if p.anchor = root.anchor ∧ root.names.isPrefixOf p.names then
    some ⟨.here, p.names.drop root.names.length⟩
  else none

/-- The path as messages show it. -/
def display (root : Option Path) (p : Path) : Text :=
  ((root.bind fun r => r.relativeTo? p).getD p).text

end Path

end MarkdownTemplate
