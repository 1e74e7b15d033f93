import MarkdownTemplate.Text.Basic

/-!
# Splitting a text into lines

A line keeps the characters that end it, and a carriage return directly before a line feed ends
no line of its own. Two classes of line ends are in use:

* `isLineEnd` -- line feed and carriage return, for the lines of templates;
* `isBreak` -- these, the other vertical separators of ASCII and Unicode, for quoted content.

Main statements: `flatten_splitLines` -- the lines put together are the text;
`splitLines_nonempty` -- no line is empty.
-/

namespace MarkdownTemplate.Text

/-! ## 1. Line ends -/

/-- Line feed or carriage return. -/
def isLineEnd (c : Char) : Bool :=
  c == '\n' || c == '\r'

/-- The characters that break quoted content into lines. -/
def breakRanges : Ranges :=
  [(0x0A, 0x0D), (0x1C, 0x1E), (0x85, 0x85), (0x2028, 0x2029)]

/-- The character breaks quoted content into lines. -/
def isBreak (c : Char) : Bool :=
  inRanges breakRanges c.toNat

/-- The text ends in a line feed or a carriage return. -/
def isTerminated (s : Text) : Bool :=
  s.getLast?.any isLineEnd

/-- The text, with a line feed added if it does not end a line. -/
def terminated (s : Text) : Text :=
  if s.isTerminated then s else s ++ ['\n']

/-! ## 2. Splitting -/

/-- Puts a character in front of lines: on a line of its own if it ends one, else in front of the
    first line. -/
def consLine (ends : Char → Bool) (c : Char) : List Text → List Text
  | [] => [[c]]
  | l :: rest =>
    if ends c && !(c == '\r' && l.head? == some '\n') then [c] :: l :: rest
    else (c :: l) :: rest

/-- The lines of a text, each with the characters that end it. -/
def splitLines (ends : Char → Bool) (s : Text) : List Text :=
  s.foldr (consLine ends) []

/-- The lines that are known to be whole when more text may follow: the last one counts only if
    it ends in a line feed, since a carriage return may be the first half of a line end. -/
def wholeLines (s : Text) : List Text :=
  if s.getLast? == some '\n' then s.splitLines isLineEnd else (s.splitLines isLineEnd).dropLast

@[simp] theorem splitLines_nil (ends : Char → Bool) : splitLines ends [] = [] := rfl

@[simp] theorem splitLines_cons (ends : Char → Bool) (c : Char) (s : Text) :
    splitLines ends (c :: s) = consLine ends c (splitLines ends s) := rfl

theorem flatten_consLine (ends : Char → Bool) (c : Char) (ls : List Text) :
    (consLine ends c ls).flatten = c :: ls.flatten := by
  cases ls with
  | nil => simp [consLine]
  | cons l rest =>
    simp only [consLine]
    split <;> simp

/-- **The lines of a text, put together, are the text.** -/
theorem flatten_splitLines (ends : Char → Bool) (s : Text) :
    (splitLines ends s).flatten = s := by
  induction s with
  | nil => rfl
  | cons c s ih => rw [splitLines_cons, flatten_consLine, ih]

/-- No line is empty. -/
theorem splitLines_nonempty (ends : Char → Bool) (s : Text) :
    ∀ l ∈ splitLines ends s, l ≠ [] := by
  induction s with
  | nil => simp
  | cons c s ih =>
    rw [splitLines_cons]
    cases hls : splitLines ends s with
    | nil => simp [consLine]
    | cons l rest =>
      rw [hls] at ih
      intro x hx
      simp only [consLine] at hx
      split at hx
      · rcases List.mem_cons.mp hx with rfl | hx
        · simp
        · exact ih x hx
      · rcases List.mem_cons.mp hx with rfl | hx
        · simp
        · exact ih x (List.mem_cons_of_mem _ hx)

end MarkdownTemplate.Text
