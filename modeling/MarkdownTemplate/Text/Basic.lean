import MarkdownTemplate.Text.Ranges
import MarkdownTemplate.Trailing

/-!
# Texts and blanks

A text is a list of characters. This file fixes what counts as blank and how a text is trimmed:

* `isSpace` -- the blank characters: the white space of Unicode and the four separators
  U+001C to U+001F;
* `trimRight`, `trim` -- a text without its trailing blanks, without the blanks at both ends;
* `isBlank` -- a text of blanks only;
* `hasNull` -- a text with a null character;
* `ofNat`, `ofInt` -- numbers in decimal digits;
* `pieces`, `joined` -- a text cut at a separator, and texts put together with one;
  `joined_pieces` -- putting the pieces together gives the text back.
-/

namespace MarkdownTemplate

/-- A text is a list of characters. -/
abbrev Text := List Char

namespace Text

/-! ## 1. Blanks -/

/-- The blank characters. -/
def spaceRanges : Ranges :=
  [(0x09, 0x0D), (0x1C, 0x20), (0x85, 0x85), (0xA0, 0xA0), (0x1680, 0x1680), (0x2000, 0x200A),
   (0x2028, 0x2029), (0x202F, 0x202F), (0x205F, 0x205F), (0x3000, 0x3000)]

/-- The character is blank. -/
def isSpace (c : Char) : Bool :=
  inRanges spaceRanges c.toNat

/-- Every character of the text is blank; the empty text is blank. -/
def isBlank (s : Text) : Bool :=
  s.all isSpace

/-- The text holds a null character. -/
def hasNull (s : Text) : Bool :=
  s.any fun c => c.toNat == 0

/-! ## 2. Trimming -/

/-- The text without its trailing blanks. -/
def trimRight (s : Text) : Text :=
  dropTrailing isSpace s

/-- The text without the blanks at both ends. -/
def trim (s : Text) : Text :=
  trimRight (s.dropWhile isSpace)

theorem isBlank_iff {s : Text} : s.isBlank = true ↔ ∀ c ∈ s, isSpace c = true := by
  simp [isBlank]

/-! ## 3. Numbers and pieces -/

/-- A natural number in decimal digits. -/
def ofNat (n : Nat) : Text :=
  Nat.toDigits 10 n

/-- An integer in decimal digits, with a minus sign if it is negative. -/
def ofInt : Int → Text
  | .ofNat n => ofNat n
  | .negSucc n => '-' :: ofNat (n + 1)

/-- The pieces between the separators; a text without separators is one piece. -/
def pieces (sep : Char) : Text → List Text
  | [] => [[]]
  | c :: rest =>
    if c = sep then [] :: pieces sep rest
    else
      match pieces sep rest with
      | [] => [[c]]
      | p :: ps => (c :: p) :: ps

theorem pieces_ne_nil (sep : Char) (s : Text) : pieces sep s ≠ [] := by
  cases s with
  | nil => simp [pieces]
  | cons c s =>
    simp only [pieces]
    split
    · simp
    · split <;> simp

/-- The texts in order, with `sep` between neighbours. -/
def joined (sep : Text) (parts : List Text) : Text :=
  sep.intercalate parts

/-- **The pieces put together with the separator are the text.** -/
theorem joined_pieces (sep : Char) (s : Text) : joined [sep] (pieces sep s) = s := by
  induction s with
  | nil => rfl
  | cons c s ih =>
    simp only [pieces]
    cases h : pieces sep s with
    | nil => exact absurd h (pieces_ne_nil sep s)
    | cons p ps =>
      rw [h] at ih
      by_cases hc : c = sep
      · simp [hc, joined, List.intercalate] at ih ⊢
        simpa using ih
      · cases ps <;> simp_all [joined, List.intercalate]

/-- The text with ASCII capitals made small. -/
def lowerAscii (s : Text) : Text :=
  s.map Char.toLower

end Text

end MarkdownTemplate
