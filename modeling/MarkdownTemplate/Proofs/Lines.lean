import MarkdownTemplate.Expansion
import MarkdownTemplate.Proofs.ListEnds

/-!
# Ended lines

A line of a template may lack a line end only if it is the last one, and inside an inclusion it
is given one. This file fixes

* `isTerminated_terminated`, `terminated_of_isTerminated` -- ending a line;
* `isTerminated_of_mem_dropLast` -- of the lines of a text only the last may lack its end;
* `directive?_lineAt` -- a line end does not change the directive that a line is;
* `Text.mem_of_mem_splitLines` -- lines hold no characters but those of the text.
-/

namespace MarkdownTemplate

namespace Text

/-! ## 1. Ending a line -/

theorem isTerminated_concat (s : Text) (c : Char) :
    isTerminated (s ++ [c]) = isLineEnd c := by
  simp [isTerminated]

/-- **A line that has been given its end has one.** -/
theorem isTerminated_terminated (s : Text) : isTerminated (terminated s) = true := by
  unfold terminated
  split
  · assumption
  · rw [isTerminated_concat]
    rfl

theorem terminated_of_isTerminated {s : Text} (h : isTerminated s = true) : terminated s = s :=
  if_pos h

/-- A line end is blank, so nothing is left of it on the right. -/
theorem trimRight_terminated (s : Text) : trimRight (terminated s) = trimRight s := by
  unfold terminated
  split
  · rfl
  · exact dropTrailing_concat s (by decide)

/-- A line end is blank, so a line is blank with it if it is blank without. -/
theorem isBlank_terminated (s : Text) : isBlank (terminated s) = isBlank s := by
  unfold terminated
  split
  · rfl
  · have hend : isSpace '\n' = true := by decide
    simp [isBlank, hend]

/-! ## 2. The lines of a text -/

/-- Putting a character in front of ended lines keeps all but the last of them ended. -/
theorem isTerminated_consLine (c : Char) (ls : List Text)
    (h : ∀ l ∈ ls.dropLast, isTerminated l = true) :
    ∀ l ∈ (consLine isLineEnd c ls).dropLast, isTerminated l = true := by
  cases ls with
  | nil => simp [consLine]
  | cons first rest =>
      simp only [consLine]
      split
      · -- the character is a line end, and a line of its own
        rename_i hc
        rw [Bool.and_eq_true] at hc
        intro l hl
        rw [List.dropLast_cons_cons] at hl
        rcases List.mem_cons.mp hl with rfl | hl
        · exact (isTerminated_concat [] c).trans hc.1
        · exact h l hl
      · cases rest with
        | nil => simp
        | cons second rest =>
            intro l hl
            rw [List.dropLast_cons_cons] at h hl
            rcases List.mem_cons.mp hl with rfl | hl
            · have hfirst := h first List.mem_cons_self
              cases hlast : first.getLast? with
              | none => simp [isTerminated, hlast] at hfirst
              | some x => simpa [isTerminated, List.getLast?_cons, hlast] using hfirst
            · exact h l (List.mem_cons_of_mem _ hl)

/-- **Of the lines of a text only the last may lack its end.** -/
theorem isTerminated_of_mem_dropLast (s : Text) :
    ∀ l ∈ (splitLines isLineEnd s).dropLast, isTerminated l = true := by
  induction s with
  | nil => simp
  | cons c s ih => exact isTerminated_consLine c _ ih

/-- The lines of a text hold no characters but its own. -/
theorem mem_of_mem_splitLines {ends : Char → Bool} {s l : Text} {c : Char}
    (hl : l ∈ splitLines ends s) (hc : c ∈ l) : c ∈ s := by
  rw [← flatten_splitLines ends s]
  exact List.mem_flatten_of_mem hl hc

end Text

/-! ## 3. Lines as they are written -/

namespace Setting

theorem lineAt_of_pos {depth : Int} (h : 0 < depth) (line : Text) :
    lineAt depth line = Text.terminated line :=
  if_pos h

theorem lineAt_of_isTerminated {line : Text} (h : line.isTerminated = true) (depth : Int) :
    lineAt depth line = line := by
  unfold lineAt
  split
  · exact Text.terminated_of_isTerminated h
  · rfl

/-- Ending a line after it is written is no different from ending it at once. -/
theorem terminated_lineAt (depth : Int) (line : Text) :
    Text.terminated (lineAt depth line) = Text.terminated line := by
  unfold lineAt
  split
  · exact Text.terminated_of_isTerminated (Text.isTerminated_terminated line)
  · rfl

/-- A line is written blank exactly if it is blank in its file. -/
theorem isBlank_lineAt (depth : Int) (line : Text) :
    Text.isBlank (lineAt depth line) = Text.isBlank line := by
  unfold lineAt
  split
  · exact Text.isBlank_terminated line
  · rfl

theorem parse?_of_directive? {s : Setting} {line : Text} {d : Directive}
    (h : s.directive? line = some d) : Directive.parse? line = some d :=
  (Option.filter_eq_some_iff.mp h).1

/-- A directive keeps the text of its line. -/
theorem text_of_directive? {s : Setting} {line : Text} {d : Directive}
    (h : s.directive? line = some d) : d.text = Text.trimRight line := by
  have hparse := parse?_of_directive? h
  unfold Directive.parse? at hparse
  dsimp only at hparse
  split at hparse
  · cases hparse
  · split at hparse
    · cases hparse
    · cases hparse
      rfl

/-- **A line end does not change the directive that a line is.** -/
theorem directive?_lineAt (s : Setting) (depth : Int) (line : Text) :
    s.directive? (lineAt depth line) = s.directive? line := by
  unfold lineAt
  split
  · simp only [directive?, Directive.parse?, Text.trimRight_terminated]
  · rfl

/-- A line is the same directive at every depth. -/
theorem directive?_lineAt_congr {s : Setting} {depth : Int} {line : Text} {d? : Option Directive}
    (h : s.directive? (lineAt depth line) = d?) (depth' : Int) :
    s.directive? (lineAt depth' line) = d? := by
  rw [directive?_lineAt] at h ⊢
  exact h

end Setting

end MarkdownTemplate
