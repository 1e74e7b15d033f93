import MarkdownTemplate.Proofs.Writing

/-!
# Gaps

Some elements of a list stand out, and the others lie in the gaps between them. The lines of a
document that stand out are those that are not blank, so its gaps are its runs of blank lines. This
file fixes

* `gap` -- gap `i` of a list: what lies behind exactly `i` elements that stand out;
* `gap_append` -- the gaps of two lists put together: the last gap of the first list and gap zero
  of the second become one;
* `gap_dropLeadingBlanks`, `gap_cutTrailingBlanks`, `gap_tidied` -- tidying an inclusion touches
  its first gap and its last;
* `written_gap` -- the gaps of what events write are what the gaps between their solid lines write.
-/

namespace MarkdownTemplate

/-! ## 1. Gaps of a list -/

section List

variable {α : Type} {p : α → Bool}

/-- **Gap `i` of a list**: the elements that fail the test and lie behind exactly `i` elements that
    pass it. Gap zero lies in front of all of these, the last gap behind all of them. -/
def gap (p : α → Bool) : List α → Nat → List α
  | [], _ => []
  | x :: xs, 0 => if p x then [] else x :: gap p xs 0
  | x :: xs, i + 1 => if p x then gap p xs i else gap p xs (i + 1)

@[simp] theorem gap_nil (i : Nat) : gap p [] i = [] := by
  rw [gap]

theorem gap_cons_of_pos {x : α} (h : p x = true) (xs : List α) (i : Nat) :
    gap p (x :: xs) i = if i = 0 then [] else gap p xs (i - 1) := by
  cases i <;> simp [gap, h]

theorem gap_cons_of_neg {x : α} (h : p x = false) (xs : List α) (i : Nat) :
    gap p (x :: xs) i = if i = 0 then x :: gap p xs 0 else gap p xs i := by
  cases i <;> simp [gap, h]

/-- **The gaps of two lists put together**: the last gap of the first and the first gap of the
    second become one, and those of the second count on from there. -/
theorem gap_append (a b : List α) (i : Nat) :
    gap p (a ++ b) i = gap p a i ++ if a.countP p ≤ i then gap p b (i - a.countP p) else [] := by
  induction a generalizing i with
  | nil => simp
  | cons x xs ih =>
      rw [List.cons_append]
      cases hx : p x with
      | false =>
          rw [gap_cons_of_neg hx, gap_cons_of_neg hx, List.countP_cons_of_neg (by simp [hx])]
          by_cases hi : i = 0
          · simp [hi, ih]
          · simp only [if_neg hi, ih]
      | true =>
          rw [gap_cons_of_pos hx, gap_cons_of_pos hx, List.countP_cons_of_pos hx]
          by_cases hi : i = 0
          · simp [hi]
          · have hle : xs.countP p + 1 ≤ i ↔ xs.countP p ≤ i - 1 := by omega
            have hsub : i - (xs.countP p + 1) = i - 1 - xs.countP p := by omega
            simp only [if_neg hi, ih, hle, hsub]

example : gap (· == 0) ([1, 0, 2] ++ [3, 0, 4]) 1 = [2] ++ [3] := by decide

/-- Behind the last gap there is nothing. -/
theorem gap_eq_nil_of_lt {l : List α} {i : Nat} (h : l.countP p < i) : gap p l i = [] := by
  induction l generalizing i with
  | nil => simp
  | cons x xs ih =>
      cases hx : p x with
      | false =>
          rw [List.countP_cons_of_neg (by simp [hx])] at h
          rw [gap_cons_of_neg hx, if_neg (by omega), ih h]
      | true =>
          rw [List.countP_cons_of_pos hx] at h
          rw [gap_cons_of_pos hx, if_neg (by omega), ih (by omega)]

/-- What lies in a gap fails the test. -/
theorem eq_false_of_mem_gap {l : List α} {i : Nat} {x : α} (h : x ∈ gap p l i) : p x = false := by
  induction l generalizing i with
  | nil => simp at h
  | cons y ys ih =>
      cases hy : p y with
      | false =>
          rw [gap_cons_of_neg hy] at h
          split at h
          · rcases List.mem_cons.mp h with rfl | h
            · exact hy
            · exact ih h
          · exact ih h
      | true =>
          rw [gap_cons_of_pos hy] at h
          split at h
          · cases h
          · exact ih h

/-- A list of elements that all fail the test is one gap. -/
theorem gap_of_countP_eq_zero {l : List α} (h : l.countP p = 0) (i : Nat) :
    gap p l i = if i = 0 then l else [] := by
  induction l generalizing i with
  | nil => simp
  | cons x xs ih =>
      have hx : p x = false := by
        cases hx : p x with
        | false => rfl
        | true =>
            rw [List.countP_cons_of_pos hx] at h
            omega
      rw [List.countP_cons_of_neg (by simp [hx])] at h
      rw [gap_cons_of_neg hx, ih h, ih h, if_pos rfl]
      split <;> rfl

/-- One more element that passes the test begins a new gap. -/
theorem gap_concat_of_pos {x : α} (h : p x = true) (l : List α) (i : Nat) :
    gap p (l ++ [x]) i = gap p l i := by
  rw [gap_append, gap_cons_of_pos h]
  split <;> simp

/-- One more element that fails the test lies in the last gap. -/
theorem gap_concat_of_neg {x : α} (h : p x = false) (l : List α) (i : Nat) :
    gap p (l ++ [x]) i = gap p l i ++ if i = l.countP p then [x] else [] := by
  rw [gap_append, gap_cons_of_neg h]
  by_cases hi : i = l.countP p
  · simp [hi]
  · by_cases hle : l.countP p ≤ i
    · rw [if_pos hle, if_neg (by omega), if_neg hi, gap_nil]
    · rw [if_neg hle, if_neg hi]

/-- Behind an element that passes the test the last gap is empty. -/
theorem gap_countP_of_getLast? {l : List α} (h : ∀ x ∈ l.getLast?, p x = true) :
    gap p l (l.countP p) = [] := by
  rcases List.eq_nil_or_concat l with rfl | ⟨front, x, rfl⟩
  · simp
  · have hx : p x = true := h x (by simp)
    rw [List.concat_eq_append, gap_concat_of_pos hx, List.countP_append]
    exact gap_eq_nil_of_lt (by simp [hx])

end List

/-! ## 2. Gaps of a document -/

/-- The line is not blank. -/
def Line.isSolid (l : Line) : Bool :=
  !l.isBlank

theorem Line.isSolid_of_isBlank (l : Line) (h : l.isBlank = true) : l.isSolid = false := by
  simp [Line.isSolid, h]

/-- The event writes a line that is not blank. -/
def Event.isSolid : Event → Bool
  | .line l => l.isSolid
  | _ => false

theorem countP_solid_of_blank {ls : List Line} (h : ∀ l ∈ ls, l.isBlank = true) :
    ls.countP Line.isSolid = 0 :=
  List.countP_eq_zero.mpr fun l hl => by simp [Line.isSolid, h l hl]

/-- Lines split off at the front or at the end because they are blank are one gap. -/
theorem blank_of_mem_takeWhile {ls : List Line} {l : Line} (h : l ∈ ls.takeWhile Line.isBlank) :
    l.isBlank = true :=
  List.all_eq_true.mp List.all_takeWhile l h

/-- **Dropping the leading blank lines** empties gap zero and nothing else. -/
theorem gap_dropLeadingBlanks (ls : List Line) (i : Nat) :
    gap Line.isSolid (dropLeadingBlanks ls) i = if i = 0 then [] else gap Line.isSolid ls i := by
  have hsplit : ls.takeWhile Line.isBlank ++ dropLeadingBlanks ls = ls :=
    List.takeWhile_append_dropWhile
  have hcount : (ls.takeWhile Line.isBlank).countP Line.isSolid = 0 :=
    countP_solid_of_blank fun l hl => blank_of_mem_takeWhile hl
  have hgap : gap Line.isSolid ls i = gap Line.isSolid (ls.takeWhile Line.isBlank) i ++
      gap Line.isSolid (dropLeadingBlanks ls) i :=
    calc gap Line.isSolid ls i
        = gap Line.isSolid (ls.takeWhile Line.isBlank ++ dropLeadingBlanks ls) i := by rw [hsplit]
      _ = _ := by rw [gap_append, hcount, if_pos (Nat.zero_le i), Nat.sub_zero]
  by_cases hi : i = 0
  · -- the first line that is left is not blank
    rw [if_pos hi, hi]
    have hhead := List.head?_dropWhile_not Line.isBlank ls
    cases hdrop : dropLeadingBlanks ls with
    | nil => simp
    | cons l rest =>
        have hdrop' : ls.dropWhile Line.isBlank = l :: rest := hdrop
        rw [hdrop'] at hhead
        have hl : l.isBlank = false := by simpa using hhead
        rw [gap_cons_of_pos (by simp [Line.isSolid, hl]), if_pos rfl]
  · rw [if_neg hi, hgap, gap_of_countP_eq_zero hcount, if_neg hi, List.nil_append]

/-- **Cutting the trailing blank lines** cuts the last gap to its first line and nothing else. -/
theorem gap_cutTrailingBlanks (ls : List Line) (i : Nat) :
    gap Line.isSolid (cutTrailingBlanks ls) i =
      if i = ls.countP Line.isSolid then (gap Line.isSolid ls i).take 1
      else gap Line.isSolid ls i := by
  have hsplit := dropTrailing_append_takeTrailing Line.isBlank ls
  have htail : (takeTrailing Line.isBlank ls).countP Line.isSolid = 0 :=
    countP_solid_of_blank fun l hl => mem_takeTrailing hl
  have hcut : ((takeTrailing Line.isBlank ls).take 1).countP Line.isSolid = 0 :=
    countP_solid_of_blank fun l hl => mem_takeTrailing (List.mem_of_mem_take hl)
  have hcount : ls.countP Line.isSolid = (dropTrailing Line.isBlank ls).countP Line.isSolid :=
    calc ls.countP Line.isSolid
        = (dropTrailing Line.isBlank ls ++ takeTrailing Line.isBlank ls).countP Line.isSolid := by
          rw [hsplit]
      _ = _ := by rw [List.countP_append, htail, Nat.add_zero]
  have hlast : gap Line.isSolid (dropTrailing Line.isBlank ls)
      ((dropTrailing Line.isBlank ls).countP Line.isSolid) = [] :=
    gap_countP_of_getLast? fun l hl => by simp [Line.isSolid, getLast?_dropTrailing hl]
  -- behind the solid lines any run of blank ones is the last gap
  have hrun : ∀ run : List Line, run.countP Line.isSolid = 0 →
      gap Line.isSolid (dropTrailing Line.isBlank ls ++ run) i =
        if i = ls.countP Line.isSolid then run
        else gap Line.isSolid (dropTrailing Line.isBlank ls) i := by
    intro run hrun
    rw [gap_append, gap_of_countP_eq_zero hrun, hcount]
    by_cases hi : i = (dropTrailing Line.isBlank ls).countP Line.isSolid
    · simp [hi, hlast]
    · by_cases hle : (dropTrailing Line.isBlank ls).countP Line.isSolid ≤ i
      · rw [if_pos hle, if_neg (by omega), if_neg hi, List.append_nil]
      · rw [if_neg hle, if_neg hi, List.append_nil]
  have hwhole := hrun _ htail
  rw [hsplit] at hwhole
  rw [cutTrailingBlanks, hrun _ hcut, hwhole]
  split <;> rfl

theorem countP_dropLeadingBlanks (ls : List Line) :
    (dropLeadingBlanks ls).countP Line.isSolid = ls.countP Line.isSolid := by
  rw [List.countP_eq_length_filter, List.countP_eq_length_filter,
    filter_dropLeadingBlanks Line.isSolid_of_isBlank]

/-- Tidying keeps the lines that are not blank, so it keeps the number of gaps. -/
theorem countP_tidied (before segment : List Line) :
    (tidied before segment).countP Line.isSolid = segment.countP Line.isSolid := by
  rw [List.countP_eq_length_filter, List.countP_eq_length_filter,
    filter_tidied Line.isSolid_of_isBlank]

/-- **What tidying an inclusion does to its gaps**: behind a blank line the first one is emptied,
    and the last one is cut to its first line. -/
theorem gap_tidied (before segment : List Line) (i : Nat) :
    gap Line.isSolid (tidied before segment) i =
      (gap Line.isSolid segment i).take
        (if i = 0 ∧ endsBlank before = true then 0
         else if i = segment.countP Line.isSolid then 1
         else (gap Line.isSolid segment i).length) := by
  rw [tidied, gap_cutTrailingBlanks]
  cases hbefore : endsBlank before with
  | false =>
      simp only [Bool.false_eq_true, and_false, ↓reduceIte]
      split <;> simp
  | true =>
      simp only [and_true, ↓reduceIte]
      rw [countP_dropLeadingBlanks, gap_dropLeadingBlanks]
      by_cases hi : i = 0
      · simp [hi]
      · simp only [if_neg hi]
        split <;> simp

/-- A document that ends in a blank line has one in its last gap. -/
theorem gap_ne_nil_of_endsBlank {ls : List Line} (h : endsBlank ls = true)
    (hsolid : 0 < ls.countP Line.isSolid) :
    gap Line.isSolid ls (ls.countP Line.isSolid) ≠ [] := by
  rcases List.eq_nil_or_concat ls with rfl | ⟨front, l, rfl⟩
  · simp at hsolid
  · have hl : l.isSolid = false := by simpa [endsBlank, Line.isSolid] using h
    rw [List.concat_eq_append, gap_concat_of_neg hl, List.countP_append]
    simp [hl]

/-- If a document does not end in a blank line, no part at its end has one in its last gap. -/
theorem gap_eq_nil_of_not_endsBlank {before since : List Line}
    (h : endsBlank (before ++ since) = false) :
    gap Line.isSolid since (since.countP Line.isSolid) = [] := by
  refine gap_countP_of_getLast? fun l hl => ?_
  have hlast : (before ++ since).getLast? = some l := by
    rw [List.getLast?_append, Option.mem_def.mp hl, Option.some_or]
  simpa [endsBlank, hlast, Line.isSolid] using h

section Writing

variable {d : Document} {l : Line}

/-- A line that is not blank is written, and ends the time right after an inclusion. -/
theorem Document.write_of_solid (h : l.isSolid = true) :
    d.write l = { d with lines := d.lines ++ [l], afterInclusion := false } := by
  have hblank : l.isBlank = false := by simpa [Line.isSolid] using h
  simp [write, hblank]

/-- A blank line is written unless it follows another one right after an inclusion. -/
theorem Document.write_of_blank (h : l.isSolid = false) :
    d.write l =
      if d.afterInclusion = true ∧ endsBlank d.lines = true then d
      else { d with lines := d.lines ++ [l] } := by
  have hblank : l.isBlank = true := by simpa [Line.isSolid] using h
  unfold write
  cases hafter : d.afterInclusion with
  | false => simp
  | true =>
      cases hends : endsBlank d.lines with
      | false => simp [hblank, ← hafter]
      | true => simp [hblank]

end Writing

/-! ## 3. Gaps of a run -/

/-- **The gaps of what events write** are what the gaps between their solid lines write. -/
theorem written_gap (es : List Event) (i : Nat) :
    written (gap Event.isSolid es i) = gap Line.isSolid (written es) i := by
  induction es generalizing i with
  | nil => simp
  | cons e es ih =>
      cases e with
      | line l =>
          cases hl : l.isSolid with
          | false =>
              have he : (Event.line l).isSolid = false := hl
              rw [gap_cons_of_neg he, written_cons_line, gap_cons_of_neg hl, ← ih, ← ih]
              split <;> rfl
          | true =>
              have he : (Event.line l).isSolid = true := hl
              rw [gap_cons_of_pos he, written_cons_line, gap_cons_of_pos hl, ← ih]
              split <;> rfl
      | cite f =>
          rw [gap_cons_of_neg rfl, written_cons_cite, ← ih]
          split
          · simp [*]
          · rfl
      | enter q t =>
          rw [gap_cons_of_neg rfl, written_cons_enter, ← ih]
          split
          · simp [*]
          · rfl
      | leave q =>
          rw [gap_cons_of_neg rfl, written_cons_leave, ← ih]
          split
          · simp [*]
          · rfl

end MarkdownTemplate
