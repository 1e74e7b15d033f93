import Mathlib.Data.List.Induction
import MarkdownTemplate.Proofs.Gaps
import MarkdownTemplate.Proofs.ListEnds

/-!
# Closing a segment

When an inclusion ends, its lines are a segment at the end of the document, and blank lines are
deleted from it one by one: first from its front, as long as a blank line stands there, if the
segment stands at a blank line or at the start; then from its end, as long as two blank lines stand
there. This file says what is left, and fixes

* `Loops` -- a loop: the steps it takes until there is none;
* `deleteFirst?`, `deleteLast?` -- the two steps;
* `loops_deleteFirst`, `loops_deleteLast` -- **what the loops come to**;
* `Closing` -- what is left of a segment, without deleting anything; `closing_iff` -- there is one
  such rest;
* **`endInclusion?_closes`** -- ending an inclusion is what the loops do, and leaves that rest.
-/

namespace MarkdownTemplate

/-! ## 1. Loops -/

/-- **A loop** takes steps as long as there is one. -/
inductive Loops {α : Type} (step : α → Option α) : α → α → Prop where
  | stop {a : α} (hstop : step a = none) : Loops step a a
  | next {a b c : α} (hstep : step a = some b) (hrest : Loops step b c) : Loops step a c

/-- A loop ends in one way only. -/
theorem Loops.unique {α : Type} {step : α → Option α} {a b c : α} (h : Loops step a b)
    (h' : Loops step a c) : b = c := by
  induction h with
  | stop hstop =>
      cases h' with
      | stop => rfl
      | next hstep => simp [hstop] at hstep
  | next hstep _ ih =>
      cases h' with
      | stop hstop => simp [hstep] at hstop
      | next hstep' hrest =>
          obtain rfl : _ = _ := Option.some.inj (hstep.symm.trans hstep')
          exact ih hrest

/-- Deletes the first line from `start` on, if it is blank. -/
def deleteFirst? (start : Nat) (ls : List Line) : Option (List Line) :=
  if (ls[start]?).any Line.isBlank then some (ls.eraseIdx start) else none

/-- Deletes the last line, if there are two from `start` on and the last two are blank. -/
def deleteLast? (start : Nat) (ls : List Line) : Option (List Line) :=
  if start + 2 ≤ ls.length ∧ ls.getLast?.any Line.isBlank ∧ ls.dropLast.getLast?.any Line.isBlank
  then some ls.dropLast else none

section Steps

variable {before body trailing segment : List Line} {l last : Line}

theorem deleteFirst?_blank (hl : l.isBlank = true) (before rest : List Line) :
    deleteFirst? before.length (before ++ l :: rest) = some (before ++ rest) := by
  simp [deleteFirst?, hl, List.eraseIdx_append_of_length_le]

theorem deleteFirst?_eq_none (h : ∀ l ∈ segment.head?, l.isBlank = false) (before : List Line) :
    deleteFirst? before.length (before ++ segment) = none := by
  cases segment with
  | nil => simp [deleteFirst?]
  | cons l rest => simp [deleteFirst?, h l rfl]

theorem deleteLast?_blank (hl : l.isBlank = true) (hlast : last.isBlank = true)
    (before front : List Line) :
    deleteLast? before.length (before ++ (front ++ [l, last])) =
      some (before ++ (front ++ [l])) := by
  have hdrop : (before ++ (front ++ [l, last])).dropLast = before ++ (front ++ [l]) := by
    rw [List.dropLast_append_of_ne_nil (by simp), List.dropLast_append_of_ne_nil (by simp)]
    rfl
  rw [deleteLast?, hdrop, if_pos]
  simp [hl, hlast]

/-- Behind a line that is not blank one blank line stays. -/
theorem deleteLast?_eq_none (hbody : ∀ l ∈ body.getLast?, l.isBlank = false)
    (htrailing : trailing.length ≤ 1) (before : List Line) :
    deleteLast? before.length (before ++ (body ++ trailing)) = none := by
  refine if_neg fun h => ?_
  obtain ⟨hlength, hlast, hsecond⟩ := h
  rcases List.eq_nil_or_concat body with rfl | ⟨front, x, rfl⟩
  · simp only [List.nil_append, List.length_append] at hlength
    omega
  · have hx : x.isBlank = false := hbody x (by simp)
    match trailing, htrailing with
    | [], _ => simp [hx] at hlast
    | [l], _ =>
        simp [hx] at hsecond

/-! ## 2. What the loops come to -/

/-- **The first loop** deletes the blank lines in front. -/
theorem loops_deleteFirst (before segment : List Line) :
    Loops (deleteFirst? before.length) (before ++ segment)
      (before ++ dropLeadingBlanks segment) := by
  induction segment with
  | nil => exact .stop (deleteFirst?_eq_none (by simp) before)
  | cons l rest ih =>
      cases hl : l.isBlank with
      | true =>
          have hdrop : dropLeadingBlanks (l :: rest) = dropLeadingBlanks rest :=
            List.dropWhile_cons_of_pos hl
          rw [hdrop]
          exact .next (deleteFirst?_blank hl before rest) ih
      | false =>
          have hdrop : dropLeadingBlanks (l :: rest) = l :: rest :=
            List.dropWhile_cons_of_neg (by simp [hl])
          rw [hdrop]
          exact .stop (deleteFirst?_eq_none (by simpa using hl) before)

/-- **The second loop** leaves one of the blank lines at the end. -/
theorem loops_deleteLast (hbody : ∀ l ∈ body.getLast?, l.isBlank = false)
    (htrailing : ∀ l ∈ trailing, l.isBlank = true) (before : List Line) :
    Loops (deleteLast? before.length) (before ++ (body ++ trailing))
      (before ++ (body ++ trailing.take 1)) := by
  cases trailing with
  | nil => exact .stop (deleteLast?_eq_none hbody (by simp) before)
  | cons first rest =>
      rw [List.take_succ_cons, List.take_zero]
      -- the blank lines behind the first are deleted from the last on
      induction rest using List.reverseRecOn with
      | nil => exact .stop (deleteLast?_eq_none hbody (by simp) before)
      | append_singleton rest last ih =>
          have hlast : last.isBlank = true := htrailing last (by simp)
          have hmore : ∀ l ∈ first :: rest, l.isBlank = true := fun l hl =>
            htrailing l (by rw [← List.cons_append]; exact List.mem_append_left _ hl)
          obtain ⟨front, x, hfront⟩ : ∃ front x, first :: rest = front ++ [x] :=
            ⟨_, _, (List.dropLast_concat_getLast (List.cons_ne_nil first rest)).symm⟩
          have hx : x.isBlank = true := hmore x (by simp [hfront])
          have hstep := deleteLast?_blank hx hlast before (body ++ front)
          have hlines : body ++ front ++ [x, last] = body ++ first :: (rest ++ [last]) := by
            rw [← List.cons_append, hfront]
            simp
          have hleft : body ++ front ++ [x] = body ++ first :: rest := by
            rw [hfront, List.append_assoc]
          rw [hlines, hleft] at hstep
          exact .next hstep (ih hmore)

/-- Closing a segment behind other lines is what the two loops do, one after the other. -/
theorem loops_tidied (before segment : List Line) : ∃ middle,
    (endsBlank before = true ∧ Loops (deleteFirst? before.length) (before ++ segment) middle ∨
      endsBlank before = false ∧ middle = before ++ segment) ∧
    Loops (deleteLast? before.length) middle (before ++ tidied before segment) := by
  have hlast : ∀ ls : List Line, Loops (deleteLast? before.length) (before ++ ls)
      (before ++ cutTrailingBlanks ls) := fun ls => by
    have hbody : ∀ l ∈ (dropTrailing Line.isBlank ls).getLast?, l.isBlank = false :=
      fun _ => getLast?_dropTrailing
    have htrailing : ∀ l ∈ takeTrailing Line.isBlank ls, l.isBlank = true :=
      fun _ => mem_takeTrailing
    have hloop := loops_deleteLast hbody htrailing before
    rwa [dropTrailing_append_takeTrailing] at hloop
  unfold tidied
  cases hblank : endsBlank before with
  | true => exact ⟨_, Or.inl ⟨rfl, loops_deleteFirst before segment⟩, hlast _⟩
  | false => exact ⟨_, Or.inr ⟨rfl, rfl⟩, hlast segment⟩

end Steps

/-! ## 3. What is left -/

/-- **What is left of a segment** that stands at a blank line or at the start of the document, or
    does not. A segment is made of blank lines in front, of lines of which the last is not blank,
    and of blank lines at the end. The blank lines in front are lost where the segment stands at a
    blank line; elsewhere none count as lines in front. Of the blank lines at the end the first
    stays. -/
inductive Closing (atBlank : Prop) : List Line → List Line → Prop where
  | cut {leading body trailing : List Line}
      (hleading : ∀ l ∈ leading, l.isBlank = true)
      (hbody : ∀ l ∈ body.getLast?, l.isBlank = false)
      (htrailing : ∀ l ∈ trailing, l.isBlank = true)
      (hlost : atBlank → ∀ l ∈ (body ++ trailing).head?, l.isBlank = false)
      (hkept : ¬ atBlank → leading = []) :
      Closing atBlank (leading ++ (body ++ trailing)) (body ++ trailing.take 1)

variable {atBlank : Prop} {before segment kept : List Line}

/-- What is left of a segment is all that is left when it is closed once more. -/
theorem Closing.again (h : Closing atBlank segment kept) : Closing atBlank kept kept := by
  cases h with
  | @cut leading body trailing _ hbody htrailing hlost _ =>
      have hhead : (body ++ trailing.take 1).head? = (body ++ trailing).head? := by
        cases body <;> cases trailing <;> rfl
      have hagain : Closing atBlank ([] ++ (body ++ trailing.take 1))
          (body ++ (trailing.take 1).take 1) :=
        .cut (by simp) hbody (fun l hl => htrailing l (List.mem_of_mem_take hl)) (hhead ▸ hlost)
          fun _ => rfl
      rwa [List.nil_append, List.take_take, Nat.min_self] at hagain

/-- **There is one rest of a segment**, and it is what `tidied` computes. -/
theorem closing_iff : Closing (endsBlank before = true) segment kept ↔
    kept = tidied before segment := by
  constructor
  · intro h
    cases h with
    | @cut leading body trailing hleading hbody htrailing hlost hkept =>
        have hcut : cutTrailingBlanks (body ++ trailing) = body ++ trailing.take 1 := by
          obtain ⟨hdrop, htake⟩ := trailing_append hbody htrailing
          rw [cutTrailingBlanks, hdrop, htake]
        cases hblank : endsBlank before with
        | true =>
            have hdrop : dropLeadingBlanks (leading ++ (body ++ trailing)) = body ++ trailing :=
              (takeWhile_dropWhile_iff.mpr ⟨rfl, hleading, hlost hblank⟩).2
            rw [tidied, hblank, if_pos rfl, hdrop, hcut]
        | false =>
            rw [hkept (by simp [hblank]), List.nil_append, tidied, hblank,
              if_neg Bool.false_ne_true, hcut]
  · rintro rfl
    cases hblank : endsBlank before with
    | true =>
        have hclosing : Closing (true = true) (segment.takeWhile Line.isBlank ++
            (dropTrailing Line.isBlank (dropLeadingBlanks segment) ++
              takeTrailing Line.isBlank (dropLeadingBlanks segment))) _ :=
          .cut (fun l hl => List.all_eq_true.mp List.all_takeWhile l hl)
            (fun _ => getLast?_dropTrailing) (fun _ => mem_takeTrailing)
            (fun _ => by
              rw [dropTrailing_append_takeTrailing]
              exact (takeWhile_dropWhile_iff.mp ⟨rfl, rfl⟩).2.2)
            (fun h => absurd rfl h)
        rw [dropTrailing_append_takeTrailing, dropLeadingBlanks,
          List.takeWhile_append_dropWhile] at hclosing
        rw [tidied, hblank, if_pos rfl]
        exact hclosing
    | false =>
        have hclosing : Closing (false = true) ([] ++ (dropTrailing Line.isBlank segment ++
            takeTrailing Line.isBlank segment)) _ :=
          .cut (by simp) (fun _ => getLast?_dropTrailing) (fun _ => mem_takeTrailing)
            (fun h => absurd h Bool.false_ne_true) (fun _ => rfl)
        rw [dropTrailing_append_takeTrailing, List.nil_append] at hclosing
        rw [tidied, hblank, if_neg Bool.false_ne_true]
        exact hclosing

/-! ## 4. Documents -/

namespace Document

/-- A segment from `start` on would stand at a blank line, or at the start of the document. -/
def AtBlank (d : Document) (start : Nat) : Prop :=
  start = 0 ∨ ∃ l, d.lines[start - 1]? = some l ∧ l.isBlank = true

theorem endsBlank_take_iff {d : Document} {start : Nat} (h : start ≤ d.lines.length) :
    endsBlank (d.lines.take start) = true ↔ d.AtBlank start := by
  cases start with
  | zero => simp [endsBlank, AtBlank]
  | succ n =>
      have hlast : (d.lines.take (n + 1)).getLast? = some d.lines[n] := by
        rw [List.getLast?_take, if_neg (Nat.succ_ne_zero n), Nat.add_sub_cancel,
          List.getElem?_eq_getElem h]
        rfl
      simp [endsBlank, AtBlank, hlast, List.getElem?_eq_getElem h]

/-- **Line by line**: the first loop runs if the segment stands at a blank line, and the second one
    runs then. -/
def Deletes (d : Document) (start : Nat) (ls : List Line) : Prop :=
  ∃ middle, (d.AtBlank start ∧ Loops (deleteFirst? start) d.lines middle ∨
      ¬ d.AtBlank start ∧ middle = d.lines) ∧
    Loops (deleteLast? start) middle ls

/-- The loops end in one way only. -/
theorem Deletes.unique {d : Document} {start : Nat} {ls ls' : List Line} (h : d.Deletes start ls)
    (h' : d.Deletes start ls') : ls = ls' := by
  obtain ⟨middle, hfirst, hlast⟩ := h
  obtain ⟨middle', hfirst', hlast'⟩ := h'
  have hsame : middle = middle' := by
    rcases hfirst with ⟨hblank, hloop⟩ | ⟨hblank, rfl⟩ <;>
      rcases hfirst' with ⟨hblank', hloop'⟩ | ⟨hblank', rfl⟩
    · exact hloop.unique hloop'
    · exact absurd hblank hblank'
    · exact absurd hblank' hblank
    · rfl
  subst hsame
  exact hlast.unique hlast'

/-- **Ending an inclusion closes its segment.** With the tidy policy, let an inclusion end whose
    lines begin at `start`. The lines in front stay, and the rest of the segment is left: exactly
    that of `Closing`, whatever the segment is and whatever stands in front of it. The two loops
    end, and they end in just that; no line is lost but blank ones, and so no marker; and ending the
    inclusion a second time changes nothing. If `start` lies beyond the end of the document, ending
    the inclusion is refused, and the document stays as it was. -/
theorem endInclusion?_closes (d : Document) (htidy : d.tidy = true) (start : Nat) :
    (start ≤ d.lines.length → ∃ kept,
      let d' : Document := { d with lines := d.lines.take start ++ kept, afterInclusion := true }
      d.endInclusion? start = some d' ∧
      (∀ rest, Closing (d.AtBlank start) (d.lines.drop start) rest ↔ rest = kept) ∧
      (∀ ls, d.Deletes start ls ↔ ls = d'.lines) ∧
      d'.lines.filter Line.isSolid = d.lines.filter Line.isSolid ∧ d'.markers = d.markers ∧
      d'.endInclusion? start = some d') ∧
    (d.lines.length < start → d.endInclusion? start = none ∧
      ∀ p outer, record (d, start :: outer) (.leave p) = (d, outer)) := by
  constructor
  · intro hstart
    have hlength : (d.lines.take start).length = start := List.length_take_of_le hstart
    have hblank := endsBlank_take_iff hstart
    have hclosing : ∀ rest, Closing (endsBlank (d.lines.take start) = true) (d.lines.drop start)
        rest ↔ rest = tidied (d.lines.take start) (d.lines.drop start) := fun _ => closing_iff
    have hfilter : ∀ p : Line → Bool, (∀ l : Line, l.isBlank = true → p l = false) →
        (d.lines.take start ++ tidied (d.lines.take start) (d.lines.drop start)).filter p =
          d.lines.filter p := fun p hp => by
      rw [List.filter_append, filter_tidied hp, ← List.filter_append, List.take_append_drop]
    obtain ⟨middle, hfirst, hlast⟩ := loops_tidied (d.lines.take start) (d.lines.drop start)
    rw [List.take_append_drop, hlength, hblank, ← Bool.not_eq_true, hblank] at hfirst
    rw [hlength] at hlast
    have hdeletes : d.Deletes start (d.lines.take start ++ _) := ⟨middle, hfirst, hlast⟩
    refine ⟨tidied (d.lines.take start) (d.lines.drop start), ?_, ?_, fun ls => ?_,
      hfilter _ Line.isSolid_of_isBlank, hfilter _ ?_, ?_⟩
    · simp [endInclusion?, htidy, hstart]
    · rw [← hblank]
      exact hclosing
    · exact ⟨fun h => h.unique hdeletes, fun h => h ▸ hdeletes⟩
    · exact fun l hl => by simpa using (Bool.and_eq_true_iff.mp hl).1
    · have hagain := closing_iff.mp ((hclosing _).mpr rfl).again
      simp [endInclusion?, htidy, List.take_left' hlength, List.drop_left' hlength, ← hagain,
        hstart]
  · intro hbeyond
    have hnone : d.endInclusion? start = none := by
      simp [endInclusion?, htidy, Nat.not_le.mpr hbeyond]
    refine ⟨hnone, fun p outer => ?_⟩
    rw [record, hnone, Option.getD_none]

/-- An inclusion that begins and ends with blank lines, behind one. -/
def margined : Document where
  tidy := true
  lines := ["x\n", "\n", " \n", "y\n", "\n", "\t\n"].map fun t => ⟨t.toList, 0, none⟩
  afterInclusion := false

/-- The blank line in front of the inclusion and the first one behind its content stay. -/
theorem endInclusion?_closes_margined :
    margined.tidy = true ∧ 2 ≤ margined.lines.length ∧ margined.lines.length < 7 ∧
    (∃ kept, margined.Deletes 2 (margined.lines.take 2 ++ kept) ∧
      margined.endInclusion? 2 = some ⟨true, margined.lines.take 2 ++ kept, true⟩) ∧
    (margined.endInclusion? 2).map text = some "x\n\ny\n\n".toList ∧
    margined.endInclusion? 7 = none := by
  have hwithin : 2 ≤ margined.lines.length := by decide
  have hbeyond : margined.lines.length < 7 := by decide
  obtain ⟨kept, hend, -, hdeletes, -⟩ := (endInclusion?_closes margined rfl 2).1 hwithin
  exact ⟨rfl, hwithin, hbeyond, ⟨kept, (hdeletes _).mpr rfl, hend⟩, by decide,
    ((endInclusion?_closes margined rfl 7).2 hbeyond).1⟩

end Document

end MarkdownTemplate
