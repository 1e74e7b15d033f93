import MarkdownTemplate.Proofs.Agreement
import MarkdownTemplate.Proofs.Citations
import MarkdownTemplate.Proofs.Substitution

/-!
# Runs of blank lines

Where an inclusion meets its surroundings, blank lines of two files stand together. In the tidy
document they never make a longer run than one of the files does on its own. This file fixes

* `GapsAtMost` -- no gap is longer than `n`; `GapsAtMost.append` -- what two lists must be like for
  this to hold of both together;
* `GapsAtMost.append_tidied` -- an inclusion that has ended joins what stands before it so;
* `Setting.Supplies` -- the lines that an expansion takes from one file;
* `Grows` -- **the invariant** while a file is read: since the innermost inclusion began, no gap is
  longer than `n`, and the last one leaves room for the blank lines that come next in the file;
* `Expands.grows` -- what reading a file does to it;
* **`blank_run_le_source`** -- every run of blank lines is at most as long as one in a file.

While an inclusion is open the document may well hold a longer run: that is why the invariant looks
no further back than to where the innermost inclusion began.
-/

namespace MarkdownTemplate

/-! ## 1. Lists without long gaps -/

section List

variable {α : Type} {p : α → Bool} {n : Nat}

/-- No gap of the list is longer than `n`. -/
def GapsAtMost (n : Nat) (p : α → Bool) (l : List α) : Prop :=
  ∀ i, (gap p l i).length ≤ n

theorem gapsAtMost_nil : GapsAtMost n p [] := by
  intro i
  rw [gap_nil]
  exact Nat.zero_le n

theorem GapsAtMost.tail {x : α} {l : List α} (h : GapsAtMost n p (x :: l)) : GapsAtMost n p l := by
  intro i
  cases hx : p x with
  | true =>
      have hi := h (i + 1)
      rwa [gap_cons_of_pos hx, if_neg (Nat.succ_ne_zero i)] at hi
  | false =>
      have hi := h i
      rw [gap_cons_of_neg hx] at hi
      split at hi
      · rename_i hzero
        rw [List.length_cons] at hi
        rw [hzero]
        omega
      · exact hi

/-- **Two lists put together** have no longer gaps if the first ends, or the second begins, with an
    element that passes the test. -/
theorem GapsAtMost.append {a b : List α} (ha : GapsAtMost n p a) (hb : GapsAtMost n p b)
    (hseam : gap p a (a.countP p) = [] ∨ gap p b 0 = []) : GapsAtMost n p (a ++ b) := by
  intro i
  rw [gap_append]
  split
  · rename_i hle
    by_cases hi : i = a.countP p
    · subst hi
      rw [Nat.sub_self]
      rcases hseam with hseam | hseam
      · rw [hseam, List.nil_append]
        exact hb 0
      · rw [hseam, List.append_nil]
        exact ha _
    · rw [gap_eq_nil_of_lt (by omega), List.nil_append]
      exact hb _
  · rw [List.append_nil]
    exact ha i

/-- One more element that fails the test makes the last gap one longer. -/
theorem length_last_gap_concat {x : α} (hx : p x = false) (l : List α) :
    (gap p (l ++ [x]) ((l ++ [x]).countP p)).length = (gap p l (l.countP p)).length + 1 := by
  have hcount : (l ++ [x]).countP p = l.countP p := by simp [List.countP_append, hx]
  rw [gap_concat_of_neg hx, hcount, if_pos rfl, List.length_append, List.length_singleton]

/-- The gaps stay short if the last one has room for one more element. -/
theorem GapsAtMost.concat {x : α} {l : List α} (h : GapsAtMost n p l) (hx : p x = false)
    (hroom : (gap p l (l.countP p)).length + 1 ≤ n) : GapsAtMost n p (l ++ [x]) := by
  intro i
  rw [gap_concat_of_neg hx]
  split
  · rename_i hi
    rw [hi, List.length_append, List.length_singleton]
    exact hroom
  · rw [List.append_nil]
    exact h i

/-- No gap holds more than one element exactly if one of two neighbours always passes the test. -/
theorem gapsAtMost_one_iff {l : List α} :
    GapsAtMost 1 p l ↔ l.IsChain fun x y => p x = true ∨ p y = true := by
  induction l with
  | nil => simp [gapsAtMost_nil]
  | cons x l ih =>
      cases l with
      | nil =>
          refine ⟨fun _ => .singleton x, fun _ i => ?_⟩
          cases hx : p x with
          | true => simp [gap_cons_of_pos hx]
          | false =>
              rw [gap_cons_of_neg hx]
              split <;> simp
      | cons y l =>
          rw [List.isChain_cons_cons, ← ih]
          constructor
          · intro h
            refine ⟨?_, h.tail⟩
            cases hx : p x with
            | true => exact Or.inl rfl
            | false =>
                cases hy : p y with
                | true => exact Or.inr rfl
                | false =>
                    have hzero := h 0
                    simp [gap_cons_of_neg hx, gap_cons_of_neg hy] at hzero
          · intro h i
            obtain ⟨hpair, hrest⟩ := h
            cases hx : p x with
            | true =>
                rw [gap_cons_of_pos hx]
                split
                · exact Nat.zero_le 1
                · exact hrest _
            | false =>
                have hy : p y = true := by simpa [hx] using hpair
                rw [gap_cons_of_neg hx]
                split
                · simp [gap_cons_of_pos hy]
                · exact hrest i

theorem gap_zero_eq (l : List α) : gap p l 0 = l.takeWhile fun x => !p x := by
  induction l with
  | nil => rfl
  | cons x l ih =>
      cases hx : p x with
      | true => simp [gap_cons_of_pos hx, hx]
      | false => simp [gap_cons_of_neg hx, hx, ih]

/-- A gap is a run of the list. -/
theorem gap_infix_self (l : List α) (i : Nat) : gap p l i <:+: l := by
  induction l generalizing i with
  | nil => simp
  | cons x l ih =>
      have hbehind : ∀ i, gap p l i <:+: x :: l := fun i =>
        (ih i).trans (List.suffix_cons x l).isInfix
      cases hx : p x with
      | true =>
          rw [gap_cons_of_pos hx]
          split
          · exact List.nil_infix
          · exact hbehind _
      | false =>
          rw [gap_cons_of_neg hx]
          split
          · have hfront : gap p l 0 <+: l := by
              rw [gap_zero_eq]
              exact List.takeWhile_prefix _
            exact ((List.prefix_cons_inj x).mpr hfront).isInfix
          · exact hbehind i

/-- **Every run of elements that fail the test lies in a gap.** -/
theorem exists_length_le_gap {l run : List α} (hrun : run <:+: l)
    (hfail : ∀ x ∈ run, p x = false) : ∃ i, run.length ≤ (gap p l i).length := by
  obtain ⟨a, b, rfl⟩ := hrun
  have hcount : run.countP p = 0 := List.countP_eq_zero.mpr fun x hx => by simp [hfail x hx]
  refine ⟨a.countP p, ?_⟩
  rw [List.append_assoc, gap_append, if_pos (Nat.le_refl _), Nat.sub_self, gap_append,
    gap_of_countP_eq_zero hcount, if_pos rfl, List.length_append, List.length_append]
  omega

end List

/-! ## 2. Tidying -/

/-- The text holds a character that is not blank. -/
def Text.isSolid (t : Text) : Bool :=
  !t.isBlank

section Tidied

variable {n : Nat} {before since segment : List Line}

/-- Tidying makes no gap longer. -/
theorem GapsAtMost.tidied (h : GapsAtMost n Line.isSolid segment) (before : List Line) :
    GapsAtMost n Line.isSolid (tidied before segment) := by
  intro i
  rw [gap_tidied]
  exact Nat.le_trans (List.length_take_le' ..) (h i)

/-- **At one side of the seam no blank line is left**: behind a blank line the inclusion begins
    without one. -/
theorem gap_seam_eq_nil (before since segment : List Line) :
    gap Line.isSolid since (since.countP Line.isSolid) = [] ∨
      gap Line.isSolid (tidied (before ++ since) segment) 0 = [] := by
  cases hends : endsBlank (before ++ since) with
  | true =>
      refine Or.inr ?_
      rw [gap_tidied, if_pos ⟨rfl, hends⟩, List.take_zero]
  | false => exact Or.inl (gap_eq_nil_of_not_endsBlank hends)

/-- **An inclusion that has ended** joins what stands before it without a longer gap. -/
theorem GapsAtMost.append_tidied (hsince : GapsAtMost n Line.isSolid since)
    (hsegment : GapsAtMost n Line.isSolid segment) (before : List Line) :
    GapsAtMost n Line.isSolid (since ++ MarkdownTemplate.tidied (before ++ since) segment) :=
  hsince.append (hsegment.tidied _) (gap_seam_eq_nil before since segment)

end Tidied

/-! ## 3. The invariant -/

/-- **The invariant** while the lines `rest` of a file are still to be read. The document is
    `before`, which the innermost inclusion that is open has found, and what has been written since;
    there no gap is longer than `n`, and unless blank lines are dropped right now the last one
    leaves room for those in front of `rest`. -/
structure Grows (n : Nat) (before : List Line) (starts : List Nat) (rest : List Text)
    (st : Document × List Nat) : Prop where
  starts_eq : st.2 = starts
  tidy : st.1.tidy = true
  /-- The lines to be read have no longer gaps, either. -/
  ahead : GapsAtMost n Text.isSolid rest
  since : ∃ since, st.1.lines = before ++ since ∧ GapsAtMost n Line.isSolid since ∧
    (st.1.afterInclusion = false →
      (gap Line.isSolid since (since.countP Line.isSolid)).length +
        (gap Text.isSolid rest 0).length ≤ n)

namespace Grows

variable {n : Nat} {before : List Line} {starts : List Nat} {first : Text}
  {rest content : List Text} {d : Document} {st : Document × List Nat} {l : Line}

/-- Right at the start of a document or of an inclusion. -/
theorem start (htidy : d.tidy = true) (ahead : GapsAtMost n Text.isSolid rest) :
    Grows n d.lines starts rest (d, starts) where
  starts_eq := rfl
  tidy := htidy
  ahead := ahead
  since := by
    refine ⟨[], (List.append_nil _).symm, gapsAtMost_nil, fun _ => ?_⟩
    rw [gap_nil, List.length_nil, Nat.zero_add]
    exact ahead 0

/-- A line is written that is not blank. -/
theorem line_solid (h : Grows n before starts (first :: rest) st) (hl : l.isSolid = true) :
    Grows n before starts rest (Document.record st (.line l)) := by
  obtain ⟨d, starts'⟩ := st
  obtain ⟨rfl, htidy, ahead, since, hlines, hgaps, -⟩ := h
  have hwrite : Document.record (d, starts') (.line l) =
      ({ d with lines := d.lines ++ [l], afterInclusion := false }, starts') := by
    rw [← Document.write_of_solid hl]
    rfl
  rw [hwrite]
  refine ⟨rfl, htidy, ahead.tail, since ++ [l], ?_, fun i => ?_, fun _ => ?_⟩
  · rw [hlines, List.append_assoc]
  · rw [gap_concat_of_pos hl]
    exact hgaps i
  · have hlast : gap Line.isSolid (since ++ [l]) ((since ++ [l]).countP Line.isSolid) = [] :=
      gap_countP_of_getLast? fun x hx => by
        obtain rfl : l = x := by simpa using hx
        exact hl
    rw [hlast, List.length_nil, Nat.zero_add]
    exact ahead.tail 0

/-- A blank line is written, or dropped. -/
theorem line_blank (h : Grows n before starts (first :: rest) st) (hl : l.isSolid = false)
    (hfirst : Text.isSolid first = false) :
    Grows n before starts rest (Document.record st (.line l)) := by
  obtain ⟨d, starts'⟩ := st
  obtain ⟨rfl, htidy, ahead, since, hlines, hgaps, hroom⟩ := h
  have hahead : gap Text.isSolid (first :: rest) 0 = first :: gap Text.isSolid rest 0 := by
    rw [gap_cons_of_neg hfirst, if_pos rfl]
  -- a file with a blank line allows for one
  have hone := ahead 0
  rw [hahead, List.length_cons] at hone hroom
  have hwrite : Document.record (d, starts') (.line l) = (d.write l, starts') := rfl
  rw [hwrite, Document.write_of_blank hl]
  split
  · rename_i hdrop
    refine ⟨rfl, htidy, ahead.tail, since, hlines, hgaps, fun hafter => ?_⟩
    have hafter' : d.afterInclusion = false := hafter
    rw [hdrop.1] at hafter'
    cases hafter'
  · rename_i hkeep
    refine ⟨rfl, htidy, ahead.tail, since ++ [l], ?_, ?_, fun hafter => ?_⟩
    · rw [hlines, List.append_assoc]
    · refine hgaps.concat hl ?_
      cases hafter : d.afterInclusion with
      | false =>
          have hle := hroom hafter
          omega
      | true =>
          -- right after an inclusion a blank line is written only behind one that is not
          have hends : endsBlank d.lines = false := by simpa [hafter] using hkeep
          have hlines' : d.lines = before ++ since := hlines
          rw [hlines'] at hends
          rw [gap_eq_nil_of_not_endsBlank hends, List.length_nil]
          omega
    · have hle := hroom hafter
      rw [length_last_gap_concat hl]
      omega

/-- **A line of the file is written.** -/
theorem line (h : Grows n before starts (first :: rest) st) (hl : l.isSolid = Text.isSolid first) :
    Grows n before starts rest (Document.record st (.line l)) := by
  cases hfirst : Text.isSolid first with
  | true => exact h.line_solid (hl.trans hfirst)
  | false => exact h.line_blank (hl.trans hfirst) hfirst

/-- Lines of a file are written. -/
theorem lines (depth : Int) : ∀ {content : List Text} {st : Document × List Nat},
    Grows n before starts content st → Grows n before starts []
      ((content.map fun t => Event.line ⟨t, depth, none⟩).foldl Document.record st) := by
  intro content
  induction content with
  | nil => exact fun h => h
  | cons t content ih => exact fun h => ih (h.line rfl)

/-- **An inclusion is written** in place of the line that cites it. -/
theorem inclusion (h : Grows n before starts (first :: rest) st) {f : Frame} {p q : Path}
    {t : Treatment} {es : List Event} (hcontent : GapsAtMost n Text.isSolid content)
    (hes : ∀ before starts st, Grows n before starts content st →
      Grows n before starts [] (es.foldl Document.record st)) :
    Grows n before starts rest
      ((Event.cite f :: .enter p t :: es ++ [Event.leave q]).foldl Document.record st) := by
  obtain ⟨d, starts'⟩ := st
  obtain ⟨rfl, htidy, ahead, since, hlines, hgaps, -⟩ := h
  have hentered : Grows n d.lines (d.lines.length :: starts') content
      (d, d.lines.length :: starts') := start htidy hcontent
  have hinside := hes _ _ _ hentered
  have hfold : (Event.cite f :: .enter p t :: es ++ [Event.leave q]).foldl Document.record
      (d, starts') = Document.record (es.foldl Document.record (d, d.lines.length :: starts'))
        (Event.leave q) := by
    rw [List.foldl_append]
    rfl
  rw [hfold]
  -- the document when the inclusion ends
  generalize es.foldl Document.record (d, d.lines.length :: starts') = st' at hinside
  obtain ⟨d', starts''⟩ := st'
  obtain ⟨rfl, htidy', -, segment, hlines', hsegment, -⟩ := hinside
  have htake : d'.lines.take d.lines.length = d.lines := by
    rw [hlines', List.take_left']
    rfl
  have hdrop : d'.lines.drop d.lines.length = segment := by
    rw [hlines', List.drop_left']
    rfl
  have hreach : d.lines.length ≤ d'.lines.length := by
    rw [hlines', List.length_append]
    exact Nat.le_add_right ..
  have hpolicy : d'.tidy = true := htidy'
  have hend : (d'.endInclusion? d.lines.length).getD d' =
      { d' with lines := d.lines ++ tidied d.lines segment, afterInclusion := true } := by
    simp [Document.endInclusion?, hpolicy, hreach, htake, hdrop]
  show Grows n before starts' rest ((d'.endInclusion? d.lines.length).getD d', starts')
  rw [hend]
  refine ⟨rfl, htidy', ahead.tail, since ++ tidied d.lines segment, ?_, ?_,
    fun hafter => by cases hafter⟩
  · rw [← List.append_assoc, ← hlines]
  · rw [hlines]
    exact hgaps.append_tidied hsegment before

end Grows

/-! ## 4. Files -/

namespace Setting

/-- **The lines that an expansion takes from one file**: those of a template that it reads, or those
    that quote a file cited there. -/
inductive Supplies (s : Setting) (first : Path) : List Text → Prop where
  | template {p : Path} {text : Text} (hreach : s.Reaches first p)
      (htext : s.textOf? p = some text) :
      Supplies s first (Text.splitLines Text.isLineEnd text)
  | quotation {p : Path} {n : Nat} {d : Directive} {content : Text} {quoted : List Text}
      (hreach : s.Reaches first p) (hat : s.DirectiveAt p n d) (hcites : d.citesFile = true)
      (hrec : d.isRecursive = false) (htext : s.textOf? (d.includee p) = some content)
      (hquoted : Directive.verbatim? d.treatment d.language content = some quoted) :
      Supplies s first quoted

variable {s : Setting} {first : Path} {stack : Stack} {template : Path} {depth : Int}
  {number n : Nat} {lines : List Text} {r : Run}

/-- What a directive quotes are the lines of one file. -/
theorem Supplies.exists_quoted {d : Directive} {source : Source} {content : Text}
    (hreach : s.Reaches first template) (hat : s.DirectiveAt template number d)
    (hcites : d.citesFile = true) (hrec : d.isRecursive = false)
    (hopen : Source.ofPath s.tree s.encoding (d.includee template) = .ok source)
    (htext : source.text? = some content) :
    ∃ quoted, s.Supplies first quoted ∧
      ∀ depth, (quote d depth content).events =
        quoted.map fun t => Event.line ⟨t, depth, none⟩ := by
  obtain ⟨opener, closer, hwrapper⟩ := wrapper?_isSome hcites hrec
  have hquoted : Directive.verbatim? d.treatment d.language content =
      some (opener :: Directive.contentLines content ++ [closer]) := by
    rw [Directive.verbatim?, hwrapper]
    rfl
  refine ⟨_, .quotation hreach hat hcites hrec (textOf?_eq_some_iff.mpr ⟨_, hopen, htext⟩) hquoted,
    fun depth => ?_⟩
  rw [quote, hquoted]
  rfl

/-- **What reading a file does**: if no file that the expansion takes lines from has a longer gap,
    the invariant holds afterwards, with nothing left to be read. -/
theorem Expands.grows (h : Expands s stack template depth number lines r)
    (hok : r.failure = none)
    (hshort : ∀ piece, s.Supplies first piece → GapsAtMost n Text.isSolid piece)
    (hreach : s.Reaches first template) (hlines : s.StandIn template number lines) :
    ∀ before starts st, Grows n before starts lines st →
      Grows n before starts [] (r.events.foldl Document.record st) := by
  induction h, hok using Expands.ok_induction with
  | done => exact fun _ _ _ hst => hst
  | copied _ _ _ ih =>
      intro before starts st hst
      refine ih hreach hlines.tail before starts _ (hst.line ?_)
      simp [Line.isSolid, Line.isBlank, Line.isMarker, Text.isSolid, isBlank_lineAt]
  | marked _ _ _ _ ih =>
      exact fun before starts st hst =>
        ih hreach hlines.tail before starts _ (hst.line_solid rfl)
  | quoted hline hcites hrec hopen htext _ _ ih =>
      intro before starts st hst
      obtain ⟨quoted, hquoted, hevents⟩ :=
        Supplies.exists_quoted hreach (hlines.directiveAt hline) hcites hrec hopen htext
      rw [Run.after_events, List.foldl_append, hevents]
      exact ih hreach hlines.tail before starts _
        (hst.inclusion (hshort quoted hquoted) fun _ _ _ hst => hst.lines _)
  | nested hline hrec _ hopen hbody hokBody hcomplete _ _ ihBody ihRest =>
      intro before starts st hst
      obtain ⟨text, htext, heq⟩ := lines_of_complete hopen hcomplete
      have hinner := hreach.tail ⟨_, _, hlines.directiveAt hline, hrec, rfl⟩
      rw [Run.after_events, List.foldl_append]
      refine ihRest hreach hlines.tail before starts _
        (hst.inclusion (heq ▸ hshort _ (.template hinner htext)) ?_)
      exact ihBody hinner (heq ▸ standIn_splitLines htext)

/-- **No gap of the tidy document is longer** than those of all files that lines come from. -/
theorem gapsAtMost_expand {output : Option Path}
    (hok : (s.expand template output).failure = none)
    (hshort : ∀ piece, s.Supplies template piece → GapsAtMost n Text.isSolid piece) :
    GapsAtMost n Line.isSolid
      ((Document.empty true).replay (s.expand template output).events).lines := by
  obtain ⟨text, body, htext, hbody, hokBody, hevents⟩ := expand_ok hok
  have hstart : Grows n [] [] (Text.splitLines Text.isLineEnd text) (Document.empty true, []) :=
    Grows.start (d := .empty true) rfl (hshort _ (.template .refl htext))
  obtain ⟨-, -, -, since, hlines, hgaps, -⟩ :=
    hbody.grows hokBody hshort .refl (standIn_splitLines htext) [] [] _ hstart
  rw [hevents]
  have heq : ((Document.empty true).replay body.events).lines = since := hlines
  rw [heq]
  exact hgaps

/-! ## 5. Runs of blank lines -/

/-- Every gap of the tidy document is at most as long as one in a single file. -/
theorem exists_gap_le {output : Option Path} (hok : (s.expand template output).failure = none)
    (i : Nat) : ∃ piece j, s.Supplies template piece ∧
      (gap Line.isSolid ((Document.empty true).replay (s.expand template output).events).lines
        i).length ≤ (gap Text.isSolid piece j).length := by
  generalize hm : (gap Line.isSolid
    ((Document.empty true).replay (s.expand template output).events).lines i).length = m
  by_contra hnone
  -- then every gap of every file is shorter than this one
  have hshorter : ∀ piece j, s.Supplies template piece →
      (gap Text.isSolid piece j).length < m := by
    intro piece j hpiece
    by_contra hle
    exact hnone ⟨piece, j, hpiece, Nat.le_of_not_lt hle⟩
  obtain ⟨text, -, htext, -⟩ := expand_ok hok
  have hpos := hshorter _ 0 (.template .refl htext)
  have hgap := gapsAtMost_expand (n := m - 1) hok
    (fun piece hpiece j => Nat.le_sub_one_of_lt (hshorter piece j hpiece)) i
  omega

/-- **No seam makes a longer run of blank lines.** If the expansion of a template succeeds, every
    run of blank lines in its tidy document is at most as long as one in a single file that lines
    come from: a template as it stands, or another file as it is quoted. So if no file has two
    blank lines one after another, neither has the document. -/
theorem blank_run_le_source (s : Setting) (template : Path) (output : Option Path)
    (hok : (s.expand template output).failure = none) :
    let tidy := (Document.empty true).replay (s.expand template output).events
    (∀ run, run <:+: tidy.lines → (∀ l ∈ run, l.isBlank = true) →
      ∃ piece run', s.Supplies template piece ∧ run' <:+: piece ∧
        (∀ t ∈ run', t.isBlank = true) ∧ run.length ≤ run'.length) ∧
    ((∀ piece, s.Supplies template piece →
        piece.IsChain fun a b => a.isSolid = true ∨ b.isSolid = true) →
      tidy.lines.IsChain fun a b => a.isSolid = true ∨ b.isSolid = true) := by
  intro tidy
  constructor
  · intro run hrun hblank
    obtain ⟨i, hi⟩ := exists_length_le_gap (p := Line.isSolid) hrun
      fun l hl => by simp [Line.isSolid, hblank l hl]
    obtain ⟨piece, j, hpiece, hle⟩ := exists_gap_le hok i
    refine ⟨piece, gap Text.isSolid piece j, hpiece, gap_infix_self piece j, fun t ht => ?_,
      Nat.le_trans hi hle⟩
    simpa [Text.isSolid] using eq_false_of_mem_gap ht
  · intro hfiles
    exact gapsAtMost_one_iff.mp
      (gapsAtMost_expand hok fun piece hpiece => gapsAtMost_one_iff.mpr (hfiles piece hpiece))

/-- A template that cites another one between blank lines; that one begins and ends with more. -/
def margins : Setting where
  tree := ⟨[([['a']], .ofAscii "x\n\n@[markdown](b)\n\ny\n"), ([['b']], .ofAscii "\n \nz\n\n")],
    [([], true)]⟩
  encoding := "ascii".toList
  root := none
  citesFiles := true

/-- Of three blank lines in a row the page keeps one, and of two it keeps one, too. -/
theorem blank_run_le_source_margins :
    (margins.expand ⟨.root, [['a']]⟩ none).failure = none ∧
    (∀ run, run <:+: ((Document.empty true).replay
        (margins.expand ⟨.root, [['a']]⟩ none).events).lines → (∀ l ∈ run, l.isBlank = true) →
      ∃ piece run', margins.Supplies ⟨.root, [['a']]⟩ piece ∧ run' <:+: piece ∧
        (∀ t ∈ run', t.isBlank = true) ∧ run.length ≤ run'.length) ∧
    ((Document.empty true).replay (margins.expand ⟨.root, [['a']]⟩ none).events).text =
      "x\n\nz\n\ny\n".toList := by
  have hok : (margins.expand ⟨.root, [['a']]⟩ none).failure = none := by decide +kernel
  exact ⟨hok, (blank_run_le_source margins ⟨.root, [['a']]⟩ none hok).1, by decide +kernel⟩

end Setting

end MarkdownTemplate
