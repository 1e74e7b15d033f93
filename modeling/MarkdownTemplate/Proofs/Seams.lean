import MarkdownTemplate.Proofs.Agreement

/-!
# Where blank lines are dropped

The tidy document lacks blank lines of the plain one. This file says which: it looks at one gap
between lines that are not blank after another. It fixes

* `Event.isSeam`, `SeamIn` -- an inclusion begins or ends, and does so in a gap;
* `Thinned` -- what may be left of a gap: not nothing, unless it lies in front of all lines, and
  everything, unless an inclusion begins or ends in it;
* `Tracks` -- **the invariant** of a document and the events that it has taken in: each gap is
  thinned, and the inclusions that are open begin in gaps with a seam;
* `Tracks.record` -- what one event does to it;
* **`blank_lines_dropped_at_seams`** -- the gaps of the tidy document are those of the plain one,
  thinned.
-/

namespace MarkdownTemplate

/-! ## 1. Gaps with a seam -/

/-- The event begins an inclusion or ends one. -/
def Event.isSeam : Event → Bool
  | .enter .. => true
  | .leave _ => true
  | _ => false

/-- An inclusion begins or ends in gap `i` of the events. -/
def SeamIn (es : List Event) (i : Nat) : Prop :=
  ∃ e ∈ gap Event.isSolid es i, e.isSeam = true

/-- A gap keeps its seams while more happens. -/
theorem SeamIn.concat {es : List Event} {i : Nat} (h : SeamIn es i) (e : Event) :
    SeamIn (es ++ [e]) i := by
  obtain ⟨x, hx, hseam⟩ := h
  refine ⟨x, ?_, hseam⟩
  rw [gap_append]
  exact List.mem_append_left _ hx

/-- The seam that happens now lies in the last gap. -/
theorem seamIn_last {e : Event} (hsolid : e.isSolid = false) (hseam : e.isSeam = true)
    (es : List Event) : SeamIn (es ++ [e]) (es.countP Event.isSolid) := by
  refine ⟨e, ?_, hseam⟩
  rw [gap_concat_of_neg hsolid, if_pos rfl]
  exact List.mem_concat_self

/-- **What may be left of gap `i`**, in which these events happen. -/
structure Thinned (i : Nat) (es : List Event) (left : List Line) : Prop where
  /-- Lines that are left have been written. -/
  sublist : left.Sublist (written es)
  /-- Behind a line that is not blank, something is left if anything was written. -/
  kept : 0 < i → written es ≠ [] → left ≠ []
  /-- Without a seam everything is left. -/
  whole : (∀ e ∈ es, e.isSeam = false) → left = written es

namespace Thinned

variable {i : Nat} {es : List Event} {left : List Line}

/-- More happens in the gap, and what it writes is left. -/
theorem concat (h : Thinned i es left) (e : Event) :
    Thinned i (es ++ [e]) (left ++ written [e]) where
  sublist := by
    rw [written_append]
    exact h.sublist.append_right _
  kept hi hne := by
    rw [written_append] at hne
    cases hlast : written [e] with
    | nil =>
        rw [hlast, List.append_nil] at hne
        rw [List.append_nil]
        exact h.kept hi hne
    | cons l rest => simp
  whole hnone := by
    have hes : ∀ e ∈ es, e.isSeam = false := fun x hx => hnone x (List.mem_append_left _ hx)
    rw [written_append, h.whole hes]

/-- Lines may be dropped from a gap with a seam, if something is left. -/
theorem drop (h : Thinned i es left) (hseam : ∃ e ∈ es, e.isSeam = true) {left' : List Line}
    (hsub : left'.Sublist left) (hkept : 0 < i → left ≠ [] → left' ≠ []) :
    Thinned i es left' where
  sublist := hsub.trans h.sublist
  kept hi hne := hkept hi (h.kept hi hne)
  whole hnone := by
    obtain ⟨e, he, hseam⟩ := hseam
    have hfalse := hnone e he
    rw [hseam] at hfalse
    cases hfalse

/-- **What the end of an inclusion leaves of a gap**, if the gap where it began and the last one
    have a seam. -/
theorem tidied {before segment : List Line}
    (h : Thinned i es (gap Line.isSolid (before ++ segment) i))
    (hfirst : i = before.countP Line.isSolid → ∃ e ∈ es, e.isSeam = true)
    (hlast : i = before.countP Line.isSolid + segment.countP Line.isSolid →
      ∃ e ∈ es, e.isSeam = true) :
    Thinned i es (gap Line.isSolid (before ++ tidied before segment) i) := by
  rw [gap_append] at h ⊢
  by_cases hle : before.countP Line.isSolid ≤ i
  · rw [if_pos hle] at h
    rw [if_pos hle, gap_tidied]
    have hsub : ∀ n, (gap Line.isSolid before i ++
        (gap Line.isSolid segment (i - before.countP Line.isSolid)).take n).Sublist
          (gap Line.isSolid before i ++
            gap Line.isSolid segment (i - before.countP Line.isSolid)) :=
      fun n => (List.Sublist.refl _).append (List.take_sublist ..)
    split
    · -- blank lines at the front are dropped only behind a blank line, which is left
      rename_i hblank
      have hi : i = before.countP Line.isSolid := by omega
      refine h.drop (hfirst hi) (hsub 0) fun hpos _ => ?_
      rw [hi] at hpos ⊢
      rw [List.take_zero, List.append_nil]
      exact gap_ne_nil_of_endsBlank hblank.2 hpos
    · split
      · -- of those at the end the first is left
        have hi : i = before.countP Line.isSolid + segment.countP Line.isSolid := by omega
        refine h.drop (hlast hi) (hsub 1) fun _ hne => ?_
        simpa using hne
      · rw [List.take_length]
        exact h
  · rw [if_neg hle] at h ⊢
    exact h

end Thinned

/-! ## 2. The invariant -/

/-- **The invariant** of a document and its open inclusions, after events: the inclusions begin
    inside the document and in gaps with a seam, each gap is thinned, and the last one has a seam if
    the document counts as right after an inclusion. -/
structure Tracks (es : List Event) (st : Document × List Nat) : Prop where
  opened : Document.Opened st
  count : st.1.lines.countP Line.isSolid = es.countP Event.isSolid
  thinned : ∀ i, Thinned i (gap Event.isSolid es i) (gap Line.isSolid st.1.lines i)
  begun : ∀ start ∈ st.2, SeamIn es ((st.1.lines.take start).countP Line.isSolid)
  ended : st.1.afterInclusion = true → SeamIn es (es.countP Event.isSolid)

theorem tracks_start (tidy : Bool) : Tracks [] (Document.empty tidy, []) where
  opened := Document.opened_start _
  count := rfl
  thinned i := by
    rw [show (Document.empty tidy, ([] : List Nat)).1.lines = [] from rfl, gap_nil, gap_nil]
    exact ⟨List.Sublist.refl _, fun _ h => absurd rfl h, fun _ => rfl⟩
  begun := by simp
  ended h := by cases h

namespace Tracks

variable {es : List Event} {d : Document} {starts : List Nat}

/-- An event that writes nothing lies in the last gap. -/
theorem thinned_silent {es : List Event} {lines : List Line} {e : Event}
    (h : ∀ i, Thinned i (gap Event.isSolid es i) (gap Line.isSolid lines i))
    (hsolid : e.isSolid = false) (hsilent : written [e] = []) (i : Nat) :
    Thinned i (gap Event.isSolid (es ++ [e]) i) (gap Line.isSolid lines i) := by
  rw [gap_concat_of_neg hsolid]
  split
  · have hmore := (h i).concat e
    rwa [hsilent, List.append_nil] at hmore
  · rw [List.append_nil]
    exact h i

theorem countP_silent {e : Event} (hsolid : e.isSolid = false) :
    (es ++ [e]).countP Event.isSolid = es.countP Event.isSolid := by
  simp [List.countP_append, hsolid]

/-- A directive is taken up. -/
theorem cite (h : Tracks es (d, starts)) (f : Frame) :
    Tracks (es ++ [.cite f]) (d, starts) where
  opened := h.opened
  count := h.count.trans (countP_silent rfl).symm
  thinned := thinned_silent h.thinned rfl rfl
  begun start hstart := (h.begun start hstart).concat _
  ended hafter := by
    rw [countP_silent rfl]
    exact (h.ended hafter).concat _

/-- An inclusion begins, in the last gap. -/
theorem enter (h : Tracks es (d, starts)) (p : Path) (t : Treatment) :
    Tracks (es ++ [.enter p t]) (d, d.lines.length :: starts) where
  opened := h.opened.record (.enter p t)
  count := h.count.trans (countP_silent rfl).symm
  thinned := thinned_silent h.thinned rfl rfl
  begun start hstart := by
    rcases List.mem_cons.mp hstart with rfl | hstart
    · rw [List.take_length, h.count]
      exact seamIn_last rfl rfl es
    · exact (h.begun start hstart).concat _
  ended hafter := by
    rw [countP_silent rfl]
    exact (h.ended hafter).concat _

section Writing

variable {l : Line}

/-- The inclusions that are open begin before the line that is written now. -/
theorem begun_concat (h : Tracks es (d, starts)) (l : Line) : ∀ start ∈ starts,
    SeamIn (es ++ [.line l]) (((d.lines ++ [l]).take start).countP Line.isSolid) := by
  intro start hstart
  rw [List.take_append_of_le_length (h.opened.le_length start hstart)]
  exact (h.begun start hstart).concat _

/-- A line is written that is not blank. -/
theorem line_solid (h : Tracks es (d, starts)) (hl : l.isSolid = true) :
    Tracks (es ++ [.line l]) (d.write l, starts) := by
  have hevent : (Event.line l).isSolid = true := hl
  have hopened : Document.Opened (d.write l, starts) := h.opened.record (.line l)
  have hcount : d.lines.countP Line.isSolid = es.countP Event.isSolid := h.count
  rw [Document.write_of_solid hl] at hopened ⊢
  refine ⟨hopened, ?_, fun i => ?_, h.begun_concat l, fun hafter => by cases hafter⟩
  · simp [List.countP_append, hcount, hl, hevent]
  · rw [gap_concat_of_pos hevent, gap_concat_of_pos hl]
    exact h.thinned i

/-- A blank line is written, or dropped from the last gap. -/
theorem line_blank (h : Tracks es (d, starts)) (hl : l.isSolid = false) :
    Tracks (es ++ [.line l]) (d.write l, starts) := by
  have hevent : (Event.line l).isSolid = false := hl
  have hopened : Document.Opened (d.write l, starts) := h.opened.record (.line l)
  have hcount : d.lines.countP Line.isSolid = es.countP Event.isSolid := h.count
  have hended : d.afterInclusion = true →
      SeamIn (es ++ [.line l]) ((es ++ [Event.line l]).countP Event.isSolid) := by
    intro hafter
    rw [countP_silent hevent]
    exact (h.ended hafter).concat _
  have hmore : ∀ i, Thinned i (gap Event.isSolid (es ++ [.line l]) i)
      (gap Line.isSolid (d.lines ++ [l]) i) := by
    intro i
    rw [gap_concat_of_neg hevent, gap_concat_of_neg hl, hcount]
    split
    · exact (h.thinned i).concat (.line l)
    · rw [List.append_nil, List.append_nil]
      exact h.thinned i
  rw [Document.write_of_blank hl] at hopened ⊢
  split
  · -- the line is dropped: it follows a blank one, which is left
    rename_i hdrop
    obtain ⟨hafter, hends⟩ := hdrop
    refine ⟨h.opened, hcount.trans (countP_silent hevent).symm, fun i => ?_,
      fun start hstart => (h.begun start hstart).concat _, hended⟩
    by_cases hi : i = es.countP Event.isSolid
    · subst hi
      refine (hmore _).drop ((h.ended hafter).concat _) ?_ fun hpos _ => ?_
      · rw [gap_append]
        exact List.sublist_append_left ..
      · rw [← hcount] at hpos ⊢
        exact gap_ne_nil_of_endsBlank hends hpos
    · have hsame := hmore i
      rwa [gap_concat_of_neg hl, hcount, if_neg hi, List.append_nil] at hsame
  · rename_i hkeep
    rw [if_neg hkeep] at hopened
    refine ⟨hopened, ?_, hmore, h.begun_concat l, hended⟩
    simp [List.countP_append, hcount, hl, hevent]

end Writing

/-- An inclusion ends. -/
theorem leave {start : Nat} (h : Tracks es (d, start :: starts)) (p : Path) :
    Tracks (es ++ [.leave p]) ((d.endInclusion? start).getD d, starts) := by
  have hopened : Document.Opened ((d.endInclusion? start).getD d, starts) :=
    h.opened.record (.leave p)
  have hreach : start ≤ d.lines.length := h.opened.le_length start List.mem_cons_self
  obtain ⟨houter, -⟩ := List.pairwise_cons.mp h.opened.nested
  have hcount : d.lines.countP Line.isSolid = es.countP Event.isSolid := h.count
  have hsilent : (es ++ [Event.leave p]).countP Event.isSolid = es.countP Event.isSolid :=
    countP_silent rfl
  have hthinned := thinned_silent h.thinned (e := .leave p) rfl rfl
  have hfirst : SeamIn (es ++ [.leave p]) ((d.lines.take start).countP Line.isSolid) :=
    (h.begun start List.mem_cons_self).concat _
  have hlast : SeamIn (es ++ [.leave p]) (es.countP Event.isSolid) := seamIn_last rfl rfl es
  have hbegun : ∀ outer ∈ starts,
      SeamIn (es ++ [.leave p]) ((d.lines.take outer).countP Line.isSolid) :=
    fun outer hmem => (h.begun outer (List.mem_cons_of_mem _ hmem)).concat _
  rw [← hsilent] at hlast
  cases htidy : d.tidy with
  | false =>
      have hend : (d.endInclusion? start).getD d = d := by simp [Document.endInclusion?, htidy]
      rw [hend] at hopened ⊢
      exact ⟨hopened, hcount.trans hsilent.symm, hthinned, hbegun, fun _ => hlast⟩
  | true =>
      have hend : (d.endInclusion? start).getD d =
          { d with
            lines := d.lines.take start ++ tidied (d.lines.take start) (d.lines.drop start)
            afterInclusion := true } := by
        simp [Document.endInclusion?, htidy, hreach]
      have hsplit : d.lines.take start ++ d.lines.drop start = d.lines := List.take_append_drop ..
      have hsum : (d.lines.take start).countP Line.isSolid +
          (d.lines.drop start).countP Line.isSolid =
            (es ++ [Event.leave p]).countP Event.isSolid := by
        rw [← List.countP_append, hsplit, hcount, hsilent]
      rw [hend] at hopened ⊢
      refine ⟨hopened, ?_, fun i => ?_, fun outer hmem => ?_, fun _ => hlast⟩
      · rw [← hsum, List.countP_append, countP_tidied]
      · have hgap := hthinned i
        rw [show (d, start :: starts).1.lines = d.lines from rfl, ← hsplit] at hgap
        exact hgap.tidied (fun hi => hi ▸ hfirst) fun hi => (hi.trans hsum) ▸ hlast
      · -- an inclusion around this one begins no later, so the same lines stand before it
        have hlen : outer ≤ (d.lines.take start).length := by
          rw [List.length_take_of_le hreach]
          exact houter outer hmem
        rw [List.take_append_of_le_length hlen, List.take_take, Nat.min_eq_left (houter outer hmem)]
        exact hbegun outer hmem

/-- **What one event does.** -/
theorem record {st : Document × List Nat} (h : Tracks es st) (e : Event) :
    Tracks (es ++ [e]) (Document.record st e) := by
  obtain ⟨d, starts⟩ := st
  cases e with
  | cite f => exact h.cite f
  | enter p t => exact h.enter p t
  | line l =>
      cases hl : l.isSolid with
      | false => exact h.line_blank hl
      | true => exact h.line_solid hl
  | leave p =>
      cases starts with
      | nil =>
          have hsilent : (es ++ [Event.leave p]).countP Event.isSolid = es.countP Event.isSolid :=
            countP_silent rfl
          refine ⟨h.opened, h.count.trans hsilent.symm, thinned_silent h.thinned rfl rfl,
            fun start hstart => absurd hstart List.not_mem_nil, fun hafter => ?_⟩
          rw [hsilent]
          exact (h.ended hafter).concat _
      | cons start rest => exact h.leave p

/-- **What a whole run does.** -/
theorem foldl_record {es' : List Event} : ∀ {es : List Event} {st : Document × List Nat},
    Tracks es st → Tracks (es ++ es') (es'.foldl Document.record st) := by
  induction es' with
  | nil => exact fun h => by rwa [List.append_nil]
  | cons e es' ih =>
      intro es st h
      have hrest := ih (h.record e)
      rwa [List.append_assoc, List.singleton_append] at hrest

end Tracks

/-! ## 3. The gaps of both documents -/

/-- **Blank lines are dropped at seams alone, and never all of them.** Both documents of a template
    hold the same lines that are not blank, markers included. In the gap between two of them, and in
    the one behind the last, the tidy document holds a part of the plain one's blank lines: at
    least one if there is one, and all if no inclusion begins or ends there. The gap in front of
    the first may be emptied, but only if an inclusion begins or ends there. This is so
    whether or not the run is stopped. -/
theorem blank_lines_dropped_at_seams (s : Setting) (template : Path) (output : Option Path) :
    let run := s.expand template output
    let tidy := (Document.empty true).replay run.events
    let plain := (Document.empty false).replay run.events
    tidy.lines.filter Line.isSolid = plain.lines.filter Line.isSolid ∧
    ∀ i,
      let between := gap Event.isSolid run.events i
      let there := gap Line.isSolid plain.lines i
      let left := gap Line.isSolid tidy.lines i
      there = written between ∧
      left.Sublist there ∧
      (0 < i → there ≠ [] → left ≠ []) ∧
      ((∀ e ∈ between, e.isSeam = false) → left = there) := by
  intro run tidy plain
  refine ⟨Document.filter_solid_replay run.events, fun i => ?_⟩
  have hwritten : gap Line.isSolid plain.lines i = written (gap Event.isSolid run.events i) := by
    rw [written_gap]
    exact congrArg (gap Line.isSolid · i) (Document.replay_plain run.events)
  have htracks : Tracks run.events (run.events.foldl Document.record (Document.empty true, [])) :=
    (tracks_start true).foldl_record
  obtain ⟨hsub, hkept, hwhole⟩ := htracks.thinned i
  dsimp only
  rw [hwritten]
  exact ⟨rfl, hsub, hkept, hwhole⟩

end MarkdownTemplate
