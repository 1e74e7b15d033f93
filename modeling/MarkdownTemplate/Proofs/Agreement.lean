import MarkdownTemplate.Contents
import MarkdownTemplate.Proofs.Gaps
import MarkdownTemplate.Proofs.Lines
import MarkdownTemplate.Proofs.Nesting

/-!
# The two policies agree

A document drops blank lines at the seams of inclusions or it drops none. This file compares the
two documents that one template makes. It fixes

* `Document.record?`, `Setting.expandInto?` -- expanding a template into a document that may refuse
  an event: an inclusion can end only where it has begun and the document still reaches;
* `Document.Opened` -- **the invariant**: the inclusions that are open begin inside the document,
  the inner ones behind the outer ones;
* `Setting.expandInto?_eq` -- so no document refuses an event, whatever stops the run;
* `Document.table`, `Document.render_eq` -- the table of contents apart from the lines around it;
* **`policies_agree`** -- both documents fail alike, differ in blank lines alone and have the same
  table of contents.
-/

namespace MarkdownTemplate

namespace Document

/-! ## 1. Documents that may refuse an event -/

/-- One event, if the document does not refuse it: an inclusion can end only if one is open, and
    only if the document reaches to where it began. -/
def record? : Document × List Nat → Event → Option (Document × List Nat)
  | (d, starts), .leave _ =>
    match starts with
    | [] => none
    | start :: rest => (d.endInclusion? start).map fun d => (d, rest)
  | st, e => some (record st e)

/-- **The invariant of a document and its open inclusions**: they begin inside the document, and the
    inner ones do not begin before the outer ones. -/
structure Opened (st : Document × List Nat) : Prop where
  le_length : ∀ start ∈ st.2, start ≤ st.1.lines.length
  nested : st.2.Pairwise fun inner outer => outer ≤ inner

theorem opened_start (d : Document) : Opened (d, []) where
  le_length := by simp
  nested := List.Pairwise.nil

/-- Writing a line never makes a document shorter. -/
theorem length_le_write (d : Document) (l : Line) : d.lines.length ≤ (d.write l).lines.length := by
  rcases d.write_lines l with h | ⟨-, h⟩
  · rw [h, List.length_append]
    exact Nat.le_add_right ..
  · exact Nat.le_of_eq (congrArg List.length h.symm)

section Ending

variable {d : Document} {start : Nat} (h : start ≤ d.lines.length)

include h

/-- **An inclusion that begins inside the document can end.** -/
theorem endInclusion?_isSome : (d.endInclusion? start).isSome = true := by
  unfold endInclusion?
  split
  · rfl
  · rfl

/-- Afterwards the document still reaches to where the inclusion began. -/
theorem le_length_endInclusion? : start ≤ ((d.endInclusion? start).getD d).lines.length := by
  rcases d.endInclusion?_lines start with heq | heq
  · rw [heq]
    exact h
  · rw [heq, List.length_append, List.length_take_of_le h]
    exact Nat.le_add_right ..

/-- The end of such an inclusion is not refused. -/
theorem record?_leave (rest : List Nat) (p : Path) :
    record? (d, start :: rest) (.leave p) = some (record (d, start :: rest) (.leave p)) := by
  obtain ⟨d', hend⟩ := Option.isSome_iff_exists.mp (endInclusion?_isSome h)
  simp only [record?, record, hend, Option.map_some, Option.getD_some]

end Ending

/-- **What one event does to the open inclusions.** -/
theorem Opened.record {st : Document × List Nat} (h : Opened st) (e : Event) :
    Opened (record st e) := by
  obtain ⟨d, starts⟩ := st
  obtain ⟨hle, hnested⟩ := h
  cases e with
  | cite f => exact ⟨hle, hnested⟩
  | enter p t =>
      exact ⟨List.forall_mem_cons.mpr ⟨Nat.le_refl _, hle⟩, List.pairwise_cons.mpr ⟨hle, hnested⟩⟩
  | line l =>
      exact ⟨fun start hstart => Nat.le_trans (hle start hstart) (d.length_le_write l), hnested⟩
  | leave p =>
      cases starts with
      | nil => exact opened_start d
      | cons start rest =>
          obtain ⟨hstart, hrest⟩ := List.forall_mem_cons.mp hle
          obtain ⟨houter, hnested⟩ := List.pairwise_cons.mp hnested
          have hreach := le_length_endInclusion? hstart
          -- the outer inclusions begin no later than the one that ends
          exact ⟨fun outer hmem => Nat.le_trans (houter outer hmem) hreach, hnested⟩

theorem Opened.foldl_record {es : List Event} : ∀ {st : Document × List Nat}, Opened st →
    Opened (es.foldl Document.record st) := by
  induction es with
  | nil => exact fun h => h
  | cons e es ih => exact fun h => ih (h.record e)

/-- Events that a document takes in, from here on, without refusing one. -/
def Takes (st : Document × List Nat) (es : List Event) : Prop :=
  es.foldlM record? st = some (es.foldl record st)

theorem takes_nil (st : Document × List Nat) : Takes st [] := rfl

theorem takes_cons {st : Document × List Nat} {e : Event} {es : List Event} :
    record? st e = some (record st e) → Takes (record st e) es → Takes st (e :: es) := by
  intro hfirst hrest
  rw [Takes, List.foldlM_cons, hfirst]
  exact hrest

theorem takes_append {st : Document × List Nat} {es es' : List Event} (h : Takes st es)
    (h' : Takes (es.foldl record st) es') : Takes st (es ++ es') := by
  have hbind : (es ++ es').foldlM record? st =
      (es.foldlM record? st).bind fun st => es'.foldlM record? st := List.foldlM_append
  rw [Takes, hbind, h, List.foldl_append]
  exact h'

/-- Lines are never refused, and leave the open inclusions as they are. -/
theorem takes_lines (ls : List Line) : ∀ st : Document × List Nat,
    Takes st (ls.map Event.line) ∧ ((ls.map Event.line).foldl record st).2 = st.2 := by
  induction ls with
  | nil => exact fun st => ⟨takes_nil st, rfl⟩
  | cons l rest ih =>
      intro st
      obtain ⟨htakes, hstarts⟩ := ih (record st (.line l))
      exact ⟨takes_cons rfl htakes, hstarts⟩

/-- **An inclusion is not refused** if nothing inside it is and the inclusions around it are left as
    they are; then it leaves them so, too. -/
theorem takes_inclusion {st : Document × List Nat} (h : Opened st) {f : Frame} {p q : Path}
    {t : Treatment} {es : List Event}
    (hes : ∀ st, Opened st → Takes st es ∧ (es.foldl record st).2 = st.2) :
    Takes st (.cite f :: .enter p t :: es ++ [.leave q]) ∧
      ((Event.cite f :: .enter p t :: es ++ [Event.leave q]).foldl record st).2 = st.2 := by
  obtain ⟨d, starts⟩ := st
  have hentered : Opened (d, d.lines.length :: starts) := h.record (.enter p t)
  obtain ⟨hinside, hstarts⟩ := hes _ hentered
  -- what the document is when the inclusion ends
  have hopened : Opened (es.foldl record (d, d.lines.length :: starts)) := hentered.foldl_record
  generalize hst : es.foldl record (d, d.lines.length :: starts) = st' at hinside hstarts hopened
  obtain ⟨d', starts'⟩ := st'
  obtain rfl : starts' = d.lines.length :: starts := hstarts
  obtain ⟨hreach, -⟩ := List.forall_mem_cons.mp hopened.le_length
  have hend : Takes (es.foldl record (d, d.lines.length :: starts)) [Event.leave q] := by
    rw [hst]
    exact takes_cons (record?_leave hreach starts q) (takes_nil _)
  constructor
  · exact takes_cons rfl (takes_cons rfl (takes_append hinside hend))
  · rw [List.foldl_append]
    show (record (es.foldl record (d, d.lines.length :: starts)) (Event.leave q)).2 = starts
    rw [hst]
    rfl

end Document

namespace Setting

open Document

variable {s : Setting} {stack : Stack} {template : Path} {depth : Int} {number : Nat}
  {lines : List Text} {r : Run}

/-- Expanding a template into a document: the document afterwards and what stopped the run, unless
    the document refuses an event. -/
def expandInto? (s : Setting) (template : Path) (output : Option Path) (d : Document) :
    Option (Document × Option Error) :=
  let run := s.expand template output
  (run.events.foldlM record? (d, [])).map fun st => (st.1, run.failure)

/-! ## 2. No document refuses an event -/

/-- **A run is not refused**, whether or not it is stopped; if it is not, every inclusion that has
    begun has ended. -/
theorem Expands.takes (h : Expands s stack template depth number lines r) :
    ∀ st, Opened st → Takes st r.events ∧
      (r.failure = none → (r.events.foldl record st).2 = st.2) := by
  induction h with
  | done => exact fun st _ => ⟨takes_nil st, fun _ => rfl⟩
  | copied _ _ ih =>
      intro st hst
      obtain ⟨htakes, hstarts⟩ := ih _ (hst.record (.line _))
      exact ⟨takes_cons rfl htakes, hstarts⟩
  | marked _ _ _ ih =>
      intro st hst
      obtain ⟨htakes, hstarts⟩ := ih _ (hst.record (.line _))
      exact ⟨takes_cons rfl htakes, hstarts⟩
  | quoted _ _ _ _ _ _ ih =>
      intro st hst
      obtain ⟨hquote, hstarts⟩ := takes_inclusion hst fun st _ => takes_lines (quotedLines _ _ _) st
      rw [← quote_events] at hquote hstarts
      obtain ⟨htakes, hrest⟩ := ih _ hst.foldl_record
      rw [Run.after_events, List.foldl_append]
      exact ⟨takes_append hquote htakes, fun hok => (hrest hok).trans hstarts⟩
  | nested _ _ _ _ _ hbody _ _ ihBody ihRest =>
      intro st hst
      obtain ⟨hinner, hstarts⟩ := takes_inclusion hst fun st hst =>
        ⟨(ihBody st hst).1, (ihBody st hst).2 hbody⟩
      obtain ⟨htakes, hrest⟩ := ihRest _ hst.foldl_record
      rw [Run.after_events, List.foldl_append]
      exact ⟨takes_append hinner htakes, fun hok => (hrest hok).trans hstarts⟩
  | cyclic => exact fun st _ => ⟨takes_cons rfl (takes_nil _), by simp⟩
  | unopened => exact fun st _ => ⟨takes_cons rfl (takes_nil _), by simp⟩
  | undecodable =>
      exact fun st _ => ⟨takes_cons rfl (takes_cons rfl (takes_nil _)), by simp⟩
  | broken _ _ _ _ _ _ ih =>
      intro st hst
      obtain ⟨htakes, -⟩ := ih _ ((hst.record (.cite _)).record (.enter _ _))
      exact ⟨takes_cons rfl (takes_cons rfl htakes), by simp⟩

/-- **No document refuses an event of an expansion**, so the document afterwards is the one that the
    run's events write. -/
theorem expandInto?_eq (s : Setting) (template : Path) (output : Option Path) (d : Document) :
    s.expandInto? template output d =
      some (d.replay (s.expand template output).events, (s.expand template output).failure) := by
  have htakes : (s.expand template output).events.foldlM record? (d, []) =
      some ((s.expand template output).events.foldl record (d, [])) := by
    have hrun := runOf_expand s template output
    generalize s.expand template output = run at hrun
    cases hrun with
    | unopened => exact takes_nil _
    | opened _ hbody =>
        rw [Source.close_events]
        exact (hbody.takes _ (opened_start d)).1
  rw [expandInto?, htakes]
  rfl

end Setting

/-! ## 3. The table of contents and the lines around it -/

/-- A heading line is not blank. -/
theorem Heading.parse?_of_blank {line : Text} (h : Text.isBlank line = true) :
    Heading.parse? line = none := by
  have hall := Text.isBlank_iff.mp h
  -- a heading line holds a hash, and a hash is not blank
  have hhashes : ((dropTrailing Text.isLineEnd line).dropWhile (· == ' ')).takeWhile (· == '#') =
      [] := by
    refine List.eq_nil_iff_forall_not_mem.mpr fun c hc => ?_
    have hhash : (c == '#') = true := List.all_eq_true.mp List.all_takeWhile c hc
    have hmem : c ∈ line := (dropTrailing_sublist Text.isLineEnd line).subset
      ((List.dropWhile_sublist _).subset ((List.takeWhile_sublist _).subset hc))
    have hspace := hall c hmem
    rw [eq_of_beq hhash] at hspace
    exact absurd hspace (by decide)
  simp [Heading.parse?, hhashes]

/-- Among the lines of a document the blank ones hold no headings. -/
theorem Heading.all_filter_solid (ls : List Line) :
    Heading.all ((ls.filter fun l => !l.isMarker).map Line.text) =
      Heading.all (((ls.filter Line.isSolid).filter fun l => !l.isMarker).map Line.text) := by
  rw [Heading.all, Heading.all, List.filterMap_map, List.filterMap_map, List.filterMap_filter,
    List.filterMap_filter, List.filterMap_filter]
  congr 1
  funext l
  cases hmarker : l.isMarker with
  | true => simp
  | false =>
      cases hblank : Text.isBlank l.text with
      | true => simp [Heading.parse?_of_blank hblank]
      | false => simp [Line.isSolid, Line.isBlank, hmarker, hblank]

namespace Document

/-- The table of contents of a document, if its place is marked, or what is wrong with the
    markers. -/
def table (d : Document) : Except Error (Option Text) :=
  match d.markers with
  | [] => .ok none
  | [marker] =>
    let title := marker.title.getD []
    if (Heading.parse? title).isNone then .error (.contentsTitle title)
    else if marker.depth ≠ 0 then .error .misplacedContents
    else .ok (some (Contents.render marker d.headings))
  | _ => .error .severalContents

/-- The text of a document with `contents` in place of its markers. -/
def filled (d : Document) (contents : Text) : Text :=
  (d.lines.map fun l => if l.isMarker then contents else l.text).flatten

/-- Where nothing is marked, the text stays as it is. -/
theorem filled_of_markers_eq_nil {d : Document} (h : d.markers = []) (contents : Text) :
    d.filled contents = d.text := by
  have hnone := List.filter_eq_nil_iff.mp h
  refine congrArg List.flatten (List.map_congr_left fun l hl => ?_)
  rw [if_neg (hnone l hl)]

/-- **A document becomes a page** exactly if its table of contents can be made, and then the table
    stands in place of its marker. -/
theorem render_eq (d : Document) : d.render = d.table.map fun t => d.filled (t.getD []) := by
  unfold render table
  cases hmarkers : d.markers with
  | nil => exact congrArg Except.ok (filled_of_markers_eq_nil hmarkers []).symm
  | cons marker rest =>
      cases rest with
      | nil =>
          dsimp only
          split
          · rfl
          · split
            · rfl
            · rfl
      | cons second rest => rfl

section Solid

variable {d d' : Document} (h : d.lines.filter Line.isSolid = d'.lines.filter Line.isSolid)

include h

/-- What a test finds among the lines that are not blank is the same in both documents. -/
theorem filter_congr_solid {p : Line → Bool} (hp : ∀ l : Line, p l = true → l.isSolid = true) :
    d.lines.filter p = d'.lines.filter p := by
  have hfilter : ∀ ls : List Line, ls.filter p = (ls.filter Line.isSolid).filter p := by
    intro ls
    rw [List.filter_filter]
    refine List.filter_congr fun l _ => ?_
    cases hl : p l with
    | false => rfl
    | true => simp [hp l hl]
  rw [hfilter, h, ← hfilter]

theorem markers_congr : d.markers = d'.markers :=
  filter_congr_solid h fun l hl => by simp [Line.isSolid, Line.isBlank, hl]

theorem headings_congr : d.headings = d'.headings := by
  rw [headings, headings, Heading.all_filter_solid, h, ← Heading.all_filter_solid]

/-- **The table of contents depends on the lines that are not blank alone.** -/
theorem table_congr : d.table = d'.table := by
  rw [table, table, markers_congr h, headings_congr h]

end Solid

end Document

/-! ## 4. Both policies -/

/-- Both documents of a run hold the same lines that are not blank. -/
theorem Document.filter_solid_replay (events : List Event) :
    ((empty true).replay events).lines.filter Line.isSolid =
      ((empty false).replay events).lines.filter Line.isSolid := by
  rw [replay_filter Line.isSolid_of_isBlank, replay_filter Line.isSolid_of_isBlank]
  rfl

/-- **The two policies agree on everything but blank lines.** Whatever the files are, neither
    document refuses an event of the expansion, and the same error stops it, or none does. In
    either case the tidy document is a part of the plain one and holds all of its lines that are not
    blank, markers included, in the same order. So the same is wrong with their markers, or nothing
    is, and then both have the same table of contents in place of the marker. -/
theorem policies_agree (s : Setting) (template : Path) (output : Option Path) :
    let run := s.expand template output
    let tidy := (Document.empty true).replay run.events
    let plain := (Document.empty false).replay run.events
    s.expandInto? template output (.empty true) = some (tidy, run.failure) ∧
    s.expandInto? template output (.empty false) = some (plain, run.failure) ∧
    tidy.lines.Sublist plain.lines ∧
    tidy.lines.filter Line.isSolid = plain.lines.filter Line.isSolid ∧
    tidy.table = plain.table ∧
    tidy.render = tidy.table.map (fun t => tidy.filled (t.getD [])) ∧
    plain.render = plain.table.map (fun t => plain.filled (t.getD [])) := by
  intro run tidy plain
  have hsolid : tidy.lines.filter Line.isSolid = plain.lines.filter Line.isSolid :=
    Document.filter_solid_replay run.events
  have hsub : tidy.lines.Sublist plain.lines := by
    have hplain : plain.lines = written run.events := Document.replay_plain run.events
    rw [hplain]
    exact Document.replay_sublist (.empty true) run.events
  exact ⟨s.expandInto?_eq template output _, s.expandInto?_eq template output _, hsub, hsolid,
    Document.table_congr hsolid, tidy.render_eq, plain.render_eq⟩

end MarkdownTemplate
