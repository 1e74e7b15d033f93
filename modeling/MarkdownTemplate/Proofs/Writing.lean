import MarkdownTemplate.Proofs.Rules

/-!
# What a run writes

A run writes lines in an order of its own; a document takes them in. This file fixes

* `Run.lines` -- the lines that a run writes;
* `tidied_sublist`, `filter_tidied` -- tidying an inclusion drops blank lines and nothing else;
* `Document.replay_sublist` -- no document holds more than was written to it;
* `Document.replay_filter` -- what is not blank is in the document, in order;
* `Document.replay_plain` -- without the tidy policy the document is what was written.
-/

namespace MarkdownTemplate

/-! ## 1. The lines of a run -/

/-- The line that an event writes. -/
def Event.line? : Event → Option Line
  | .line l => some l
  | _ => none

/-- The lines that events write, in order. -/
def written (events : List Event) : List Line :=
  events.filterMap Event.line?

@[simp] theorem written_nil : written [] = [] := rfl

@[simp] theorem written_cons_line (l : Line) (es : List Event) :
    written (.line l :: es) = l :: written es := rfl

@[simp] theorem written_cons_cite (f : Frame) (es : List Event) :
    written (.cite f :: es) = written es := rfl

@[simp] theorem written_cons_enter (p : Path) (t : Treatment) (es : List Event) :
    written (.enter p t :: es) = written es := rfl

@[simp] theorem written_cons_leave (p : Path) (es : List Event) :
    written (.leave p :: es) = written es := rfl

@[simp] theorem written_append (es es' : List Event) :
    written (es ++ es') = written es ++ written es' :=
  List.filterMap_append ..

@[simp] theorem written_lines (ls : List Line) : written (ls.map Event.line) = ls := by
  induction ls with
  | nil => rfl
  | cons l rest ih => exact congrArg (l :: ·) ih

/-- The lines that a run writes, in order. -/
def Run.lines (r : Run) : List Line :=
  written r.events

@[simp] theorem Run.lines_after (es : List Event) (r : Run) :
    (r.after es).lines = written es ++ r.lines :=
  written_append ..

/-- Of the events of an inclusion only those between the first two and the last write lines. -/
@[simp] theorem written_inclusion (f : Frame) (p q : Path) (t : Treatment) (es : List Event) :
    written (.cite f :: .enter p t :: es ++ [.leave q]) = written es := by
  simp

@[simp] theorem written_quote (d : Directive) (depth : Int) (content : Text) :
    written (Setting.quote d depth content).events = Setting.quotedLines d depth content := by
  rw [Setting.quote_events, written_lines]

/-! ## 2. Tidying -/

theorem cutTrailingBlanks_sublist (ls : List Line) : (cutTrailingBlanks ls).Sublist ls := by
  have h := (List.Sublist.refl (dropTrailing Line.isBlank ls)).append
    (List.take_sublist 1 (takeTrailing Line.isBlank ls))
  rwa [dropTrailing_append_takeTrailing] at h

/-- Tidying only drops lines. -/
theorem tidied_sublist (before segment : List Line) : (tidied before segment).Sublist segment := by
  unfold tidied
  split
  · exact (cutTrailingBlanks_sublist _).trans (List.dropWhile_sublist _)
  · exact cutTrailingBlanks_sublist _

section Filter

variable {p : Line → Bool} (hp : ∀ l : Line, l.isBlank = true → p l = false)

include hp

theorem filter_dropLeadingBlanks (ls : List Line) :
    (dropLeadingBlanks ls).filter p = ls.filter p := by
  have hsplit := List.takeWhile_append_dropWhile (p := Line.isBlank) (l := ls)
  have hnil : (ls.takeWhile Line.isBlank).filter p = [] :=
    List.filter_eq_nil_iff.mpr fun l hl => by
      simp [hp l (List.all_eq_true.mp List.all_takeWhile l hl)]
  calc (dropLeadingBlanks ls).filter p
      = (ls.takeWhile Line.isBlank).filter p ++ (ls.dropWhile Line.isBlank).filter p := by
        rw [hnil]; rfl
    _ = ls.filter p := by rw [← List.filter_append, hsplit]

theorem filter_cutTrailingBlanks (ls : List Line) :
    (cutTrailingBlanks ls).filter p = ls.filter p := by
  have hsplit := dropTrailing_append_takeTrailing Line.isBlank ls
  have hnil : (takeTrailing Line.isBlank ls).filter p = [] :=
    List.filter_eq_nil_iff.mpr fun l hl => by simp [hp l (mem_takeTrailing hl)]
  have hcut : ((takeTrailing Line.isBlank ls).take 1).filter p = [] :=
    List.filter_eq_nil_iff.mpr fun l hl => by
      simp [hp l (mem_takeTrailing (List.mem_of_mem_take hl))]
  calc (cutTrailingBlanks ls).filter p
      = (dropTrailing Line.isBlank ls).filter p ++ (takeTrailing Line.isBlank ls).filter p := by
        rw [cutTrailingBlanks, List.filter_append, hcut, hnil]
    _ = ls.filter p := by rw [← List.filter_append, hsplit]

/-- **Tidying drops no line but blank ones.** -/
theorem filter_tidied (before segment : List Line) :
    (tidied before segment).filter p = segment.filter p := by
  unfold tidied
  rw [filter_cutTrailingBlanks hp]
  split
  · exact filter_dropLeadingBlanks hp segment
  · rfl

end Filter

/-! ## 3. Documents -/

namespace Document

/-- A line is written as it is, or dropped if it is blank. -/
theorem write_lines (d : Document) (l : Line) :
    (d.write l).lines = d.lines ++ [l] ∨ l.isBlank = true ∧ (d.write l).lines = d.lines := by
  unfold write
  split
  · rename_i h
    split
    · exact Or.inr ⟨(Bool.and_eq_true_iff.mp h).2, rfl⟩
    · exact Or.inl rfl
  · exact Or.inl rfl

/-- Ending an inclusion leaves what stands before it, and of its lines a part. -/
theorem endInclusion?_lines (d : Document) (start : Nat) :
    ((d.endInclusion? start).getD d).lines = d.lines ∨
      ((d.endInclusion? start).getD d).lines =
        d.lines.take start ++ tidied (d.lines.take start) (d.lines.drop start) := by
  unfold endInclusion?
  split
  · exact Or.inl rfl
  · split
    · exact Or.inr rfl
    · exact Or.inl rfl

/-- One event: the document takes in a part of its lines and of what is written. -/
theorem record_sublist (d : Document) (starts : List Nat) (e : Event) :
    (record (d, starts) e).1.lines.Sublist (d.lines ++ written [e]) := by
  cases e with
  | cite f => simp [record]
  | enter p t => simp [record]
  | line l =>
      rcases d.write_lines l with h | ⟨-, h⟩
      · exact h ▸ List.Sublist.refl _
      · exact h ▸ List.sublist_append_left ..
  | leave p =>
      rw [written_cons_leave, written_nil, List.append_nil]
      cases starts with
      | nil => exact List.Sublist.refl _
      | cons start rest =>
          rcases d.endInclusion?_lines start with h | h
          · exact h ▸ List.Sublist.refl _
          · have hsub := (List.Sublist.refl (d.lines.take start)).append
              (tidied_sublist (d.lines.take start) (d.lines.drop start))
            rw [List.take_append_drop] at hsub
            exact h ▸ hsub

/-- One event: what is not blank stays, and is taken in. -/
theorem record_filter {p : Line → Bool} (hp : ∀ l : Line, l.isBlank = true → p l = false)
    (d : Document) (starts : List Nat) (e : Event) :
    (record (d, starts) e).1.lines.filter p = d.lines.filter p ++ (written [e]).filter p := by
  cases e with
  | cite f => simp [record]
  | enter p t => simp [record]
  | line l =>
      show (d.write l).lines.filter p = _
      rcases d.write_lines l with h | ⟨hblank, h⟩
      · rw [h, List.filter_append]
        rfl
      · simp [h, hp l hblank]
  | leave p' =>
      rw [written_cons_leave, written_nil, List.filter_nil, List.append_nil]
      cases starts with
      | nil => rfl
      | cons start rest =>
          show ((d.endInclusion? start).getD d).lines.filter p = _
          rcases d.endInclusion?_lines start with h | h
          · rw [h]
          · rw [h, List.filter_append, filter_tidied hp, ← List.filter_append,
              List.take_append_drop]

theorem foldl_record_sublist (events : List Event) : ∀ (d : Document) (starts : List Nat),
    (events.foldl record (d, starts)).1.lines.Sublist (d.lines ++ written events) := by
  induction events with
  | nil => simp
  | cons e es ih =>
      intro d starts
      have hrest := ih (record (d, starts) e).1 (record (d, starts) e).2
      have hfirst := (record_sublist d starts e).append (List.Sublist.refl (written es))
      rw [List.append_assoc, ← written_append, List.singleton_append] at hfirst
      exact hrest.trans hfirst

theorem foldl_record_filter {p : Line → Bool} (hp : ∀ l : Line, l.isBlank = true → p l = false)
    (events : List Event) : ∀ (d : Document) (starts : List Nat),
    (events.foldl record (d, starts)).1.lines.filter p =
      d.lines.filter p ++ (written events).filter p := by
  induction events with
  | nil => simp
  | cons e es ih =>
      intro d starts
      have hrest := ih (record (d, starts) e).1 (record (d, starts) e).2
      rw [List.foldl_cons, hrest, record_filter hp, List.append_assoc, ← List.filter_append,
        ← written_append, List.singleton_append]

/-- **No document holds more than was written to it.** -/
theorem replay_sublist (d : Document) (events : List Event) :
    (d.replay events).lines.Sublist (d.lines ++ written events) :=
  foldl_record_sublist events d []

/-- **What is not blank is in the document**, in the order in which it was written. -/
theorem replay_filter {p : Line → Bool} (hp : ∀ l : Line, l.isBlank = true → p l = false)
    (d : Document) (events : List Event) :
    (d.replay events).lines.filter p = d.lines.filter p ++ (written events).filter p :=
  foldl_record_filter hp events d []

/-- The markers of a document are those that were written to it. -/
theorem markers_replay (d : Document) (events : List Event) :
    (d.replay events).markers = d.markers ++ (written events).filter Line.isMarker :=
  replay_filter (fun l hl => by simpa using (Bool.and_eq_true_iff.mp hl).1) d events

theorem foldl_record_plain (events : List Event) : ∀ (d : Document) (starts : List Nat),
    d.tidy = false → d.afterInclusion = false →
    (events.foldl record (d, starts)).1.lines = d.lines ++ written events := by
  induction events with
  | nil => simp
  | cons e es ih =>
      intro d starts htidy hafter
      cases e with
      | cite f => exact ih d starts htidy hafter
      | enter p t => exact ih d _ htidy hafter
      | line l =>
          have hwrite : d.write l =
              { d with lines := d.lines ++ [l], afterInclusion := false } := by
            simp [write, hafter]
          rw [List.foldl_cons, written_cons_line]
          show (es.foldl record (d.write l, starts)).1.lines = _
          have hrest := ih { d with lines := d.lines ++ [l], afterInclusion := false } starts htidy
            rfl
          rw [hwrite, hrest, List.append_assoc, List.singleton_append]
      | leave p =>
          cases starts with
          | nil => exact ih d [] htidy hafter
          | cons start rest =>
              have hend : (d.endInclusion? start).getD d = d := by simp [endInclusion?, htidy]
              show (es.foldl record ((d.endInclusion? start).getD d, rest)).1.lines = _
              rw [hend]
              exact ih d rest htidy hafter

/-- **Without the tidy policy the document is what was written.** -/
theorem replay_plain (events : List Event) :
    ((empty false).replay events).lines = written events :=
  foldl_record_plain events (empty false) [] rfl rfl

end Document

end MarkdownTemplate
