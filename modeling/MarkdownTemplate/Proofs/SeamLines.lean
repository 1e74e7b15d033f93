import Mathlib.Data.List.Chain
import MarkdownTemplate.Proofs.Agreement
import MarkdownTemplate.Proofs.Reassembly

/-!
# The lines of a document, cut again

The lines of a document are put together to its text. A reader who cuts the text into lines, as
templates are cut, finds the lines of the document again, unless a line that ends in a carriage
return stands directly in front of a lone line feed. This file fixes

* `Text.Joins` -- a line that is read as one with the next;
* `Text.splitLines_flatten` -- **what lines that stand one behind another are cut into**;
  `Text.foldr_joinLine_eq_iff` -- they are found again exactly if no two neighbours join;
* `Event.Apart`, `Expands.isChain_apart` -- lines that are written one directly behind the other do
  not join, so lines are joined only where an inclusion begins or ends;
* **`splitLines_text_iff`** -- when the lines of a document are found again, and what is lost
  otherwise.
-/

namespace MarkdownTemplate

namespace Text

variable {l next : Text} {ls ls' : List Text}

/-! ## 1. Lines that join -/

/-- **A line is read as one with the next**: a carriage return ends it, and a line feed begins the
    next. -/
def Joins (l next : Text) : Prop :=
  l.getLast? = some '\r' ∧ next.head? = some '\n'

instance (l next : Text) : Decidable (Joins l next) :=
  inferInstanceAs (Decidable (_ ∧ _))

theorem joinLine_of_joins (h : Joins l next) (ls : List Text) :
    joinLine l (next :: ls) = (l ++ next) :: ls :=
  if_pos h

theorem joinLine_of_not_joins (h : ¬ Joins l next) (ls : List Text) :
    joinLine l (next :: ls) = l :: next :: ls :=
  if_neg h

/-- A line stays as it is exactly if it does not join the next. -/
theorem joinLine_eq_cons_iff :
    joinLine l ls = l :: ls' ↔ ls = ls' ∧ ∀ next ∈ ls.head?, ¬ Joins l next := by
  cases ls with
  | nil => simp [joinLine]
  | cons next rest =>
      by_cases hjoins : Joins l next
      · have hne : next ≠ [] := by
          rintro rfl
          cases hjoins.2
        simp [joinLine_of_joins hjoins, hjoins, hne]
      · simp [joinLine_of_not_joins hjoins, hjoins]

/-- **Lines that stand one behind another**, put together and cut again: only neighbours that join
    become one line. -/
theorem splitLines_flatten (h : LineByLine ls) :
    splitLines isLineEnd ls.flatten = ls.foldr joinLine [] := by
  induction ls with
  | nil => rfl
  | cons l ls ih =>
      obtain ⟨hline, hended, hrest⟩ := lineByLine_cons.mp h
      rw [List.flatten_cons, List.foldr_cons]
      by_cases hls : ls = []
      · subst hls
        rw [List.flatten_nil, List.append_nil, hline]
        rfl
      · rw [splitLines_append_of_isLine hline (hended hls), ih hrest]

/-- **Lines are left as they are exactly if no two neighbours join.** -/
theorem foldr_joinLine_eq_iff :
    ls.foldr joinLine [] = ls ↔ ls.IsChain fun l next => ¬ Joins l next := by
  induction ls with
  | nil => simp
  | cons l ls ih =>
      rw [List.foldr_cons, joinLine_eq_cons_iff, List.isChain_cons, ← ih]
      constructor
      · rintro ⟨heq, hfirst⟩
        rw [heq] at hfirst
        exact ⟨hfirst, heq⟩
      · rintro ⟨hfirst, heq⟩
        rw [heq]
        exact ⟨rfl, hfirst⟩

/-- No two neighbours join among the lines that a text is cut into. -/
theorem isChain_splitLines (s : Text) :
    (splitLines isLineEnd s).IsChain fun l next => ¬ Joins l next := by
  rw [← foldr_joinLine_eq_iff, ← splitLines_flatten (lineByLine_splitLines s), flatten_splitLines]

end Text

/-! ## 2. Lines of one file -/

/-- The events are not two lines that join. -/
def Event.Apart (e e' : Event) : Prop :=
  ∀ l l', e = .line l → e' = .line l' → ¬ Text.Joins l.text l'.text

theorem Event.apart_of_left {e : Event} (h : ∀ l, e ≠ .line l) (e' : Event) : e.Apart e' :=
  fun l _ hl => absurd hl (h l)

theorem Event.apart_of_right {e' : Event} (h : ∀ l, e' ≠ .line l) (e : Event) : e.Apart e' :=
  fun _ l _ hl => absurd hl (h l)

namespace Setting

variable {s : Setting} {stack : Stack} {template : Path} {depth : Int} {number : Nat}
  {line next : Text} {lines : List Text} {r : Run}

/-- Ending lines as they are written makes no two of them join. -/
theorem joins_of_joins_lineAt (hended : line.isTerminated = true) (hnext : next ≠ [])
    (h : Text.Joins (lineAt depth line) (lineAt depth next)) : Text.Joins line next := by
  obtain ⟨hreturn, hfeed⟩ := h
  rw [lineAt_of_isTerminated hended] at hreturn
  refine ⟨hreturn, ?_⟩
  have hhead : (lineAt depth next).head? = next.head? := by
    unfold lineAt Text.terminated
    split
    · split
      · rfl
      · exact List.head?_append_of_ne_nil next hnext
    · rfl
  rwa [hhead] at hfeed

/-- A line that is written first is the first line that is read. -/
theorem Expands.head?_events {l : Line} (h : Expands s stack template depth number lines r)
    (hhead : r.events.head? = some (.line l)) :
    ∃ line rest, lines = line :: rest ∧ l.text = lineAt depth line := by
  cases h with
  | done => cases hhead
  | copied =>
      cases hhead
      exact ⟨_, _, rfl, rfl⟩
  | marked =>
      cases hhead
      exact ⟨_, _, rfl, rfl⟩
  | quoted => cases hhead
  | nested => cases hhead
  | cyclic => cases hhead
  | unopened => cases hhead
  | undecodable => cases hhead
  | broken => cases hhead

/-- Between the events of an inclusion and those behind it stands an event that is no line. -/
theorem isChain_apart_inclusion {f : Frame} {p q : Path} {t : Treatment} {es es' : List Event}
    (h : es.IsChain Event.Apart) (h' : es'.IsChain Event.Apart) :
    (Event.cite f :: .enter p t :: es ++ [Event.leave q] ++ es').IsChain Event.Apart := by
  have hbehind : (Event.leave q :: es').IsChain Event.Apart :=
    h'.cons fun e _ => Event.apart_of_left (by simp) e
  have hinside : (es ++ Event.leave q :: es').IsChain Event.Apart := by
    refine h.append hbehind fun e _ e' he' => ?_
    obtain rfl : Event.leave q = e' := by simpa using he'
    exact Event.apart_of_right (by simp) e
  have hentered : (Event.enter p t :: (es ++ Event.leave q :: es')).IsChain Event.Apart :=
    hinside.cons fun e _ => Event.apart_of_left (by simp) e
  simpa using hentered.cons fun e _ => Event.apart_of_left (e := .cite f) (by simp) e

/-- **Lines as a file is cut into them**: they stand one behind another, and none joins the next. -/
structure ReadsApart (lines : List Text) : Prop where
  lineByLine : Text.LineByLine lines
  apart : lines.IsChain fun l next => ¬ Text.Joins l next

theorem readsApart_splitLines (s : Text) : ReadsApart (Text.splitLines Text.isLineEnd s) :=
  ⟨Text.lineByLine_splitLines s, Text.isChain_splitLines s⟩

theorem ReadsApart.tail (h : ReadsApart (line :: lines)) : ReadsApart lines :=
  ⟨(Text.lineByLine_cons.mp h.lineByLine).2.2, (List.isChain_cons.mp h.apart).2⟩

/-- A line that is written in front of what the rest of the lines adds. -/
theorem isChain_apart_line {title : Option Text} (hlines : ReadsApart (line :: lines))
    (hrest : Expands s stack template depth (number + 1) lines r)
    (h : r.events.IsChain Event.Apart) :
    (r.after [.line ⟨lineAt depth line, depth, title⟩]).events.IsChain Event.Apart := by
  refine h.cons fun e he => ?_
  intro l l' hl hl' hjoins
  cases hl
  subst hl'
  obtain ⟨next, rest, rfl, htext⟩ := hrest.head?_events he
  obtain ⟨-, hended, hbehind⟩ := Text.lineByLine_cons.mp hlines.lineByLine
  rw [htext] at hjoins
  have hne : next ≠ [] := (hbehind.isLine next List.mem_cons_self).ne_nil
  exact hlines.apart.rel_head? rfl (joins_of_joins_lineAt (hended (by simp)) hne hjoins)

/-- **Lines that are written one directly behind the other do not join**, if nothing is quoted. -/
theorem Expands.isChain_apart (h : Expands s stack template depth number lines r)
    (hok : r.failure = none) (honly : OnlyTemplates r.events) (hlines : ReadsApart lines) :
    r.events.IsChain Event.Apart := by
  induction h, hok using Expands.ok_induction with
  | done => exact .nil
  | copied _ hrest _ ih =>
      exact isChain_apart_line hlines hrest (ih honly.of_append.2 hlines.tail)
  | marked _ _ hrest _ ih =>
      exact isChain_apart_line hlines hrest (ih honly.of_append.2 hlines.tail)
  | quoted _ _ hrec =>
      simp [Directive.isRecursive, honly.inclusion.1] at hrec
  | nested _ _ _ hopen _ _ hcomplete _ _ ihBody ihRest =>
      obtain ⟨text, -, heq⟩ := lines_of_complete hopen hcomplete
      obtain ⟨-, hinside, hbehind⟩ := honly.inclusion
      exact isChain_apart_inclusion (ihBody hinside (heq ▸ readsApart_splitLines text))
        (ihRest hbehind hlines.tail)

/-! ## 3. Documents -/

/-- **The lines of a document, cut again.** Let a template be expanded without the tidy policy, and
    let it succeed with no file quoted, so that every directive that is taken up is a template or
    the place of the table of contents. The document holds the lines that were written. When its
    text is cut into lines as templates are, those of its lines are joined that end in a carriage
    return in front of a line feed, and no others: so its lines are found again exactly if no two
    neighbours join. What is lost otherwise are empty lines, for a line that is joined to the one in
    front of it is a lone line feed; and only where an inclusion begins or ends, for lines that were
    written one directly behind the other never join. -/
theorem splitLines_text_iff (s : Setting) (template : Path) (output : Option Path) {d : Document}
    (hinto : s.expandInto? template output (.empty false) = some (d, none))
    (honly : OnlyTemplates (s.expand template output).events) :
    let events := (s.expand template output).events
    let texts := d.lines.map Line.text
    d.lines = written events ∧
    Text.splitLines Text.isLineEnd d.text = texts.foldr Text.joinLine [] ∧
    (Text.splitLines Text.isLineEnd d.text = texts ↔
      texts.IsChain fun l next => ¬ Text.Joins l next) ∧
    (∀ before l next after, texts = before ++ l :: next :: after → Text.Joins l next →
      next = ['\n']) ∧
    ∀ before l next after, events = before ++ .line l :: .line next :: after →
      ¬ Text.Joins l.text next.text := by
  intro events texts
  rw [s.expandInto?_eq, Option.some.injEq, Prod.mk.injEq] at hinto
  obtain ⟨hdocument, hok⟩ := hinto
  have hlines : d.lines = written events := by
    rw [← hdocument, Document.replay_plain]
  have hbehind : Text.LineByLine texts := by
    have hwrites := writesLines_replay hok (quotesAlike_of_onlyTemplates honly) false
    rw [hdocument] at hwrites
    exact hwrites.lineByLine
  have hcut : Text.splitLines Text.isLineEnd d.text = texts.foldr Text.joinLine [] :=
    Text.splitLines_flatten hbehind
  refine ⟨hlines, hcut, ?_, fun before l next after heq hjoins => ?_,
    fun before l next after heq => ?_⟩
  · rw [hcut, Text.foldr_joinLine_eq_iff]
  · have hnext : next ∈ texts := by simp [heq]
    exact (hbehind.isLine next hnext).eq_lineFeed hjoins.2
  · obtain ⟨text, body, -, hbody, hokBody, hevents⟩ := expand_ok hok
    have hapart : events.IsChain Event.Apart := by
      rw [show events = body.events from hevents]
      exact hbody.isChain_apart hokBody (hevents ▸ honly) (readsApart_splitLines text)
    exact List.isChain_iff_forall_rel_of_append_cons_cons.mp hapart heq l next rfl rfl

/-- Templates whose lines end in every way, and a file that ends in a carriage return in front of
    an empty line. -/
def returned : Setting where
  tree := ⟨[([['w'], "t.md".toList], .ofAscii "@[markdown](a)\n\nb\n"),
    ([['w'], ['a']], .ofAscii "x\r"),
    ([['w'], ['m']], .ofAscii "p\r\n@[markdown](a)\n@[page_toc](# T)\r@[markdown](e)\nq"),
    ([['w'], ['e']], .ofAscii "\r\ny")], [([], true), ([['w']], true)]⟩
  encoding := "utf-8".toList
  root := none
  citesFiles := true

/-- Lines with three different ends are found again. -/
theorem splitLines_text_iff_returned :
    let m : Path := ⟨.root, [['w'], ['m']]⟩
    let texts := ["p\r\n", "x\r", "@[page_toc](# T)\r", "\r\n", "y\n", "q"].map String.toList
    OnlyTemplates (returned.expand m none).events ∧
    ∃ d, returned.expandInto? m none (.empty false) = some (d, none) ∧
      d.lines.map Line.text = texts ∧ Text.splitLines Text.isLineEnd d.text = texts := by
  intro m texts
  have honly : OnlyTemplates (returned.expand m none).events := by decide +kernel
  have hinto := returned.expandInto?_eq m none (.empty false)
  rw [show (returned.expand m none).failure = none by decide +kernel] at hinto
  obtain ⟨-, -, hiff, -⟩ := splitLines_text_iff returned m none hinto honly
  have htexts : (((Document.empty false).replay (returned.expand m none).events).lines.map
      Line.text) = texts := by decide +kernel
  rw [htexts] at hiff
  exact ⟨honly, _, hinto, htexts, hiff.mpr (by decide +kernel)⟩

/-- **An empty line is lost** behind a file that ends in a carriage return. -/
theorem return_swallows_blank :
    let t : Path := ⟨.root, [['w'], "t.md".toList]⟩
    OnlyTemplates (returned.expand t none).events ∧
    ∃ d, returned.expandInto? t none (.empty false) = some (d, none) ∧
      d.lines.map Line.text = ["x\r", "\n", "b\n"].map String.toList ∧
      Text.splitLines Text.isLineEnd d.text = ["x\r\n", "b\n"].map String.toList := by
  intro t
  have hinto := returned.expandInto?_eq t none (.empty false)
  rw [show (returned.expand t none).failure = none by decide +kernel] at hinto
  exact ⟨by decide +kernel, _, hinto, by decide +kernel, by decide +kernel⟩

end Setting

end MarkdownTemplate
