import MarkdownTemplate.Proofs.Agreement

/-!
# Expanding into a document that holds lines

Several templates may be expanded into one document, one after another, and some of the expansions
may have been stopped in the middle of an inclusion. This file says what one more expansion does to
such a document. It fixes

* `Document.Reached` -- the documents that expansions lead to;
* `Document.Keeps` -- **the invariant**: the lines that were there stand in front, and every
  inclusion that is open begins behind them;
* `Document.KeepsBlanks` -- what remains true of a document without the tidy policy;
* `Stack.record?` -- the inclusion stack may refuse an event, too: there is nothing to take from an
  empty one;
* **`expansion_only_appends`** -- no operation is refused, the lines that were there stay, and
  without the tidy policy what was there plays no part in what is added.
-/

namespace MarkdownTemplate

namespace Document

/-! ## 1. The lines that were there -/

/-- **The documents that expansions lead to**, from an empty one with either policy on blank lines,
    whatever the templates are and whatever has stopped their expansion. -/
inductive Reached : Document → Prop where
  | empty (tidy : Bool) : Reached (.empty tidy)
  | expanded {d d' : Document} {s : Setting} {template : Path} {output : Option Path}
      {failure : Option Error} (h : Reached d)
      (hrun : s.expandInto? template output d = some (d', failure)) : Reached d'

/-- **The invariant of the lines `base`** that were there: they stand in front, and no inclusion
    that is open begins among them. -/
structure Keeps (base : List Line) (st : Document × List Nat) : Prop where
  kept : base <+: st.1.lines
  behind : ∀ start ∈ st.2, base.length ≤ start

theorem keeps_start (d : Document) : Keeps d.lines (d, []) where
  kept := List.prefix_refl _
  behind := by simp

/-- **What one event does to the lines that were there.** -/
theorem Keeps.record {base : List Line} {st : Document × List Nat} (h : Keeps base st)
    (e : Event) : Keeps base (record st e) := by
  obtain ⟨d, starts⟩ := st
  obtain ⟨hkept, hbehind⟩ := h
  cases e with
  | cite f => exact ⟨hkept, hbehind⟩
  | enter p t => exact ⟨hkept, List.forall_mem_cons.mpr ⟨hkept.length_le, hbehind⟩⟩
  | line l =>
      refine ⟨?_, hbehind⟩
      show base <+: (d.write l).lines
      rcases d.write_lines l with h | ⟨-, h⟩
      · rw [h]
        exact hkept.trans (List.prefix_append ..)
      · rw [h]
        exact hkept
  | leave p =>
      cases starts with
      | nil => exact ⟨hkept, hbehind⟩
      | cons start rest =>
          obtain ⟨hstart, hrest⟩ := List.forall_mem_cons.mp hbehind
          refine ⟨?_, hrest⟩
          show base <+: ((d.endInclusion? start).getD d).lines
          rcases d.endInclusion?_lines start with h | h
          · rw [h]
            exact hkept
          · -- what is tidied begins behind `base`
            have htake : base <+: d.lines.take start := List.prefix_take_iff.mpr ⟨hkept, hstart⟩
            rw [h]
            exact htake.trans (List.prefix_append ..)

theorem Keeps.foldl_record {base : List Line} {es : List Event} : ∀ {st : Document × List Nat},
    Keeps base st → Keeps base (es.foldl Document.record st) := by
  induction es with
  | nil => exact fun h => h
  | cons e es ih => exact fun h => ih (h.record e)

/-! ## 2. Documents without the tidy policy -/

/-- No event changes the policy. -/
theorem record_tidy (st : Document × List Nat) (e : Event) : (record st e).1.tidy = st.1.tidy := by
  obtain ⟨d, starts⟩ := st
  cases e with
  | cite f => rfl
  | enter p t => rfl
  | line l =>
      show (d.write l).tidy = d.tidy
      unfold write
      split
      · split <;> rfl
      · rfl
  | leave p =>
      cases starts with
      | nil => rfl
      | cons start rest =>
          show ((d.endInclusion? start).getD d).tidy = d.tidy
          unfold endInclusion?
          split
          · rfl
          · split <;> rfl

theorem replay_tidy (d : Document) (events : List Event) : (d.replay events).tidy = d.tidy := by
  have hfold : ∀ st : Document × List Nat, (events.foldl record st).1.tidy = st.1.tidy := by
    induction events with
    | nil => exact fun st => rfl
    | cons e es ih => exact fun st => (ih (record st e)).trans (record_tidy st e)
  exact hfold (d, [])

/-- **The document keeps blank lines**: it does not drop any at a seam, and it has not met one. -/
structure KeepsBlanks (d : Document) : Prop where
  untidy : d.tidy = false
  seamless : d.afterInclusion = false

theorem KeepsBlanks.record {st : Document × List Nat} (h : st.1.KeepsBlanks) (e : Event) :
    (record st e).1.KeepsBlanks := by
  obtain ⟨d, starts⟩ := st
  obtain ⟨htidy, hafter⟩ := h
  refine ⟨(record_tidy _ e).trans htidy, ?_⟩
  have hafter : d.afterInclusion = false := hafter
  cases e with
  | cite f => exact hafter
  | enter p t => exact hafter
  | line l =>
      show (d.write l).afterInclusion = false
      simp [write, hafter]
  | leave p =>
      cases starts with
      | nil => exact hafter
      | cons start rest =>
          have hend : (d.endInclusion? start).getD d = d := by
            simp [endInclusion?, show d.tidy = false from htidy]
          show ((d.endInclusion? start).getD d).afterInclusion = false
          rw [hend]
          exact hafter

/-- **A document that keeps blank lines takes in whatever is written**, and keeps them still. -/
theorem KeepsBlanks.replay_eq {d : Document} (h : d.KeepsBlanks) (events : List Event) :
    d.replay events = ⟨false, d.lines ++ written events, false⟩ := by
  have hkeeps : ∀ st : Document × List Nat, st.1.KeepsBlanks →
      (events.foldl Document.record st).1.KeepsBlanks := by
    induction events with
    | nil => exact fun st hst => hst
    | cons e es ih => exact fun st hst => ih _ (hst.record e)
  have hlines : (d.replay events).lines = d.lines ++ written events :=
    foldl_record_plain events d [] h.untidy h.seamless
  obtain ⟨htidy, hafter⟩ : (d.replay events).KeepsBlanks := hkeeps (d, []) h
  calc d.replay events
      = ⟨(d.replay events).tidy, (d.replay events).lines, (d.replay events).afterInclusion⟩ := rfl
    _ = ⟨false, d.lines ++ written events, false⟩ := by rw [htidy, hlines, hafter]

/-- Without the tidy policy no expansion leaves anything behind but lines. -/
theorem Reached.keepsBlanks {d : Document} (h : d.Reached) (htidy : d.tidy = false) :
    d.KeepsBlanks := by
  induction h with
  | empty tidy => exact ⟨htidy, rfl⟩
  | @expanded d d' s template output failure _ hrun ih =>
      rw [s.expandInto?_eq template output d, Option.some.injEq, Prod.mk.injEq] at hrun
      obtain ⟨rfl, -⟩ := hrun
      rw [replay_tidy] at htidy
      rw [(ih htidy).replay_eq]
      exact ⟨rfl, rfl⟩

/-! ## 3. Where an inclusion ends -/

/-- An event that is not refused has the effect of the event. -/
theorem eq_of_record? {st st' : Document × List Nat} {e : Event} (h : record? st e = some st') :
    st' = record st e := by
  obtain ⟨d, starts⟩ := st
  cases e with
  | cite f => exact (Option.some.inj h).symm
  | enter p t => exact (Option.some.inj h).symm
  | line l => exact (Option.some.inj h).symm
  | leave p =>
      cases starts with
      | nil => cases h
      | cons start rest =>
          obtain ⟨d', hend, rfl⟩ := Option.map_eq_some_iff.mp h
          simp only [record, hend, Option.getD_some]

theorem eq_of_foldlM_record? {es : List Event} : ∀ {st st' : Document × List Nat},
    es.foldlM record? st = some st' → st' = es.foldl record st := by
  induction es with
  | nil => exact fun h => (Option.some.inj h).symm
  | cons e es ih =>
      intro st st' h
      rw [List.foldlM_cons] at h
      obtain ⟨next, hnext, hrest⟩ := Option.bind_eq_some_iff.mp h
      rw [ih hrest, eq_of_record? hnext, List.foldl_cons]

/-- **Where an inclusion ends, one is open**, if no event is refused. -/
theorem Takes.exists_start {st : Document × List Nat} {es done : List Event} {p : Path}
    (h : Takes st es) (hdone : done ++ [.leave p] <+: es) :
    ∃ start outer, (done.foldl record st).2 = start :: outer := by
  obtain ⟨later, rfl⟩ := hdone
  rw [Takes, List.append_assoc, List.foldlM_append] at h
  obtain ⟨⟨d, starts⟩, hbefore, hafter⟩ := Option.bind_eq_some_iff.mp h
  obtain ⟨next, hleave, -⟩ := Option.bind_eq_some_iff.mp hafter
  rw [← eq_of_foldlM_record? hbefore]
  cases starts with
  | nil => cases hleave
  | cons start outer => exact ⟨start, outer, rfl⟩

end Document

/-! ## 4. The inclusion stack -/

namespace Stack

/-- One event, if the stack does not refuse it: a frame can be taken only from a stack that holds
    one. -/
def record? (stack : Stack) : Event → Option Stack
  | .cite frame => some (stack.push frame)
  | .leave _ => stack.pop?.map Prod.snd
  | _ => some stack

/-- From a stack that holds a frame the innermost one is taken. -/
theorem pop?_of_ne_nil {stack : Stack} (h : stack ≠ []) :
    stack.pop?.map Prod.snd = some stack.dropLast := by
  rw [pop?, List.getLast?_eq_some_getLast h]
  rfl

/-- **A stack that is never empty refuses no event.** -/
theorem foldlM_record?_eq {events : List Event} : ∀ {stack : Stack},
    Throughout (· ≠ []) stack events →
    events.foldlM record? stack = some (stack.replay events) := by
  induction events with
  | nil => exact fun _ => rfl
  | cons e es ih =>
      intro stack h
      obtain ⟨hstart, hrest⟩ := throughout_cons.mp h
      have hfirst : record? stack e = some (stack.replay [e]) := by
        cases e with
        | cite f => rfl
        | enter p t => rfl
        | line l => rfl
        | leave p => exact pop?_of_ne_nil hstart
      rw [List.foldlM_cons, hfirst, ← List.singleton_append, replay_append]
      exact ih hrest

end Stack

namespace Setting

variable {s : Setting} {template : Path} {output : Option Path}

/-- **An expansion never takes a frame from an empty stack**; if it succeeds, the outermost frame
    is left for its end. -/
theorem foldlM_record?_expand (s : Setting) (template : Path) (output : Option Path) :
    (s.expand template output).events.foldlM Stack.record? [Frame.outermost template output] =
        some (Stack.replay [Frame.outermost template output] (s.expand template output).events) ∧
      ((s.expand template output).failure = none →
        Stack.replay [Frame.outermost template output] (s.expand template output).events =
          [Frame.outermost template output]) := by
  constructor
  · refine Stack.foldlM_record?_eq fun es hes => ?_
    obtain ⟨frames, heq, -⟩ := ascends_expand s Anchor.closed_all template.anchor.mem_all output _ hes
    rw [heq]
    exact List.cons_ne_nil _ _
  · intro hok
    have hrun := runOf_expand s template output
    generalize s.expand template output = run at hrun hok ⊢
    cases hrun with
    | unopened => cases hok
    | opened _ hbody =>
        rw [Source.close_events]
        exact hbody.replay_eq (Source.close_ok_iff.mp hok).1

end Setting

/-! ## 5. One more expansion -/

/-- **An expansion only appends.** Let a document have been reached by expanding templates, some of
    which may have failed, and let one more be expanded into it, whether or not it succeeds.
    * Neither the document nor the inclusion stack refuses an event: where an inclusion ends, one
      is open, and it began behind the lines that were there and not beyond the end; no frame is
      taken from an empty stack, and after a success the outermost one is left.
    * The lines that were there stay where they are; the others come behind them.
    * Without the tidy policy, the same lines are added to an empty document. -/
theorem expansion_only_appends {d : Document} (h : d.Reached) (s : Setting) (template : Path)
    (output : Option Path) :
    let run := s.expand template output
    let first := Frame.outermost template output
    ∃ (d' : Document) (added : List Line) (stack : Stack),
      s.expandInto? template output d = some (d', run.failure) ∧
      (∀ done p, done ++ [.leave p] <+: run.events →
        ∃ start outer, (done.foldl Document.record (d, [])).2 = start :: outer ∧
          d.lines.length ≤ start ∧
          start ≤ (done.foldl Document.record (d, [])).1.lines.length) ∧
      run.events.foldlM Stack.record? [first] = some stack ∧
      (run.failure = none → stack.pop? = some (first, [])) ∧
      d'.lines = d.lines ++ added ∧
      (d.tidy = false →
        s.expandInto? template output (.empty false) =
          some (⟨false, added, false⟩, run.failure)) := by
  intro run first
  have hinto := s.expandInto?_eq template output
  obtain ⟨hstack, hlast⟩ := s.foldlM_record?_expand template output
  have hkeeps : Document.Keeps d.lines (run.events.foldl Document.record (d, [])) :=
    (Document.keeps_start d).foldl_record
  obtain ⟨added, hadded⟩ := hkeeps.kept
  have htakes : Document.Takes (d, []) run.events := by
    obtain ⟨st, hst, -⟩ := Option.map_eq_some_iff.mp (hinto d)
    rw [Document.Takes, hst, Document.eq_of_foldlM_record? hst]
  refine ⟨d.replay run.events, added, _, hinto d, fun done p hdone => ?_, hstack, fun hok => ?_,
    hadded.symm, fun htidy => ?_⟩
  · obtain ⟨start, outer, heq⟩ := htakes.exists_start hdone
    have hmem : start ∈ (done.foldl Document.record (d, [])).2 := heq ▸ List.mem_cons_self
    exact ⟨start, outer, heq, (Document.keeps_start d).foldl_record.behind start hmem,
      (Document.opened_start d).foldl_record.le_length start hmem⟩
  · rw [hlast hok]
    rfl
  · have hplain : (Document.empty false).KeepsBlanks := ⟨rfl, rfl⟩
    have hwritten : d.lines ++ added = d.lines ++ written run.events :=
      hadded.trans (congrArg Document.lines ((h.keepsBlanks htidy).replay_eq run.events))
    rw [hinto, hplain.replay_eq, List.append_cancel_left hwritten]
    rfl

/-- A template that is torn off inside another one, right behind a file that is quoted, and a
    template that begins with blank lines. -/
def torn : Setting where
  tree := ⟨[([['a']], .ofAscii "x\n\n@[markdown](b)\n"),
    ([['b']], .ofAscii "\ny\n@[pre](c)\n\n\n@[markdown](q)\n"), ([['c']], .ofAscii "z\n"),
    ([['e']], .ofAscii "\n@[markdown](f)\n\nw"), ([['f']], .ofAscii "\n")], [([], true)]⟩
  encoding := "ascii".toList
  root := none
  citesFiles := true

/-- The document of the expansion that was torn off is still at a seam, and takes in the next
    template behind its lines. -/
theorem expansion_only_appends_torn :
    let d := (Document.empty true).replay (torn.expand ⟨.root, [['a']]⟩ none).events
    d.Reached ∧ (torn.expand ⟨.root, [['a']]⟩ none).failure.isSome = true ∧
    d.afterInclusion = true ∧
    ∃ d' added, torn.expandInto? ⟨.root, [['e']]⟩ none d = some (d', none) ∧
      d'.lines = d.lines ++ added := by
  intro d
  have hreached : d.Reached := .expanded (.empty true) (torn.expandInto?_eq _ _ _)
  have hok : (torn.expand ⟨.root, [['e']]⟩ none).failure = none := by decide +kernel
  obtain ⟨d', added, stack, hinto, -, -, -, hlines, -⟩ :=
    expansion_only_appends hreached torn ⟨.root, [['e']]⟩ none
  rw [hok] at hinto
  exact ⟨hreached, by decide +kernel, by decide +kernel, d', added, hinto, hlines⟩

end MarkdownTemplate
