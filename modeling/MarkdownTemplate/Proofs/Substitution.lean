import Mathlib.Data.List.Forall2
import MarkdownTemplate.Proofs.Lines
import MarkdownTemplate.Proofs.Nesting
import MarkdownTemplate.Proofs.Writing

/-!
# Pasting in what a template expands to

A template that is cited is expanded under the stack of those that cite it, and deeper than on its
own. Neither shows in what it adds to the page. This file fixes

* `EndsTerminated` -- lines of which the last one is ended; a run inside an inclusion writes such;
* `Expands.relocate` -- a run that succeeds, succeeds under a smaller stack and at another depth,
  and writes the same lines but for the depth and the end of the last one;
* `Setting.Contributes` -- what a line of a template adds to the page;
* **`expand_eq_flatten_contributions`** -- a page is what the lines of its template add, in order.
-/

namespace MarkdownTemplate

/-! ## 1. Ending the last line -/

/-- The line, deeper by `k`. -/
def Line.raised (k : Int) (l : Line) : Line :=
  { l with depth := l.depth + k }

/-- The lines with the last one ended. -/
def endLast : List Line → List Line
  | [] => []
  | [l] => [{ l with text := l.text.terminated }]
  | l :: next :: rest => l :: endLast (next :: rest)

/-- There is no line, or the last one is ended. -/
def EndsTerminated (ls : List Line) : Prop :=
  ∀ l ∈ ls.getLast?, l.text.isTerminated = true

theorem endsTerminated_nil : EndsTerminated [] := by
  simp [EndsTerminated]

theorem endsTerminated_singleton {l : Line} :
    EndsTerminated [l] ↔ l.text.isTerminated = true := by
  simp [EndsTerminated]

theorem EndsTerminated.append {a b : List Line} (ha : EndsTerminated a) (hb : EndsTerminated b) :
    EndsTerminated (a ++ b) := by
  intro l hl
  rw [List.getLast?_append] at hl
  cases hlast : b.getLast? with
  | none => exact ha l (by simpa [hlast] using hl)
  | some last => exact hb l (by simpa [hlast] using hl)

theorem endLast_singleton (l : Line) : endLast [l] = [{ l with text := l.text.terminated }] := rfl

/-- Ending the last line of ended lines changes nothing. -/
theorem EndsTerminated.endLast_eq : ∀ {ls : List Line}, EndsTerminated ls → endLast ls = ls
  | [], _ => rfl
  | [l], h => by
      rw [endLast_singleton, Text.terminated_of_isTerminated (endsTerminated_singleton.mp h)]
  | l :: next :: rest, h => by
      have hrest : EndsTerminated (next :: rest) := fun x hx => h x (by simpa using hx)
      rw [endLast, hrest.endLast_eq]

/-- Of ended lines and more, the last line is one of the latter. -/
theorem EndsTerminated.endLast_append {a : List Line} (ha : EndsTerminated a) (b : List Line) :
    endLast (a ++ b) = a ++ endLast b := by
  cases b with
  | nil => rw [List.append_nil, ha.endLast_eq, endLast, List.append_nil]
  | cons l rest =>
      clear ha
      induction a with
      | nil => rfl
      | cons first a ih =>
          rw [List.cons_append, List.cons_append, ← ih]
          cases a <;> rfl

namespace Setting

variable {s : Setting} {stack : Stack} {template : Path} {depth : Int} {number : Nat}
  {lines : List Text} {r : Run}

/-- Quoted content ends in the mark that closes it. -/
theorem endsTerminated_quotedLines (d : Directive) (depth : Int) (content : Text) :
    EndsTerminated (quotedLines d depth content) := by
  unfold quotedLines Directive.verbatim?
  cases hwrapper : Directive.wrapper? d.language d.treatment with
  | none => exact endsTerminated_nil
  | some w =>
      have hclose : w.2.isTerminated = true := by
        cases ht : d.treatment <;> rw [ht] at hwrapper <;> cases hwrapper <;> rfl
      simpa [EndsTerminated, List.getLast?_cons] using hclose

/-- A quotation is the same at every depth. -/
theorem quotedLines_raised (d : Directive) (depth k : Int) (content : Text) :
    quotedLines d (depth + k) content = (quotedLines d depth content).map (Line.raised k) := by
  simp [quotedLines, Line.raised]

/-- **Inside an inclusion a run writes ended lines.** -/
theorem Expands.endsTerminated (h : Expands s stack template depth number lines r)
    (hok : r.failure = none) (hdepth : 0 < depth) : EndsTerminated r.lines := by
  have hline : ∀ line, (lineAt depth line).isTerminated = true := fun line => by
    rw [lineAt_of_pos hdepth]
    exact Text.isTerminated_terminated line
  induction h, hok using Expands.ok_induction with
  | done => exact endsTerminated_nil
  | copied _ _ _ ih =>
      rw [Run.lines_after]
      exact (endsTerminated_singleton.mpr (hline _)).append (ih hdepth hline)
  | marked _ _ _ _ ih =>
      rw [Run.lines_after]
      exact (endsTerminated_singleton.mpr (hline _)).append (ih hdepth hline)
  | quoted _ _ _ _ _ _ _ ih =>
      rw [Run.lines_after, written_inclusion, written_quote]
      exact (endsTerminated_quotedLines _ _ _).append (ih hdepth hline)
  | nested _ _ _ _ _ _ _ _ _ ihBody ihRest =>
      rw [Run.lines_after, written_inclusion]
      refine EndsTerminated.append (ihBody (by omega) fun line => ?_)
        (ihRest hdepth hline)
      rw [lineAt_of_pos (by omega)]
      exact Text.isTerminated_terminated line

/-! ## 2. Moving a run -/

/-- The lines that a run at `depth` writes are those that another one writes at `depth'`, but for
    the depth and the end of the last one. -/
def Relocated (depth depth' : Int) (r r' : Run) : Prop :=
  r'.failure = none ∧ r.lines = (endLast r'.lines).map (Line.raised (depth - depth'))

/-- The templates on `stack'` are on `stack`, too, but for the one that is being read. -/
def Covers (template : Path) (stack stack' : Stack) : Prop :=
  stack'.map Frame.template ⊆ template :: stack.map Frame.template

section Covers

variable {stack' : Stack} {d : Directive} {number' : Nat}

/-- Below a directive the template being read is on both stacks. -/
theorem Covers.push (h : Covers template stack stack') :
    (stack'.push (d.frame template number')).map Frame.template ⊆
      (stack.push (d.frame template number)).map Frame.template := by
  intro p hp
  rw [Stack.push, List.map_append, List.mem_append] at hp ⊢
  rcases hp with hp | hp
  · rcases List.mem_cons.mp (h hp) with rfl | hp
    · exact Or.inr List.mem_cons_self
    · exact Or.inl hp
  · exact Or.inr hp

theorem Covers.nested {includee : Path} (h : Covers template stack stack') :
    Covers includee (stack.push (d.frame template number))
      (stack'.push (d.frame template number')) :=
  fun _ hp => List.mem_cons_of_mem _ (h.push hp)

/-- What the cycle check does not find above a run, it does not find where it is moved. -/
theorem Covers.find?_eq_none {p : Path} (h : Covers template stack stack')
    (hnew : (stack.push (d.frame template number)).find? p = none) :
    (stack'.push (d.frame template number')).find? p = none := by
  rw [Stack.find?_eq_none_iff] at hnew ⊢
  intro f hf htemplate
  have hmem : f.template ∈ (stack.push (d.frame template number)).map Frame.template :=
    h.push (List.mem_map_of_mem hf)
  obtain ⟨g, hg, hsame⟩ := List.mem_map.mp hmem
  exact hnew g hg (hsame.trans htemplate)

end Covers

/-- Of a text's lines the first is ended, or it is the only one. -/
theorem first_isTerminated_or {line : Text} {rest : List Text}
    (h : ∀ l ∈ (line :: rest).dropLast, l.isTerminated = true) :
    line.isTerminated = true ∨ rest = [] := by
  cases rest with
  | nil => exact Or.inr rfl
  | cons next rest => exact Or.inl (h line List.mem_cons_self)

theorem tail_terminated {line : Text} {rest : List Text}
    (h : ∀ l ∈ (line :: rest).dropLast, l.isTerminated = true) :
    ∀ l ∈ rest.dropLast, l.isTerminated = true := by
  cases rest with
  | nil => simp
  | cons next rest => exact fun l hl => h l (List.mem_cons_of_mem _ hl)

/-- A line that is written, and then a run: the line has its end unless the run writes nothing. -/
theorem Relocated.line {depth depth' : Int} {line : Text} {rest : List Text} {title : Option Text}
    {number' : Nat} {stack' : Stack} {r r' : Run} (hdepth : 0 < depth)
    (hlines : ∀ l ∈ (line :: rest).dropLast, l.isTerminated = true)
    (hrest : Expands s stack template depth (number + 1) rest r)
    (hrest' : Expands s stack' template depth' (number' + 1) rest r')
    (h : Relocated depth depth' r r') :
    Relocated depth depth' (r.after [.line ⟨lineAt depth line, depth, title⟩])
      (r'.after [.line ⟨lineAt depth' line, depth', title⟩]) := by
  refine ⟨h.1, ?_⟩
  have hshift : depth' + (depth - depth') = depth := by omega
  rw [Run.lines_after, Run.lines_after, h.2]
  rcases first_isTerminated_or hlines with hended | rfl
  · have hfirst : EndsTerminated [⟨lineAt depth' line, depth', title⟩] := by
      rw [endsTerminated_singleton]
      rwa [lineAt_of_isTerminated hended]
    rw [written_cons_line, written_cons_line, written_nil, hfirst.endLast_append]
    simp [Line.raised, lineAt_of_isTerminated hended, hshift]
  · cases hrest
    cases hrest'
    rw [Run.lines, Run.nothing, written_nil]
    simp [endLast_singleton, endLast, Line.raised, lineAt_of_pos hdepth, terminated_lineAt, hshift]

/-- Of the lines of a file that is read to its end only the last may lack its end. -/
theorem isTerminated_of_complete {p : Path} {source : Source}
    (hopen : Source.ofPath s.tree s.encoding p = .ok source)
    (hcomplete : source.reading.complete = true) :
    ∀ l ∈ source.reading.lines.dropLast, l.isTerminated = true := by
  obtain ⟨text, -, heq⟩ := lines_of_complete hopen hcomplete
  rw [heq]
  exact Text.isTerminated_of_mem_dropLast text

/-- **A run that succeeds does not depend on who cites the template.** Its lines have a run that
    succeeds under every stack that is covered and at every depth, and both write the same. -/
theorem Expands.relocate (h : Expands s stack template depth number lines r)
    (hok : r.failure = none) (hdepth : 0 < depth)
    (hlines : ∀ l ∈ lines.dropLast, l.isTerminated = true) :
    ∀ {stack' : Stack} {depth' : Int} (number' : Nat), Covers template stack stack' → 0 ≤ depth' →
      ∃ r', Expands s stack' template depth' number' lines r' ∧ Relocated depth depth' r r' := by
  induction h, hok using Expands.ok_induction with
  | done => exact fun _ _ _ => ⟨.nothing, .done, rfl, rfl⟩
  | copied hline hrest _ ih =>
      intro stack' depth' number' hcovers hdepth'
      obtain ⟨r', hrest', hr'⟩ :=
        ih hdepth (tail_terminated hlines) (number' + 1) hcovers hdepth'
      exact ⟨_, .copied (directive?_lineAt_congr hline depth') hrest',
        Relocated.line hdepth hlines hrest hrest' hr'⟩
  | marked hline hcites hrest _ ih =>
      intro stack' depth' number' hcovers hdepth'
      obtain ⟨r', hrest', hr'⟩ :=
        ih hdepth (tail_terminated hlines) (number' + 1) hcovers hdepth'
      exact ⟨_, .marked (directive?_lineAt_congr hline depth') hcites hrest',
        Relocated.line hdepth hlines hrest hrest' hr'⟩
  | @quoted _ template depth _ _ _ d _ content _ hline hcites hrec hopen htext _ _ ih =>
      intro stack' depth' number' hcovers hdepth'
      obtain ⟨r', hrest', hok', hr'⟩ :=
        ih hdepth (tail_terminated hlines) (number' + 1) hcovers hdepth'
      refine ⟨_, .quoted (directive?_lineAt_congr hline depth') hcites hrec hopen htext hrest',
        hok', ?_⟩
      have hshift : depth' + (depth - depth') = depth := by omega
      rw [Run.lines_after, Run.lines_after, written_inclusion, written_inclusion, written_quote,
        written_quote, hr', (endsTerminated_quotedLines _ _ _).endLast_append, List.map_append,
        ← quotedLines_raised, hshift]
  | @nested _ template depth _ _ _ d _ body _ hline hrec hnew hopen hbody hokBody hcomplete _ _
        ihBody ihRest =>
      intro stack' depth' number' hcovers hdepth'
      obtain ⟨body', hbody', hokBody', hinner⟩ := ihBody (by omega)
        (isTerminated_of_complete hopen hcomplete) 1 hcovers.nested (by omega : 0 ≤ depth' + 1)
      obtain ⟨r', hrest', hok', hr'⟩ :=
        ihRest hdepth (tail_terminated hlines) (number' + 1) hcovers hdepth'
      refine ⟨_, .nested (directive?_lineAt_congr hline depth') hrec (hcovers.find?_eq_none hnew)
        hopen hbody' hokBody' hcomplete hrest', hok', ?_⟩
      -- inside the inclusion the last line is ended already
      have hended := hbody'.endsTerminated hokBody' (by omega)
      have hshift : depth + 1 - (depth' + 1) = depth - depth' := by omega
      rw [hended.endLast_eq, hshift] at hinner
      rw [Run.lines_after, Run.lines_after, written_inclusion, written_inclusion, hr']
      show body.lines ++ _ = (endLast (body'.lines ++ _)).map _
      rw [hended.endLast_append, List.map_append, hinner]

/-! ## 3. What a line adds -/

/-- The lines that a template expands to in an empty document, with no blank line dropped. -/
def expandedLines (s : Setting) (template : Path) (output : Option Path) : List Line :=
  ((Document.empty false).replay (s.expand template output).events).lines

/-- Lines pasted into another template: one inclusion deeper, and the last one ended. -/
def pasted (ls : List Line) : List Line :=
  (endLast ls).map (Line.raised 1)

/-- **What a line of a template adds to the page.** A line adds itself, the place of the table of
    contents, the content of a file between the two lines of its treatment, or what another
    template expands to on its own. -/
inductive Contributes (s : Setting) (template : Path) : Text → List Line → Prop where
  | itself {line : Text} (hline : s.directive? line = none) :
      Contributes s template line [⟨line, 0, none⟩]
  | contents {line : Text} {d : Directive} (hline : s.directive? line = some d)
      (hcites : d.citesFile = false) :
      Contributes s template line [⟨line, 0, some d.target⟩]
  | quotation {line content opener closer : Text} {d : Directive}
      (hline : s.directive? line = some d) (hcites : d.citesFile = true)
      (hrec : d.isRecursive = false)
      (hwrapper : Directive.wrapper? d.language d.treatment = some (opener, closer))
      (htext : s.textOf? (d.includee template) = some content) :
      Contributes s template line
        ((opener :: Directive.contentLines content ++ [closer]).map fun l => ⟨l, 0, none⟩)
  | template {line : Text} {d : Directive} (hline : s.directive? line = some d)
      (hrec : d.isRecursive = true)
      (hok : (s.expand (d.includee template) none).failure = none) :
      Contributes s template line (pasted (s.expandedLines (d.includee template) none))

/-- A line adds one thing only. -/
theorem Contributes.unique {line : Text} {piece piece' : List Line}
    (h : Contributes s template line piece) (h' : Contributes s template line piece') :
    piece = piece' := by
  cases h <;> cases h' <;> simp_all [citesFile_of_isRecursive]

/-- A treatment that quotes is one that cites a file and is no template. -/
theorem wrapper?_isSome {d : Directive} (hcites : d.citesFile = true)
    (hrec : d.isRecursive = false) :
    ∃ opener closer, Directive.wrapper? d.language d.treatment = some (opener, closer) := by
  cases ht : d.treatment with
  | markdown => simp [Directive.isRecursive, ht] at hrec
  | pageToc => simp [Directive.citesFile, ht] at hcites
  | codeBlock => exact ⟨_, _, rfl⟩
  | comment => exact ⟨_, _, rfl⟩
  | pre => exact ⟨_, _, rfl⟩
  | language => exact ⟨_, _, rfl⟩

/-- A template that is opened and whose lines have a run that succeeds expands to what that run
    writes. -/
theorem expand_of_expands {output : Option Path} {source : Source} {body : Run}
    (hopen : Source.ofPath s.tree s.encoding template = .ok source)
    (hbody : Expands s [Frame.outermost template output] template 0 1 source.reading.lines body)
    (hok : body.failure = none) (hcomplete : source.reading.complete = true) :
    (s.expand template output).failure = none ∧ s.expandedLines template output = body.lines := by
  have heq := (runOf_expand s template output).unique (.opened hopen hbody)
  rw [expandedLines, heq, Document.replay_plain, Source.close_events]
  exact ⟨Source.close_ok_iff.mpr ⟨hok, hcomplete⟩, rfl⟩

/-- **The run of a cited template** writes what the template expands to on its own, pasted. -/
theorem Expands.eq_pasted {includee : Path} {source : Source} {body : Run}
    (hopen : Source.ofPath s.tree s.encoding includee = .ok source)
    (hbody : Expands s stack includee 1 1 source.reading.lines body)
    (hok : body.failure = none) (hcomplete : source.reading.complete = true) :
    (s.expand includee none).failure = none ∧
      body.lines = pasted (s.expandedLines includee none) := by
  have hcovers : Covers includee stack [Frame.outermost includee none] := by
    intro p hp
    rw [List.map_singleton, List.mem_singleton] at hp
    exact hp ▸ List.mem_cons_self
  obtain ⟨alone, halone, hokAlone, hsame⟩ :=
    hbody.relocate hok (by omega) (isTerminated_of_complete hopen hcomplete) 1 hcovers
      (by omega : (0 : Int) ≤ 0)
  obtain ⟨hexpand, heq⟩ := expand_of_expands hopen halone hokAlone hcomplete
  exact ⟨hexpand, by rw [hsame, heq]; rfl⟩

/-- **What one line adds, and then the rest**: a run at the top writes what its lines add. -/
theorem Expands.contributions (h : Expands s stack template depth number lines r)
    (hok : r.failure = none) (hdepth : depth = 0) :
    ∃ pieces, List.Forall₂ (Contributes s template) lines pieces ∧ r.lines = pieces.flatten := by
  induction h, hok using Expands.ok_induction with
  | done => exact ⟨[], .nil, rfl⟩
  | copied hline _ _ ih =>
      subst hdepth
      obtain ⟨pieces, hpieces, heq⟩ := ih rfl
      exact ⟨_, .cons (.itself hline) hpieces, by rw [Run.lines_after, heq]; rfl⟩
  | marked hline hcites _ _ ih =>
      subst hdepth
      obtain ⟨pieces, hpieces, heq⟩ := ih rfl
      exact ⟨_, .cons (.contents hline hcites) hpieces, by rw [Run.lines_after, heq]; rfl⟩
  | quoted hline hcites hrec hopen htext _ _ ih =>
      subst hdepth
      obtain ⟨pieces, hpieces, heq⟩ := ih rfl
      obtain ⟨opener, closer, hwrapper⟩ := wrapper?_isSome hcites hrec
      refine ⟨_, .cons (.quotation hline hcites hrec hwrapper
        (textOf?_eq_some_iff.mpr ⟨_, hopen, htext⟩)) hpieces, ?_⟩
      rw [Run.lines_after, written_inclusion, written_quote, heq, quotedLines,
        Directive.verbatim?, hwrapper]
      rfl
  | nested hline hrec _ hopen hbody hokBody hcomplete _ _ _ ihRest =>
      subst hdepth
      obtain ⟨pieces, hpieces, heq⟩ := ihRest rfl
      obtain ⟨hexpand, hpasted⟩ := eq_pasted hopen hbody hokBody hcomplete
      refine ⟨_, .cons (.template hline hrec hexpand) hpieces, ?_⟩
      rw [Run.lines_after, written_inclusion, heq, ← hpasted]
      rfl

/-- **A page is what the lines of its template add, in order.** If the expansion of a template
    succeeds, the template has a text, and the lines it expands to are those that the lines of the
    text add. A line that cites a template adds what that template, which then succeeds as well,
    expands to on its own; so at every level an inclusion is as good as its result pasted in. -/
theorem expand_eq_flatten_contributions (s : Setting) (template : Path) (output : Option Path)
    (hok : (s.expand template output).failure = none) :
    ∃ text pieces, s.textOf? template = some text ∧
      List.Forall₂ (Contributes s template) (Text.splitLines Text.isLineEnd text) pieces ∧
      s.expandedLines template output = pieces.flatten := by
  obtain ⟨text, body, htext, hbody, hokBody, hevents⟩ := expand_ok hok
  obtain ⟨pieces, hpieces, heq⟩ := hbody.contributions hokBody rfl
  refine ⟨text, pieces, htext, hpieces, ?_⟩
  rw [expandedLines, Document.replay_plain, hevents]
  exact heq

/-- A template whose text lacks a last line end, cited by one that quotes a file as well. -/
def letter : Setting where
  tree := ⟨[([['a']], .ofAscii "@[page_toc](# T)\n@[markdown](b)\n@[pre](c)\n"),
    ([['b']], .ofAscii "# B"), ([['c']], .ofAscii "x\ny")], [([], true)]⟩
  encoding := "ascii".toList
  root := none
  citesFiles := true

/-- The letter is three lines put together, and the template it cites adds one ended line. -/
theorem expand_eq_flatten_contributions_letter :
    (letter.expand ⟨.root, [['a']]⟩ none).failure = none ∧
    (∃ text pieces, letter.textOf? ⟨.root, [['a']]⟩ = some text ∧
      List.Forall₂ (Contributes letter ⟨.root, [['a']]⟩)
        (Text.splitLines Text.isLineEnd text) pieces ∧
      letter.expandedLines ⟨.root, [['a']]⟩ none = pieces.flatten) ∧
    pasted (letter.expandedLines ⟨.root, [['b']]⟩ none) = [⟨"# B\n".toList, 1, none⟩] := by
  have hok : (letter.expand ⟨.root, [['a']]⟩ none).failure = none := by decide +kernel
  exact ⟨hok, expand_eq_flatten_contributions letter ⟨.root, [['a']]⟩ none hok,
    by decide +kernel⟩

end Setting

end MarkdownTemplate
