import MarkdownTemplate.Proofs.PageLines
import MarkdownTemplate.Proofs.Verbs

/-!
# Assembling an output once more

A page has no directives left that would be taken up, unless a file was quoted that has some. So the
page is copied when it is assembled itself. This file fixes

* `OnlyTemplates` -- a run that quotes nothing;
* `Expands.unmarked` -- then a line of the run is a marker, or no directive that is taken up;
* `Document.plain_render` -- **no line of the page is such a directive**, as its reader cuts it;
* **`reassembly_changes_nothing`** -- an output that is assembled with the same verb is written as
  it is.
-/

namespace MarkdownTemplate

/-- Of the files that are opened during a run none is quoted. -/
def OnlyTemplates (events : List Event) : Prop :=
  ∀ q t, Event.enter q t ∈ events → t = .markdown

theorem OnlyTemplates.of_append {es es' : List Event} (h : OnlyTemplates (es ++ es')) :
    OnlyTemplates es ∧ OnlyTemplates es' :=
  ⟨fun q t hmem => h q t (List.mem_append_left _ hmem),
    fun q t hmem => h q t (List.mem_append_right _ hmem)⟩

/-- An inclusion in such a run is one of a template, and nothing is quoted inside it or behind. -/
theorem OnlyTemplates.inclusion {f : Frame} {p q : Path} {t : Treatment} {es es' : List Event}
    (h : OnlyTemplates (.cite f :: .enter p t :: es ++ [Event.leave q] ++ es')) :
    t = .markdown ∧ OnlyTemplates es ∧ OnlyTemplates es' :=
  ⟨h p t (by simp), fun q t hmem => h q t (by simp [hmem]), h.of_append.2⟩

theorem onlyTemplates_iff {events : List Event} : OnlyTemplates events ↔ (events.all fun
    | .enter _ t => t == .markdown
    | _ => true) = true := by
  rw [List.all_eq_true]
  constructor
  · intro h e he
    cases e with
    | enter q t => exact beq_iff_eq.mpr (h q t he)
    | _ => rfl
  · intro h q t hmem
    exact beq_iff_eq.mp (h _ hmem)

instance (events : List Event) : Decidable (OnlyTemplates events) :=
  decidable_of_iff _ onlyTemplates_iff.symm

namespace Setting

variable {s : Setting} {stack : Stack} {template : Path} {depth : Int} {number : Nat}
  {lines : List Text} {r : Run}

/-! ## 1. The lines of a run -/

/-- What is not quoted need not cut alike. -/
theorem quotesAlike_of_onlyTemplates {events : List Event} (h : OnlyTemplates events) :
    s.QuotesAlike events :=
  fun q t _ hmem hne => absurd (h q t hmem) hne

/-- What comes behind a line makes no difference to whether it is taken up. -/
theorem directive?_concat {c : Char} (hc : Text.isLineEnd c = true) (l : Text) :
    s.directive? (l ++ [c]) = s.directive? l := by
  rw [directive?, directive?, Directive.parse?_concat hc]

/-- **What a run that quotes nothing writes**: markers, and lines that are no directives that are
    taken up. -/
theorem Expands.unmarked (h : Expands s stack template depth number lines r)
    (hok : r.failure = none) (honly : OnlyTemplates r.events) :
    ∀ l ∈ r.lines, l.isMarker = false → s.directive? l.text = none := by
  induction h, hok using Expands.ok_induction with
  | done => exact fun _ hl => absurd hl List.not_mem_nil
  | copied hline _ _ ih =>
      rw [Run.lines_after]
      exact List.forall_mem_cons.mpr ⟨fun _ => hline, ih honly.of_append.2⟩
  | marked _ _ _ _ ih =>
      rw [Run.lines_after]
      refine List.forall_mem_cons.mpr ⟨fun hmarker => ?_, ih honly.of_append.2⟩
      cases hmarker
  | quoted _ _ hrec =>
      simp [Directive.isRecursive, honly.inclusion.1] at hrec
  | nested _ _ _ _ _ _ _ _ _ ihBody ihRest =>
      obtain ⟨-, hinside, hbehind⟩ := honly.inclusion
      rw [Run.lines_after, written_inclusion]
      exact List.forall_mem_append.mpr ⟨ihBody hinside, ihRest hbehind⟩

/-- The document holds no other lines. -/
theorem unmarked_replay {output : Option Path} (hok : (s.expand template output).failure = none)
    (honly : OnlyTemplates (s.expand template output).events) (tidy : Bool) :
    ∀ l ∈ ((Document.empty tidy).replay (s.expand template output).events).lines,
      l.isMarker = false → s.directive? l.text = none := by
  obtain ⟨text, body, -, hbody, hokBody, hevents⟩ := expand_ok hok
  rw [hevents] at honly ⊢
  have hsub : (((Document.empty tidy).replay body.events).lines).Sublist body.lines :=
    Document.replay_sublist (.empty tidy) body.events
  exact fun l hl => hbody.unmarked hokBody honly l (hsub.subset hl)

end Setting

/-! ## 2. The lines of a page -/

namespace Contents

/-- A row of the table begins with a hash, a space or a hyphen. -/
theorem head?_of_mem_lines {marker : Line} {headings : List Heading}
    (htitle : (Heading.parse? (marker.title.getD [])).isSome = true) :
    ∀ row ∈ lines marker headings, ∃ c rest, row = c :: rest ∧ c ≠ '@' := by
  obtain ⟨h, hparse⟩ := Option.isSome_iff_exists.mp htitle
  refine List.forall_mem_cons.mpr ⟨?_, fun row hrow => ?_⟩
  · obtain ⟨rest, hrest⟩ := List.head?_eq_some_iff.mp (Heading.head?_trim_of_parse? hparse)
    exact ⟨'#', rest, hrest, by decide⟩
  · obtain ⟨h, -, rfl⟩ := List.mem_map.mp hrow
    unfold item
    cases 2 * (h.level - topLevel headings) with
    | zero => exact ⟨'-', _, rfl, by decide⟩
    | succ n => exact ⟨' ', _, rfl, by decide⟩

/-- **No line of a table is a directive.** -/
theorem parse?_of_mem_lines {marker : Line} {headings : List Heading} {row : Text}
    (htitle : (Heading.parse? (marker.title.getD [])).isSome = true)
    (hrow : row ∈ lines marker headings) : Directive.parse? (row ++ lineEnd marker) = none := by
  obtain ⟨c, rest, rfl, hc⟩ := head?_of_mem_lines htitle row hrow
  rw [Option.eq_none_iff_forall_ne_some]
  intro d hparse
  have hhead := Directive.head?_of_parse? hparse
  rw [List.cons_append, List.head?_cons, Option.some.injEq] at hhead
  exact hc hhead

end Contents

namespace Document

/-- **No line of a page is a directive that is taken up** if the lines of the document stand one
    behind another and none of them is, but for the markers. -/
theorem plain_render {s : Setting} {d : Document} {page : Text} (hpage : d.render = .ok page)
    (hwrites : Setting.WritesLines 0 d.lines)
    (hplain : ∀ l ∈ d.lines, l.isMarker = false → s.directive? l.text = none) :
    ∀ l ∈ Text.splitLines Text.isLineEnd page, s.directive? l = none := by
  -- it is enough to look at the lines that the page is put together from
  have hcut : ∀ ls : List Text, Text.LineByLine ls → (∀ l ∈ ls, s.directive? l = none) →
      ∀ l ∈ Text.splitLines Text.isLineEnd ls.flatten, s.directive? l = none := by
    intro ls hls hnone
    have hread := Text.filterMap_splitLines_flatten
      (fun l => Setting.directive?_concat (s := s) rfl l)
      (Setting.directive?_of_parse?_eq_none Directive.parse?_lineFeed) hls
    rw [List.filterMap_eq_nil_iff.mpr hnone] at hread
    exact List.filterMap_eq_nil_iff.mp hread
  have htexts : ∀ ls : List Line, (∀ l ∈ ls, l ∈ d.lines ∧ l.isMarker = false) →
      ∀ t ∈ ls.map Line.text, s.directive? t = none := fun ls hls =>
    List.forall_mem_map.mpr fun l hl => hplain l (hls l hl).1 (hls l hl).2
  rcases render_cases hpage with
    ⟨hmarkers, rfl⟩ | ⟨before, marker, after, hlines, -, hunmarked, htitle, hheadings, rfl⟩
  · refine hcut _ hwrites.lineByLine (htexts d.lines fun l hl => ⟨hl, ?_⟩)
    simpa using List.filter_eq_nil_iff.mp hmarkers l hl
  · rw [hlines] at hwrites
    obtain ⟨hfront, hafter⟩ := lines_page hwrites
    rw [← hheadings] at hfront
    have hpage := hfront.lineByLine.append hfront.ended hafter
    have hrest : ∀ l ∈ before ++ after, l ∈ d.lines ∧ l.isMarker = false := by
      intro l hl
      refine ⟨?_, hunmarked l hl⟩
      rw [hlines]
      rcases List.mem_append.mp hl with hl | hl
      · exact List.mem_append_left _ hl
      · exact List.mem_append_right _ (List.mem_cons_of_mem _ hl)
    obtain ⟨hbefore, hbehind⟩ := List.forall_mem_append.mp hrest
    rw [Contents.render, ← List.flatten_append, ← List.flatten_append]
    refine hcut _ hpage (List.forall_mem_append.mpr ⟨List.forall_mem_append.mpr
      ⟨htexts before hbefore, List.forall_mem_map.mpr fun row hrow => ?_⟩, htexts after hbehind⟩)
    exact Setting.directive?_of_parse?_eq_none (Contents.parse?_of_mem_lines htitle hrow)

end Document

/-! ## 3. Assemblies -/

namespace Assembler

variable {a a' : Assembler} {verb : Verb} {w w' : Place} {template output : Text}

/-- If only the table of contents is made, nothing is opened during the run. -/
theorem onlyTemplates_contentsOnly :
    OnlyTemplates (a.runOf .contentsOnly w template output).events := by
  obtain ⟨ls, hevents⟩ : ∃ ls : List Line,
      (a.runOf .contentsOnly w template output).events = ls.map Event.line :=
    events_of_citesNothing fun source _ => citesNothing_contentsOnly _ _ _
  intro q t hmem
  rw [hevents] at hmem
  obtain ⟨l, -, heq⟩ := List.mem_map.mp hmem
  cases heq

/-- The verb alone decides which directives are taken up. -/
theorem directive?_setting (line : Text) :
    (a'.setting verb w').directive? line = (a.setting verb w).directive? line := rfl

/-- **No line of a page is a directive that is taken up** if nothing is quoted on it. -/
theorem plain_page {page : Text} (hpage : a.page (a.runOf verb w template output) = .ok page)
    (honly : OnlyTemplates (a.runOf verb w template output).events) :
    ∀ l ∈ Text.splitLines Text.isLineEnd page, (a.setting verb w).directive? l = none := by
  have hrun : (a.runOf verb w template output).failure = none := ok_of_page hpage
  exact Document.plain_render (render_of_page hpage)
    (Setting.writesLines_replay hrun (Setting.quotesAlike_of_onlyTemplates honly) a.tidy)
    (Setting.unmarked_replay hrun honly a.tidy)

/-- **Assembling an output once more changes nothing.** Let an assembly write some bytes; if files
    are included, let none be quoted, so that every directive that is taken up is a template or the
    place of the table of contents. Then an assembly with the same verb and the same encoding, of
    any file that holds these bytes, in any tree and with either policy on blank lines, succeeds and
    writes the same bytes to any output that can be written. -/
theorem reassembly_changes_nothing (a a' : Assembler) (verb : Verb) (w w' : Place)
    (template output template' output' : Text) (bytes : List UInt8)
    (hencoding : a'.encoding = a.encoding)
    (hdoes : a.Does verb w template output (.ok bytes))
    (honly : verb = .includeFiles → OnlyTemplates (a.runOf verb w template output).events)
    (hread : w'.tree.read (Path.absolute w'.cwd template') = .ok bytes)
    (hwrite : w'.tree.CanWrite (Path.absolute w'.cwd output')) :
    a'.Does verb w' template' output' (.ok bytes) := by
  obtain ⟨e, page, hpage, hknown, hname, hbytes⟩ := hdoes.page
  have hall : OnlyTemplates (a.runOf verb w template output).events := by
    cases verb with
    | includeFiles => exact honly rfl
    | contentsOnly => exact onlyTemplates_contentsOnly
  have hopen : Source.ofPath w'.tree a'.encoding (Path.absolute w'.cwd template') =
      .ok ⟨e, bytes⟩ := by
    rw [hencoding]
    exact Source.ofPath_eq_ok_iff.mpr ⟨hknown, hread, hname⟩
  have htext : (a'.setting verb w').textOf? (Path.absolute w'.cwd template') = some page :=
    Setting.textOf?_eq_some_iff.mpr ⟨_, hopen, Encoding.decode_of_encode? hbytes⟩
  have hplain : ∀ l ∈ Text.splitLines Text.isLineEnd page,
      (a'.setting verb w').directive? l = none := fun l hl => by
    rw [directive?_setting (a := a) (w := w)]
    exact plain_page hpage hall l hl
  exact does_plain (FileTree.readAccess_of_read hread) hwrite htext hplain (hencoding ▸ hname)
    hbytes

/-- A template that includes another one, and a file that holds its page. -/
def paged : Place :=
  ⟨⟨[([['t']], .ofAscii "@[page_toc](# T)\r\n\n@[markdown](b)\n\n"), ([['b']], .ofAscii "\n## A"),
    ([['p']], .ofAscii "# T\r\n- [A](#a)\r\n\n## A\n\n")], [([], true)]⟩, ⟨.root, []⟩⟩

/-- The page is written as it is, though blank lines are dropped when it is made. -/
theorem reassembly_changes_nothing_paged :
    keeping.Does .includeFiles paged ['p'] ['o']
      (.ok (File.ofAscii "# T\r\n- [A](#a)\r\n\n## A\n\n").content) :=
  reassembly_changes_nothing ⟨true, none, keeping.encoding⟩ keeping .includeFiles paged paged
    ['t'] ['o'] ['p'] ['o'] _ rfl ⟨by decide +kernel, by decide +kernel⟩
    (fun _ => by decide +kernel) (by decide +kernel) ⟨by decide +kernel, by decide +kernel⟩

end Assembler

end MarkdownTemplate
