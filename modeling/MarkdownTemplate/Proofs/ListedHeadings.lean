import MarkdownTemplate.Proofs.PageLines
import MarkdownTemplate.Proofs.Success
import MarkdownTemplate.Proofs.Transcoding

/-!
# The headings that the table of contents lists

The table of contents is made from the lines of a document. A reader of the output sees a text, and
cuts it into lines by himself. This file fixes

* `Heading.inText` -- the headings that a reader of a text finds;
* `Contents.parse?_item` -- an item of the table is no heading;
* `Document.render_lists` -- a page with a table, and the headings on it;
* **`table_lists_headings`** -- the table on the output lists the headings that a reader finds on
  the rest of it, if what is quoted cuts alike;
* `quoted_break_listed` -- it does not if a quotation is broken by a character that ends no line of
  a template.
-/

namespace MarkdownTemplate

/-! ## 1. Headings of a text -/

namespace Heading

/-- **The headings that a reader of a text finds** on its lines. -/
def inText (t : Text) : List Heading :=
  all (Text.splitLines Text.isLineEnd t)

/-- Of lines that stand one behind another he finds the headings. -/
theorem inText_flatten {ls : List Text} (h : Text.LineByLine ls) : inText ls.flatten = all ls :=
  Text.filterMap_splitLines_flatten (fun l => parse?_concat rfl l) parse?_lineFeed h

theorem all_append (ls ls' : List Text) : all (ls ++ ls') = all ls ++ all ls' :=
  List.filterMap_append ..

end Heading

namespace Contents

/-- The line end of a table makes no difference to the heading that a row is. -/
theorem parse?_append_lineEnd (row : Text) (marker : Line) :
    Heading.parse? (row ++ lineEnd marker) = Heading.parse? row := by
  rcases lineEnd_cases marker with heq | heq
  · rw [heq, Heading.parse?_concat rfl]
  · have hsplit : row ++ ['\r', '\n'] = row ++ ['\r'] ++ ['\n'] := by simp
    rw [heq, hsplit, Heading.parse?_concat rfl, Heading.parse?_concat rfl]

/-- **An item is no heading**: it begins with a hyphen. -/
theorem parse?_item (top : Nat) (h : Heading) : Heading.parse? (item top h) = none := by
  rw [Option.eq_none_iff_forall_ne_some]
  intro x hparse
  have hhead := Heading.head?_of_parse? hparse
  have hspaces : ∀ n : Nat, ∀ rest : Text,
      (List.replicate n ' ' ++ '-' :: rest).dropWhile (· == ' ') = '-' :: rest := by
    intro n rest
    induction n with
    | zero => rfl
    | succ n ih => exact ih
  rw [item, hspaces, List.head?_cons] at hhead
  cases hhead

/-- The only heading on the lines of a table is its title, if that is one. -/
theorem all_lines (marker : Line) (headings : List Heading) :
    Heading.all ((lines marker headings).map (· ++ lineEnd marker)) =
      (Heading.parse? (Text.trim (marker.title.getD []))).toList := by
  have hitems : Heading.all ((headings.map (item (topLevel headings))).map
      (· ++ lineEnd marker)) = [] := by
    rw [Heading.all, List.filterMap_eq_nil_iff]
    intro row hrow
    obtain ⟨row, hmem, rfl⟩ := List.mem_map.mp hrow
    obtain ⟨h, -, rfl⟩ := List.mem_map.mp hmem
    rw [parse?_append_lineEnd, parse?_item]
  rw [lines, List.map_cons, ← List.singleton_append, Heading.all_append, hitems, List.append_nil,
    Heading.all, List.filterMap_cons, parse?_append_lineEnd]
  cases Heading.parse? (Text.trim (marker.title.getD [])) <;> rfl

end Contents

/-! ## 2. A page with a table of contents -/

/-- **The table on a page lists the headings of the rest**: the page is the text `before` the table,
    the table, and the text `after` it, each at the start of a line. The table is the one for the
    headings that a reader finds on `before` and `after` put together, and he finds the same ones
    on the page; the only other heading is the title of the table. -/
structure Contents.Lists (marker : Line) (before after page : Text) : Prop where
  page_eq : page = before ++ Contents.render marker (Heading.inText (before ++ after)) ++ after
  before_ended : before ≠ [] → before.isTerminated = true
  headings_eq : Heading.inText (before ++ after) =
    Heading.inText before ++ Heading.inText after
  page_headings : Heading.inText page = Heading.inText before ++
    (Heading.parse? (Text.trim (marker.title.getD []))).toList ++ Heading.inText after

namespace Document

/-- **A page with a table of contents** lists its headings if the lines of the document stand one
    behind another. -/
theorem render_lists {d : Document} {page : Text} (hpage : d.render = .ok page)
    (hmarkers : d.markers ≠ []) (hlines : Setting.WritesLines 0 d.lines) :
    ∃ front marker back, d.lines = front ++ marker :: back ∧ d.markers = [marker] ∧
      Contents.Lists marker (front.map Line.text).flatten (back.map Line.text).flatten page := by
  rcases render_cases hpage with
    ⟨hnone, -⟩ | ⟨front, marker, back, hsplit, hmarker, -, -, hheadings, rfl⟩
  · exact absurd hnone hmarkers
  · rw [hsplit] at hlines
    obtain ⟨hfront, hback⟩ := lines_page hlines
    have hbefore : Text.EndedLines (front.map Line.text) :=
      ⟨hfront.lineByLine.sublist (List.sublist_append_left ..),
        fun l hl => hfront.ended l (List.mem_append_left _ hl)⟩
    have hrest : Heading.inText ((front.map Line.text).flatten ++ (back.map Line.text).flatten) =
        Heading.all ((front ++ back).map Line.text) := by
      have hlines := hbefore.lineByLine.append hbefore.ended hback
      rw [← List.flatten_append, Heading.inText_flatten hlines, List.map_append]
    refine ⟨front, marker, back, hsplit, hmarker, ?_, hbefore.isTerminated, ?_, ?_⟩
    · rw [hrest, hheadings]
    · rw [hrest, List.map_append, Heading.all_append, Heading.inText_flatten hbefore.lineByLine,
        Heading.inText_flatten hback]
    · have hpage := hfront.lineByLine.append hfront.ended hback
      rw [hheadings, Contents.render, ← List.flatten_append, ← List.flatten_append,
        Heading.inText_flatten hpage, Heading.all_append, Heading.all_append, Contents.all_lines,
        Heading.inText_flatten hbefore.lineByLine, Heading.inText_flatten hback]

end Document

namespace Setting

variable {s : Setting} {template : Path} {n : Nat} {d : Directive} {output : Option Path}

/-- **A run that succeeds marks every place** of the table of contents in the template. -/
theorem mem_marks_of_directiveAt (hok : (s.expand template output).failure = none)
    (hat : s.DirectiveAt template n d) (hcites : d.citesFile = false) :
    (some d.target, 0) ∈ marks (s.expand template output).lines := by
  obtain ⟨text, body, htext, hbody, hokBody, hevents⟩ := expand_ok hok
  obtain ⟨occ, hocc⟩ := hbody.enumerates hokBody
  have hplace : ([n], d.target) ∈ occ :=
    (hocc.mem_iff _).mpr ((markerAt_iff htext ([n], d.target)).mp (.here hat hcites))
  have hmarks := hocc.marks_eq
  rw [Run.lines, hevents]
  rw [Run.lines] at hmarks
  rw [hmarks]
  exact List.mem_map.mpr ⟨_, hplace, by simp⟩

end Setting

/-! ## 3. The output -/

namespace Assembler

variable {a : Assembler} {verb : Verb} {w : Place} {template output : Text}

/-- **What an assembly that succeeds has written** is the page of its run, encoded, so that a reader
    of the output finds the page. -/
theorem written_page (hok : (a.assemble verb w template output).failure = none) :
    ∃ e f page, Encoding.ofName? a.encoding = some e ∧
      (a.assemble verb w template output).tree.file? (Path.absolute w.cwd output) = some f ∧
      a.page (a.runOf verb w template output) = .ok page ∧ e.decode f.content = some page := by
  rcases a.assemble_cases verb w template output with
    ⟨e, he, -⟩ | ⟨e, page, bytes, -, hpage, hcheck, hname, hbytes, -, htree⟩
  · cases he.symm.trans hok
  · obtain ⟨f, hf, hcontent⟩ : ∃ f, (w.tree.store (Path.absolute w.cwd output) bytes).file?
        (Path.absolute w.cwd output) = some f ∧ f.content = bytes :=
      FileTree.file?_store (FileTree.hindrance?_of_checkWrite hcheck)
    refine ⟨e, f, page, hname, by rw [htree, hf], hpage, ?_⟩
    rw [hcontent]
    exact Encoding.decode_of_encode? hbytes

/-- **The table of contents on the output lists the headings of the rest of it.** Let an assembly
    succeed whose template holds a place of the table of contents, and let the files that it quotes
    be cut into the same lines as templates. Then the output is the text before the table, the
    table and the text behind it, and a reader of the output finds on its lines exactly the headings
    that the table lists, in their order, and the title of the table. -/
theorem table_lists_headings (a : Assembler) (verb : Verb) (w : Place) (template output : Text)
    (n : Nat) (d : Directive) (hok : (a.assemble verb w template output).failure = none)
    (hat : (a.setting verb w).DirectiveAt (Path.absolute w.cwd template) n d)
    (hcites : d.citesFile = false)
    (hquotes : (a.setting verb w).QuotesAlike (a.runOf verb w template output).events) :
    ∃ e f page front marker back, Encoding.ofName? a.encoding = some e ∧
      (a.assemble verb w template output).tree.file? (Path.absolute w.cwd output) = some f ∧
      e.decode f.content = some page ∧
      ((Document.empty a.tidy).replay (a.runOf verb w template output).events).lines =
        front ++ marker :: back ∧
      marker.title = some d.target ∧
      Contents.Lists marker (front.map Line.text).flatten (back.map Line.text).flatten page := by
  obtain ⟨e, f, page, hname, hf, hpage, hdecode⟩ := written_page hok
  have hrun : (a.runOf verb w template output).failure = none := ok_of_page hpage
  have hmarks := Setting.mem_marks_of_directiveAt hrun hat hcites
  rw [Run.lines, ← Setting.marks_replay a.tidy] at hmarks
  have hwrites := Setting.writesLines_replay hrun hquotes a.tidy
  have hrender := render_of_page hpage
  unfold runOf at hrender ⊢
  generalize (Document.empty a.tidy).replay _ = document at hmarks hwrites hrender ⊢
  change _ ∈ document.markers.map _ at hmarks
  have hne : document.markers ≠ [] := by
    intro hnil
    rw [hnil] at hmarks
    cases hmarks
  obtain ⟨front, marker, back, hlines, hmarker, hlists⟩ := document.render_lists hrender hne hwrites
  rw [hmarker, List.map_singleton, List.mem_singleton, Prod.mk.injEq] at hmarks
  exact ⟨e, f, page, front, marker, back, hname, hf, hdecode, hlines, hmarks.1.symm, hlists⟩

/-- A template with a place of the table of contents that quotes a file. -/
def quoting (content : String) : Place :=
  ⟨⟨[([['t']], .ofAscii "@[page_toc](# T)\n@[pre](q)\n"), ([['q']], .ofAscii content)],
    [([], true)]⟩, ⟨.root, []⟩⟩

/-- The place of the table of contents in that template. -/
def placed : Directive :=
  ⟨.pageToc, "# T".toList, "@[page_toc](# T)".toList, none⟩

theorem placed_directiveAt (content : String) :
    (keeping.setting .includeFiles (quoting content)).DirectiveAt (Path.absolute ⟨.root, []⟩ ['t'])
      1 placed := by
  refine ⟨"@[page_toc](# T)\n@[pre](q)\n".toList, "@[page_toc](# T)\n".toList, ?_, ?_, ?_⟩
  · rfl
  · decide +kernel
  · rfl

/-- The heading in a quoted file is listed. -/
theorem table_lists_headings_quoted :
    ∃ f page front marker back,
      (keeping.assemble .includeFiles (quoting "# B\n") ['t'] ['o']).tree.file?
        (Path.absolute ⟨.root, []⟩ ['o']) = some f ∧
      Encoding.utf8.decode f.content = some page ∧ marker.title = some "# T".toList ∧
      Contents.Lists marker front back page := by
  obtain ⟨e, f, page, front, marker, back, hname, hf, hdecode, -, htitle, hlists⟩ :=
    table_lists_headings keeping .includeFiles (quoting "# B\n") ['t'] ['o'] 1 placed
      (by decide +kernel) (placed_directiveAt _) rfl (by decide +kernel)
  have hutf8 : Encoding.ofName? keeping.encoding = some .utf8 := by decide +kernel
  cases hname.symm.trans hutf8
  exact ⟨f, page, _, marker, _, hf, hdecode, htitle, hlists⟩

/-- **A quotation that is broken by another character** than a line feed or a carriage return: what
    stands behind a vertical tabulator is listed, though no line of the output begins there. -/
theorem quoted_break_listed :
    ¬ ∀ (a : Assembler) (verb : Verb) (w : Place) (template output : Text) (n : Nat)
      (d : Directive), (a.assemble verb w template output).failure = none →
      (a.setting verb w).DirectiveAt (Path.absolute w.cwd template) n d → d.citesFile = false →
      ∃ e f page front marker back, Encoding.ofName? a.encoding = some e ∧
        (a.assemble verb w template output).tree.file? (Path.absolute w.cwd output) = some f ∧
        e.decode f.content = some page ∧
        ((Document.empty a.tidy).replay (a.runOf verb w template output).events).lines =
          front ++ marker :: back ∧
        marker.title = some d.target ∧
        Contents.Lists marker (front.map Line.text).flatten (back.map Line.text).flatten page := by
  intro h
  obtain ⟨e, f, page, front, marker, back, hname, hf, hdecode, hlines, htitle, hlists⟩ :=
    h keeping .includeFiles (quoting "x\x0b# B\n") ['t'] ['o'] 1 placed (by decide +kernel)
      (placed_directiveAt _) rfl
  have hutf8 : Encoding.ofName? keeping.encoding = some .utf8 := by decide +kernel
  cases hname.symm.trans hutf8
  have hwritten : ((keeping.assemble .includeFiles (quoting "x\x0b# B\n") ['t'] ['o']).tree.file?
      (Path.absolute ⟨.root, []⟩ ['o'])).map (fun f => Encoding.utf8.decode f.content) =
        some (some "# T\n- [B](#b)\n<pre>\nx\x0b# B\n</pre>\n".toList) := by decide +kernel
  have hpage : page = "# T\n- [B](#b)\n<pre>\nx\x0b# B\n</pre>\n".toList := by
    rw [show (quoting "x\x0b# B\n").cwd = ⟨.root, []⟩ from rfl] at hf
    rw [hf, Option.map_some, hdecode] at hwritten
    simpa using hwritten
  have hdocument : ((Document.empty keeping.tidy).replay
      (keeping.runOf .includeFiles (quoting "x\x0b# B\n") ['t'] ['o']).events).lines =
        ⟨"@[page_toc](# T)\n".toList, 0, some "# T".toList⟩ ::
          ["<pre>\n", "x\x0b", "# B\n", "</pre>\n"].map fun s => ⟨s.toList, 0, none⟩ := by
    decide +kernel
  rw [hdocument] at hlines
  cases front with
  | nil =>
      obtain ⟨rfl, rfl⟩ := List.cons.inj hlines
      have hrest := hlists.page_eq
      rw [hpage] at hrest
      exact absurd hrest (by decide +kernel)
  | cons first front =>
      -- the other lines of the document are no markers
      have hmem : marker ∈ ["<pre>\n", "x\x0b", "# B\n", "</pre>\n"].map
          fun s => (⟨s.toList, 0, none⟩ : Line) := by
        rw [(List.cons.inj hlines).2]
        simp
      obtain ⟨s, -, rfl⟩ := List.mem_map.mp hmem
      cases htitle

end Assembler

end MarkdownTemplate
