import MarkdownTemplate.Proofs.Access
import MarkdownTemplate.Proofs.Success

/-!
# Templates that cite no files

If no directive that is taken up cites a file, a template is read from its first line to its last
and every line is written. This file says what becomes of such a template, and fixes

* `Setting.CitesNothing` -- no line is a directive that is taken up and cites a file;
* `Setting.copy` -- the run of lines of which none does; `Setting.expand_of_citesNothing` -- it is
  the run of the template;
* `Document.replay_line` -- a document takes in every line of such a run;
* `Assembler.Does` -- what an assembly does: an error, or the bytes that it writes;
* `Assembler.does_plain` -- a template without directives is copied.
-/

namespace MarkdownTemplate

namespace Setting

variable {s : Setting} {stack : Stack} {template : Path} {depth : Int} {number : Nat}
  {line : Text} {lines : List Text} {r : Run} {output : Option Path}

/-! ## 1. Runs -/

/-- No line is a directive that is taken up and cites a file. -/
def CitesNothing (s : Setting) (lines : List Text) : Prop :=
  ∀ line ∈ lines, ∀ d, s.directive? line = some d → d.citesFile = false

/-- A line as it is written: a marker if it is the place of the table of contents. -/
def copied (s : Setting) (depth : Int) (line : Text) : Line :=
  ⟨lineAt depth line, depth, (s.directive? line).map Directive.target⟩

/-- The run of lines that cite nothing: every line is written. -/
def copy (s : Setting) (depth : Int) (lines : List Text) : Run :=
  .did ((lines.map (s.copied depth)).map .line)

/-- **Lines that cite nothing are copied**, whatever the files are. -/
theorem expands_copy (h : s.CitesNothing lines) :
    Expands s stack template depth number lines (s.copy depth lines) := by
  induction lines generalizing number with
  | nil => exact .done
  | cons line rest ih =>
      obtain ⟨hline, hrest⟩ := List.forall_mem_cons.mp h
      have hexpands : Expands s stack template depth (number + 1) rest (s.copy depth rest) :=
        ih hrest
      cases hd : s.directive? line with
      | none =>
          have hcopied : s.copied depth line = ⟨lineAt depth line, depth, none⟩ := by
            rw [copied, hd, Option.map_none]
          rw [← directive?_lineAt s depth] at hd
          have hstep := Expands.copied hd hexpands
          rwa [← hcopied] at hstep
      | some d =>
          have hcopied : s.copied depth line = ⟨lineAt depth line, depth, some d.target⟩ := by
            rw [copied, hd, Option.map_some]
          have hcites := hline d hd
          rw [← directive?_lineAt s depth] at hd
          have hstep := Expands.marked hd hcites hexpands
          rwa [← hcopied] at hstep

/-- **The run of a template that cites nothing.** -/
theorem expand_of_citesNothing {source : Source}
    (hopen : Source.ofPath s.tree s.encoding template = .ok source)
    (h : s.CitesNothing source.reading.lines) :
    s.expand template output =
      source.close (.unreadableTemplate template) (s.copy 0 source.reading.lines) :=
  (runOf_expand s template output).unique (.opened hopen (expands_copy h))

end Setting

/-! ## 2. Documents -/

namespace Document

theorem foldl_record_line (ls : List Line) : ∀ (d : Document) (starts : List Nat),
    d.afterInclusion = false →
    (ls.map Event.line).foldl record (d, starts) = ({ d with lines := d.lines ++ ls }, starts) := by
  induction ls with
  | nil =>
      intro d starts _
      simp
  | cons l ls ih =>
      intro d starts hafter
      have hwrite : d.write l = { d with lines := d.lines ++ [l], afterInclusion := false } := by
        simp [write, hafter]
      rw [List.map_cons, List.foldl_cons]
      show (ls.map Event.line).foldl record (d.write l, starts) = _
      rw [hwrite, ih _ starts rfl, List.append_assoc, List.singleton_append, hafter]

/-- **Without inclusions a document takes in every line**, with either policy on blank lines. -/
theorem replay_line (tidy : Bool) (ls : List Line) :
    (empty tidy).replay (ls.map Event.line) = ⟨tidy, ls, false⟩ := by
  rw [replay, foldl_record_line ls (empty tidy) [] rfl]
  rfl

/-- Lines without a marker become the text that they make. -/
theorem render_plain (tidy after : Bool) (ls : List Text) :
    (⟨tidy, ls.map fun l => ⟨l, 0, none⟩, after⟩ : Document).render = .ok ls.flatten := by
  have hnone : (⟨tidy, ls.map fun l => ⟨l, 0, none⟩, after⟩ : Document).markers = [] := by
    refine List.filter_eq_nil_iff.mpr fun l hl => ?_
    obtain ⟨t, -, rfl⟩ := List.mem_map.mp hl
    simp [Line.isMarker]
  rw [render, hnone]
  show Except.ok _ = _
  rw [text, List.map_map]
  exact congrArg (fun ls => Except.ok (List.flatten ls)) (List.map_id ls)

end Document

/-! ## 3. Assemblies -/

namespace Assembler

variable {a : Assembler} {verb : Verb} {w : Place} {template output text : Text} {e : Error}
  {bytes : List UInt8}

/-- **What an assembly does**: it fails with an error and leaves the tree alone, or it succeeds and
    the output holds these bytes. -/
def Does (a : Assembler) (verb : Verb) (w : Place) (template output : Text) :
    Except Error (List UInt8) → Prop
  | .error e => (a.assemble verb w template output).failure = some e ∧
      (a.assemble verb w template output).tree = w.tree
  | .ok bytes => (a.assemble verb w template output).failure = none ∧
      (a.assemble verb w template output).tree = w.tree.store (Path.absolute w.cwd output) bytes

/-- **No assembly does two things.** -/
theorem Does.unique {x y : Except Error (List UInt8)} (hx : a.Does verb w template output x)
    (hy : a.Does verb w template output y) : x = y := by
  cases x with
  | error e =>
      cases y with
      | error e' => rw [Option.some.inj (hx.1.symm.trans hy.1)]
      | ok bytes => cases hx.1.symm.trans hy.1
  | ok bytes =>
      cases y with
      | error e => cases hx.1.symm.trans hy.1
      | ok bytes' =>
          have htree := hx.2.symm.trans hy.2
          have hfile := congrArg
            (fun t : FileTree => (t.files.lookup (Path.absolute w.cwd output).names).map
              File.content) htree
          simp only [FileTree.lookup_store, if_pos, Option.map_some, Option.some.injEq] at hfile
          rw [hfile]

/-- **Where the bytes come from** that an assembly writes: they are the page of its run, encoded. -/
theorem Does.page (h : a.Does verb w template output (.ok bytes)) :
    ∃ e page, a.page (a.runOf verb w template output) = .ok page ∧
      a.encoding.hasNull = false ∧ Encoding.ofName? a.encoding = some e ∧
      e.encode? page = some bytes := by
  rcases a.assemble_cases verb w template output with
    ⟨e, hfail, -⟩ | ⟨e, page, bytes', -, hpage, -, hname, hbytes, hok, htree⟩
  · cases h.1.symm.trans hfail
  · have hdoes : a.Does verb w template output (.ok bytes') := ⟨hok, htree⟩
    cases h.unique hdoes
    obtain ⟨text, -, htext, -⟩ := Setting.expand_ok (ok_of_page hpage)
    obtain ⟨source, hopen, -⟩ := Setting.textOf?_eq_some_iff.mp htext
    exact ⟨e, page, hpage, (Source.ofPath_eq_ok_iff.mp hopen).1, hname, hbytes⟩

section Accessible

variable (haccess : inaccessible? w.tree (Path.absolute w.cwd template)
  (Path.absolute w.cwd output) = none)

include haccess

theorem does_written {encoding : Encoding}
    (hpage : a.page (a.runOf verb w template output) = .ok text)
    (hcheck : w.tree.checkWrite (Path.absolute w.cwd output) = none)
    (hname : Encoding.ofName? a.encoding = some encoding)
    (hbytes : encoding.encode? text = some bytes) :
    a.Does verb w template output (.ok bytes) := by
  have hwrite : a.write w.tree (Path.absolute w.cwd output) text =
      (w.tree.store (Path.absolute w.cwd output) bytes, none) := by
    simp only [write, hcheck, hname, hbytes]
  rw [Does, assemble_of_written haccess hpage hwrite]
  exact ⟨rfl, rfl⟩

end Accessible

/-- The page of a template without directives is its text. -/
theorem page_plain
    (htext : (a.setting verb w).textOf? (Path.absolute w.cwd template) = some text)
    (hplain : ∀ l ∈ Text.splitLines Text.isLineEnd text, (a.setting verb w).directive? l = none) :
    a.page (a.runOf verb w template output) = .ok text := by
  obtain ⟨source, hopen, hsource⟩ := Setting.textOf?_eq_some_iff.mp htext
  have hreading := Source.reading_of_text hsource
  have hcites : (a.setting verb w).CitesNothing source.reading.lines := by
    rw [hreading]
    intro line hline d hd
    cases (hplain line hline).symm.trans hd
  have hrun : a.runOf verb w template output =
      (a.setting verb w).copy 0 (Text.splitLines Text.isLineEnd text) := by
    rw [runOf, Setting.expand_of_citesNothing hopen hcites, Source.close, hreading]
    exact Run.andThen_nothing _
  have hlines : (Text.splitLines Text.isLineEnd text).map ((a.setting verb w).copied 0) =
      (Text.splitLines Text.isLineEnd text).map fun l => ⟨l, 0, none⟩ :=
    List.map_congr_left fun l hl => by
      rw [Setting.copied, hplain l hl]
      rfl
  have hdocument : (Document.empty a.tidy).replay (a.runOf verb w template output).events =
      ⟨a.tidy, (Text.splitLines Text.isLineEnd text).map fun l => ⟨l, 0, none⟩, false⟩ := by
    rw [hrun, ← hlines]
    exact Document.replay_line ..
  have hok : (a.runOf verb w template output).failure = none := by
    rw [hrun]
    rfl
  rw [page, hok]
  show Document.render _ = _
  rw [hdocument, Document.render_plain, Text.flatten_splitLines]

/-- **A template without directives is copied**: the output is its text, encoded. -/
theorem does_plain {encoding : Encoding}
    (hread : w.tree.readAccess (Path.absolute w.cwd template) = .granted)
    (hwrite : w.tree.CanWrite (Path.absolute w.cwd output))
    (htext : (a.setting verb w).textOf? (Path.absolute w.cwd template) = some text)
    (hplain : ∀ l ∈ Text.splitLines Text.isLineEnd text, (a.setting verb w).directive? l = none)
    (hname : Encoding.ofName? a.encoding = some encoding)
    (hbytes : encoding.encode? text = some bytes) :
    a.Does verb w template output (.ok bytes) :=
  does_written (inaccessible?_eq_none_iff.mpr ⟨hread, hwrite.access⟩) (page_plain htext hplain)
    hwrite.check hname hbytes

end Assembler

end MarkdownTemplate
