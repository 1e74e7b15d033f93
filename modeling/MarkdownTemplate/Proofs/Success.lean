import MarkdownTemplate.Proofs.AllOrNothing
import MarkdownTemplate.Proofs.Citations

/-!
# When an assembly succeeds

An assembly goes through a template and everything that it includes, and then looks at the markers
that it has met. Whether it succeeds can be told from the files. This file fixes

* `Setting.MarkerAt` -- a place of the table of contents, by the way that leads to it: a template
  that is included twice holds its places twice;
* `Expands.enumerates` -- a run that succeeds writes one marker for each place;
* `Setting.ContentsInOrder` -- there is no place, or one in the template itself with a proper title;
* **`assemble_succeeds_iff`** -- an assembly succeeds exactly if the citations, the places of the
  table of contents and the output are in order.
-/

namespace MarkdownTemplate

namespace Setting

variable {s : Setting} {stack : Stack} {template p : Path} {depth : Int} {number n : Nat}
  {line text : Text} {lines : List Text} {d : Directive} {r : Run} {numbered : List (Text × Nat)}

/-! ## 1. The places of the table of contents -/

/-- **A place of the table of contents** with this title, as seen from the file at `p`. Its address
    is the line numbers on the way to it: those of the directives that lead from one template to
    the next, and that of the place itself. -/
inductive MarkerAt (s : Setting) : Path → List Nat → Text → Prop where
  | here {p : Path} {n : Nat} {d : Directive} (h : s.DirectiveAt p n d)
      (hcites : d.citesFile = false) : MarkerAt s p [n] d.target
  | inside {p : Path} {n : Nat} {d : Directive} {address : List Nat} {title : Text}
      (h : s.DirectiveAt p n d) (hrec : d.isRecursive = true)
      (hmarker : MarkerAt s (d.includee p) address title) : MarkerAt s p (n :: address) title

/-- A place to which one of these lines of the file at `p` leads. -/
def MarkerAmong (s : Setting) (p : Path) (numbered : List (Text × Nat)) (x : List Nat × Text) :
    Prop :=
  ∃ line n d, (line, n) ∈ numbered ∧ s.directive? line = some d ∧
    (d.citesFile = false ∧ x = ([n], d.target) ∨
      d.isRecursive = true ∧ ∃ address title, x = (n :: address, title) ∧
        s.MarkerAt (d.includee p) address title)

theorem markerAt_iff (htext : s.textOf? p = some text) (x : List Nat × Text) :
    s.MarkerAt p x.1 x.2 ↔
      s.MarkerAmong p ((Text.splitLines Text.isLineEnd text).zipIdx 1) x := by
  obtain ⟨address, title⟩ := x
  constructor
  · intro h
    cases h with
    | here h hcites =>
        obtain ⟨text', line, htext', hmem, hline⟩ := h
        cases htext.symm.trans htext'
        exact ⟨line, _, _, hmem, hline, Or.inl ⟨hcites, rfl⟩⟩
    | inside h hrec hmarker =>
        obtain ⟨text', line, htext', hmem, hline⟩ := h
        cases htext.symm.trans htext'
        exact ⟨line, _, _, hmem, hline, Or.inr ⟨hrec, _, _, rfl, hmarker⟩⟩
  · intro h
    obtain ⟨line, n, d, hmem, hline, ⟨hcites, heq⟩ | ⟨hrec, address', title', heq, hmarker⟩⟩ := h
    · cases heq
      exact .here ⟨text, line, htext, hmem, hline⟩ hcites
    · cases heq
      exact .inside ⟨text, line, htext, hmem, hline⟩ hrec hmarker

theorem not_markerAmong_nil (x : List Nat × Text) : ¬ s.MarkerAmong p [] x := by
  intro h
  obtain ⟨line, n, d, hmem, -⟩ := h
  cases hmem

/-- The address begins with the number of one of the lines. -/
theorem MarkerAmong.le_head {x : List Nat × Text}
    (h : s.MarkerAmong p (lines.zipIdx number) x) : ∃ n rest, x.1 = n :: rest ∧ number ≤ n := by
  obtain ⟨line, n, d, hmem, -, ⟨-, rfl⟩ | ⟨-, address, title, rfl, -⟩⟩ := h
  · exact ⟨n, [], rfl, List.le_snd_of_mem_zipIdx hmem⟩
  · exact ⟨n, address, rfl, List.le_snd_of_mem_zipIdx hmem⟩

section FirstLine

variable (x : List Nat × Text)

/-- A line that is no directive leads nowhere. -/
theorem markerAmong_cons_none (hline : s.directive? line = none) :
    s.MarkerAmong p ((line, n) :: numbered) x ↔ s.MarkerAmong p numbered x := by
  constructor
  · intro h
    obtain ⟨line', n', d, hmem, hd, h⟩ := h
    rcases List.mem_cons.mp hmem with heq | hmem
    · cases heq
      cases hline.symm.trans hd
    · exact ⟨line', n', d, hmem, hd, h⟩
  · intro h
    obtain ⟨line', n', d, hmem, h⟩ := h
    exact ⟨line', n', d, List.mem_cons_of_mem _ hmem, h⟩

/-- A directive is the place itself, leads to those of a template, or leads nowhere. -/
theorem markerAmong_cons_some (hline : s.directive? line = some d) :
    s.MarkerAmong p ((line, n) :: numbered) x ↔
      (d.citesFile = false ∧ x = ([n], d.target) ∨
        d.isRecursive = true ∧ ∃ address title, x = (n :: address, title) ∧
          s.MarkerAt (d.includee p) address title) ∨ s.MarkerAmong p numbered x := by
  constructor
  · intro h
    obtain ⟨line', n', d', hmem, hd, h⟩ := h
    rcases List.mem_cons.mp hmem with heq | hmem
    · cases heq
      cases hline.symm.trans hd
      exact Or.inl h
    · exact Or.inr ⟨line', n', d', hmem, hd, h⟩
  · intro h
    rcases h with h | ⟨line', n', d', hmem, h⟩
    · exact ⟨line, n, d, List.mem_cons_self, hline, h⟩
    · exact ⟨line', n', d', List.mem_cons_of_mem _ hmem, h⟩

end FirstLine

/-! ## 2. The markers of a run -/

/-- What the table of contents needs of the markers among `ls`: their titles and depths. -/
def marks (ls : List Line) : List (Option Text × Int) :=
  (ls.filter Line.isMarker).map fun l => (l.title, l.depth)

theorem marks_append (ls ls' : List Line) : marks (ls ++ ls') = marks ls ++ marks ls' := by
  simp [marks]

/-- A quotation holds no markers. -/
theorem marks_quotedLines (d : Directive) (depth : Int) (content : Text) :
    marks (quotedLines d depth content) = [] := by
  unfold marks
  rw [List.map_eq_nil_iff, List.filter_eq_nil_iff]
  intro l hl
  obtain ⟨t, -, rfl⟩ := List.mem_map.mp hl
  simp [Line.isMarker]

/-- **The markers among `ls` are the places `occ`**, each once: they have the same titles, and a
    marker lies as deep below `depth` as its address has steps. -/
structure Enumerates (s : Setting) (p : Path) (numbered : List (Text × Nat)) (depth : Int)
    (ls : List Line) (occ : List (List Nat × Text)) : Prop where
  nodup : occ.Nodup
  mem_iff : ∀ x, x ∈ occ ↔ s.MarkerAmong p numbered x
  marks_eq : marks ls = occ.map fun x => (some x.2, depth + x.1.length - 1)

/-- **One line, and then the rest**: the places to which the line leads are not among those to which
    the rest leads, since their addresses begin with its number. -/
theorem Enumerates.cons {ls ls' : List Line} {occ occ' : List (List Nat × Text)}
    (hrest : Enumerates s p (lines.zipIdx (number + 1)) depth ls' occ') (hnodup : occ.Nodup)
    (hhead : ∀ x ∈ occ, x.1.head? = some number)
    (hmem : ∀ x, s.MarkerAmong p ((line, number) :: lines.zipIdx (number + 1)) x ↔
      x ∈ occ ∨ s.MarkerAmong p (lines.zipIdx (number + 1)) x)
    (hmarks : marks ls = occ.map fun x => (some x.2, depth + x.1.length - 1)) :
    Enumerates s p ((line :: lines).zipIdx number) depth (ls ++ ls') (occ ++ occ') where
  nodup := by
    refine List.nodup_append.mpr ⟨hnodup, hrest.nodup, ?_⟩
    intro x hx y hy heq
    subst heq
    obtain ⟨n, rest, haddress, hle⟩ := ((hrest.mem_iff x).mp hy).le_head
    have hfirst := hhead x hx
    rw [haddress, List.head?_cons, Option.some.injEq] at hfirst
    omega
  mem_iff x := by
    rw [List.mem_append, hrest.mem_iff x, List.zipIdx_cons, hmem x]
  marks_eq := by
    rw [marks_append, hmarks, hrest.marks_eq, List.map_append]

/-- A line that leads to no place. -/
theorem Enumerates.cons_nil {ls ls' : List Line} {occ : List (List Nat × Text)}
    (hrest : Enumerates s p (lines.zipIdx (number + 1)) depth ls' occ)
    (hmem : ∀ x, s.MarkerAmong p ((line, number) :: lines.zipIdx (number + 1)) x ↔
      s.MarkerAmong p (lines.zipIdx (number + 1)) x)
    (hmarks : marks ls = []) :
    Enumerates s p ((line :: lines).zipIdx number) depth (ls ++ ls') occ :=
  hrest.cons List.nodup_nil (by simp) (fun x => by simp [hmem x]) (by simp [hmarks])

/-- **A run that succeeds writes one marker for each place** to which its lines lead. -/
theorem Expands.enumerates (h : Expands s stack template depth number lines r)
    (hok : r.failure = none) :
    ∃ occ, Enumerates s template (lines.zipIdx number) depth r.lines occ := by
  induction h, hok using Expands.ok_induction with
  | done => exact ⟨[], .nil, fun x => by simp [not_markerAmong_nil], rfl⟩
  | copied hline _ _ ih =>
      rw [directive?_lineAt] at hline
      obtain ⟨occ, hocc⟩ := ih
      rw [Run.lines_after]
      exact ⟨occ, hocc.cons_nil (fun x => markerAmong_cons_none x hline) rfl⟩
  | @marked _ template depth number _ _ d _ hline hcites _ _ ih =>
      rw [directive?_lineAt] at hline
      obtain ⟨occ, hocc⟩ := ih
      have hrec : d.isRecursive ≠ true := fun h => by
        simp [citesFile_of_isRecursive h] at hcites
      rw [Run.lines_after]
      refine ⟨_, hocc.cons (List.nodup_singleton ([number], d.target)) (by simp) (fun x => ?_) ?_⟩
      · rw [markerAmong_cons_some x hline]
        simp [hcites, hrec]
      · have hdepth : depth + ([number].length : Int) - 1 = depth := by simp
        rw [List.map_singleton, hdepth]
        rfl
  | quoted hline hcites hrec _ _ _ _ ih =>
      rw [directive?_lineAt] at hline
      obtain ⟨occ, hocc⟩ := ih
      rw [Run.lines_after, written_inclusion, written_quote]
      refine ⟨occ, hocc.cons_nil (fun x => ?_) (marks_quotedLines ..)⟩
      rw [markerAmong_cons_some x hline]
      simp [hcites, hrec]
  | @nested _ template depth number _ _ d _ body _ hline hrec _ hopen _ _ hcomplete _ _
        ihBody ihRest =>
      rw [directive?_lineAt] at hline
      obtain ⟨inner, hinner⟩ := ihBody
      obtain ⟨occ, hocc⟩ := ihRest
      obtain ⟨text, htext, heq⟩ := lines_of_complete hopen hcomplete
      rw [heq] at hinner
      have hcites : d.citesFile = true := citesFile_of_isRecursive hrec
      rw [Run.lines_after, written_inclusion]
      -- the way to every place inside leads through this line
      have hnodup : (inner.map fun x => (number :: x.1, x.2)).Nodup := hinner.nodup.map
        fun x y h => by
          simp only [Prod.mk.injEq, List.cons.injEq, true_and] at h
          exact Prod.ext h.1 h.2
      refine ⟨_, hocc.cons hnodup ?_ ?_ ?_⟩
      · intro x hx
        obtain ⟨y, -, rfl⟩ := List.mem_map.mp hx
        rfl
      · intro x
        rw [markerAmong_cons_some x hline, List.mem_map]
        simp only [hinner.mem_iff, ← markerAt_iff htext]
        simp [hcites, hrec, eq_comm, and_comm]
      · show marks body.lines = _
        rw [hinner.marks_eq, List.map_map]
        refine List.map_congr_left fun x _ => ?_
        simp only [Function.comp_apply, List.length_cons, Prod.mk.injEq, true_and]
        push_cast
        omega

/-! ## 3. The table of contents -/

/-- **The places of the table of contents are in order**: there is none, or there is one, on a line
    of the template itself, and its title is a heading. -/
def ContentsInOrder (s : Setting) (p : Path) : Prop :=
  (∀ address title, ¬ s.MarkerAt p address title) ∨
    ∃ n title, (∀ address title', s.MarkerAt p address title' ↔ address = [n] ∧ title' = title) ∧
      (Heading.parse? title).isSome = true

/-- What the markers of a document must be like for it to become a page. -/
def Placeable (marks : List (Option Text × Int)) : Prop :=
  marks = [] ∨ ∃ title, marks = [(some title, 0)] ∧ (Heading.parse? title).isSome = true

/-- The markers of a run are placeable exactly if the places that they stand for are in order. -/
theorem Enumerates.placeable_iff {ls : List Line} {occ : List (List Nat × Text)}
    (htext : s.textOf? p = some text)
    (h : Enumerates s p ((Text.splitLines Text.isLineEnd text).zipIdx 1) 0 ls occ) :
    Placeable (marks ls) ↔ s.ContentsInOrder p := by
  have hmem : ∀ x, x ∈ occ ↔ s.MarkerAt p x.1 x.2 := fun x => by
    rw [h.mem_iff x, markerAt_iff htext x]
  constructor
  · intro h
    rcases h with hnone | ⟨title, hone, hparse⟩
    · refine Or.inl fun address title hmarker => ?_
      rw [h.marks_eq, List.map_eq_nil_iff] at hnone
      have hin := (hmem (address, title)).mpr hmarker
      rw [hnone] at hin
      cases hin
    · rw [h.marks_eq, List.map_eq_singleton_iff] at hone
      obtain ⟨⟨address, title'⟩, hocc, heq⟩ := hone
      simp only [Prod.mk.injEq, Option.some.injEq] at heq
      obtain ⟨rfl, hdepth⟩ := heq
      obtain ⟨n, rfl⟩ : ∃ n, address = [n] := List.length_eq_one_iff.mp (by omega)
      refine Or.inr ⟨n, title', fun address title => ?_, hparse⟩
      rw [← hmem (address, title), hocc, List.mem_singleton, Prod.mk.injEq]
  · intro h
    rcases h with hnone | ⟨n, title, hone, hparse⟩
    · have hocc : occ = [] := List.eq_nil_iff_forall_not_mem.mpr fun x hx =>
        hnone x.1 x.2 ((hmem x).mp hx)
      exact Or.inl (by rw [h.marks_eq, hocc]; rfl)
    · have hocc : occ = [([n], title)] := by
        rw [← List.perm_singleton, List.perm_ext_iff_of_nodup h.nodup (List.nodup_singleton _)]
        intro x
        obtain ⟨address, title'⟩ := x
        rw [hmem, hone, List.mem_singleton, Prod.mk.injEq]
      exact Or.inr ⟨title, by rw [h.marks_eq, hocc]; simp, hparse⟩

end Setting

/-- **A document becomes a page** exactly if its markers are placeable. -/
theorem Document.render_ok_iff {d : Document} :
    (∃ text, d.render = .ok text) ↔ Setting.Placeable (Setting.marks d.lines) := by
  have hmarks : Setting.marks d.lines = d.markers.map fun l => (l.title, l.depth) := rfl
  rw [hmarks]
  unfold render
  cases hmarkers : d.markers with
  | nil => simp [Setting.Placeable]
  | cons marker rest =>
      have hmem : marker ∈ d.markers := hmarkers ▸ List.mem_cons_self
      obtain ⟨title, htitle⟩ := Option.isSome_iff_exists.mp (List.mem_filter.mp hmem).2
      cases rest with
      | nil =>
          cases hparse : Heading.parse? title with
          | none => simp [Setting.Placeable, htitle, hparse]
          | some h =>
              by_cases hdepth : marker.depth = 0
              · simp [Setting.Placeable, htitle, hparse, hdepth]
              · simp [Setting.Placeable, htitle, hparse, hdepth]
      | cons second rest => simp [Setting.Placeable]

/-- The policy on blank lines makes no difference to the markers. -/
theorem Setting.marks_replay (tidy : Bool) (events : List Event) :
    marks ((Document.empty tidy).replay events).lines = marks (written events) := by
  have h := Document.markers_replay (.empty tidy) events
  exact congrArg (List.map fun l => (l.title, l.depth)) h

namespace Assembler

variable {a : Assembler} {verb : Verb} {w : Place} {template output : Text}

/-- The document that a page is made from. -/
theorem render_of_page {run : Run} {page : Text} (h : a.page run = .ok page) :
    ((Document.empty a.tidy).replay run.events).render = .ok page := by
  unfold Assembler.page at h
  rwa [ok_of_page h] at h

/-- A run becomes a page exactly if nothing stops it and its markers are placeable; whether blank
    lines are dropped does not matter. -/
theorem page_ok_iff {run : Run} :
    (∃ text, a.page run = .ok text) ↔
      run.failure = none ∧ Setting.Placeable (Setting.marks run.lines) := by
  have hmarks : Setting.marks ((Document.empty a.tidy).replay run.events).lines =
      Setting.marks run.lines := Setting.marks_replay a.tidy run.events
  unfold page
  cases hfailure : run.failure with
  | some e => simp
  | none => simp [Document.render_ok_iff, hmarks]

/-- **A template becomes a page** exactly if its citations and the places of its table of contents
    are in order. -/
theorem page_runOf_ok_iff :
    (∃ text, a.page (a.runOf verb w template output) = .ok text) ↔
      (a.runOf verb w template output).failure = none ∧
        (a.setting verb w).ContentsInOrder (Path.absolute w.cwd template) := by
  rw [page_ok_iff, and_congr_right_iff]
  intro hok
  obtain ⟨text, body, htext, hbody, hokBody, hevents⟩ := Setting.expand_ok hok
  obtain ⟨occ, hocc⟩ := hbody.enumerates hokBody
  rw [Run.lines, runOf, hevents]
  exact hocc.placeable_iff htext

/-! ## 4. Assembling -/

theorem inaccessible?_eq_none_iff {tree : FileTree} {template output : Path} :
    inaccessible? tree template output = none ↔
      tree.readAccess template = .granted ∧ tree.writeAccess output = .granted := by
  unfold inaccessible?
  cases tree.readAccess template <;> cases tree.writeAccess output <;> simp

/-- An assembly succeeds exactly if both paths are accessible, there is a page, and the output can
    be opened. -/
theorem assemble_ok_iff :
    (a.assemble verb w template output).failure = none ↔
      inaccessible? w.tree (Path.absolute w.cwd template) (Path.absolute w.cwd output) = none ∧
      (∃ text, a.page (a.runOf verb w template output) = .ok text) ∧
      w.tree.checkWrite (Path.absolute w.cwd output) = none := by
  constructor
  · intro hok
    rcases a.assemble_cases verb w template output with
      ⟨e, he, -⟩ | ⟨e, text, bytes, haccess, hpage, hcheck, -⟩
    · cases he.symm.trans hok
    · exact ⟨haccess, ⟨text, hpage⟩, hcheck⟩
  · intro h
    obtain ⟨haccess, ⟨text, hpage⟩, hcheck⟩ := h
    rcases write_page hpage w.tree (Path.absolute w.cwd output) with
      ⟨e, hne, -⟩ | ⟨e, bytes, -, -, -, hwrite⟩
    · exact absurd hcheck hne
    · rw [assemble_of_written haccess hpage hwrite]

/-- **When an assembly succeeds** -- told from the files alone, with no regard to the order in which
    they are read. Only those directives count that are taken up: all of them if files are included
    (`directive?_includeFiles`). An assembly succeeds exactly if
    * the template can be read, and so can every file that is cited in a template reached from it;
    * no template reached from it cites itself as a template through others; a file that quotes
      itself does no harm;
    * the places of the table of contents, each counted as often as its file is expanded, are in
      order;
    * the output may be written and can be opened. -/
theorem assemble_succeeds_iff (a : Assembler) (verb : Verb) (w : Place)
    (template output : Text) :
    let s := a.setting verb w
    let first := Path.absolute w.cwd template
    let target := Path.absolute w.cwd output
    (a.assemble verb w template output).failure = none ↔
      (w.tree.readAccess first = .granted ∧ (s.textOf? first).isSome = true ∧
        ∀ p q, s.Reaches first p → s.Cites p q → (s.textOf? q).isSome = true) ∧
      (∀ p, s.Reaches first p → ¬ Relation.TransGen s.CitesTemplate p p) ∧
      s.ContentsInOrder first ∧
      (w.tree.writeAccess target = .granted ∧ w.tree.checkWrite target = none) := by
  intro s first target
  rw [assemble_ok_iff, inaccessible?_eq_none_iff, page_runOf_ok_iff, runOf,
    Setting.expand_ok_iff]
  constructor
  · intro h
    obtain ⟨⟨hread, hwrite⟩, ⟨⟨htext, hcited, hacyclic⟩, hcontents⟩, hcheck⟩ := h
    exact ⟨⟨hread, htext, hcited⟩, hacyclic, hcontents, hwrite, hcheck⟩
  · intro h
    obtain ⟨⟨hread, htext, hcited⟩, hacyclic, hcontents, hwrite, hcheck⟩ := h
    exact ⟨⟨hread, hwrite⟩, ⟨⟨htext, hcited, hacyclic⟩, hcontents⟩, hcheck⟩

/-- An assembler for UTF-8 that drops no lines. -/
def keeping : Assembler :=
  ⟨false, none, "utf-8".toList⟩

/-- A template that quotes itself twice is assembled. -/
example : ((Assembler.mk true none "latin-1".toList).assemble .includeFiles
    ⟨⟨[([['t']], .ofAscii "@[code_block](t)\n@[python](./t)\n")], [([], true)]⟩, ⟨.root, []⟩⟩
    ['t'] ['t']).failure = none := by decide +kernel

end Assembler

end MarkdownTemplate
