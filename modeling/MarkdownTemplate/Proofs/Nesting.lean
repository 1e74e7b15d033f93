import Mathlib.Data.List.ProdSigma
import Mathlib.Data.List.Dedup
import MarkdownTemplate.Proofs.Reading
import MarkdownTemplate.Proofs.StackReplay

/-!
# Every expansion ends

Citations may lead round in circles. An expansion ends all the same, since a template is expanded
only if no frame on the stack reads it, and a path that can be opened names a file of the tree.
This file fixes

* `Setting.Nests` -- **the invariant**: the template being read and the templates of the directive
  frames are distinct paths that name files;
* `length_le_of_namesFile` -- distinct paths that name files are no more than the files, once for
  each way a path may start;
* `runOf_expand` -- the bounded recursion never meets its bound: it finds a run under the rules;
* `expand_ok` -- what an expansion that succeeds has done;
* `ascends_expand` -- the invariant holds of the inclusion stack at every moment of a run;
* **`expand_ends_nesting_bounded`** -- every expansion ends in exactly one run, and no stack on the
  way holds more than one frame and two for each file.
-/

namespace MarkdownTemplate

/-! ## 1. Paths that name files -/

/-- Where files lie. -/
def FileTree.locations (t : FileTree) : List Location :=
  (t.files.map Prod.fst).dedup

theorem FileTree.length_locations_le (t : FileTree) : t.locations.length ≤ t.files.length := by
  simpa [locations] using (List.dedup_sublist (t.files.map Prod.fst)).length_le

/-- A path that names a file names a location. -/
theorem FileTree.names_mem_locations {t : FileTree} {p : Path} {f : File}
    (h : t.file? p = some f) : p.names ∈ t.locations := by
  obtain ⟨before, after, heq, -⟩ := List.lookup_eq_some_iff.mp (file?_eq_some_iff.mp h).2
  rw [locations, List.mem_dedup, heq]
  simp

/-- What can be opened as text is a file. -/
theorem Source.file_of_ofPath {tree : FileTree} {encoding : Text} {p : Path} {source : Source}
    (h : Source.ofPath tree encoding p = .ok source) : ∃ f, tree.file? p = some f := by
  obtain ⟨-, hread, -⟩ := ofPath_eq_ok_iff.mp h
  obtain ⟨f, hf, -⟩ := FileTree.read_eq_ok_iff.mp hread
  exact ⟨f, hf⟩

/-- **Distinct paths that name files are no more than the files**, once for each way that they may
    start. -/
theorem length_le_of_namesFile {tree : FileTree} {anchors : List Anchor} {paths : List Path}
    (hnd : paths.Nodup) (hanchor : ∀ p ∈ paths, p.anchor ∈ anchors)
    (hfile : ∀ p ∈ paths, ∃ f, tree.file? p = some f) :
    paths.length ≤ anchors.length * tree.locations.length := by
  have hsub : paths ⊆ (anchors ×ˢ tree.locations).map fun x => (⟨x.1, x.2⟩ : Path) := by
    intro p hp
    obtain ⟨f, hf⟩ := hfile p hp
    exact List.mem_map.mpr ⟨(p.anchor, p.names),
      List.mem_product.mpr ⟨hanchor p hp, FileTree.names_mem_locations hf⟩, rfl⟩
  have hlen := hnd.length_le_of_subset hsub
  rwa [List.length_map, List.length_product] at hlen

/-- A path read in an absolute directory is absolute. -/
theorem Path.isAbsolute_absolute {cwd : Path} (h : cwd.isAbsolute = true) (s : Text) :
    (Path.absolute cwd s).isAbsolute = true := by
  show (cwd.join (ofText s)).isAbsolute = true
  unfold join
  split
  · assumption
  · exact h

namespace Anchor

/-- Every way that a path may start. -/
def all : List Anchor :=
  [here, root, doubleRoot]

/-- The ways that an absolute path may start. -/
def absolute : List Anchor :=
  [root, doubleRoot]

theorem mem_absolute_iff {p : Path} : p.anchor ∈ absolute ↔ p.isAbsolute = true := by
  cases h : p.anchor <;> simp [absolute, Path.isAbsolute, h]

/-- What is cited from a path that starts in one of these ways starts in one of them, too. -/
def Closed (anchors : List Anchor) : Prop :=
  ∀ (p : Path) (target : Text), p.anchor ∈ anchors → (p.resolve target).anchor ∈ anchors

theorem mem_all (a : Anchor) : a ∈ all := by
  cases a <;> simp [all]

theorem closed_all : Closed all :=
  fun p target _ => (p.resolve target).anchor.mem_all

theorem closed_absolute : Closed absolute := by
  intro p target h
  rw [mem_absolute_iff] at h ⊢
  have hparent : p.parent.isAbsolute = true := h
  exact Path.isAbsolute_absolute hparent target

end Anchor

/-- No frame reads `p` exactly if the cycle check does not find it. -/
theorem Stack.find?_eq_none_iff {stack : Stack} {p : Path} :
    stack.find? p = none ↔ ∀ f ∈ stack, f.template ≠ p := by
  simp [find?]

theorem Stack.find?_isSome_iff {stack : Stack} {p : Path} :
    (stack.find? p).isSome = true ↔ ∃ f ∈ stack, f.template = p := by
  simp [find?]

namespace Setting

/-! ## 2. The invariant -/

/-- **The invariant of the stack**: above the frame `first` stand frames of directives, and their
    templates are distinct paths that name files and start in one of the given ways. -/
def Ascends (s : Setting) (anchors : List Anchor) (first : Frame) (stack : Stack) : Prop :=
  ∃ frames, stack = first :: frames ∧ (∀ f ∈ frames, f.isDirective = true) ∧
    (frames.map Frame.template).Nodup ∧
    ∀ f ∈ frames, f.template.anchor ∈ anchors ∧ ∃ file, s.tree.file? f.template = some file

/-- **The invariant of a run** while it reads `template`: that of the stack, and `template` is a
    further path of this kind. -/
structure Nests (s : Setting) (anchors : List Anchor) (first : Frame) (stack : Stack)
    (template : Path) : Prop where
  ascends : s.Ascends anchors first stack
  anchor : template.anchor ∈ anchors
  file : ∃ f, s.tree.file? template = some f
  /-- No frame of a directive reads the template. -/
  fresh : ∀ f ∈ stack.tail, f.template ≠ template

variable {s : Setting} {anchors : List Anchor} {first : Frame} {stack : Stack} {template : Path}
  {output : Option Path} {d : Directive} {source : Source}

theorem nests_start (hanchor : template.anchor ∈ anchors)
    (hopen : Source.ofPath s.tree s.encoding template = .ok source) :
    s.Nests anchors first [first] template where
  ascends := ⟨[], rfl, by simp, by simp, by simp⟩
  anchor := hanchor
  file := Source.file_of_ofPath hopen
  fresh := by simp

/-- The frame of a directive in the template joins the stack. -/
theorem Nests.push (h : s.Nests anchors first stack template) (d : Directive) (number : Nat) :
    s.Ascends anchors first (stack.push (d.frame template number)) := by
  obtain ⟨⟨frames, rfl, hdir, hnd, hfile⟩, hanchor, hread, hfresh⟩ := h
  refine ⟨frames ++ [d.frame template number], rfl, ?_, ?_, ?_⟩
  · intro f hf
    rcases List.mem_append.mp hf with hf | hf
    · exact hdir f hf
    · rw [List.mem_singleton.mp hf]
      exact Directive.frame_isDirective ..
  · rw [List.map_append, List.map_singleton, Directive.frame_template, List.nodup_append]
    refine ⟨hnd, List.nodup_singleton _, ?_⟩
    intro p hp q hq
    obtain ⟨f, hf, rfl⟩ := List.mem_map.mp hp
    rw [List.mem_singleton.mp hq]
    exact hfresh f hf
  · intro f hf
    rcases List.mem_append.mp hf with hf | hf
    · exact hfile f hf
    · rw [List.mem_singleton.mp hf]
      exact ⟨hanchor, hread⟩

/-- **What one inclusion preserves**: a cited template that no frame reads and that can be opened
    is read next. -/
theorem Nests.nested {number : Nat} (h : s.Nests anchors first stack template)
    (hclosed : Anchor.Closed anchors)
    (hnew : (stack.push (d.frame template number)).find? (d.includee template) = none)
    (hopen : Source.ofPath s.tree s.encoding (d.includee template) = .ok source) :
    s.Nests anchors first (stack.push (d.frame template number)) (d.includee template) where
  ascends := h.push d number
  anchor := hclosed template d.target h.anchor
  file := Source.file_of_ofPath hopen
  fresh f hf := Stack.find?_eq_none_iff.mp hnew f (List.mem_of_mem_tail hf)

/-- **The stack is no higher than the files allow.** -/
theorem Ascends.length_le (h : s.Ascends anchors first stack) :
    stack.length ≤ anchors.length * s.tree.locations.length + 1 := by
  obtain ⟨frames, rfl, -, hnd, hfile⟩ := h
  have hlen := length_le_of_namesFile hnd
    (fun p hp => by obtain ⟨f, hf, rfl⟩ := List.mem_map.mp hp; exact (hfile f hf).1)
    (fun p hp => by obtain ⟨f, hf, rfl⟩ := List.mem_map.mp hp; exact (hfile f hf).2)
  rw [List.length_map] at hlen
  rw [List.length_cons]
  omega

/-- While a template is read there is still room for its frame. -/
theorem Nests.length_le (h : s.Nests anchors first stack template) :
    stack.length ≤ anchors.length * s.tree.locations.length := by
  have hlen := (h.push ⟨.markdown, [], [], none⟩ 0).length_le
  rw [Stack.push, List.length_append, List.length_singleton] at hlen
  omega

/-! ## 3. The recursion never meets its bound -/

section Following

variable {nested : Stack → Path → Int → Source → Run} {depth : Int} {number : Nat} {line : Text}
  {rest : List Text} {r : Run}

/-- Expanding what `d` cites on line `number` follows the rules, as far as `nested` is to do it. -/
def Follows (s : Setting) (nested : Stack → Path → Int → Source → Run) (stack : Stack)
    (template : Path) (depth : Int) (number : Nat) (d : Directive) : Prop :=
  ∀ source, d.isRecursive = true →
    (stack.push (d.frame template number)).find? (d.includee template) = none →
    Source.ofPath s.tree s.encoding (d.includee template) = .ok source →
    ∃ body, Expands s (stack.push (d.frame template number)) (d.includee template) (depth + 1) 1
        source.reading.lines body ∧
      nested (stack.push (d.frame template number)) (d.includee template) (depth + 1) source =
        source.close (s.unreadable (stack.push (d.frame template number)) (d.includee template)) body

/-- A directive that cites a file which has been opened. -/
theorem Follows.expands_opened (h : s.Follows nested stack template depth number d)
    (hline : s.directive? (lineAt depth line) = some d) (hcites : d.citesFile = true)
    (hnew : d.isRecursive = true →
      (stack.push (d.frame template number)).find? (d.includee template) = none)
    (hopen : Source.ofPath s.tree s.encoding (d.includee template) = .ok source)
    (hrest : Expands s stack template depth (number + 1) rest r) :
    Expands s stack template depth number (line :: rest)
      ((s.takeUp nested stack template depth number d).andThen fun _ => r) := by
  cases hrec : d.isRecursive with
  | false =>
      cases htext : source.text? with
      | none =>
          rw [takeUp_undecodable hrec hopen htext, Run.andThen_of_failure rfl]
          exact .undecodable hline hcites hrec hopen htext
      | some content =>
          rw [takeUp_quoted hrec hopen htext, Run.did_andThen_eq_after]
          exact .quoted hline hcites hrec hopen htext hrest
  | true =>
      obtain ⟨body, hbody, heq⟩ := h source hrec (hnew hrec) hopen
      cases hfail : (source.close (s.unreadable (stack.push (d.frame template number))
          (d.includee template)) body).failure with
      | none =>
          obtain ⟨hok, hcomplete⟩ := Source.close_ok_iff.mp hfail
          rw [takeUp_nested hrec (hnew hrec) hopen heq hfail, Run.did_andThen_eq_after,
            Source.close_events]
          exact .nested hline hrec (hnew hrec) hopen hbody hok hcomplete hrest
      | some e =>
          rw [takeUp_broken hrec (hnew hrec) hopen heq hfail, Run.andThen_of_failure rfl,
            Source.close_events]
          exact .broken hline hrec (hnew hrec) hopen hbody hfail

/-- A directive that cites a file: the cycle check comes first, then the file is opened. -/
theorem Follows.expands_cited (h : s.Follows nested stack template depth number d)
    (hline : s.directive? (lineAt depth line) = some d) (hcites : d.citesFile = true)
    (hrest : Expands s stack template depth (number + 1) rest r) :
    Expands s stack template depth number (line :: rest)
      ((s.takeUp nested stack template depth number d).andThen fun _ => r) := by
  by_cases hcycle : d.isRecursive = true ∧
      ((stack.push (d.frame template number)).find? (d.includee template)).isSome = true
  · rw [takeUp_circular hcycle.1 hcycle.2, Run.andThen_of_failure rfl]
    exact .cyclic hline hcycle.1 hcycle.2
  · have hnew : d.isRecursive = true →
        (stack.push (d.frame template number)).find? (d.includee template) = none :=
      fun hrec => by simpa [hrec] using hcycle
    cases hopen : s.openSource (s.unreadable (stack.push (d.frame template number))
        (d.includee template)) (d.includee template) with
    | error e =>
        rw [takeUp_unopened hnew hopen, Run.andThen_of_failure rfl]
        exact .unopened hline hcites hnew hopen
    | ok source => exact h.expands_opened hline hcites hnew (openSource_ok_iff.mp hopen) hrest

/-- **Reading lines follows the rules** if expanding the templates cited on them does. -/
theorem expands_readLines (h : ∀ number d, s.Follows nested stack template depth number d)
    (lines : List Text) : ∀ number, Expands s stack template depth number lines
      (s.readLines (s.takeUp nested stack template depth) depth number lines) := by
  induction lines with
  | nil => exact fun _ => .done
  | cons line rest ih =>
      intro number
      cases hline : s.directive? (lineAt depth line) with
      | none =>
          rw [readLines_copied hline]
          exact .copied hline (ih _)
      | some d =>
          cases hcites : d.citesFile with
          | false =>
              rw [readLines_marked hline hcites]
              exact .marked hline hcites (ih _)
          | true =>
              rw [readLines_cited hline hcites]
              exact (h number d).expands_cited hline hcites (ih _)

end Following

theorem three_mul_locations_le_nesting (s : Setting) :
    3 * s.tree.locations.length ≤ s.nesting :=
  Nat.mul_le_mul_left 3 s.tree.length_locations_le

/-- **The bounded recursion follows the rules** as long as the bound and the stack together cover
    every path that names a file. -/
theorem Nests.expands : ∀ {fuel : Nat} {stack : Stack} {template : Path} (depth : Int)
    (number : Nat) (lines : List Text), s.Nests Anchor.all first stack template →
    s.nesting ≤ fuel + stack.length →
    Expands s stack template depth number lines
      (s.readLines (s.takeUp (s.nestedWithin fuel) stack template depth) depth number lines) := by
  intro fuel
  induction fuel with
  | zero =>
      intro stack template depth number lines h hroom
      refine expands_readLines (fun _ d source _ hnew hopen => ?_) lines number
      -- one more template would be one more than there are paths that name files
      have hlen := (h.nested Anchor.closed_all hnew hopen).length_le
      rw [Stack.push, List.length_append, List.length_singleton] at hlen
      have hnesting := s.three_mul_locations_le_nesting
      have hall : Anchor.all.length = 3 := rfl
      rw [hall] at hlen
      omega
  | succ fuel ih =>
      intro stack template depth number lines h hroom
      refine expands_readLines (fun _ d source _ hnew hopen => ?_) lines number
      refine ⟨_, ih (depth + 1) 1 source.reading.lines (h.nested Anchor.closed_all hnew hopen) ?_,
        nestedWithin_succ ..⟩
      rw [Stack.push, List.length_append, List.length_singleton]
      omega

/-- **The run of every template is a run under the rules.** -/
theorem runOf_expand (s : Setting) (template : Path) (output : Option Path) :
    RunOf s template output (s.expand template output) := by
  cases hopen : s.openSource (.unreadableTemplate template) template with
  | error e =>
      have heq : s.expand template output = .stopped e := by simp only [expand, hopen]
      rw [heq]
      exact .unopened hopen
  | ok source =>
      have hopen' := openSource_ok_iff.mp hopen
      have heq : s.expand template output = source.close (.unreadableTemplate template)
          (s.readLines (s.takeUp (s.nestedWithin s.nesting) [Frame.outermost template output]
            template 0) 0 1 source.reading.lines) := by
        simp only [expand, hopen, expandSource_eq]
      rw [heq]
      exact .opened hopen' ((nests_start template.anchor.mem_all hopen').expands 0 1 _
        (Nat.le_add_right ..))

/-- **What an expansion that succeeds has done**: the template has a text, and its lines have been
    read in a run that nothing stopped. -/
theorem expand_ok (hok : (s.expand template output).failure = none) :
    ∃ text body, s.textOf? template = some text ∧
      Expands s [Frame.outermost template output] template 0 1
        (Text.splitLines Text.isLineEnd text) body ∧
      body.failure = none ∧ (s.expand template output).events = body.events := by
  have hrun := runOf_expand s template output
  generalize s.expand template output = run at hrun hok ⊢
  cases hrun with
  | unopened => cases hok
  | opened hopen hbody =>
      obtain ⟨hokBody, hcomplete⟩ := Source.close_ok_iff.mp hok
      obtain ⟨text, htext, hlines⟩ := lines_of_complete hopen hcomplete
      rw [hlines] at hbody
      exact ⟨text, _, htext, hbody, hokBody, Source.close_events ..⟩

/-! ## 4. The stack along a run -/

/-- **What a run does to the stack**: the invariant holds at every moment, whether or not the run
    is stopped. -/
theorem Expands.ascends (hclosed : Anchor.Closed anchors) {depth : Int} {number : Nat}
    {lines : List Text} {r : Run} (h : Expands s stack template depth number lines r) :
    s.Nests anchors first stack template →
      Stack.Throughout (s.Ascends anchors first) stack r.events := by
  induction h with
  | done => exact fun hn => Stack.throughout_nil.mpr hn.ascends
  | copied _ _ ih => exact fun hn => Stack.throughout_cons.mpr ⟨hn.ascends, ih hn⟩
  | marked _ _ _ ih => exact fun hn => Stack.throughout_cons.mpr ⟨hn.ascends, ih hn⟩
  | quoted _ _ _ _ _ _ ih =>
      intro hn
      simp [quote_events, Stack.throughout_cons, Stack.throughout_append, hn.ascends,
        hn.push, ih hn]
  | nested _ _ hnew hopen hbody hok _ _ ihBody ihRest =>
      intro hn
      simp [Stack.throughout_cons, Stack.throughout_append, hn.ascends, hn.push,
        hbody.replay_eq hok, ihBody (hn.nested hclosed hnew hopen), ihRest hn]
  | cyclic => exact fun hn => by simp [Stack.throughout_cons, hn.ascends, hn.push]
  | unopened => exact fun hn => by simp [Stack.throughout_cons, hn.ascends, hn.push]
  | undecodable => exact fun hn => by simp [Stack.throughout_cons, hn.ascends, hn.push]
  | broken _ _ hnew hopen _ _ ih =>
      intro hn
      simp [Stack.throughout_cons, hn.ascends, hn.push, ih (hn.nested hclosed hnew hopen)]

/-- The invariant along the run of a whole template. -/
theorem ascends_expand (s : Setting) (hclosed : Anchor.Closed anchors)
    (hanchor : template.anchor ∈ anchors) (output : Option Path) :
    Stack.Throughout (s.Ascends anchors (Frame.outermost template output))
      [Frame.outermost template output] (s.expand template output).events := by
  have hrun := runOf_expand s template output
  generalize s.expand template output = run at hrun ⊢
  cases hrun with
  | unopened hopen => exact Stack.throughout_nil.mpr ⟨[], rfl, by simp, by simp, by simp⟩
  | opened hopen hbody =>
      rw [Source.close_events]
      exact hbody.ascends hclosed (nests_start hanchor hopen)

/-- **Every expansion ends, and files bound its nesting.** A template, named by any text in any
    directory, has exactly one run under the rules, whatever its files cite. At every moment of
    it, the frames above the outermost one are those of directives, their templates are distinct
    paths that name files, and the stack holds no more than one frame and two for each file: a
    file has two absolute paths, one that starts with one slash and one that starts with two. The
    policy on blank lines plays no part, since no step looks at the document. -/
theorem expand_ends_nesting_bounded (s : Setting) (cwd : Path) (hcwd : cwd.isAbsolute = true)
    (text : Text) (output : Option Path) :
    let template := Path.absolute cwd text
    let run := s.expand template output
    (RunOf s template output run ∧ ∀ r, RunOf s template output r → r = run) ∧
    ∀ events, events <+: run.events →
      ∃ frames, Stack.replay [Frame.outermost template output] events =
          Frame.outermost template output :: frames ∧
        (∀ f ∈ frames, f.isDirective = true) ∧
        (frames.map Frame.template).Nodup ∧
        (∀ f ∈ frames, ∃ file, s.tree.file? f.template = some file) ∧
        (Stack.replay [Frame.outermost template output] events).length ≤
          2 * s.tree.locations.length + 1 := by
  intro template run
  have habs : template.anchor ∈ Anchor.absolute :=
    Anchor.mem_absolute_iff.mpr (Path.isAbsolute_absolute hcwd text)
  refine ⟨⟨runOf_expand .., fun r hr => hr.unique (runOf_expand ..)⟩, fun events hevents => ?_⟩
  have h := ascends_expand s Anchor.closed_absolute habs output events hevents
  have hlen := h.length_le
  obtain ⟨frames, heq, hdir, hnd, hfile⟩ := h
  exact ⟨frames, heq, hdir, hnd, fun f hf => (hfile f hf).2, hlen⟩

/-- Two templates that cite each other. -/
def ring : Setting where
  tree := ⟨[([['a']], .ofAscii "@[markdown](b)"), ([['b']], .ofAscii "@[markdown](/a)")],
    [([], true)]⟩
  encoding := "utf-8".toList
  root := none
  citesFiles := true

/-- The expansion of the ring ends, and its stack never holds more than five frames. -/
theorem expand_ends_nesting_bounded_ring :
    (⟨.root, []⟩ : Path).isAbsolute = true ∧
    (∀ r, RunOf ring (Path.absolute ⟨.root, []⟩ ['a']) none r →
      r = ring.expand (Path.absolute ⟨.root, []⟩ ['a']) none) ∧
    ∀ events, events <+: (ring.expand (Path.absolute ⟨.root, []⟩ ['a']) none).events →
      (Stack.replay [Frame.outermost (Path.absolute ⟨.root, []⟩ ['a']) none] events).length ≤
        5 := by
  have h := expand_ends_nesting_bounded ring ⟨.root, []⟩ (by decide) ['a'] none
  have htwo : ring.tree.locations.length = 2 := by decide +kernel
  refine ⟨by decide, h.1.2, fun events hevents => ?_⟩
  obtain ⟨frames, -, -, -, -, hlen⟩ := h.2 events hevents
  rwa [htwo] at hlen

end Setting

end MarkdownTemplate
