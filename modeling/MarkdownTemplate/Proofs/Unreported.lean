import MarkdownTemplate.Proofs.Access
import MarkdownTemplate.Proofs.Agreement
import MarkdownTemplate.Proofs.Backtrace
import MarkdownTemplate.Proofs.Substitution
import MarkdownTemplate.Proofs.Success

/-!
# Errors that nobody is told about

Most of what can stop an assembly is reported to the user. What is not are paths that the system
refuses to follow, as far as they are checked before anything is read, and null characters in paths;
those are found where a file is opened, and a template may cite any path. This file fixes

* `Setting.KnowsEncoding` -- the encoding is known, so that nothing is wrong but paths and files;
* `Setting.CitesNull` -- a run that ends with a directive whose path holds a null character;
* `Expands.nullCharacter_iff` -- these are the runs that a null character stops;
* `Assembler.LooksUp` -- the paths whose way is gone before anything is read;
* **`unreported_errors`** -- exactly these errors are not reported, and exactly there;
* `null_cited_unreported` -- a template that cites such a path is enough.
-/

namespace MarkdownTemplate

/-! ## 1. Runs -/

namespace Setting

variable {s : Setting} {stack : Stack} {template p : Path} {depth : Int} {number : Nat}
  {lines : List Text} {r : Run} {e refused : Error}

/-- The encoding of the files is one that is known. -/
structure KnowsEncoding (s : Setting) : Prop where
  noNull : s.encoding.hasNull = false
  known : (Encoding.ofName? s.encoding).isSome = true

/-- **If the encoding is known**, a file can be opened, is refused, or has a path with a null
    character. -/
theorem KnowsEncoding.openSource_error (henc : s.KnowsEncoding)
    (hopen : s.openSource refused p = .error e) :
    e = refused ∧ FileTree.hasNoNull p = true ∨
      e = .nullCharacter ∧ FileTree.hasNoNull p = false := by
  obtain ⟨encoding, hencoding⟩ := Option.isSome_iff_exists.mp henc.known
  unfold openSource Source.ofPath at hopen
  simp only [henc.noNull, Bool.false_eq_true, ↓reduceIte, hencoding] at hopen
  cases hnull : FileTree.hasNoNull p with
  | false =>
      rw [FileTree.read_eq_nullCharacter_iff.mpr hnull] at hopen
      cases hopen
      exact Or.inr ⟨rfl, rfl⟩
  | true =>
      cases hread : s.tree.read p with
      | ok content =>
          rw [hread] at hopen
          cases hopen
      | error fault =>
          rw [hread] at hopen
          cases fault with
          | nullCharacter =>
              rw [FileTree.read_eq_nullCharacter_iff.mp hread] at hnull
              cases hnull
          | refused =>
              cases hopen
              exact Or.inl ⟨rfl, rfl⟩

/-- **The last thing that happens is that a directive is taken up whose path holds a null
    character**, and the directive does stand in a template. -/
def CitesNull (s : Setting) (events : List Event) : Prop :=
  ∃ x : Site, x.Stands s ∧ events.getLast? = some (.cite x.frame) ∧
    FileTree.hasNoNull x.includee = false

/-- What comes before does not matter, unless nothing comes behind it. -/
theorem citesNull_append {before events : List Event}
    (hbefore : ∀ f, before.getLast? ≠ some (.cite f)) :
    s.CitesNull (before ++ events) ↔ s.CitesNull events := by
  have hlast : ∀ f, (before ++ events).getLast? = some (.cite f) ↔
      events.getLast? = some (.cite f) := by
    intro f
    rw [List.getLast?_append]
    cases events.getLast? with
    | none => simpa using hbefore f
    | some e => simp
  simp only [CitesNull, hlast]

/-- Nor does an inclusion that has come to its end. -/
theorem citesNull_inclusion {before events : List Event} {q : Path} :
    s.CitesNull (before ++ [.leave q] ++ events) ↔ s.CitesNull events :=
  citesNull_append fun f => by
    rw [List.getLast?_concat]
    simp

/-- Nor does the beginning of one. -/
theorem citesNull_opened {f : Frame} {q : Path} {t : Treatment} {events : List Event} :
    s.CitesNull (.cite f :: .enter q t :: events) ↔ s.CitesNull events := by
  show s.CitesNull ([.cite f, .enter q t] ++ events) ↔ _
  exact citesNull_append (by simp)

/-- A directive is taken up, and nothing follows. -/
theorem citesNull_cite_iff {d : Directive} (hstands : Site.Stands s ⟨template, number, d⟩) :
    s.CitesNull [.cite (d.frame template number)] ↔
      FileTree.hasNoNull (d.includee template) = false := by
  constructor
  · intro h
    obtain ⟨x, -, hlast, hnull⟩ := h
    have hframe : d.frame template number = x.frame := by simpa using hlast
    have hincludee : d.includee template = x.includee :=
      Option.some.inj (congrArg Frame.includee hframe)
    rwa [hincludee]
  · intro h
    exact ⟨_, hstands, rfl, h⟩

/-- The end of a file adds no null character. -/
theorem close_nullCharacter_iff {source : Source} {undecodable : Error} {body : Run}
    (hundecodable : undecodable ≠ .nullCharacter) :
    (source.close undecodable body).failure = some .nullCharacter ↔
      body.failure = some .nullCharacter := by
  constructor
  · intro h
    rcases Source.close_failure h with hbody | ⟨-, heq, -⟩
    · exact hbody
    · exact absurd heq hundecodable
  · intro h
    rw [Source.close, Run.andThen_of_failure h, h]

/-- The template being read is one more that holds no null character. -/
theorem noNull_push {d : Directive}
    (hstack : ∀ f ∈ stack, FileTree.hasNoNull f.template = true)
    (htemplate : FileTree.hasNoNull template = true) :
    ∀ f ∈ stack.push (d.frame template number), FileTree.hasNoNull f.template = true :=
  List.forall_mem_append.mpr ⟨hstack, List.forall_mem_singleton.mpr htemplate⟩

/-- **A run is stopped by a null character** exactly if it ends with a directive whose path holds
    one. The paths of the templates on the stack hold none, since they name files. -/
theorem Expands.nullCharacter_iff (henc : s.KnowsEncoding)
    (h : Expands s stack template depth number lines r) :
    (∀ f ∈ stack, FileTree.hasNoNull f.template = true) → FileTree.hasNoNull template = true →
    s.Reads template number lines →
    (r.failure = some .nullCharacter ↔ s.CitesNull r.events) := by
  induction h with
  | done => exact fun _ _ _ => by simp [CitesNull, Run.nothing]
  | copied _ _ ih =>
      intro hstack htemplate hreads
      rw [Run.after_failure, Run.after_events, citesNull_append (by simp)]
      exact ih hstack htemplate hreads.tail
  | marked _ _ _ ih =>
      intro hstack htemplate hreads
      rw [Run.after_failure, Run.after_events, citesNull_append (by simp)]
      exact ih hstack htemplate hreads.tail
  | quoted _ _ _ _ _ _ ih =>
      intro hstack htemplate hreads
      rw [Run.after_failure, Run.after_events, citesNull_inclusion]
      exact ih hstack htemplate hreads.tail
  | nested _ _ _ _ _ _ _ _ _ ihRest =>
      intro hstack htemplate hreads
      rw [Run.after_failure, Run.after_events, citesNull_inclusion]
      exact ihRest hstack htemplate hreads.tail
  | @cyclic stack template _ number _ _ d hline _ hfound =>
      intro hstack htemplate hreads
      obtain ⟨f, hf, heq⟩ := Stack.find?_isSome_iff.mp hfound
      have hincludee : FileTree.hasNoNull (d.includee template) = true := by
        rw [← heq]
        exact noNull_push hstack htemplate f hf
      rw [citesNull_cite_iff (hreads.stands hline), hincludee]
      simp [circular]
  | unopened hline _ _ hopen =>
      intro _ _ hreads
      rw [citesNull_cite_iff (hreads.stands hline)]
      rcases henc.openSource_error hopen with ⟨rfl, hnull⟩ | ⟨rfl, hnull⟩
      · simp [unreadable, hnull]
      · simp [hnull]
  | undecodable hline _ _ _ _ =>
      intro _ _ _
      simp [CitesNull, unreadable]
  | @broken stack template _ number _ _ d source body _ _ _ _ hopen _ hfail ih =>
      intro hstack htemplate _
      obtain ⟨f, hf⟩ := Source.file_of_ofPath hopen
      have hbody := ih (noNull_push hstack htemplate) (FileTree.hasNoNull_of_file? hf)
        (reads_lines hopen)
      have hundecodable : s.unreadable (stack.push (d.frame template number))
          (d.includee template) ≠ .nullCharacter := by simp [unreadable]
      have hclose : (source.close _ body).failure = some .nullCharacter ↔ _ :=
        close_nullCharacter_iff hundecodable
      rw [citesNull_opened, ← hbody, ← hclose, hfail]

/-- **If the encoding is known**, what stops a run is reported or is a null character. -/
theorem Expands.failure_cases (henc : s.KnowsEncoding)
    (h : Expands s stack template depth number lines r) (hfail : r.failure = some e) :
    e.isReported = true ∨ e = .nullCharacter := by
  induction h with
  | done => cases hfail
  | copied _ _ ih => exact ih hfail
  | marked _ _ _ ih => exact ih hfail
  | quoted _ _ _ _ _ _ ih => exact ih hfail
  | nested _ _ _ _ _ _ _ _ _ ihRest => exact ihRest hfail
  | cyclic =>
      cases hfail
      exact Or.inl rfl
  | unopened _ _ _ hopen =>
      cases hfail
      rcases henc.openSource_error hopen with ⟨rfl, -⟩ | ⟨rfl, -⟩
      · exact Or.inl rfl
      · exact Or.inr rfl
  | undecodable =>
      cases hfail
      exact Or.inl rfl
  | broken _ _ _ _ _ hclose ih =>
      cases hfail
      rcases Source.close_failure hclose with hbody | ⟨-, rfl, -⟩
      · exact ih hbody
      · exact Or.inl rfl

/-- **What stops the run of a template** that names a file: an error that is reported, or a null
    character in the path of the directive that was taken up last. -/
theorem expand_failure (henc : s.KnowsEncoding) (output : Option Path)
    (htemplate : FileTree.hasNoNull template = true) :
    (∀ e, (s.expand template output).failure = some e →
      e.isReported = true ∨ e = .nullCharacter) ∧
    ((s.expand template output).failure = some .nullCharacter ↔
      s.CitesNull (s.expand template output).events) := by
  have hrun := runOf_expand s template output
  generalize s.expand template output = run at hrun ⊢
  cases hrun with
  | unopened hopen =>
      rcases henc.openSource_error hopen with ⟨rfl, -⟩ | ⟨-, hnull⟩
      · simp [Run.stopped, CitesNull, Error.isReported]
      · rw [htemplate] at hnull
        cases hnull
  | opened hopen hbody =>
      have hstack : ∀ f ∈ [Frame.outermost template output],
          FileTree.hasNoNull f.template = true := List.forall_mem_singleton.mpr htemplate
      refine ⟨fun e hfail => ?_, ?_⟩
      · rcases Source.close_failure hfail with hbroken | ⟨-, rfl, -⟩
        · exact hbody.failure_cases henc hbroken
        · exact Or.inl rfl
      · rw [Source.close_events, close_nullCharacter_iff (by simp)]
        exact hbody.nullCharacter_iff henc hstack htemplate (reads_lines hopen)

end Setting

/-! ## 2. Assemblies -/

/-- What is wrong with markers is reported. -/
theorem Document.isReported_of_render {d : Document} {e : Error} (h : d.render = .error e) :
    e.isReported = true := by
  unfold render at h
  split at h
  · cases h
  · dsimp only at h
    split at h
    · cases h
      rfl
    · split at h
      · cases h
        rfl
      · cases h
  · cases h
    rfl

namespace Assembler

variable {a : Assembler} {verb : Verb} {w : Place} {template output : Text} {e : Error}
  {tree : FileTree} {first target p : Path} {b : Barrier}

/-- **The paths that are looked up before anything is read**: that of the template and, if it may be
    read, that of the output. A null character cannot be looked up; the directory of the output is
    looked up then. -/
def LooksUp (tree : FileTree) (first target p : Path) : Prop :=
  first = p ∨ tree.readAccess first = .granted ∧
    (target = p ∨ FileTree.hasNoNull target = false ∧ target.parent = p)

/-- What is wrong with a path that is not accessible is reported, or the path is not followed. -/
theorem inaccessible?_cases (h : inaccessible? tree first target = some e) :
    e.isReported = true ∨ ∃ b p, e = .barred b p := by
  unfold inaccessible? at h
  split at h
  · cases h
    exact Or.inr ⟨_, _, rfl⟩
  · cases h
    exact Or.inl rfl
  · cases h
    exact Or.inr ⟨_, _, rfl⟩
  · cases h
    exact Or.inl rfl
  · cases h

/-- **Which paths are not followed**: those that are looked up and cannot be. -/
theorem inaccessible?_eq_barred_iff :
    inaccessible? tree first target = some (.barred b p) ↔
      LooksUp tree first target p ∧ tree.Hinders p (.barrier b) := by
  have hfirst : inaccessible? tree first target = some (.barred b p) ↔
      tree.readAccess first = .barred b p ∨
        tree.readAccess first = .granted ∧ tree.writeAccess target = .barred b p := by
    unfold inaccessible?
    cases tree.readAccess first <;> cases tree.writeAccess target <;> simp
  rw [hfirst, FileTree.readAccess_eq_barred_iff, FileTree.writeAccess_eq_barred_iff]
  constructor
  · intro h
    rcases h with ⟨hway, rfl⟩ | ⟨hread, hway, htarget⟩
    · exact ⟨Or.inl rfl, hway⟩
    · exact ⟨Or.inr ⟨hread, htarget⟩, hway⟩
  · intro h
    obtain ⟨rfl | ⟨hread, htarget⟩, hway⟩ := h
    · exact Or.inl ⟨hway, rfl⟩
    · exact Or.inr ⟨hread, hway, htarget⟩

/-- A name that is too long matters only where its directory is there. -/
example :
    inaccessible? .empty ⟨.root, [List.replicate 256 'n']⟩ ⟨.root, [['o']]⟩ =
        some (.barred .tooLong ⟨.root, [List.replicate 256 'n']⟩) ∧
      inaccessible? .empty ⟨.root, [['d'], List.replicate 256 'n']⟩ ⟨.root, [['o']]⟩ =
        some (.unreadableTemplate ⟨.root, [['d'], List.replicate 256 'n']⟩) := by
  decide +kernel

/-- A run that fails makes no page, and its error is that of the run unless it is reported. -/
theorem page_error {run : Run} (h : a.page run = .error e) :
    run.failure = some e ∨ run.failure = none ∧ e.isReported = true := by
  unfold page at h
  split at h
  · cases h
    exact Or.inl ‹_›
  · exact Or.inr ⟨‹_›, Document.isReported_of_render h⟩

/-- What goes wrong when a page is written: the output cannot be opened, or its path holds a null
    character. -/
theorem write_failure {text : Text} (hpage : a.page (a.runOf verb w template output) = .ok text)
    (tree : FileTree) (target : Path) :
    (∀ e, (a.write tree target text).2 = some e → e.isReported = true ∨ e = .nullCharacter) ∧
    ((a.write tree target text).2 = some .nullCharacter ↔ FileTree.hasNoNull target = false) := by
  rw [← FileTree.checkWrite_eq_nullCharacter_iff]
  cases hcheck : tree.checkWrite target with
  | none =>
      rcases write_page hpage tree target with ⟨-, hne, -⟩ | ⟨_, _, -, -, -, hwrite⟩
      · exact absurd hcheck hne
      · simp [hwrite]
  | some fault =>
      cases fault with
      | nullCharacter => simp [write, hcheck]
      | refused => simp [write, hcheck, Error.isReported]

/-- The page is complete: what is left to go wrong is writing it. -/
theorem failure_of_page {text : Text}
    (haccess : inaccessible? w.tree (Path.absolute w.cwd template) (Path.absolute w.cwd output) =
      none)
    (hpage : a.page (a.runOf verb w template output) = .ok text) :
    (a.assemble verb w template output).failure =
      (a.write w.tree (Path.absolute w.cwd output) text).2 := by
  unfold runOf at hpage
  simp only [assemble, haccess, hpage]
  split
  · rename_i heq
    rw [heq]
  · rename_i heq
    rw [heq]

/-- **What stops an assembly whose paths are accessible** is reported or is a null character: in the
    path that a directive cites, or, if there is a page, in that of the output. -/
theorem failure_of_accessible (henc : (a.setting verb w).KnowsEncoding)
    (haccess : inaccessible? w.tree (Path.absolute w.cwd template) (Path.absolute w.cwd output) =
      none) :
    (∀ e, (a.assemble verb w template output).failure = some e →
      e.isReported = true ∨ e = .nullCharacter) ∧
    ((a.assemble verb w template output).failure = some .nullCharacter ↔
      (a.setting verb w).CitesNull (a.runOf verb w template output).events ∨
        (∃ page, a.page (a.runOf verb w template output) = .ok page) ∧
          FileTree.hasNoNull (Path.absolute w.cwd output) = false) := by
  have hread := (inaccessible?_eq_none_iff.mp haccess).1
  obtain ⟨f, hfile, -⟩ := FileTree.file_of_readAccess hread
  obtain ⟨hcases, hiff⟩ := Setting.expand_failure henc (some (Path.absolute w.cwd output))
    (FileTree.hasNoNull_of_file? hfile)
  change ∀ e, (a.runOf verb w template output).failure = some e → _ at hcases
  change (a.runOf verb w template output).failure = _ ↔
    (a.setting verb w).CitesNull (a.runOf verb w template output).events at hiff
  cases hpage : a.page (a.runOf verb w template output) with
  | error e =>
      rw [assemble_of_error haccess hpage]
      rcases page_error hpage with hfail | ⟨hok, hreported⟩
      · exact ⟨fun e' he' => hcases e' (hfail.trans he'), by simp [← hiff, hfail]⟩
      · refine ⟨fun e' he' => Or.inl (Option.some.inj he' ▸ hreported), ?_⟩
        have hne : e ≠ .nullCharacter := by
          rintro rfl
          cases hreported
        simp [← hiff, hok, hne]
  | ok text =>
      obtain ⟨hwrite, hnull⟩ := write_failure hpage w.tree (Path.absolute w.cwd output)
      rw [failure_of_page haccess hpage, ← hiff, ok_of_page hpage]
      exact ⟨hwrite, by simp [hnull]⟩

/-- **What an assembly does not report.** Let the encoding be one that is known. Every error that
    stops the assembly is reported, with two exceptions. The first is a path that the system refuses
    to follow: the path of the template, of the output, or of the directory of the output is too
    long, or comes to a name that is too long, or leads through a directory that may not be
    searched. The second is a null character in a path: the template may be read and the output may
    be written, and
    * the run ends with a directive that stands in a template and cites a path with a null
      character, or
    * the page is complete, and the path of the output holds one.

    No event of the run is refused by the document, and every directive that quotes a file can do
    so. -/
theorem unreported_errors (a : Assembler) (verb : Verb) (w : Place) (template output : Text)
    (hnull : a.encoding.hasNull = false)
    (hknown : (Encoding.ofName? a.encoding).isSome = true) :
    let s := a.setting verb w
    let first := Path.absolute w.cwd template
    let target := Path.absolute w.cwd output
    let run := a.runOf verb w template output
    let out := a.assemble verb w template output
    (∀ e, out.failure = some e →
      e.isReported = true ∨ (∃ b p, e = .barred b p) ∨ e = .nullCharacter) ∧
    (∀ b p, out.failure = some (.barred b p) ↔
      LooksUp w.tree first target p ∧ w.tree.Hinders p (.barrier b)) ∧
    (out.failure = some .nullCharacter ↔
      w.tree.readAccess first = .granted ∧ w.tree.writeAccess target = .granted ∧
        (s.CitesNull run.events ∨
          (∃ page, a.page run = .ok page) ∧ FileTree.hasNoNull target = false)) ∧
    s.expandInto? first (some target) (.empty a.tidy) =
      some ((Document.empty a.tidy).replay run.events, run.failure) ∧
    ∀ (d : Directive) (content : Text), d.citesFile = true → d.isRecursive = false →
      (Directive.verbatim? d.treatment d.language content).isSome = true := by
  intro s first target run out
  have henc : s.KnowsEncoding := ⟨hnull, hknown⟩
  have hquotes : ∀ (d : Directive) (content : Text), d.citesFile = true → d.isRecursive = false →
      (Directive.verbatim? d.treatment d.language content).isSome = true := by
    intro d content hcites hrec
    obtain ⟨opener, closer, hwrapper⟩ := Setting.wrapper?_isSome hcites hrec
    rw [Directive.verbatim?, Option.isSome_map, hwrapper]
    rfl
  have hdocument := s.expandInto?_eq first (some target) (.empty a.tidy)
  cases haccess : inaccessible? w.tree first target with
  | some e =>
      have hout : out.failure = some e :=
        congrArg Outcome.failure (assemble_of_inaccessible haccess)
      have hcases := inaccessible?_cases haccess
      refine ⟨fun e' he' => ?_, fun b p => ?_, ⟨fun hfail => ?_, fun h => ?_⟩, hdocument, hquotes⟩
      · cases hout.symm.trans he'
        exact hcases.imp_right Or.inl
      · rw [hout, ← haccess, inaccessible?_eq_barred_iff]
      · cases hout.symm.trans hfail
        rcases hcases with hreported | ⟨b, p, heq⟩
        · cases hreported
        · cases heq
      · obtain ⟨hread, hwrite, -⟩ := h
        cases haccess.symm.trans (inaccessible?_eq_none_iff.mpr ⟨hread, hwrite⟩)
  | none =>
      obtain ⟨hcases, hiff⟩ := failure_of_accessible henc haccess
      obtain ⟨hread, hwrite⟩ := inaccessible?_eq_none_iff.mp haccess
      refine ⟨fun e he => ?_, fun b p => ⟨fun hfail => ?_, fun h => ?_⟩, ?_, hdocument, hquotes⟩
      · exact (hcases e he).imp_right Or.inr
      · rcases hcases _ hfail with hreported | heq
        · cases hreported
        · cases heq
      · cases haccess.symm.trans (inaccessible?_eq_barred_iff.mpr h)
      · rw [hiff]
        exact ⟨fun h => ⟨hread, hwrite, h⟩, fun h => h.2.2⟩

/-- A template that cites a path with a null character. -/
def citingNull : Place :=
  ⟨⟨[([['t']], .ofAscii "@[markdown](a\x00b)\n")], [([], true)]⟩, ⟨.root, []⟩⟩

/-- The run of that template ends with the directive on its first line, and nothing else stops the
    assembly. -/
theorem unreported_errors_null :
    (keeping.setting .includeFiles citingNull).CitesNull
        (keeping.runOf .includeFiles citingNull ['t'] ['o']).events ∧
      ∀ b p, (keeping.assemble .includeFiles citingNull ['t'] ['o']).failure ≠
        some (.barred b p) := by
  obtain ⟨-, -, hnull, -⟩ := unreported_errors keeping .includeFiles citingNull ['t'] ['o']
    (by decide +kernel) (by decide +kernel)
  have hfail : (keeping.assemble .includeFiles citingNull ['t'] ['o']).failure =
      some .nullCharacter := by decide +kernel
  refine ⟨?_, fun b p hbarred => ?_⟩
  · rcases (hnull.mp hfail).2.2 with hcites | ⟨-, houtput⟩
    · exact hcites
    · exact absurd houtput (by decide +kernel)
  · cases hfail.symm.trans hbarred

/-- **An error that is not reported** escapes from an assembly with a known encoding, for nothing
    but what a template cites. -/
theorem null_cited_unreported :
    ¬ ∀ (a : Assembler) (verb : Verb) (w : Place) (template output : Text) (e : Error),
      a.encoding ∈ ["utf-8", "latin-1", "ascii", "utf-8-sig"].map String.toList →
      (a.assemble verb w template output).failure = some e → e.isReported = true := by
  intro h
  have hreported := h keeping .includeFiles citingNull ['t'] ['o'] .nullCharacter (by decide)
    (by decide +kernel)
  cases hreported

end Assembler

end MarkdownTemplate
