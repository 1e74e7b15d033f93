import Mathlib.Data.List.Chain
import Mathlib.Data.List.FinRange
import MarkdownTemplate.Proofs.Lines
import MarkdownTemplate.Proofs.Nesting

/-!
# What a backtrace shows

An error inside an inclusion comes with the inclusion stack. This file says what its frames have to
do with the files, and fixes

* `Site`, `Site.Stands` -- a directive where it stands, and that it does stand there;
* `Setting.Leads` -- **the invariant** while a template is read: the sites on the stack lead to it,
  each to the template that the next one stands in;
* `Setting.Stops`, `Setting.StopsAt` -- what a site has to do with the error that stops a run there,
  and that the sites on the stack lead to it;
* `Expands.stopsAt` -- a run that such an error stops is stopped at a site;
* **`backtrace_eq_open_sites`** -- the frames and the message of an error are those of the sites
  that lead from the template to the fault.
-/

namespace MarkdownTemplate

/-! ## 1. Directives where they stand -/

/-- A directive where it stands. -/
structure Site where
  template : Path
  /-- The line, counted from one. -/
  number : Nat
  directive : Directive

namespace Site

/-- The file that the directive cites. -/
def includee (x : Site) : Path :=
  x.directive.includee x.template

/-- The frame of the directive. -/
def frame (x : Site) : Frame :=
  x.directive.frame x.template x.number

/-- **The directive stands there**: the file can be opened, and the line of this number, as far as
    the file can be read, is the directive and nothing else but blanks behind it. -/
def Stands (s : Setting) (x : Site) : Prop :=
  ∃ source line, Source.ofPath s.tree s.encoding x.template = .ok source ∧
    (line, x.number) ∈ source.reading.lines.zipIdx 1 ∧ s.directive? line = some x.directive ∧
    x.directive.text = Text.trimRight line

/-- The directive cites the template in which the other one stands. -/
def LeadsTo (x y : Site) : Prop :=
  x.directive.isRecursive = true ∧ x.includee = y.template

end Site

/-- The stack that an error shows. -/
def Error.stack? : Error → Option Stack
  | unreadableIncludee _ _ stack => some stack
  | circularInclusion _ _ stack => some stack
  | _ => none

/-- The end of a file adds no error to a run, unless the file does not decode. -/
theorem Source.close_failure {source : Source} {undecodable e : Error} {body : Run}
    (h : (source.close undecodable body).failure = some e) :
    body.failure = some e ∨ body.failure = none ∧ undecodable = e ∧ source.text? = none := by
  cases hbody : body.failure with
  | some e' =>
      rw [close, Run.andThen_of_failure hbody, hbody] at h
      exact Or.inl h
  | none =>
      rw [close, Run.andThen_of_ok hbody] at h
      cases hcomplete : source.reading.complete with
      | true => simp [hcomplete, Run.nothing] at h
      | false =>
          have hundecodable : undecodable = e := by simpa [hcomplete, Run.stopped] using h
          refine Or.inr ⟨rfl, hundecodable, ?_⟩
          by_contra hne
          have htext := Option.ne_none_iff_exists'.mp hne
          rw [Source.reading_complete_iff.mpr htext] at hcomplete
          cases hcomplete

namespace Setting

variable {s : Setting} {first : Frame} {stack : Stack} {top template : Path} {depth : Int}
  {number : Nat} {line : Text} {lines : List Text} {r : Run} {e : Error} {d : Directive}
  {sites : List Site} {x : Site}

/-- The lines, numbered from `number` on, are what is left to be read of the file at `p`. -/
def Reads (s : Setting) (p : Path) (number : Nat) (lines : List Text) : Prop :=
  ∃ source, Source.ofPath s.tree s.encoding p = .ok source ∧
    ∀ x ∈ lines.zipIdx number, x ∈ source.reading.lines.zipIdx 1

theorem reads_lines {source : Source}
    (hopen : Source.ofPath s.tree s.encoding template = .ok source) :
    s.Reads template 1 source.reading.lines :=
  ⟨source, hopen, fun _ hx => hx⟩

theorem Reads.tail (h : s.Reads template number (line :: lines)) :
    s.Reads template (number + 1) lines := by
  obtain ⟨source, hopen, hlines⟩ := h
  rw [List.zipIdx_cons, List.forall_mem_cons] at hlines
  exact ⟨source, hopen, hlines.2⟩

/-- A directive on the next line stands there. -/
theorem Reads.stands (h : s.Reads template number (line :: lines))
    (hline : s.directive? (lineAt depth line) = some d) :
    Site.Stands s ⟨template, number, d⟩ := by
  obtain ⟨source, hopen, hlines⟩ := h
  rw [List.zipIdx_cons, List.forall_mem_cons] at hlines
  rw [directive?_lineAt] at hline
  exact ⟨source, line, hopen, hlines.1, hline, text_of_directive? hline⟩

/-! ## 2. The invariant -/

/-- **The invariant of the sites on the stack**: they lead from `top` to the template being read.
    The first stands in `top`, each cites the template in which the next one stands, and the last
    cites the template being read. -/
inductive Leads (s : Setting) (top : Path) : List Site → Path → Prop where
  | start : Leads s top [] top
  | push {sites : List Site} {x : Site} (hlead : Leads s top sites x.template)
      (hstands : x.Stands s) (hrec : x.directive.isRecursive = true) :
      Leads s top (sites ++ [x]) x.includee

/-- Each site stands where it is said to. -/
theorem Leads.stands (h : s.Leads top sites template) : ∀ x ∈ sites, x.Stands s := by
  induction h with
  | start => simp
  | push _ hstands _ ih =>
      exact List.forall_mem_append.mpr ⟨ih, List.forall_mem_singleton.mpr hstands⟩

/-- The first site stands in the template at the top. -/
theorem Leads.head (h : s.Leads top sites x.template) :
    (sites ++ [x]).head?.map Site.template = some top := by
  generalize hp : x.template = p at h
  induction h generalizing x with
  | start => simp [hp]
  | push _ _ _ ih =>
      have hhead := ih rfl
      rw [List.head?_append_of_ne_nil _ (by simp)]
      exact hhead

/-- One site leads to the next. -/
theorem Leads.isChain (h : s.Leads top sites x.template) :
    (sites ++ [x]).IsChain Site.LeadsTo := by
  generalize hp : x.template = p at h
  induction h generalizing x with
  | start => exact .singleton x
  | @push sites y hlead hstands hrec ih =>
      refine List.isChain_append.mpr ⟨ih rfl, .singleton x, ?_⟩
      intro a ha b hb
      obtain rfl : y = a := by simpa using ha
      obtain rfl : x = b := by simpa using hb
      exact ⟨hrec, hp.symm⟩

/-! ## 3. Where a run is stopped -/

/-- **What a site has to do with the error that stops a run there.** -/
inductive Stops (s : Setting) (stack : Stack) (x : Site) : Error → Prop where
  /-- A template on the stack is cited once more. -/
  | circular (hrec : x.directive.isRecursive = true)
      (hfound : (stack.find? x.includee).isSome = true) :
      Stops s stack x (s.circular stack x.includee)
  /-- The file that is cited cannot be opened. -/
  | refused (hopen : Source.ofPath s.tree s.encoding x.includee = .error .refused) :
      Stops s stack x (s.unreadable stack x.includee)
  /-- The file that is cited does not decode. -/
  | undecodable {source : Source}
      (hopen : Source.ofPath s.tree s.encoding x.includee = .ok source)
      (htext : source.text? = none) :
      Stops s stack x (s.unreadable stack x.includee)

/-- **A run that is stopped at a site**: above the frame `first` stand the sites that lead to it,
    and its own frame on top. -/
def StopsAt (s : Setting) (first : Frame) (top : Path) (stack : Stack) (e : Error) : Prop :=
  ∃ sites x, stack = first :: (sites ++ [x]).map Site.frame ∧ s.Leads top sites x.template ∧
    x.Stands s ∧ s.Stops stack x e

/-- The frame of a directive is that of its site. -/
theorem push_frame (heq : stack = first :: sites.map Site.frame) (d : Directive) (template : Path)
    (number : Nat) : stack.push (d.frame template number) =
      first :: (sites ++ [(⟨template, number, d⟩ : Site)]).map Site.frame := by
  simp [heq, Stack.push, Site.frame]

/-- **A fault at a directive of the template being read**, when its frame is on the stack. -/
theorem stopsAt_push (heq : stack = first :: sites.map Site.frame)
    (hlead : s.Leads top sites template) (hstands : Site.Stands s ⟨template, number, d⟩)
    (hstops : s.Stops (stack.push (d.frame template number)) ⟨template, number, d⟩ e) :
    s.StopsAt first top (stack.push (d.frame template number)) e :=
  ⟨sites, _, push_frame heq d template number, hlead, hstands, hstops⟩

/-- An error that shows the stack and stands in the way of opening a file says that the file is
    not available. -/
theorem openSource_error {refused : Error} (hopen : s.openSource refused template = .error e)
    (hstack : e.stack?.isSome = true) :
    e = refused ∧ Source.ofPath s.tree s.encoding template = .error .refused := by
  unfold openSource at hopen
  split at hopen
  · cases hopen
  · rename_i hrefused
    cases hopen
    exact ⟨rfl, hrefused⟩
  all_goals
    cases hopen
    cases hstack

/-- **Where a run is stopped** by an error that shows the stack. If the sites on the stack lead to
    the template being read, they do so to a site at which the run is stopped, and the stack is
    that of these sites when the run ends. -/
theorem Expands.stopsAt (h : Expands s stack template depth number lines r)
    (hfail : r.failure = some e) (hstack : e.stack?.isSome = true) :
    ∀ sites, stack = first :: sites.map Site.frame → s.Leads top sites template →
      s.Reads template number lines → s.StopsAt first top (stack.replay r.events) e := by
  induction h with
  | done => cases hfail
  | copied _ _ ih => exact fun sites heq hlead hreads => ih hfail sites heq hlead hreads.tail
  | marked _ _ _ ih => exact fun sites heq hlead hreads => ih hfail sites heq hlead hreads.tail
  | quoted _ _ _ _ _ _ ih =>
      intro sites heq hlead hreads
      rw [Run.after_events, Stack.replay_append, Stack.replay_inclusion (Stack.replay_quote ..)]
      exact ih hfail sites heq hlead hreads.tail
  | nested _ _ _ _ hbody hok _ _ _ ihRest =>
      intro sites heq hlead hreads
      rw [Run.after_events, Stack.replay_append, Stack.replay_inclusion (hbody.replay_eq hok)]
      exact ihRest hfail sites heq hlead hreads.tail
  | cyclic hline hrec hfound =>
      intro sites heq hlead hreads
      cases hfail
      exact stopsAt_push heq hlead (hreads.stands hline) (.circular hrec hfound)
  | unopened hline _ _ hopen =>
      intro sites heq hlead hreads
      cases hfail
      obtain ⟨rfl, hrefused⟩ := openSource_error hopen hstack
      exact stopsAt_push heq hlead (hreads.stands hline) (.refused hrefused)
  | undecodable hline _ _ hopen htext =>
      intro sites heq hlead hreads
      cases hfail
      exact stopsAt_push heq hlead (hreads.stands hline) (.undecodable hopen htext)
  | @broken _ template _ number _ _ d _ _ _ hline hrec _ hopen hbody hfail' ih =>
      intro sites heq hlead hreads
      cases hfail
      have hstands := hreads.stands hline
      rcases Source.close_failure hfail' with hbroken | ⟨hok, rfl, htext⟩
      · -- the fault lies inside the template that is cited
        have hinner : s.Leads top (sites ++ [⟨template, number, d⟩]) (d.includee template) :=
          .push hlead hstands hrec
        exact ih hbroken _ (push_frame heq d template number) hinner (reads_lines hopen)
      · rw [Stack.replay_cite, Stack.replay_enter, hbody.replay_eq hok]
        exact stopsAt_push heq hlead hstands (.undecodable hopen htext)

/-- **Where the run of a template is stopped** by such an error. -/
theorem stopsAt_expand {output : Option Path}
    (hfail : (s.expand template output).failure = some e) (hstack : e.stack?.isSome = true) :
    s.StopsAt (.outermost template output) template
      (Stack.replay [.outermost template output] (s.expand template output).events) e := by
  have hrun := runOf_expand s template output
  generalize s.expand template output = run at hrun hfail ⊢
  cases hrun with
  | unopened hopen =>
      cases hfail
      obtain ⟨rfl, -⟩ := openSource_error hopen hstack
      cases hstack
  | opened hopen hbody =>
      rcases Source.close_failure hfail with hbroken | ⟨-, rfl, -⟩
      · rw [Source.close_events]
        exact hbody.stopsAt hbroken hstack [] rfl .start (reads_lines hopen)
      · cases hstack

end Setting

/-! ## 4. Backtraces -/

namespace Error

/-- The message of an error inside an inclusion: what is wrong, the file, and the backtrace. -/
theorem inclusionMessage_eq (summary : String) (root : Option Path) (p : Path) (stack : Stack) :
    inclusionMessage summary root p stack =
      summary.toList ++ (": ".toList ++ p.display root ++ '\n' :: stack.backtrace root) := by
  simp only [inclusionMessage, List.append_assoc]

theorem message_circularInclusion (root : Option Path) (p : Path) (stack : Stack) :
    (circularInclusion root p stack).message = "Circular inclusion".toList ++
      (": ".toList ++ p.display root ++ '\n' :: stack.backtrace root) :=
  inclusionMessage_eq ..

theorem message_unreadableIncludee (root : Option Path) (p : Path) (stack : Stack) :
    (unreadableIncludee root p stack).message = "Could not read includee file".toList ++
      (": ".toList ++ p.display root ++ '\n' :: stack.backtrace root) :=
  inclusionMessage_eq ..

end Error

/-- **The levels of a backtrace**, innermost first: level `j` shows the frame of site `j`. -/
theorem Stack.levels_map_frame (root : Option Path) (sites : List Site) :
    levels root (sites.map Site.frame) = ((List.finRange sites.length).reverse.map fun j =>
      levelLines root j.val sites[j].frame).flatten := by
  have hnumbered : (sites.map Site.frame).zipIdx =
      (List.finRange sites.length).map fun j => (sites[j].frame, j.val) := by
    refine List.ext_getElem (by simp) fun i _ _ => ?_
    simp
  rw [levels, hnumbered, ← List.map_reverse, List.map_map]
  rfl

/-- The backtrace shows every frame but the outermost. -/
theorem Stack.backtrace_cons_map_frame (root : Option Path) (template : Path)
    (output : Option Path) (sites : List Site) :
    backtrace (.outermost template output :: sites.map Site.frame) root =
      Text.joined ['\n'] ("Inclusion backtrace, innermost first:".toList ::
        ((List.finRange sites.length).reverse.map fun j =>
          levelLines root j.val sites[j].frame).flatten) ++ ['\n'] := by
  have hfilter : List.filter Frame.isDirective
      (.outermost template output :: sites.map Site.frame) = sites.map Site.frame := by
    rw [List.filter_cons_of_neg (by simp [Frame.isDirective, Frame.outermost])]
    refine List.filter_eq_self.mpr fun f hf => ?_
    obtain ⟨x, -, rfl⟩ := List.mem_map.mp hf
    exact Directive.frame_isDirective ..
  rw [backtrace, hfilter, levels_map_frame]

namespace Setting

variable {s : Setting} {template p : Path} {output : Option Path} {sites : List Site}

/-- No two sites on the stack stand in the same template. -/
theorem nodup_template (heq : Stack.replay [.outermost template output]
      (s.expand template output).events = .outermost template output :: sites.map Site.frame) :
    (sites.map Site.template).Nodup := by
  obtain ⟨frames, hframes, -, hnd, -⟩ :=
    ascends_expand s Anchor.closed_all template.anchor.mem_all output _ (List.prefix_refl _)
  rw [heq, List.cons.injEq] at hframes
  rw [← hframes.2, List.map_map] at hnd
  exact hnd

/-- **A template that the cycle check finds** is the one in which exactly one of the sites stands,
    since the outermost frame and the first site belong to the same template. -/
theorem count_template_eq_one (hnd : (sites.map Site.template).Nodup)
    (hhead : sites.head?.map Site.template = some template)
    (hfound : (Stack.find? (.outermost template output :: sites.map Site.frame) p).isSome = true) :
    (sites.map Site.template).count p = 1 := by
  refine List.count_eq_one_of_mem hnd ?_
  obtain ⟨f, hf, rfl⟩ := Stack.find?_isSome_iff.mp hfound
  rcases List.mem_cons.mp hf with rfl | hf
  · obtain ⟨x, hx, htemplate⟩ := Option.map_eq_some_iff.mp hhead
    exact List.mem_map.mpr ⟨x, List.mem_of_mem_head? hx, htemplate⟩
  · obtain ⟨x, hx, rfl⟩ := List.mem_map.mp hf
    exact List.mem_map.mpr ⟨x, hx, rfl⟩

/-- **A backtrace shows the directives that are open.** Let an error stop an expansion that shows
    the inclusion stack. Its frames are the outermost one and those of sites: directives that
    stand where their frames say. The first stands in the template, each is one of a template and
    leads to the next, and no two stand in the same file. The error is about the file that the last
    one cites: either it is a template in which exactly one of the sites stands, or it cannot be
    opened or does not decode. The message shows this file and one level for each site, innermost
    first. -/
theorem backtrace_eq_open_sites (s : Setting) (template : Path) (output : Option Path) {e : Error}
    {stack : Stack} (hfail : (s.expand template output).failure = some e)
    (hstack : e.stack? = some stack) :
    stack = Stack.replay [.outermost template output] (s.expand template output).events ∧
    ∃ (sites : List Site) (last : Site),
      stack = .outermost template output :: sites.map Site.frame ∧
      sites.head?.map Site.template = some template ∧
      sites.getLast? = some last ∧
      (∀ x ∈ sites, x.Stands s) ∧
      sites.IsChain Site.LeadsTo ∧
      (sites.map Site.template).Nodup ∧
      let levels := (List.finRange sites.length).reverse.map fun j =>
        Stack.levelLines s.root j.val sites[j].frame
      let shown := ": ".toList ++ last.includee.display s.root ++ '\n' ::
        (Text.joined ['\n'] ("Inclusion backtrace, innermost first:".toList :: levels.flatten) ++
          ['\n'])
      (e = .circularInclusion s.root last.includee stack ∧
          e.message = "Circular inclusion".toList ++ shown ∧
          last.directive.isRecursive = true ∧
          (sites.map Site.template).count last.includee = 1) ∨
        (e = .unreadableIncludee s.root last.includee stack ∧
          e.message = "Could not read includee file".toList ++ shown ∧
          (Source.ofPath s.tree s.encoding last.includee = .error .refused ∨
            ∃ source, Source.ofPath s.tree s.encoding last.includee = .ok source ∧
              source.text? = none)) := by
  obtain ⟨sites, x, heq, hlead, hstands, hstops⟩ := stopsAt_expand hfail (by simp [hstack])
  have hdistinct := nodup_template heq
  have hhead := hlead.head
  generalize Stack.replay [.outermost template output] (s.expand template output).events = final
    at heq hstops
  have hshows : stack = final := by
    cases hstops <;> exact (Option.some.inj hstack).symm
  subst hshows
  refine ⟨rfl, sites ++ [x], x, heq, hhead, List.getLast?_concat, ?_, hlead.isChain, hdistinct, ?_⟩
  · exact List.forall_mem_append.mpr ⟨hlead.stands, List.forall_mem_singleton.mpr hstands⟩
  · have hbacktrace := Stack.backtrace_cons_map_frame s.root template output (sites ++ [x])
    rw [← heq] at hbacktrace
    dsimp only
    rw [← hbacktrace]
    cases hstops with
    | circular hrec hfound =>
        have hcount := count_template_eq_one hdistinct hhead (heq ▸ hfound)
        have hmessage := Error.message_circularInclusion s.root x.includee stack
        exact Or.inl ⟨rfl, hmessage, hrec, hcount⟩
    | refused hopen =>
        have hmessage := Error.message_unreadableIncludee s.root x.includee stack
        exact Or.inr ⟨rfl, hmessage, Or.inl hopen⟩
    | undecodable hopen htext =>
        have hmessage := Error.message_unreadableIncludee s.root x.includee stack
        exact Or.inr ⟨rfl, hmessage, Or.inr ⟨_, hopen, htext⟩⟩

/-- The ring is noticed where it closes: two sites lead from the template back to it. -/
theorem backtrace_eq_open_sites_ring :
    let a : Path := ⟨.root, [['a']]⟩
    let b : Path := ⟨.root, [['b']]⟩
    let stack : Stack := [.outermost a none, .ofDirective a 1 "@[markdown](b)".toList b,
      .ofDirective b 1 "@[markdown](/a)".toList a]
    (ring.expand a none).failure = some (ring.circular stack a) ∧
    (ring.circular stack a).stack? = some stack ∧
    (∃ sites : List Site, stack = .outermost a none :: sites.map Site.frame ∧
      (∀ x ∈ sites, x.Stands ring) ∧ sites.IsChain Site.LeadsTo) ∧
    (ring.circular stack a).message =
      ("Circular inclusion: /a\nInclusion backtrace, innermost first:\n" ++
        "Level 1:\n  Site: /b:1\n  Directive: @[markdown](/a)\n" ++
        "Level 0:\n  Site: /a:1\n  Directive: @[markdown](b)\n").toList := by
  intro a b stack
  have hfail : (ring.expand a none).failure = some (ring.circular stack a) := by decide +kernel
  obtain ⟨-, sites, -, heq, -, -, hstands, hchain, -⟩ :=
    backtrace_eq_open_sites ring a none hfail rfl
  exact ⟨hfail, rfl, ⟨sites, heq, hstands, hchain⟩, by decide +kernel⟩

end Setting

end MarkdownTemplate
