import MarkdownTemplate.Expansion

/-!
# The rules of expansion

`Setting.expandSource` finds the run of a template under a bound on how deep templates may nest.
The rules below say what a run is with no bound at all. This file fixes

* `Setting.Expands` -- the rules, one for each thing that a line can turn out to be;
  `Expands.ok_induction` -- induction over a run that nothing stops;
* `Setting.RunOf` -- the run of a whole template;
* `takeUp_circular`, `takeUp_unopened`, ... -- what taking up a directive does, case by case;
* `Expands.readLines_eq` -- the rules leave no choice: the run they derive is the run that the
  bounded recursion finds under every bound that is large enough.

That every template has a run under the rules is shown in `MarkdownTemplate.Proofs.Nesting`.
-/

namespace MarkdownTemplate

/-! ## 1. Runs put together -/

namespace Run

/-- Some events, and then a run. -/
def after (events : List Event) (r : Run) : Run :=
  ⟨events ++ r.events, r.failure⟩

@[simp] theorem after_events (events : List Event) (r : Run) :
    (r.after events).events = events ++ r.events := rfl

@[simp] theorem after_failure (events : List Event) (r : Run) :
    (r.after events).failure = r.failure := rfl

theorem did_andThen_eq_after (events : List Event) (next : Unit → Run) :
    (did events).andThen next = (next ()).after events := rfl

theorem after_andThen (events : List Event) (r : Run) (next : Unit → Run) :
    (r.after events).andThen next = (r.andThen next).after events := by
  obtain ⟨done, failure⟩ := r
  cases failure <;> simp [andThen, after]

theorem after_after (first second : List Event) (r : Run) :
    (r.after second).after first = r.after (first ++ second) := by
  simp [after]

theorem andThen_of_ok {r : Run} (h : r.failure = none) (next : Unit → Run) :
    r.andThen next = (next ()).after r.events := by
  simp only [andThen, h, after]

theorem andThen_of_failure {r : Run} {e : Error} (h : r.failure = some e) (next : Unit → Run) :
    r.andThen next = r := by
  simp only [andThen, h]

end Run

/-- The run of a file's lines, and what the end of the file adds: an error if the file cannot be
    decoded to its end. -/
def Source.close (source : Source) (undecodable : Error) (r : Run) : Run :=
  r.andThen fun _ => if source.reading.complete then .nothing else .stopped undecodable

@[simp] theorem Source.close_events (source : Source) (undecodable : Error) (r : Run) :
    (source.close undecodable r).events = r.events := by
  obtain ⟨events, failure⟩ := r
  cases failure with
  | some e => rfl
  | none =>
    cases h : source.reading.complete <;> simp [close, Run.andThen, h, Run.nothing, Run.stopped]

/-- Nothing stops the run of a file exactly if nothing stops the run of its lines and the file is
    read to its end. -/
theorem Source.close_ok_iff {source : Source} {undecodable : Error} {r : Run} :
    (source.close undecodable r).failure = none ↔
      r.failure = none ∧ source.reading.complete = true := by
  obtain ⟨events, failure⟩ := r
  cases failure with
  | some e => simp [close, Run.andThen]
  | none =>
    cases h : source.reading.complete <;> simp [close, Run.andThen, h, Run.nothing, Run.stopped]

namespace Directive

/-- The file that the directive cites when it stands in `template`. -/
def includee (d : Directive) (template : Path) : Path :=
  template.resolve d.target

/-- The frame of the directive when it stands on line `number` of `template`. -/
def frame (d : Directive) (template : Path) (number : Nat) : Frame :=
  .ofDirective template number d.text (d.includee template)

@[simp] theorem frame_template (d : Directive) (template : Path) (number : Nat) :
    (d.frame template number).template = template := rfl

@[simp] theorem frame_isDirective (d : Directive) (template : Path) (number : Nat) :
    (d.frame template number).isDirective = true := rfl

end Directive

namespace Setting

/-- The error that the file `includee`, cited by the innermost frame, cannot be read. -/
def unreadable (s : Setting) (stack : Stack) (includee : Path) : Error :=
  .unreadableIncludee s.root includee stack

/-- The error that the file `includee`, cited by the innermost frame, is being expanded already. -/
def circular (s : Setting) (stack : Stack) (includee : Path) : Error :=
  .circularInclusion s.root includee stack

/-! ## 2. The rules -/

/-- **The rules of expansion.** `Expands s stack template depth number lines r`: reading `lines`,
    the lines of `template` from `number` on, with `stack` above them and at `depth`, is the run
    `r`. The first five rules say how a line is dealt with and reading goes on; the other four
    say what stops the run. -/
inductive Expands (s : Setting) : Stack → Path → Int → Nat → List Text → Run → Prop where
  | done {stack : Stack} {template : Path} {depth : Int} {number : Nat} :
      Expands s stack template depth number [] .nothing
  /-- A line that is no directive is copied. -/
  | copied {stack : Stack} {template : Path} {depth : Int} {number : Nat} {line : Text}
      {rest : List Text} {r : Run}
      (hline : s.directive? (lineAt depth line) = none)
      (hrest : Expands s stack template depth (number + 1) rest r) :
      Expands s stack template depth number (line :: rest)
        (r.after [.line ⟨lineAt depth line, depth, none⟩])
  /-- The place of the table of contents is marked. -/
  | marked {stack : Stack} {template : Path} {depth : Int} {number : Nat} {line : Text}
      {rest : List Text} {d : Directive} {r : Run}
      (hline : s.directive? (lineAt depth line) = some d) (hcites : d.citesFile = false)
      (hrest : Expands s stack template depth (number + 1) rest r) :
      Expands s stack template depth number (line :: rest)
        (r.after [.line ⟨lineAt depth line, depth, some d.target⟩])
  /-- A file that is no template is quoted. -/
  | quoted {stack : Stack} {template : Path} {depth : Int} {number : Nat} {line : Text}
      {rest : List Text} {d : Directive} {source : Source} {content : Text} {r : Run}
      (hline : s.directive? (lineAt depth line) = some d) (hcites : d.citesFile = true)
      (hrec : d.isRecursive = false)
      (hopen : Source.ofPath s.tree s.encoding (d.includee template) = .ok source)
      (htext : source.text? = some content)
      (hrest : Expands s stack template depth (number + 1) rest r) :
      Expands s stack template depth number (line :: rest)
        (r.after (.cite (d.frame template number) :: .enter (d.includee template) d.treatment ::
          (quote d depth content).events ++ [.leave (d.includee template)]))
  /-- A template that is not being expanded is expanded in place. -/
  | nested {stack : Stack} {template : Path} {depth : Int} {number : Nat} {line : Text}
      {rest : List Text} {d : Directive} {source : Source} {body r : Run}
      (hline : s.directive? (lineAt depth line) = some d) (hrec : d.isRecursive = true)
      (hnew : (stack.push (d.frame template number)).find? (d.includee template) = none)
      (hopen : Source.ofPath s.tree s.encoding (d.includee template) = .ok source)
      (hbody : Expands s (stack.push (d.frame template number)) (d.includee template) (depth + 1) 1
        source.reading.lines body)
      (hok : body.failure = none) (hcomplete : source.reading.complete = true)
      (hrest : Expands s stack template depth (number + 1) rest r) :
      Expands s stack template depth number (line :: rest)
        (r.after (.cite (d.frame template number) :: .enter (d.includee template) d.treatment ::
          body.events ++ [.leave (d.includee template)]))
  /-- The template is being expanded already. -/
  | cyclic {stack : Stack} {template : Path} {depth : Int} {number : Nat} {line : Text}
      {rest : List Text} {d : Directive}
      (hline : s.directive? (lineAt depth line) = some d) (hrec : d.isRecursive = true)
      (hfound :
        ((stack.push (d.frame template number)).find? (d.includee template)).isSome = true) :
      Expands s stack template depth number (line :: rest)
        ⟨[.cite (d.frame template number)],
          some (s.circular (stack.push (d.frame template number)) (d.includee template))⟩
  /-- The file cannot be opened. -/
  | unopened {stack : Stack} {template : Path} {depth : Int} {number : Nat} {line : Text}
      {rest : List Text} {d : Directive} {e : Error}
      (hline : s.directive? (lineAt depth line) = some d) (hcites : d.citesFile = true)
      (hnew : d.isRecursive = true →
        (stack.push (d.frame template number)).find? (d.includee template) = none)
      (hopen : s.openSource (s.unreadable (stack.push (d.frame template number))
        (d.includee template)) (d.includee template) = .error e) :
      Expands s stack template depth number (line :: rest)
        ⟨[.cite (d.frame template number)], some e⟩
  /-- The file to be quoted cannot be decoded. -/
  | undecodable {stack : Stack} {template : Path} {depth : Int} {number : Nat} {line : Text}
      {rest : List Text} {d : Directive} {source : Source}
      (hline : s.directive? (lineAt depth line) = some d) (hcites : d.citesFile = true)
      (hrec : d.isRecursive = false)
      (hopen : Source.ofPath s.tree s.encoding (d.includee template) = .ok source)
      (htext : source.text? = none) :
      Expands s stack template depth number (line :: rest)
        ⟨[.cite (d.frame template number), .enter (d.includee template) d.treatment],
          some (s.unreadable (stack.push (d.frame template number)) (d.includee template))⟩
  /-- Something stops the expansion of the template, or it cannot be decoded to its end. -/
  | broken {stack : Stack} {template : Path} {depth : Int} {number : Nat} {line : Text}
      {rest : List Text} {d : Directive} {source : Source} {body : Run} {e : Error}
      (hline : s.directive? (lineAt depth line) = some d) (hrec : d.isRecursive = true)
      (hnew : (stack.push (d.frame template number)).find? (d.includee template) = none)
      (hopen : Source.ofPath s.tree s.encoding (d.includee template) = .ok source)
      (hbody : Expands s (stack.push (d.frame template number)) (d.includee template) (depth + 1) 1
        source.reading.lines body)
      (hfail : (source.close (s.unreadable (stack.push (d.frame template number))
        (d.includee template)) body).failure = some e) :
      Expands s stack template depth number (line :: rest)
        ⟨.cite (d.frame template number) :: .enter (d.includee template) d.treatment :: body.events,
          some e⟩

/-- **Induction over a run that nothing stops.** Only the rules by which reading goes on are left,
    and nothing stops what is read inside an inclusion, either. -/
@[elab_as_elim]
theorem Expands.ok_induction {s : Setting}
    {motive : ∀ {stack : Stack} {template : Path} {depth : Int} {number : Nat} {lines : List Text}
      {r : Run}, Expands s stack template depth number lines r → r.failure = none → Prop}
    (done : ∀ {stack : Stack} {template : Path} {depth : Int} {number : Nat},
      motive (@Expands.done s stack template depth number) rfl)
    (copied : ∀ {stack : Stack} {template : Path} {depth : Int} {number : Nat} {line : Text}
      {rest : List Text} {r : Run} (hline : s.directive? (lineAt depth line) = none)
      (hrest : Expands s stack template depth (number + 1) rest r) (hok : r.failure = none),
      motive hrest hok → motive (.copied hline hrest) hok)
    (marked : ∀ {stack : Stack} {template : Path} {depth : Int} {number : Nat} {line : Text}
      {rest : List Text} {d : Directive} {r : Run}
      (hline : s.directive? (lineAt depth line) = some d) (hcites : d.citesFile = false)
      (hrest : Expands s stack template depth (number + 1) rest r) (hok : r.failure = none),
      motive hrest hok → motive (.marked hline hcites hrest) hok)
    (quoted : ∀ {stack : Stack} {template : Path} {depth : Int} {number : Nat} {line : Text}
      {rest : List Text} {d : Directive} {source : Source} {content : Text} {r : Run}
      (hline : s.directive? (lineAt depth line) = some d) (hcites : d.citesFile = true)
      (hrec : d.isRecursive = false)
      (hopen : Source.ofPath s.tree s.encoding (d.includee template) = .ok source)
      (htext : source.text? = some content)
      (hrest : Expands s stack template depth (number + 1) rest r) (hok : r.failure = none),
      motive hrest hok → motive (.quoted hline hcites hrec hopen htext hrest) hok)
    (nested : ∀ {stack : Stack} {template : Path} {depth : Int} {number : Nat} {line : Text}
      {rest : List Text} {d : Directive} {source : Source} {body r : Run}
      (hline : s.directive? (lineAt depth line) = some d) (hrec : d.isRecursive = true)
      (hnew : (stack.push (d.frame template number)).find? (d.includee template) = none)
      (hopen : Source.ofPath s.tree s.encoding (d.includee template) = .ok source)
      (hbody : Expands s (stack.push (d.frame template number)) (d.includee template) (depth + 1) 1
        source.reading.lines body) (hokBody : body.failure = none)
      (hcomplete : source.reading.complete = true)
      (hrest : Expands s stack template depth (number + 1) rest r) (hok : r.failure = none),
      motive hbody hokBody → motive hrest hok →
        motive (.nested hline hrec hnew hopen hbody hokBody hcomplete hrest) hok)
    {stack : Stack} {template : Path} {depth : Int} {number : Nat} {lines : List Text} {r : Run}
    (h : Expands s stack template depth number lines r) (hok : r.failure = none) :
    motive h hok := by
  induction h with
  | done => exact done
  | copied hline hrest ih => exact copied hline hrest hok (ih hok)
  | marked hline hcites hrest ih => exact marked hline hcites hrest hok (ih hok)
  | quoted hline hcites hrec hopen htext hrest ih =>
      exact quoted hline hcites hrec hopen htext hrest hok (ih hok)
  | nested hline hrec hnew hopen hbody hokBody hcomplete hrest ihBody ih =>
      exact nested hline hrec hnew hopen hbody hokBody hcomplete hrest hok (ihBody hokBody) (ih hok)
  | cyclic => cases hok
  | unopened => cases hok
  | undecodable => cases hok
  | broken => cases hok

/-- **The run of a template** under the rules: it cannot be opened, or its lines are read with
    only the outermost frame on the stack. -/
inductive RunOf (s : Setting) (template : Path) (output : Option Path) : Run → Prop where
  | unopened {e : Error} (hopen : s.openSource (.unreadableTemplate template) template = .error e) :
      RunOf s template output (.stopped e)
  | opened {source : Source} {body : Run}
      (hopen : Source.ofPath s.tree s.encoding template = .ok source)
      (hbody : Expands s [Frame.outermost template output] template 0 1 source.reading.lines body) :
      RunOf s template output (source.close (.unreadableTemplate template) body)

/-! ## 3. Taking up a directive, case by case -/

/-- The lines that quote the content of a file. -/
def quotedLines (d : Directive) (depth : Int) (content : Text) : List Line :=
  ((Directive.verbatim? d.treatment d.language content).getD []).map fun l => ⟨l, depth, none⟩

/-- Quoting only writes lines. -/
theorem quote_events (d : Directive) (depth : Int) (content : Text) :
    (quote d depth content).events = (quotedLines d depth content).map Event.line := by
  simp [quote, quotedLines, Run.did, List.map_map, Function.comp_def]

/-- Opening succeeds whatever error is meant for a failure. -/
theorem openSource_ok_iff {s : Setting} {refused : Error} {p : Path} {source : Source} :
    s.openSource refused p = .ok source ↔ Source.ofPath s.tree s.encoding p = .ok source := by
  unfold openSource
  split <;> simp_all

/-- A directive that is no table of contents cites a file; only templates are recursive. -/
theorem citesFile_of_isRecursive {d : Directive} (h : d.isRecursive = true) :
    d.citesFile = true := by
  have ht : d.treatment = .markdown := by simpa [Directive.isRecursive] using h
  simp [Directive.citesFile, ht]

section TakeUp

variable {s : Setting} {nested : Stack → Path → Int → Source → Run} {stack : Stack}
  {template : Path} {depth : Int} {number : Nat} {d : Directive} {source : Source}

theorem takeUp_circular (hrec : d.isRecursive = true)
    (hfound : ((stack.push (d.frame template number)).find? (d.includee template)).isSome = true) :
    s.takeUp nested stack template depth number d =
      ⟨[.cite (d.frame template number)],
        some (s.circular (stack.push (d.frame template number)) (d.includee template))⟩ := by
  unfold Directive.frame Directive.includee at *
  simp only [takeUp, Run.did_andThen, hrec, hfound, Bool.and_self, ↓reduceIte, Run.stopped,
    List.append_nil, circular]

/-- The cycle check is passed. -/
theorem guard_eq_false (hnew : d.isRecursive = true →
    (stack.push (d.frame template number)).find? (d.includee template) = none) :
    (d.isRecursive &&
      ((stack.push (d.frame template number)).find? (d.includee template)).isSome) = false := by
  cases h : d.isRecursive with
  | false => rfl
  | true => rw [hnew h]; rfl

theorem takeUp_unopened {e : Error} (hnew : d.isRecursive = true →
      (stack.push (d.frame template number)).find? (d.includee template) = none)
    (hopen : s.openSource (s.unreadable (stack.push (d.frame template number))
      (d.includee template)) (d.includee template) = .error e) :
    s.takeUp nested stack template depth number d =
      ⟨[.cite (d.frame template number)], some e⟩ := by
  have hguard := guard_eq_false hnew
  unfold unreadable Directive.frame Directive.includee at *
  simp only [takeUp, Run.did_andThen, hguard, hopen, Bool.false_eq_true, ↓reduceIte, Run.stopped,
    List.append_nil]

/-- A file that has been opened: what its content adds stands between the two events that say so. -/
theorem takeUp_opened (hnew : d.isRecursive = true →
      (stack.push (d.frame template number)).find? (d.includee template) = none)
    (hopen : Source.ofPath s.tree s.encoding (d.includee template) = .ok source) :
    s.takeUp nested stack template depth number d =
      ((if d.isRecursive then
          nested (stack.push (d.frame template number)) (d.includee template) (depth + 1) source
        else
          match source.text? with
          | some content => quote d depth content
          | none => .stopped (s.unreadable (stack.push (d.frame template number))
              (d.includee template))).andThen fun _ => .did [.leave (d.includee template)]).after
        [.cite (d.frame template number), .enter (d.includee template) d.treatment] := by
  have hguard := guard_eq_false hnew
  have hopen' : s.openSource (s.unreadable (stack.push (d.frame template number))
      (d.includee template)) (d.includee template) = .ok source := openSource_ok_iff.mpr hopen
  unfold unreadable Directive.frame Directive.includee at *
  simp only [takeUp, Run.did_andThen_eq_after, hguard, hopen', Bool.false_eq_true, ↓reduceIte,
    Run.after_andThen, Run.after_after]
  rfl

theorem takeUp_quoted {content : Text} (hrec : d.isRecursive = false)
    (hopen : Source.ofPath s.tree s.encoding (d.includee template) = .ok source)
    (htext : source.text? = some content) :
    s.takeUp nested stack template depth number d =
      .did (.cite (d.frame template number) :: .enter (d.includee template) d.treatment ::
        (quote d depth content).events ++ [.leave (d.includee template)]) := by
  rw [takeUp_opened (fun h => absurd h (by simp [hrec])) hopen, hrec, htext]
  rfl

theorem takeUp_undecodable (hrec : d.isRecursive = false)
    (hopen : Source.ofPath s.tree s.encoding (d.includee template) = .ok source)
    (htext : source.text? = none) :
    s.takeUp nested stack template depth number d =
      ⟨[.cite (d.frame template number), .enter (d.includee template) d.treatment],
        some (s.unreadable (stack.push (d.frame template number)) (d.includee template))⟩ := by
  rw [takeUp_opened (fun h => absurd h (by simp [hrec])) hopen, hrec, htext]
  rfl

theorem takeUp_nested {inner : Run} (hrec : d.isRecursive = true)
    (hnew : (stack.push (d.frame template number)).find? (d.includee template) = none)
    (hopen : Source.ofPath s.tree s.encoding (d.includee template) = .ok source)
    (hinner : nested (stack.push (d.frame template number)) (d.includee template) (depth + 1)
      source = inner)
    (hok : inner.failure = none) :
    s.takeUp nested stack template depth number d =
      .did (.cite (d.frame template number) :: .enter (d.includee template) d.treatment ::
        inner.events ++ [.leave (d.includee template)]) := by
  rw [takeUp_opened (fun _ => hnew) hopen, if_pos hrec, hinner, Run.andThen_of_ok hok]
  simp [Run.after, Run.did]

theorem takeUp_broken {inner : Run} {e : Error} (hrec : d.isRecursive = true)
    (hnew : (stack.push (d.frame template number)).find? (d.includee template) = none)
    (hopen : Source.ofPath s.tree s.encoding (d.includee template) = .ok source)
    (hinner : nested (stack.push (d.frame template number)) (d.includee template) (depth + 1)
      source = inner)
    (hfail : inner.failure = some e) :
    s.takeUp nested stack template depth number d =
      ⟨.cite (d.frame template number) :: .enter (d.includee template) d.treatment :: inner.events,
        some e⟩ := by
  rw [takeUp_opened (fun _ => hnew) hopen, if_pos hrec, hinner, Run.andThen_of_failure hfail]
  simp [Run.after, hfail]

end TakeUp

/-! ## 4. The bounded recursion -/

/-- The expansion of a cited template under a bound. -/
def nestedWithin (s : Setting) : (fuel : Nat) → Stack → Path → Int → Source → Run
  | 0, stack, includee, _, _ => .stopped (s.circular stack includee)
  | fuel + 1, stack, includee, depth, source =>
    s.expandSource fuel (s.unreadable stack includee) stack includee depth source

/-- The expansion of a template that has been opened, as one equation. -/
theorem expandSource_eq (s : Setting) (fuel : Nat) (undecodable : Error) (stack : Stack)
    (template : Path) (depth : Int) (source : Source) :
    s.expandSource fuel undecodable stack template depth source =
      source.close undecodable (s.readLines (s.takeUp (s.nestedWithin fuel) stack template depth)
        depth 1 source.reading.lines) := by
  cases fuel <;> rfl

theorem nestedWithin_succ (s : Setting) (fuel : Nat) (stack : Stack) (includee : Path)
    (depth : Int) (source : Source) :
    s.nestedWithin (fuel + 1) stack includee depth source =
      source.close (s.unreadable stack includee)
        (s.readLines (s.takeUp (s.nestedWithin fuel) stack includee depth) depth 1
          source.reading.lines) :=
  expandSource_eq ..

section ReadLines

variable {s : Setting} {cite : Nat → Directive → Run} {depth : Int} {number : Nat} {line : Text}
  {rest : List Text} {d : Directive}

theorem readLines_copied (hline : s.directive? (lineAt depth line) = none) :
    s.readLines cite depth number (line :: rest) =
      (s.readLines cite depth (number + 1) rest).after
        [.line ⟨lineAt depth line, depth, none⟩] := by
  simp only [readLines, hline]
  rfl

theorem readLines_marked (hline : s.directive? (lineAt depth line) = some d)
    (hcites : d.citesFile = false) :
    s.readLines cite depth number (line :: rest) =
      (s.readLines cite depth (number + 1) rest).after
        [.line ⟨lineAt depth line, depth, some d.target⟩] := by
  simp only [readLines, hline, hcites]
  rfl

theorem readLines_cited (hline : s.directive? (lineAt depth line) = some d)
    (hcites : d.citesFile = true) :
    s.readLines cite depth number (line :: rest) =
      (cite number d).andThen fun _ => s.readLines cite depth (number + 1) rest := by
  simp only [readLines, hline, hcites, ↓reduceIte]

end ReadLines

/-- **The rules leave no choice.** The run they derive is the run that the bounded recursion finds
    under every bound that is large enough. -/
theorem Expands.readLines_eq {s : Setting} {stack : Stack} {template : Path} {depth : Int}
    {number : Nat} {lines : List Text} {r : Run}
    (h : Expands s stack template depth number lines r) :
    ∃ enough, ∀ fuel, enough ≤ fuel →
      s.readLines (s.takeUp (s.nestedWithin fuel) stack template depth) depth number lines = r := by
  induction h with
  | done => exact ⟨0, fun _ _ => rfl⟩
  | copied hline _ ih =>
      obtain ⟨n, ih⟩ := ih
      exact ⟨n, fun fuel hn => by rw [readLines_copied hline, ih fuel hn]⟩
  | marked hline hcites _ ih =>
      obtain ⟨n, ih⟩ := ih
      exact ⟨n, fun fuel hn => by rw [readLines_marked hline hcites, ih fuel hn]⟩
  | quoted hline hcites hrec hopen htext _ ih =>
      obtain ⟨n, ih⟩ := ih
      refine ⟨n, fun fuel hn => ?_⟩
      rw [readLines_cited hline hcites, takeUp_quoted hrec hopen htext, Run.did_andThen_eq_after,
        ih fuel hn]
  | nested hline hrec hnew hopen _ hok hcomplete _ ihBody ihRest =>
      obtain ⟨m, ihBody⟩ := ihBody
      obtain ⟨n, ihRest⟩ := ihRest
      refine ⟨max (m + 1) n, fun fuel hn => ?_⟩
      -- the template below is expanded under a bound that is smaller by one
      obtain ⟨k, rfl⟩ : ∃ k, fuel = k + 1 := ⟨fuel - 1, by omega⟩
      have hbody := ihBody k (by omega)
      rw [readLines_cited hline (citesFile_of_isRecursive hrec),
        takeUp_nested hrec hnew hopen (by rw [nestedWithin_succ, hbody])
          (Source.close_ok_iff.mpr ⟨hok, hcomplete⟩),
        Run.did_andThen_eq_after, ihRest (k + 1) (by omega), Source.close_events]
  | cyclic hline hrec hfound =>
      refine ⟨0, fun fuel _ => ?_⟩
      rw [readLines_cited hline (citesFile_of_isRecursive hrec), takeUp_circular hrec hfound]
      rfl
  | unopened hline hcites hnew hopen =>
      refine ⟨0, fun fuel _ => ?_⟩
      rw [readLines_cited hline hcites, takeUp_unopened hnew hopen]
      rfl
  | undecodable hline hcites hrec hopen htext =>
      refine ⟨0, fun fuel _ => ?_⟩
      rw [readLines_cited hline hcites, takeUp_undecodable hrec hopen htext]
      rfl
  | broken hline hrec hnew hopen _ hfail ih =>
      obtain ⟨m, ih⟩ := ih
      refine ⟨m + 1, fun fuel hm => ?_⟩
      obtain ⟨k, rfl⟩ : ∃ k, fuel = k + 1 := ⟨fuel - 1, by omega⟩
      have hbody := ih k (by omega)
      rw [readLines_cited hline (citesFile_of_isRecursive hrec),
        takeUp_broken hrec hnew hopen (by rw [nestedWithin_succ, hbody]) hfail,
        Source.close_events]
      rfl

/-- Two runs of the same lines are the same run. -/
theorem Expands.unique {s : Setting} {stack : Stack} {template : Path} {depth : Int}
    {number : Nat} {lines : List Text} {r r' : Run}
    (h : Expands s stack template depth number lines r)
    (h' : Expands s stack template depth number lines r') : r = r' := by
  obtain ⟨n, hn⟩ := h.readLines_eq
  obtain ⟨m, hm⟩ := h'.readLines_eq
  rw [← hn (max n m) (by omega), ← hm (max n m) (by omega)]

/-- **A template has at most one run.** -/
theorem RunOf.unique {s : Setting} {template : Path} {output : Option Path} {r r' : Run}
    (h : RunOf s template output r) (h' : RunOf s template output r') : r = r' := by
  cases h with
  | unopened hopen =>
      cases h' with
      | unopened hopen' =>
          rw [hopen] at hopen'
          cases hopen'
          rfl
      | opened hopen' _ =>
          rw [openSource_ok_iff.mpr hopen'] at hopen
          cases hopen
  | opened hopen hbody =>
      cases h' with
      | unopened hopen' =>
          rw [openSource_ok_iff.mpr hopen] at hopen'
          cases hopen'
      | opened hopen' hbody' =>
          rw [hopen] at hopen'
          cases hopen'
          rw [hbody.unique hbody']

end Setting

end MarkdownTemplate
