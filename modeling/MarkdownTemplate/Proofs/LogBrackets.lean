import MarkdownTemplate.Assembly
import MarkdownTemplate.Proofs.Agreement
import MarkdownTemplate.Proofs.Backtrace
import MarkdownTemplate.Proofs.ListEnds

/-!
# The brackets of the log

The log tells when a file is included and when its inclusion has ended. A reader of the log may take
the two messages for an opening and a closing bracket that carry the path of the file. This file
fixes

* `Bracket`, `Bracket.ofMessage?` -- the bracket that a message is; `Run.brackets` -- those of the
  records of a run; `Run.brackets_eq` -- what the reader of the messages learns about the events;
* `Bracket.matchAll?` -- brackets matched one after another, with a list of the paths that are
  open; it fails at a closing bracket that does not match;
* `Setting.Inclusions` -- one pair of brackets for each file that the lines of a template include,
  in their order;
* `Stack.cited`, `Setting.Leaves` -- what an error leaves open;
* `Expands.brackets_ok`, `Expands.brackets_left` -- the two inductions over the rules;
* **`brackets_of_expand`** -- the brackets of the log are balanced, or those left open are the
  ones of the inclusion stack.
-/

namespace MarkdownTemplate

/-! ## 1. Messages -/

/-- What a message says about an inclusion: it begins, or it has ended. -/
inductive Bracket where
  | opening (path : Text)
  | closing (path : Text)
  deriving DecidableEq

namespace Bracket

/-- The bracket that a message is, if it is one. A treatment has no blank in its name, so the path
    is what stands before the last `as`. -/
def ofMessage? (message : Text) : Option Bracket :=
  match "Finished including ".toList.isPrefixOf? message with
  | some path => some (.closing path)
  | none => do
    let rest ← "Including ".toList.isPrefixOf? message
    let path ← " as ".toList.isSuffixOf? (dropTrailing (· != ' ') rest)
    return .opening path

/-- The message that an inclusion begins is read, whatever blanks its path holds. -/
theorem ofMessage?_opening (path : Text) (t : Treatment) :
    ofMessage? ("Including ".toList ++ path ++ " as ".toList ++ t.word) = some (.opening path) := by
  have hother : "Finished including ".toList.isPrefixOf?
      ("Including ".toList ++ path ++ " as ".toList ++ t.word) = none := rfl
  have hrest : "Including ".toList.isPrefixOf?
      ("Including ".toList ++ path ++ " as ".toList ++ t.word) =
        some ((path ++ " as ".toList) ++ t.word) := by
    rw [List.isPrefixOf?_eq_some_iff_append_eq]
    simp only [List.append_assoc]
  have hword : ∀ c ∈ t.word, (c != ' ') = true :=
    List.all_eq_true.mp (by cases t <;> rfl)
  have hfront : dropTrailing (· != ' ') ((path ++ " as ".toList) ++ t.word) =
      path ++ " as ".toList := by
    refine (trailing_append (fun c hc => ?_) hword).1
    have hlast : (path ++ " as ".toList).getLast? = some ' ' := by
      rw [List.getLast?_append_of_ne_nil _ (by decide)]
      rfl
    rw [hlast] at hc
    cases hc
    rfl
  have hpath : " as ".toList.isSuffixOf? (path ++ " as ".toList) = some path := by
    rw [List.isSuffixOf?_eq_some_iff_append_eq]
  rw [ofMessage?, hother, hrest]
  simp only [Option.bind_eq_bind, Option.bind_some, hfront, hpath]
  rfl

theorem ofMessage?_closing (path : Text) :
    ofMessage? ("Finished including ".toList ++ path) = some (.closing path) := by
  have hpath : "Finished including ".toList.isPrefixOf? ("Finished including ".toList ++ path) =
      some path := List.isPrefixOf?_eq_some_iff_append_eq.mpr rfl
  rw [ofMessage?, hpath]

end Bracket

/-- The bracket that stands in the log for an event. -/
def Event.bracket? : Event → Option Bracket
  | .enter includee _ => some (.opening includee.text)
  | .leave includee => some (.closing includee.text)
  | _ => none

namespace Run

/-- **The brackets in the log of a run.** -/
def brackets (run : Run) : List Bracket :=
  (Assembler.records run).filterMap fun r => Bracket.ofMessage? r.message

/-- The messages are read as they were meant. -/
theorem brackets_eq (run : Run) : run.brackets = run.events.filterMap Event.bracket? := by
  rw [brackets, Assembler.records, List.filterMap_filterMap]
  refine List.filterMap_congr fun e _ => ?_
  cases e with
  | cite f => rfl
  | enter p t => exact Bracket.ofMessage?_opening p.text t
  | line l => rfl
  | leave p => exact Bracket.ofMessage?_closing p.text

theorem brackets_after (events : List Event) (r : Run) :
    (r.after events).brackets = events.filterMap Event.bracket? ++ r.brackets := by
  rw [brackets_eq, after_events, List.filterMap_append, ← brackets_eq]

/-- Lines are not logged. -/
theorem filterMap_bracket?_lines (ls : List Line) :
    (ls.map Event.line).filterMap Event.bracket? = [] := by
  induction ls with
  | nil => rfl
  | cons l rest ih => exact ih

/-- An inclusion is logged as what its content logs between its two brackets. -/
theorem filterMap_bracket?_inclusion (f : Frame) (p : Path) (t : Treatment) (es : List Event) :
    (Event.cite f :: .enter p t :: es ++ [Event.leave p]).filterMap Event.bracket? =
      .opening p.text :: es.filterMap Event.bracket? ++ [.closing p.text] := by
  show .opening p.text :: (es ++ [Event.leave p]).filterMap Event.bracket? = _
  rw [List.filterMap_append]
  rfl

/-- What is logged behind a file that has been opened stands behind its opening bracket. -/
theorem brackets_entered (f : Frame) (p : Path) (t : Treatment) (es : List Event)
    (failure : Option Error) : (Run.mk (.cite f :: .enter p t :: es) failure).brackets =
      .opening p.text :: es.filterMap Event.bracket? := by
  rw [brackets_eq]
  rfl

end Run

/-! ## 2. Matching brackets -/

namespace Bracket

/-- The paths that are open after a bracket, outermost first. A closing bracket has to match the
    innermost of them. -/
def match? (opened : List Text) : Bracket → Option (List Text)
  | .opening path => some (opened ++ [path])
  | .closing path => if opened.getLast? = some path then some opened.dropLast else none

/-- **The paths that are open after some brackets**, if every closing one matches. -/
def matchAll? (opened : List Text) (bs : List Bracket) : Option (List Text) :=
  bs.foldlM match? opened

variable {opened opened' : List Text} {path : Text} {bs bs' : List Bracket}

@[simp] theorem matchAll?_nil : matchAll? opened [] = some opened := rfl

@[simp] theorem matchAll?_opening :
    matchAll? opened (.opening path :: bs) = matchAll? (opened ++ [path]) bs := rfl

theorem matchAll?_append (h : matchAll? opened bs = some opened') :
    matchAll? opened (bs ++ bs') = matchAll? opened' bs' := by
  rw [matchAll?, List.foldlM_append, ← matchAll?, h]
  rfl

/-- A closing bracket that matches. -/
theorem matchAll?_closing : matchAll? (opened ++ [path]) [.closing path] = some opened := by
  show (match? (opened ++ [path]) (.closing path)).bind _ = _
  simp [match?]

/-- **A pair of brackets leaves what is open as it was** if what stands between them does. -/
theorem matchAll?_pair (h : matchAll? (opened ++ [path]) bs = some (opened ++ [path])) :
    matchAll? opened (.opening path :: bs ++ [.closing path] ++ bs') = matchAll? opened bs' := by
  have hpair : matchAll? opened (.opening path :: bs ++ [.closing path]) = some opened := by
    rw [List.cons_append, matchAll?_opening, matchAll?_append h, matchAll?_closing]
  rw [matchAll?_append hpair]

end Bracket

namespace Setting

variable {s : Setting} {stack : Stack} {template : Path} {depth : Int} {number : Nat}
  {lines : List Text} {r : Run}

/-! ## 3. Runs that succeed -/

/-- **One pair of brackets for each inclusion.** The lines of a template call for brackets in
    their order: a directive that cites a file for a pair, and between the two, if the file is a
    template, for those of its own lines; any other line for none. -/
inductive Inclusions (s : Setting) : Path → List Text → List Bracket → Prop where
  | done {template : Path} : Inclusions s template [] []
  | plain {template : Path} {line : Text} {rest : List Text} {bs : List Bracket}
      (hline : ∀ d, s.directive? line = some d → d.citesFile = false)
      (hrest : Inclusions s template rest bs) : Inclusions s template (line :: rest) bs
  | quoted {template : Path} {line : Text} {rest : List Text} {d : Directive} {bs : List Bracket}
      (hline : s.directive? line = some d) (hcites : d.citesFile = true)
      (hrec : d.isRecursive = false) (hrest : Inclusions s template rest bs) :
      Inclusions s template (line :: rest)
        (.opening (d.includee template).text :: [] ++ [.closing (d.includee template).text] ++ bs)
  | nested {template : Path} {line text : Text} {rest : List Text} {d : Directive}
      {inner bs : List Bracket}
      (hline : s.directive? line = some d) (hrec : d.isRecursive = true)
      (htext : s.textOf? (d.includee template) = some text)
      (hinner : Inclusions s (d.includee template) (Text.splitLines Text.isLineEnd text) inner)
      (hrest : Inclusions s template rest bs) :
      Inclusions s template (line :: rest)
        (.opening (d.includee template).text :: inner ++ [.closing (d.includee template).text] ++
          bs)

/-- The lines leave no choice about the brackets. -/
theorem Inclusions.unique {bs bs' : List Bracket} (h : s.Inclusions template lines bs)
    (h' : s.Inclusions template lines bs') : bs = bs' := by
  induction h generalizing bs' with
  | done =>
      cases h'
      rfl
  | plain hline _ ih =>
      cases h' with
      | plain _ hrest' => exact ih hrest'
      | quoted hline' hcites' => cases (hline _ hline').symm.trans hcites'
      | nested hline' hrec' =>
          cases (hline _ hline').symm.trans (citesFile_of_isRecursive hrec')
  | quoted hline hcites hrec _ ih =>
      cases h' with
      | plain hline' => cases (hline' _ hline).symm.trans hcites
      | quoted hline' _ _ hrest' =>
          cases hline.symm.trans hline'
          rw [ih hrest']
      | nested hline' hrec' =>
          cases hline.symm.trans hline'
          cases hrec.symm.trans hrec'
  | nested hline hrec htext _ _ ihInner ih =>
      cases h' with
      | plain hline' => cases (hline' _ hline).symm.trans (citesFile_of_isRecursive hrec)
      | quoted hline' _ hrec' =>
          cases hline.symm.trans hline'
          cases hrec.symm.trans hrec'
      | nested hline' _ htext' hinner' hrest' =>
          cases hline.symm.trans hline'
          cases htext.symm.trans htext'
          rw [ihInner hinner', ih hrest']

/-- **A run that nothing stops logs the brackets that its lines call for**, and they leave what is
    open as it was. -/
theorem Expands.brackets_ok (h : Expands s stack template depth number lines r)
    (hok : r.failure = none) :
    s.Inclusions template lines r.brackets ∧
      ∀ opened, Bracket.matchAll? opened r.brackets = some opened := by
  induction h, hok using Expands.ok_induction with
  | done => exact ⟨.done, fun _ => rfl⟩
  | copied hline _ _ ih =>
      obtain ⟨hcalls, hmatch⟩ := ih
      rw [directive?_lineAt] at hline
      rw [Run.brackets_after]
      exact ⟨.plain (by simp [hline]) hcalls, hmatch⟩
  | marked hline hcites _ _ ih =>
      obtain ⟨hcalls, hmatch⟩ := ih
      rw [directive?_lineAt] at hline
      rw [Run.brackets_after]
      refine ⟨.plain (fun d hd => ?_) hcalls, hmatch⟩
      cases hline.symm.trans hd
      exact hcites
  | quoted hline hcites hrec _ _ _ _ ih =>
      obtain ⟨hcalls, hmatch⟩ := ih
      rw [directive?_lineAt] at hline
      rw [Run.brackets_after, Run.filterMap_bracket?_inclusion, quote_events,
        Run.filterMap_bracket?_lines]
      refine ⟨.quoted hline hcites hrec hcalls, fun opened => ?_⟩
      rw [Bracket.matchAll?_pair rfl, hmatch opened]
  | nested hline hrec _ hopen _ _ hcomplete _ _ ihBody ihRest =>
      obtain ⟨hinner, hbalanced⟩ := ihBody
      obtain ⟨hcalls, hmatch⟩ := ihRest
      obtain ⟨text, htext, hlines⟩ := lines_of_complete hopen hcomplete
      rw [directive?_lineAt] at hline
      rw [hlines] at hinner
      rw [Run.brackets_after, Run.filterMap_bracket?_inclusion, ← Run.brackets_eq]
      refine ⟨.nested hline hrec htext hinner hcalls, fun opened => ?_⟩
      -- the template leaves open what is open inside it, its own path included
      rw [Bracket.matchAll?_pair (hbalanced _), hmatch opened]

end Setting

/-! ## 4. Runs that are stopped -/

/-- The paths that the directive frames of a stack cite, outermost first. -/
def Stack.cited (stack : Stack) : List Text :=
  ((stack.filter Frame.isDirective).filterMap Frame.includee).map Path.text

theorem Stack.cited_push (stack : Stack) (d : Directive) (template : Path) (number : Nat) :
    Stack.cited (stack.push (d.frame template number)) =
      Stack.cited stack ++ [(d.includee template).text] := by
  have htop : [d.frame template number].filter Frame.isDirective = [d.frame template number] := rfl
  rw [cited, push, List.filter_append, htop, List.filterMap_append, List.map_append]
  rfl

namespace Setting

variable {s : Setting} {stack final : Stack} {template : Path} {depth : Int} {number : Nat}
  {lines : List Text} {r : Run} {e : Error} {d : Directive}

/-- **What an error leaves open.** The error shows the stack `stack`, and its innermost directive
    cites the file that the error is about. All the files that are cited are left open if that file
    failed while it was decoded, and all but that one if it was never opened. -/
inductive Leaves (s : Setting) (stack : Stack) : Error → List Text → Prop where
  /-- The file is being expanded already. -/
  | circular {p : Path} (hlast : (Stack.cited stack).getLast? = some p.text) :
      Leaves s stack (.circularInclusion s.root p stack) (Stack.cited stack).dropLast
  /-- The file cannot be opened. -/
  | refused {p : Path} (hlast : (Stack.cited stack).getLast? = some p.text)
      (hopen : Source.ofPath s.tree s.encoding p = .error .refused) :
      Leaves s stack (.unreadableIncludee s.root p stack) (Stack.cited stack).dropLast
  /-- The file has been opened and does not decode. -/
  | undecodable {p : Path} {source : Source}
      (hlast : (Stack.cited stack).getLast? = some p.text)
      (hopen : Source.ofPath s.tree s.encoding p = .ok source) (htext : source.text? = none) :
      Leaves s stack (.unreadableIncludee s.root p stack) (Stack.cited stack)

theorem getLast?_cited_push : (Stack.cited (stack.push (d.frame template number))).getLast? =
    some (d.includee template).text := by
  rw [Stack.cited_push, List.getLast?_concat]

/-- Before the file is opened that the innermost directive cites, the others are open. -/
theorem matchAll?_cited : Bracket.matchAll? (Stack.cited stack) [] =
    some (Stack.cited (stack.push (d.frame template number))).dropLast := by
  rw [Stack.cited_push, List.dropLast_concat, Bracket.matchAll?_nil]

/-- **A run that is stopped by an error inside an inclusion** leaves open what the error shows, if
    what is open in front of it is what its stack cites. -/
theorem Expands.brackets_left (h : Expands s stack template depth number lines r)
    (hfail : r.failure = some e) (hstack : e.stack? = some final) :
    ∃ left, Bracket.matchAll? (Stack.cited stack) r.brackets = some left ∧
      s.Leaves final e left := by
  induction h with
  | done => cases hfail
  | copied _ _ ih =>
      rw [Run.brackets_after]
      exact ih hfail
  | marked _ _ _ ih =>
      rw [Run.brackets_after]
      exact ih hfail
  | quoted _ _ _ _ _ _ ih =>
      rw [Run.brackets_after, Run.filterMap_bracket?_inclusion, quote_events,
        Run.filterMap_bracket?_lines, Bracket.matchAll?_pair rfl]
      exact ih hfail
  | nested _ _ _ _ hinner hbody _ _ _ ih =>
      rw [Run.brackets_after, Run.filterMap_bracket?_inclusion, ← Run.brackets_eq,
        Bracket.matchAll?_pair ((hinner.brackets_ok hbody).2 _)]
      exact ih hfail
  | cyclic =>
      cases hfail
      cases hstack
      exact ⟨_, matchAll?_cited, .circular getLast?_cited_push⟩
  | unopened _ _ _ hopen =>
      cases hfail
      obtain ⟨rfl, hrefused⟩ := openSource_error hopen (by simp [hstack])
      cases hstack
      exact ⟨_, matchAll?_cited, .refused getLast?_cited_push hrefused⟩
  | undecodable _ _ _ hopen htext =>
      cases hfail
      cases hstack
      refine ⟨_, ?_, .undecodable getLast?_cited_push hopen htext⟩
      rw [Run.brackets_entered, Bracket.matchAll?_opening, ← Stack.cited_push]
      rfl
  | @broken _ template _ number _ _ d _ _ _ _ _ _ hopen hinner hclose ih =>
      cases hfail
      rw [Run.brackets_entered, ← Run.brackets_eq, Bracket.matchAll?_opening,
        ← Stack.cited_push _ d template number]
      rcases Source.close_failure hclose with hbroken | ⟨hok, rfl, htext⟩
      · -- the fault lies inside the template that is cited
        exact ih hbroken
      · cases hstack
        exact ⟨_, (hinner.brackets_ok hok).2 _, .undecodable getLast?_cited_push hopen htext⟩

/-! ## 5. The log of an expansion -/

/-- **The log brackets inclusions.** Let a template be expanded into any document, with either
    policy on blank lines; the log is that of the run.
    * If the expansion succeeds, the brackets are balanced, and they are those that the lines of
      the template call for: one pair for each file that is included, in their order.
    * If an error inside an inclusion stops it, every closing bracket matches, and the brackets left
      open are, from the outside, the files that the frames of the error cite: all of them if the
      innermost was opened and does not decode, and all but the innermost if it is being expanded
      already or cannot be opened. -/
theorem brackets_of_expand (s : Setting) (template : Path) (output : Option Path) :
    let run := s.expand template output
    (∀ d, ∃ d', s.expandInto? template output d = some (d', run.failure)) ∧
    (run.failure = none → Bracket.matchAll? [] run.brackets = some [] ∧
      ∃ text, s.textOf? template = some text ∧
        s.Inclusions template (Text.splitLines Text.isLineEnd text) run.brackets) ∧
    ∀ e stack, run.failure = some e → e.stack? = some stack →
      ∃ left, Bracket.matchAll? [] run.brackets = some left ∧ s.Leaves stack e left := by
  intro run
  refine ⟨fun d => ⟨_, s.expandInto?_eq template output d⟩, fun hok => ?_,
    fun e stack hfail hstack => ?_⟩
  · obtain ⟨text, body, htext, hbody, hokBody, hevents⟩ := expand_ok hok
    have hbrackets : run.brackets = body.brackets := by
      rw [Run.brackets_eq, Run.brackets_eq, hevents]
    obtain ⟨hcalls, hmatch⟩ := hbody.brackets_ok hokBody
    rw [hbrackets]
    exact ⟨hmatch [], text, htext, hcalls⟩
  · have hrun : RunOf s template output run := runOf_expand s template output
    generalize run = run at hrun hfail
    cases hrun with
    | unopened hopen =>
        cases hfail
        obtain ⟨rfl, -⟩ := openSource_error hopen (by simp [hstack])
        cases hstack
    | opened _ hbody =>
        rcases Source.close_failure hfail with hbroken | ⟨-, rfl, -⟩
        · rw [Run.brackets_eq, Source.close_events, ← Run.brackets_eq]
          exact hbody.brackets_left hbroken hstack
        · cases hstack

/-- A template that succeeds, a ring, and two templates that quote a file that is not ASCII and one
    that is missing, each behind a file that can be quoted. -/
def enclosed : Setting where
  tree := ⟨[([['a']], .ofAscii "@[markdown](b)\n@[pre](q as x)\n"),
    ([['b']], .ofAscii "@[comment](q as x)\ny"),
    ([['r']], .ofAscii "@[markdown](s)\n"),
    ([['s']], .ofAscii "@[pre](q as x)\n@[markdown](r)\n"),
    ([['u']], .ofAscii "@[pre](q as x)\n@[pre](w)\n"),
    ([['w']], ⟨[0x80], true, true, true⟩),
    ([['m']], .ofAscii "@[pre](q as x)\n@[pre](n)\n"),
    (["q as x".toList], .ofAscii "z\n")], [([], true)]⟩
  encoding := "ascii".toList
  root := none
  citesFiles := true

/-- The ring and the missing file are left out of what is open; the file that is not ASCII is in. -/
theorem brackets_of_expand_enclosed :
    let path (name : Char) : Path := ⟨.root, [[name]]⟩
    let frame (name : Char) (line : Nat) (directive : String) (includee : Char) : Frame :=
      .ofDirective (path name) line directive.toList (path includee)
    let brackets (name : Char) := (enclosed.expand (path name) none).brackets
    let ring : Stack := [.outermost (path 'r') none, frame 'r' 1 "@[markdown](s)" 's',
      frame 's' 2 "@[markdown](r)" 'r']
    let foreign : Stack := [.outermost (path 'u') none, frame 'u' 2 "@[pre](w)" 'w']
    let missing : Stack := [.outermost (path 'm') none, frame 'm' 2 "@[pre](n)" 'n']
    (Bracket.matchAll? [] (brackets 'a') = some [] ∧
      brackets 'a' = [.opening "/b".toList, .opening "/q as x".toList, .closing "/q as x".toList,
        .closing "/b".toList, .opening "/q as x".toList, .closing "/q as x".toList]) ∧
    enclosed.Leaves ring (enclosed.circular ring (path 'r')) ["/s".toList] ∧
    enclosed.Leaves foreign (enclosed.unreadable foreign (path 'w')) ["/w".toList] ∧
    enclosed.Leaves missing (enclosed.unreadable missing (path 'n')) [] := by
  intro path frame brackets ring foreign missing
  have hstopped : ∀ name e stack left, (enclosed.expand (path name) none).failure = some e →
      e.stack? = some stack → Bracket.matchAll? [] (brackets name) = some left →
      enclosed.Leaves stack e left := by
    intro name e stack left hfail hstack hleft
    obtain ⟨left', hmatch, hleaves⟩ :=
      (brackets_of_expand enclosed (path name) none).2.2 e stack hfail hstack
    cases hleft.symm.trans hmatch
    exact hleaves
  have hok : (enclosed.expand (path 'a') none).failure = none := by decide +kernel
  refine ⟨⟨((brackets_of_expand enclosed (path 'a') none).2.1 hok).1, ?_⟩, ?_, ?_, ?_⟩
  · decide +kernel
  · exact hstopped 'r' _ _ _ (by decide +kernel) rfl (by decide +kernel)
  · exact hstopped 'u' _ _ _ (by decide +kernel) rfl (by decide +kernel)
  · exact hstopped 'm' _ _ _ (by decide +kernel) rfl (by decide +kernel)

end Setting

end MarkdownTemplate
