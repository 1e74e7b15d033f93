import MarkdownTemplate.Directive
import MarkdownTemplate.Document
import MarkdownTemplate.Error
import MarkdownTemplate.Source

/-!
# Expanding templates

An expansion reads a template line by line and takes up the directives it meets. What it does is
recorded as a run: the events in order, and the error that stopped it, if one did. This file fixes

* `Event`, `Run` -- what happens during an expansion; `Run.andThen` -- one run after another, which
  may be grouped in any way (`Run.andThen_assoc`);
* `Setting.expand` -- the run of a template;
* `Document.replay` -- the document that a run's events write;
* `Event.message?` -- what the log tells about an event;
* `Stack.replay` -- the inclusion stack after some events.

No step looks at the document, so one run serves any document and either policy on blank lines.

The nesting is bounded. A template is expanded only if it is not being expanded already, and every
template is a file of the tree, reached by one of three spellings (`a`, `/a` and `//a`). So three
times the number of files is a depth that no chain of templates exceeds.
-/

namespace MarkdownTemplate

/-! ## 1. Runs -/

/-- A step of an expansion. -/
inductive Event where
  /-- A directive is taken up; its frame goes on the stack. -/
  | cite (frame : Frame)
  /-- The file that the directive cites has been opened. -/
  | enter (includee : Path) (treatment : Treatment)
  /-- A line is written. -/
  | line (l : Line)
  /-- The file has been read to its end; the frame is taken from the stack. -/
  | leave (includee : Path)
  deriving DecidableEq

/-- What an expansion does, and what stopped it. -/
structure Run where
  events : List Event
  failure : Option Error
  deriving DecidableEq

namespace Run

/-- The run in which nothing happens. -/
def nothing : Run :=
  ⟨[], none⟩

/-- The run of events that nothing stops. -/
def did (events : List Event) : Run :=
  ⟨events, none⟩

/-- The run that is stopped at once. -/
def stopped (e : Error) : Run :=
  ⟨[], some e⟩

/-- A run and what comes next, unless the run was stopped. -/
def andThen (r : Run) (next : Unit → Run) : Run :=
  match r.failure with
  | some _ => r
  | none => ⟨r.events ++ (next ()).events, (next ()).failure⟩

@[simp] theorem nothing_andThen (next : Unit → Run) : nothing.andThen next = next () := rfl

@[simp] theorem did_andThen (events : List Event) (next : Unit → Run) :
    (did events).andThen next = ⟨events ++ (next ()).events, (next ()).failure⟩ := rfl

@[simp] theorem stopped_andThen (e : Error) (next : Unit → Run) :
    (stopped e).andThen next = stopped e := rfl

@[simp] theorem andThen_nothing (r : Run) : (r.andThen fun _ => nothing) = r := by
  obtain ⟨events, failure⟩ := r
  cases failure <;> simp [andThen, nothing]

/-- How runs are grouped does not matter. -/
theorem andThen_assoc (r : Run) (next last : Unit → Run) :
    (r.andThen next).andThen last = r.andThen fun _ => (next ()).andThen last := by
  obtain ⟨events, failure⟩ := r
  cases failure with
  | some e => rfl
  | none =>
    simp only [andThen]
    cases h : (next ()).failure <;> simp [h]

end Run

/-! ## 2. Settings -/

/-- What an expansion depends on besides the template. -/
structure Setting where
  tree : FileTree
  /-- The name of the encoding of every file. -/
  encoding : Text
  /-- Where the paths that messages show begin. -/
  root : Option Path
  /-- Directives that cite files are taken up; otherwise their lines are copied. -/
  citesFiles : Bool

namespace Setting

/-- Opens a file as text; a fault becomes an error, `refused` if the file is not available. -/
def openSource (s : Setting) (refused : Error) (p : Path) : Except Error Source :=
  match Source.ofPath s.tree s.encoding p with
  | .ok source => .ok source
  | .error .refused => .error refused
  | .error .nullInEncoding => .error .nullInEncoding
  | .error .nullCharacter => .error .nullCharacter
  | .error (.unknownEncoding name) => .error (.unknownEncoding name)

/-- The directive that a line is, if it is one that is taken up. -/
def directive? (s : Setting) (line : Text) : Option Directive :=
  (Directive.parse? line).filter fun d => s.citesFiles || !d.citesFile

/-! ## 3. Expanding -/

/-- A line as it is written: inside an inclusion every line is ended. -/
def lineAt (depth : Int) (line : Text) : Text :=
  if depth > 0 then Text.terminated line else line

/-- Reads the lines of a template from number `number` on. A directive that cites a file is handed
    to `cite`; every other line is written. -/
def readLines (s : Setting) (cite : Nat → Directive → Run) (depth : Int) :
    (number : Nat) → List Text → Run
  | _, [] => .nothing
  | number, line :: rest =>
    let line := lineAt depth line
    let first :=
      match s.directive? line with
      | none => Run.did [.line ⟨line, depth, none⟩]
      | some d =>
        if d.citesFile then cite number d else Run.did [.line ⟨line, depth, some d.target⟩]
    first.andThen fun _ => readLines s cite depth (number + 1) rest

/-- The content of a cited file that is not a template: its lines between the treatment's
    wrappers. -/
def quote (d : Directive) (depth : Int) (content : Text) : Run :=
  .did (((Directive.verbatim? d.treatment d.language content).getD []).map fun l =>
    .line ⟨l, depth, none⟩)

/-- Takes up a directive that cites a file. A template is handed to `nested`, unless it is being
    expanded already; any other file is quoted. -/
def takeUp (s : Setting) (nested : Stack → Path → Int → Source → Run) (stack : Stack)
    (template : Path) (depth : Int) (number : Nat) (d : Directive) : Run :=
  let includee := template.resolve d.target
  let frame := Frame.ofDirective template number d.text includee
  let stack := stack.push frame
  let unreadable := Error.unreadableIncludee s.root includee stack
  (Run.did [.cite frame]).andThen fun _ =>
    if d.isRecursive && (stack.find? includee).isSome then
      .stopped (.circularInclusion s.root includee stack)
    else
      match s.openSource unreadable includee with
      | .error e => .stopped e
      | .ok source =>
        let body :=
          if d.isRecursive then nested stack includee (depth + 1) source
          else
            match source.text? with
            | some content => quote d depth content
            | none => .stopped unreadable
        ((Run.did [.enter includee d.treatment]).andThen fun _ => body).andThen fun _ =>
          .did [.leave includee]

/-- Expands a template that has been opened. `undecodable` is the error if it cannot be decoded to
    its end. `fuel` bounds how deep templates may nest inside it; a chain of templates that is
    longer than the bound holds one of them twice. -/
def expandSource (s : Setting) : (fuel : Nat) → (undecodable : Error) → Stack → Path → Int →
    Source → Run
  | fuel, undecodable, stack, template, depth, source =>
    let nested (stack : Stack) (includee : Path) (depth : Int) (source : Source) : Run :=
      match fuel with
      | 0 => .stopped (.circularInclusion s.root includee stack)
      | fuel + 1 =>
        expandSource s fuel (.unreadableIncludee s.root includee stack) stack includee depth source
    (readLines s (takeUp s nested stack template depth) depth 1 source.reading.lines).andThen
      fun _ => if source.reading.complete then .nothing else .stopped undecodable

/-- How deep templates can nest: each file of the tree, in every spelling of its path, once. -/
def nesting (s : Setting) : Nat :=
  3 * s.tree.files.length

/-- The run of a template. -/
def expand (s : Setting) (template : Path) (output : Option Path) : Run :=
  let unreadable := Error.unreadableTemplate template
  match s.openSource unreadable template with
  | .error e => .stopped e
  | .ok source =>
    expandSource s s.nesting unreadable [Frame.outermost template output] template 0 source

end Setting

/-! ## 4. What a run writes, says and holds -/

namespace Document

/-- The effect of an event on a document and on the starts of the inclusions that are open,
    innermost first. -/
def record : Document × List Nat → Event → Document × List Nat
  | (d, starts), .cite _ => (d, starts)
  | (d, starts), .enter .. => (d, d.beginInclusion :: starts)
  | (d, starts), .line l => (d.write l, starts)
  | (d, starts), .leave _ =>
    match starts with
    | [] => (d, [])
    | start :: rest => ((d.endInclusion? start).getD d, rest)

/-- The document after events. -/
def replay (d : Document) (events : List Event) : Document :=
  (events.foldl record (d, [])).1

end Document

/-- What the log tells about an event. -/
def Event.message? : Event → Option Text
  | .enter includee treatment =>
    some ("Including ".toList ++ includee.text ++ " as ".toList ++ treatment.word)
  | .leave includee => some ("Finished including ".toList ++ includee.text)
  | _ => none

/-- The inclusion stack after events. -/
def Stack.replay (stack : Stack) (events : List Event) : Stack :=
  events.foldl
    (fun s e =>
      match e with
      | .cite frame => s.push frame
      | .leave _ => s.dropLast
      | _ => s)
    stack

end MarkdownTemplate
