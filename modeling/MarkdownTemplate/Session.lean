import MarkdownTemplate.Assembly

/-!
# Sessions

A session is one assembler at work in a place that changes: templates are assembled, the option is
set, files come and go, the working directory moves. This file fixes

* `Request` -- what can be asked of a session;
* `Session.perform` -- the session after a request, and the error it met, if it met one.
-/

namespace MarkdownTemplate

/-- What can be asked of a session. Paths are seen from the working directory. -/
inductive Request where
  | assemble (verb : Verb) (template output : Text)
  | setTidy (value : Value)
  /-- Creates or replaces a file, with the directories above it. -/
  | putFile (path : Text) (file : File)
  | removeFile (path : Text)
  /-- Moves to a directory, which is created if it is missing. -/
  | changeDirectory (path : Text)

/-- An assembler and the place it works in. -/
structure Session where
  assembler : Assembler
  place : Place

namespace Session

/-- The session with another tree. -/
def withTree (s : Session) (tree : FileTree) : Session :=
  { s with place := { s.place with tree } }

/-- The path that a text denotes in the working directory. -/
def path (s : Session) (text : Text) : Path :=
  Path.absolute s.place.cwd text

/-- The session after a request, and the error that the request met. A value that is refused
    changes nothing. -/
def perform (s : Session) : Request → Session × Option Error
  | .assemble verb template output =>
    let outcome := s.assembler.assemble verb s.place template output
    (s.withTree outcome.tree, outcome.failure)
  | .setTidy value =>
    match s.assembler.withTidy value with
    | .ok assembler => ({ s with assembler }, none)
    | .error e => (s, some e)
  | .putFile path file => (s.withTree (s.place.tree.addFile (s.path path).names file), none)
  | .removeFile path => (s.withTree (s.place.tree.remove (s.path path).names), none)
  | .changeDirectory path =>
    let cwd := s.path path
    ({ s with place := ⟨s.place.tree.makeDirectory cwd.names true, cwd⟩ }, none)

/-- The session after some requests. -/
def performAll (s : Session) (requests : List Request) : Session :=
  requests.foldl (fun s r => (s.perform r).1) s

end Session

end MarkdownTemplate
