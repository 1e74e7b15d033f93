import MarkdownTemplate.Contents
import MarkdownTemplate.Expansion
import MarkdownTemplate.Log
import MarkdownTemplate.Settings
import MarkdownTemplate.Value.Lenient

/-!
# Assembling a page

An assembler turns a template into a page: it expands the template, puts the table of contents in
place and writes the output file. This file fixes

* `Assembler.ofOptions`, `Assembler.withTidy` -- making an assembler and changing its one option;
* `Verb` -- the two ways to assemble: with the files that directives cite, or without;
* `Assembler.assemble` -- the outcome of an assembly: the tree afterwards, the log, and the error
  that stopped it, if one did.

The output is opened only after the page is complete, so a template may be its own output, and an
assembly that fails leaves every file as it was.
-/

namespace MarkdownTemplate

/-- Where paths are looked up: the file tree and the working directory. -/
structure Place where
  tree : FileTree
  cwd : Path

/-- How templates are assembled. -/
structure Assembler where
  /-- Blank lines are dropped at the seams of inclusions. -/
  tidy : Bool
  /-- Where the paths that messages show begin; the working directory if it is not given. -/
  root : Option Path
  /-- The name of the encoding of every file. -/
  encoding : Text
  deriving DecidableEq

/-- The two ways to assemble a page. -/
inductive Verb where
  /-- Every directive is taken up. -/
  | includeFiles
  /-- Only the table of contents is made; directives that cite files are copied. -/
  | contentsOnly
  deriving DecidableEq

/-- What an assembly leaves behind. -/
structure Outcome where
  tree : FileTree
  log : List Record
  failure : Option Error
  deriving DecidableEq

namespace Assembler

/-! ## 1. Options -/

/-- The name of the only option. -/
def tidyName : Text :=
  "pristine".toList

/-- How a value of the option is refused: the error shows it, if it can be shown. -/
def refusal (v : Value) : Error :=
  match v.literal? with
  | some shown => .optionValue tidyName shown
  | none => .unshownValue

/-- The truth value given for the option. -/
def tidyOf (v : Value) : Except Error Bool :=
  match v.truth? with
  | some b => .ok b
  | none => .error (refusal v)

/-- The assembler with given options. An unknown name is an error, whatever the values are; `root`
    is a path from the working directory. -/
def ofOptions (settings : Settings) (cwd : Path) (options : List (Text × Value))
    (root : Option Text) (encoding : Text) : Except Error Assembler :=
  match options.find? fun o => o.1 ≠ tidyName with
  | some (name, _) => .error (.unknownOption name)
  | none =>
    let tidy : Except Error Bool :=
      match options.lookup tidyName with
      | none => .ok settings.tidy
      | some v => tidyOf v
    tidy.map fun tidy => ⟨tidy, root.map (Path.absolute cwd), encoding⟩

/-- The assembler with a new value for its option. -/
def withTidy (a : Assembler) (v : Value) : Except Error Assembler :=
  (tidyOf v).map fun tidy => { a with tidy }

/-! ## 2. Assembling -/

/-- The setting of an expansion. -/
def setting (a : Assembler) (verb : Verb) (w : Place) : Setting :=
  { tree := w.tree
    encoding := a.encoding
    root := some (a.root.getD w.cwd)
    citesFiles := verb == .includeFiles }

/-- The records of a run. -/
def records (run : Run) : List Record :=
  run.events.filterMap fun e =>
    e.message?.map fun m => ⟨Log.debug, Log.channelName "mdassembler.expander".toList, m⟩

/-- The record of a page that has been written. -/
def assembled (template output : Path) : Record :=
  ⟨Log.info, Log.channelName "mdassembler.assembler".toList,
    "Assembled ".toList ++ output.text ++ " from ".toList ++ template.text⟩

/-- The page that a run makes. -/
def page (a : Assembler) (run : Run) : Except Error Text :=
  match run.failure with
  | some e => .error e
  | none => ((Document.empty a.tidy).replay run.events).render

/-- Writes a text to the output: what goes wrong, if anything does, and the tree afterwards. A text
    that cannot be encoded leaves the output empty. -/
def write (a : Assembler) (tree : FileTree) (output : Path) (text : Text) :
    FileTree × Option Error :=
  match tree.checkWrite output with
  | some .nullCharacter => (tree, some .nullCharacter)
  | some .refused => (tree, some (.unwritableOutput output))
  | none =>
    match Encoding.ofName? a.encoding with
    | none => (tree, some (.unknownEncoding a.encoding))
    | some e =>
      match e.encode? text with
      | none => (tree.store output [], some .unencodable)
      | some bytes => (tree.store output bytes, none)

/-- Why a template may not be read or an output may not be written, the template first. -/
def inaccessible? (tree : FileTree) (template output : Path) : Option Error :=
  match tree.readAccess template, tree.writeAccess output with
  | .barred b p, _ => some (.barred b p)
  | .denied, _ => some (.unreadableTemplate template)
  | .granted, .barred b p => some (.barred b p)
  | .granted, .denied => some (.unwritableOutput output)
  | .granted, .granted => none

/-- Assembles a template into an output file. Both paths are checked before anything is read. -/
def assemble (a : Assembler) (verb : Verb) (w : Place) (template output : Text) : Outcome :=
  let template := Path.absolute w.cwd template
  let output := Path.absolute w.cwd output
  match inaccessible? w.tree template output with
  | some e => ⟨w.tree, [], some e⟩
  | none =>
    let run := (a.setting verb w).expand template (some output)
    match a.page run with
    | .error e => ⟨w.tree, records run, some e⟩
    | .ok text =>
      match a.write w.tree output text with
      | (tree, some e) => ⟨tree, records run, some e⟩
      | (tree, none) => ⟨tree, records run ++ [assembled template output], none⟩

end Assembler

end MarkdownTemplate
