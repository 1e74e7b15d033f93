import MarkdownTemplate.CommandLine

/-!
# The program

Runs a command line on real files. Files are looked up as they turn out to be needed: the command
is performed on the files known so far, and when it fails for want of a file, that file is looked
up and the command is performed again. Only what an assembly changes is written, at the end.
-/

namespace MarkdownTemplate.Program

/-- How the command is used. -/
def usage : String :=
  "usage: mdassembler [-h] (include | create_page_toc) [--pristine] [-v] template output"

/-- The name of a path for the system. -/
def name (p : Path) : String :=
  String.ofList p.text

/-- The tree with what a path names: a file, a directory, or nothing. -/
def look (tree : FileTree) (p : Path) : IO FileTree := do
  if !FileTree.hasNoNull p then
    return tree
  try
    let content ← IO.FS.readBinFile (name p)
    let writable ← try
        let _ ← IO.FS.Handle.mk (name p) .readWrite
        pure true
      catch _ => pure false
    let f : File := { content := content.toList, writable }
    return tree.addFile p.names f
  catch _ =>
    try
      let _ ← IO.FS.Handle.mk (name p) .read
      return tree.makeDirectory p.names true
    catch _ => return tree

/-- The file for want of which a command failed. -/
def wanted? : Error → Option Path
  | .unreadableTemplate p => some p
  | .unreadableIncludee _ p _ => some p
  | _ => none

/-- Performs a command, looking up one file after the other. `known` are the paths that have been
    looked up. -/
partial def settle (settings : Settings) (w : Place) (known : List Path)
    (command : CommandLine) : IO (Place × CommandLine.Result) := do
  let result := command.perform settings w
  match (result.failure.bind wanted?).filter fun p => !known.contains p with
  | none => return (w, result)
  | some p => settle settings { w with tree := ← look w.tree p } (p :: known) command

/-- Writes the files whose content has changed. -/
def save (before after : FileTree) : IO Unit :=
  after.files.forM fun (location, f) => do
    if (before.files.lookup location).map File.content ≠ some f.content then
      IO.FS.writeBinFile (name ⟨.root, location⟩) ⟨f.content.toArray⟩

/-- The directories on the way to a path. -/
def way (p : Path) : List Path :=
  (FileTree.above p.names).map (Path.mk p.anchor)

/-- The place in which a command is performed before any template has been looked up: the working
    directory, the output, and the directories on the way to it and to the template. -/
def place (command : CommandLine) : IO Place := do
  let cwd := Path.ofText (← IO.currentDir).toString.toList
  match command with
  | .assemble _ template output _ _ =>
    let output := Path.absolute cwd output
    let tree ← (way (Path.absolute cwd template) ++ way output ++ [output]).foldlM look
      FileTree.empty
    return ⟨tree, cwd⟩
  | _ => return ⟨FileTree.empty, cwd⟩

/-- The environment variables that settings are made from. -/
def environment : IO (List (Text × Text)) := do
  let names := ["MDASSEMBLER_ENCODING", "MDASSEMBLER_LOG_LEVEL", "MDASSEMBLER_PRISTINE"]
  let values ← names.mapM fun n => do
    return (← IO.getEnv n).map fun v => (n.toList, v.toList)
  return values.filterMap id

/-- Performs a command line and reports. -/
def run (args : List Text) : IO UInt32 := do
  let command := CommandLine.parse args
  let settings := Settings.ofEnvironment (← environment)
  let (w, result) ← settle settings (← place command) [] command
  if command = .help then
    IO.println usage
  match result.stderr with
  | none => IO.eprintln usage
  | some said => IO.eprint (String.ofList said)
  match result.failure.filter fun e => !e.isReported with
  | some e => IO.eprintln (String.ofList e.message)
  | none => pure ()
  try
    save w.tree result.tree
    return UInt32.ofNat result.status
  catch _ =>
    let changed := result.tree.files.filter fun e => !w.tree.files.contains e
    changed.forM fun e =>
      IO.eprint (String.ofList (Error.unwritableOutput ⟨.root, e.1⟩).message)
    return 1

end MarkdownTemplate.Program

/-- Performs the command line that the arguments make. -/
def main (args : List String) : IO UInt32 :=
  MarkdownTemplate.Program.run (args.map String.toList)
