import MarkdownTemplate.Assembly
import MarkdownTemplate.Text.Digit

/-!
# The command line

A command line is a command, a template, an output and flags. This file fixes

* `Word`, `Word.ofText` -- how one argument reads: an operand, flags, or something wrong;
* `CommandLine.parse` -- the command line as a whole;
* `CommandLine.perform` -- what it does: exit status, standard error, files.

Flags may stand anywhere after the command. A long flag may be shortened as long as it stays
distinct, short flags may be put together, also with an `=` behind the first one, and after `--`
every argument is an operand. An argument that looks like a negative number, or that holds a space
and is no flag, is an operand. Help is given as soon as it is asked for; a flag that is unknown is
noticed only at the end. A `--` is no operand, but a second one may be; where it should be the
output, it can be lost.
-/

namespace MarkdownTemplate

/-- The flags. -/
inductive Flag where
  | help
  | tidy
  | verbose
  deriving DecidableEq

namespace Flag

/-- The long name of a flag. -/
def long : Flag → Text
  | help => "help".toList
  | tidy => "pristine".toList
  | verbose => "verbose".toList

/-- The letter of a flag, if it has one. -/
def letter? : Flag → Option Char
  | help => some 'h'
  | tidy => none
  | verbose => some 'v'

end Flag

/-! ## 1. One argument -/

/-- How one argument reads. -/
inductive Word where
  | operand
  /-- Known flags. -/
  | flags (known : List Flag)
  /-- A known flag with something behind it that it does not take. -/
  | malformed
  /-- The beginning of several flags. -/
  | ambiguous
  /-- A flag that is not known. -/
  | unknown
  deriving DecidableEq

namespace Word

/-- The text without one line feed at its end. -/
def dropLineFeed (s : Text) : Text :=
  if s.getLast? = some '\n' then s.dropLast else s

/-- The argument reads as a negative number: digits of any script, with or without a point that
    digits follow. A line feed at the end does not matter. -/
def isNegativeNumber (s : Text) : Bool :=
  match dropLineFeed s with
  | '-' :: number =>
    let whole := number.takeWhile Text.isDigit
    match number.dropWhile Text.isDigit with
    | [] => whole != []
    | '.' :: fraction => fraction != [] && fraction.all Text.isDigit
    | _ => false
  | _ => false

/-- The letters behind the first one of a group of short flags, without an `=` in front of them. An
    `=` that no letter follows stays, and is no letter. -/
def lettersOf : Text → Text
  | '=' :: c :: letters => c :: letters
  | letters => letters

/-- The letters behind the first one of a group of short flags. `known` are the flags so far. -/
def group (flags : List Flag) (known : List Flag) : Text → Word
  | [] => .flags known
  | c :: rest =>
    match flags.find? fun f => f.letter? == some c with
    | some f => group flags (known ++ [f]) rest
    | none => .malformed

/-- The flags whose long name begins with `s`. -/
def longMatches (flags : List Flag) (s : Text) : List Flag :=
  flags.filter fun f => s.isPrefixOf f.long

/-- An argument that is no known flag and no beginning of one. -/
def other (s : Text) : Word :=
  if isNegativeNumber s || s.contains ' ' then .operand else .unknown

/-- How an argument reads when `flags` are the flags it may be. -/
def ofText (flags : List Flag) (s : Text) : Word :=
  match s with
  | '-' :: '-' :: long =>
    let name := long.takeWhile (· != '=')
    match flags.find? (fun f => f.long == name), longMatches flags name with
    | some f, _ | none, [f] => if name = long then .flags [f] else .malformed
    | none, [] => other s
    | none, _ => .ambiguous
  | '-' :: c :: rest =>
    match flags.find? fun f => f.letter? == some c with
    | some f => group flags [f] (lettersOf rest)
    | none => other s
  | _ => .operand

end Word

/-! ## 2. All arguments -/

/-- What a command line asks for. -/
inductive CommandLine where
  | help
  | usageError
  | assemble (verb : Verb) (template output : Text) (tidy verbose : Bool)
  /-- There is a template, but nothing is left of the argument for the output. -/
  | lostOutput
  deriving DecidableEq

namespace CommandLine

/-- The flags of every command. -/
def commandFlags : List Flag :=
  [.help, .tidy, .verbose]

/-- The command that a word names. -/
def verb? (s : Text) : Option Verb :=
  if s = "include".toList then some .includeFiles
  else if s = "create_page_toc".toList then some .contentsOnly
  else none

/-- What has been read of the arguments behind the command. -/
structure Progress where
  /-- The operands; `none` stands for one of which nothing is left. -/
  operands : List (Option Text)
  flags : List Flag
  /-- Something is left over that nothing takes. -/
  leftOver : Bool

/-- The result when all arguments are read: there must be two operands and nothing else. -/
def Progress.finish (verb : Verb) (p : Progress) : CommandLine :=
  match p.operands with
  | [some template, some output] =>
    if p.leftOver then .usageError
    else .assemble verb template output (p.flags.contains .tidy) (p.flags.contains .verbose)
  | [some _, none] => if p.leftOver then .usageError else .lostOutput
  | _ => .usageError

/-- What is left of an output when the mark `--` has gone with the template: nothing, if it is `--`
    itself. -/
def leftOutput (output : Text) : Option Text :=
  if output = ['-', '-'] then none else some output

/-- The operands behind a `--`. This mark goes with the template if it touches it or stands in front
    of it, and then an output that is `--` once more is lost. -/
def behindMark (touching : Bool) (operands : List (Option Text)) (rest : List Text) :
    List (Option Text) :=
  if touching || operands.isEmpty then
    match operands.length, rest with
    | 0, template :: output :: more => some template :: leftOutput output :: more.map some
    | 1, output :: more => leftOutput output :: more.map some
    | _, _ => rest.map some
  else rest.map some

/-- Reads the arguments behind the command. `touching` says that an operand stands directly in
    front; a `--` that touches no operand is left over. -/
def readArguments (verb : Verb) : (touching : Bool) → Progress → List Text → CommandLine
  | _, p, [] => p.finish verb
  | touching, p, s :: rest =>
    if s = ['-', '-'] then
      Progress.finish verb
        { p with
          operands := p.operands ++ behindMark touching p.operands rest
          leftOver := p.leftOver || (!touching && rest.isEmpty) }
    else
      match Word.ofText commandFlags s with
      | .operand => readArguments verb true { p with operands := p.operands ++ [some s] } rest
      | .flags known =>
        if known.contains .help then .help
        else readArguments verb false { p with flags := p.flags ++ known } rest
      | .unknown => readArguments verb false { p with leftOver := true } rest
      | .malformed | .ambiguous => .usageError

/-- Some argument in front of a `--` is the beginning of several flags. -/
def hasAmbiguous (args : List Text) : Bool :=
  (args.takeWhile (· != ['-', '-'])).any fun s => Word.ofText commandFlags s == .ambiguous

/-- Reads a command line. In front of the command only help is known, and what is unknown there
    is left over. -/
def parseFrom (leftOver : Bool) : List Text → CommandLine
  | [] => .usageError
  | s :: rest =>
    if s = ['-', '-'] then .usageError
    else
      match Word.ofText [.help] s with
      | .operand =>
        match verb? s with
        | none => .usageError
        | some verb =>
          if hasAmbiguous rest then .usageError
          else readArguments verb false ⟨[], [], leftOver⟩ rest
      | .flags _ => .help
      | .unknown => parseFrom true rest
      | .malformed | .ambiguous => .usageError

/-- Reads a command line. -/
def parse (args : List Text) : CommandLine :=
  parseFrom false args

/-! ## 3. Performing -/

/-- What a command line leaves behind. -/
structure Result where
  /-- The exit status. -/
  status : Nat
  /-- What is written to standard error, unless it is how the command is used. -/
  stderr : Option Text
  tree : FileTree
  /-- The error that stopped the assembly, if one did. -/
  failure : Option Error
  deriving DecidableEq

/-- A message as it ends standard error: on lines of its own, with no empty ones behind it. -/
def told (message : Text) : Text :=
  dropTrailing (· == '\n') message ++ ['\n']

/-- What an assembly leaves behind: the lines of the log, and what is told about an error. -/
def resultOf (log : Log) (outcome : Outcome) : Result :=
  let lines := (outcome.log.map log.emit).flatten
  match outcome.failure with
  | none => ⟨0, some lines, outcome.tree, none⟩
  | some e =>
    ⟨1, some (lines ++ if e.isReported then told e.message else []), outcome.tree, some e⟩

/-- The level of the log that a command line asks for; nothing means the level of the settings. -/
def logLevel (verbose : Bool) : Value :=
  if verbose then .int Log.debug else .null

/-- What a command line does. A level of the log that the settings get wrong stops it. -/
def perform (settings : Settings) (w : Place) : CommandLine → Result
  | .help => ⟨0, some [], w.tree, none⟩
  | .usageError => ⟨2, none, w.tree, none⟩
  | .lostOutput => ⟨1, some [], w.tree, some .lostOutput⟩
  | .assemble verb template output tidy verbose =>
    match Log.fresh.configure settings.logLevel (logLevel verbose) with
    | (_, some fault) => ⟨1, some (told fault.message), w.tree, none⟩
    | (log, none) =>
      let options := [(Assembler.tidyName, .truth tidy)]
      match Assembler.ofOptions settings w.cwd options none settings.encoding with
      | .error e => ⟨1, some (told e.message), w.tree, some e⟩
      | .ok assembler => resultOf log (assembler.assemble verb w template output)

end CommandLine

end MarkdownTemplate
