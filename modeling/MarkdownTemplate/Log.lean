import MarkdownTemplate.Value

/-!
# The log

Records go to one channel, named below, and to the channels under it. This file fixes

* `Record`, `Record.text` -- a record, and the line a handler writes for it;
* `Level` -- the level of the log, as it was set;
* `Log.channelName` -- the full name of a channel;
* `Log` -- the state of the channel: its level and its handlers;
* `Log.configure`, `Log.emit` -- setting the level with a new handler, and writing a record.

A handler is put in place before the level is looked at, and the handler it replaces is the one
put in place by the last configuration that succeeded. So a level that is refused leaves a handler
behind.
-/

namespace MarkdownTemplate

/-- A record of the log. -/
structure Record where
  level : Int
  /-- The full name of the channel. -/
  channel : Text
  message : Text
  deriving DecidableEq

/-- A level that can be set: a number, or a truth value that counts as one or zero. -/
inductive Level where
  | number (n : Int)
  | truth (b : Bool)
  deriving DecidableEq

/-- The number that a level counts as. -/
def Level.toInt : Level → Int
  | number n => n
  | truth b => if b then 1 else 0

/-- The log: its level, and the handlers that write its records. -/
structure Log where
  level : Level
  /-- The handlers that configurations have left behind. -/
  strays : Nat
  /-- The handler of the last configuration is in place. -/
  installed : Bool
  deriving DecidableEq

/-- Why a value is not taken for a level. -/
inductive LevelFault where
  /-- No level has this name; the name is given as messages show it. -/
  | unknownName (shown : Text)
  /-- The value is neither an integer nor a text. -/
  | kind (shown : Text)
  /-- Nor is this one, and it cannot be shown. -/
  | unshown
  deriving DecidableEq

/-- What is said about a level that is refused. -/
def LevelFault.message : LevelFault → Text
  | unknownName shown => "Unknown level: ".toList ++ shown
  | kind shown => "Level not an integer or a valid string: ".toList ++ shown
  | unshown => Value.unshownMessage

namespace Log

/-! ## 1. Names and levels -/

/-- The name of the channel that all others lie under. -/
def rootName : Text :=
  "mdassembler".toList

/-- The full name of a channel: under the root channel, unless it lies there already. -/
def channelName (name : Text) : Text :=
  if name = rootName ∨ (rootName ++ ['.']).isPrefixOf name then name
  else rootName ++ '.' :: name

def debug : Int := 10
def info : Int := 20
def warning : Int := 30

/-- The names of the levels. -/
def levelNames : List (Text × Int) :=
  [("CRITICAL".toList, 50), ("FATAL".toList, 50), ("ERROR".toList, 40), ("WARNING".toList, warning),
   ("WARN".toList, warning), ("INFO".toList, info), ("DEBUG".toList, debug), ("NOTSET".toList, 0)]

/-- The name of a level; of two names the first. -/
def levelName (level : Int) : Text :=
  match levelNames.find? fun e => e.2 == level with
  | some e => e.1
  | none => "Level ".toList ++ Text.ofInt level

/-- The level that a value denotes. -/
def levelOf : Value → Except LevelFault Level
  | .int n => .ok (.number n)
  | .truth b => .ok (.truth b)
  | .text name =>
    match levelNames.lookup name with
    | some level => .ok (.number level)
    | none => .error (.unknownName (Text.quoted name))
  | v =>
    match v.literal? with
    | some shown => .error (.kind shown)
    | none => .error .unshown

end Log

/-- The line that a handler writes for a record. -/
def Record.text (r : Record) : Text :=
  Log.levelName r.level ++ ' ' :: r.channel ++ ':' :: ' ' :: r.message ++ ['\n']

namespace Log

/-! ## 2. Configuring -/

/-- The log that nobody has configured. -/
def fresh : Log :=
  ⟨.number 0, 0, false⟩

/-- How many handlers are in place. -/
def handlers (log : Log) : Nat :=
  log.strays + if log.installed then 1 else 0

/-- The log after a configuration, and why its level was refused, if it was. A missing level
    stands for `default`. -/
def configure (log : Log) (default : Text) (level : Value) : Log × Option LevelFault :=
  match levelOf (if level.isNull then .text default else level) with
  | .ok level => ({ log with level, installed := true }, none)
  | .error fault => ({ log with strays := log.strays + 1, installed := false }, some fault)

/-! ## 3. Writing -/

/-- The lowest level that is written; a log without a level writes warnings and above. -/
def threshold (log : Log) : Int :=
  if log.level.toInt = 0 then warning else log.level.toInt

/-- What is written for a record: one line from every handler, or, if there is none, the bare
    message of a warning or worse. -/
def emit (log : Log) (r : Record) : Text :=
  if 0 < r.level ∧ log.threshold ≤ r.level then
    if log.handlers = 0 then if warning ≤ r.level then r.message ++ ['\n'] else []
    else (List.replicate log.handlers r.text).flatten
  else []

end Log

end MarkdownTemplate
