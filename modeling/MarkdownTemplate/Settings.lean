import MarkdownTemplate.Text.Upper

/-!
# Settings from the environment

Three environment variables set the defaults: the encoding of files, the level of the log, and
the policy on blank lines. Each is taken as it is written, except that the level is put into
capitals and that the policy is on for `1`, `true` and `yes` in any mix of letters.
-/

namespace MarkdownTemplate

/-- The defaults of an assembly. -/
structure Settings where
  encoding : Text
  logLevel : Text
  tidy : Bool
  deriving DecidableEq

namespace Settings

/-- The value of an environment variable, or a default. -/
def named (env : List (Text × Text)) (name : String) (default : String) : Text :=
  (env.lookup name.toList).getD default.toList

/-- The settings that environment variables make. -/
def ofEnvironment (env : List (Text × Text)) : Settings :=
  let tidy := Text.lowerAscii (named env "MDASSEMBLER_PRISTINE" "false")
  { encoding := named env "MDASSEMBLER_ENCODING" "utf-8"
    logLevel := Text.upper (named env "MDASSEMBLER_LOG_LEVEL" "WARNING")
    tidy := ["1".toList, "true".toList, "yes".toList].contains tidy }

/-- The settings without any environment variable. -/
def standard : Settings :=
  ofEnvironment []

end Settings

end MarkdownTemplate
