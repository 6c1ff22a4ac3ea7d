import SizeGate.Text.Terminal
import SizeGate.Text.Utf8

/-!
What the program says about its own command line.

Mistakes and the help text are written with their parts set off. `message` and `helpText` are the
same texts without escape sequences. Those that came with an argument are gone from them too, and
may take some of the text behind the argument along.
-/

namespace SizeGate.CommandLine

inductive Argument where
  | artifact
  | config
  | output
  | color
  | noColor
deriving DecidableEq

/-- The name of an argument in messages, with the placeholder of its value. -/
def Argument.name : Argument → String
  | .artifact => "[ARTIFACT]"
  | .config => "--config <CONFIG>"
  | .output => "--output <OUTPUT>"
  | .color => "--color"
  | .noColor => "--no-color"

inductive UsageError where
  /-- An option that does not exist, or an artifact after the first. -/
  | unknown (shown : String)
  /-- A value for a flag that takes none. -/
  | unexpectedValue (value flag : String)
  | valueMissing (argument : Argument)
  | formatUnknown (value : String)
  | repeated (argument : Argument)
  /-- Two flags that exclude each other, in the order in which they were given. -/
  | conflict (first second : Argument)
deriving DecidableEq

open Terminal (Style)

def quoted (style : Style) (text : String) : String :=
  "'" ++ style.apply text ++ "'"

/-- The mistake with its parts set off. -/
def UsageError.styled (error : UsageError) : String :=
  Style.error.apply "error:" ++ " " ++ match error with
    | .unknown shown => "unexpected argument " ++ quoted .invalid shown ++ " found"
    | .unexpectedValue value flag =>
      "unexpected value " ++ quoted .invalid value ++ " for " ++ quoted .literal flag
        ++ " found; no more were expected"
    | .valueMissing argument =>
      "a value is required for " ++ quoted .invalid argument.name ++ " but none was supplied"
    | .formatUnknown value =>
      "invalid value " ++ quoted .invalid value ++ " for " ++ quoted .literal Argument.output.name
    | .repeated argument =>
      "the argument " ++ quoted .invalid argument.name ++ " cannot be used multiple times"
    | .conflict first second =>
      "the argument " ++ quoted .invalid first.name ++ " cannot be used with "
        ++ quoted .invalid second.name

def UsageError.message (error : UsageError) : String :=
  Terminal.plain .ended error.styled

def helpColumn : Nat := 25

/-- A text that goes on under itself when it has several lines. -/
def hanging (text : String) : String :=
  String.ofList (text.toList.flatMap fun c =>
    if c = '\n' then c :: List.replicate helpColumn ' ' else [c])

def named (letter name : String) : String :=
  "  " ++ Style.literal.apply letter ++ ", " ++ Style.literal.apply name

/-- The help text with its parts set off. It shows the config file that the environment names. -/
def styledHelp (config : Option Bytes) : String :=
  "Gate firmware builds on the size budget of an OTA update slot\n"
    ++ "\n"
    ++ Style.heading.apply "Usage:" ++ " " ++ Style.literal.apply "otabudget"
    ++ " [OPTIONS] [ARTIFACT]\n"
    ++ "\n"
    ++ Style.heading.apply "Arguments:" ++ "\n"
    ++ "  [ARTIFACT]  Firmware binary to check [default: build/main_app.bin]\n"
    ++ "\n"
    ++ Style.heading.apply "Options:" ++ "\n"
    ++ named "-C" "--config" ++ " <CONFIG>  Use specific config file [env: OTABUDGET_CONFIG="
    ++ hanging (Utf8.lossy (config.getD [])) ++ "]\n"
    ++ named "-o" "--output"
    ++ " <OUTPUT>  Output format [default: text] [possible values: text, json]\n"
    ++ "      " ++ Style.literal.apply "--color" ++ "            Force color output\n"
    ++ "      " ++ Style.literal.apply "--no-color" ++ "         Disable color output\n"
    ++ named "-h" "--help" ++ "             Print help\n"
    ++ named "-V" "--version" ++ "          Print version\n"

def helpText (config : Option Bytes) : String :=
  Terminal.plain .ended (styledHelp config)

def versionText : String :=
  "otabudget 0.1.0\n"

end SizeGate.CommandLine
