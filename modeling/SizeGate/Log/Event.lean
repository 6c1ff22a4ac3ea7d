import SizeGate.Budget
import SizeGate.Config
import SizeGate.Text.Numeral
import SizeGate.Text.Quoted
import SizeGate.Text.Terminal

/-!
The events of a run that can be logged.

There are five steps at which a run says how far it has come. Each belongs to a target, by which a
filter can choose it.
-/

namespace SizeGate.Log

inductive Event where
  | loadingConfig (path : Path)
  | noConfig
  | parsedConfig (path : Path) (config : Config)
  | checkingArtifact (path : Path)
  | measured (path : Path) (size : UInt64)
  | judged (verdict : Verdict)

namespace Event

/-- The part of the program an event comes from. -/
def target : Event → String
  | .loadingConfig _ | .noConfig | .checkingArtifact _ | .judged _ => "otabudget::cmd_check"
  | .parsedConfig _ _ => "otabudget::config"
  | .measured _ _ => "otabudget::artifact"

/-- An optional setting, spelled so that a missing one cannot be mistaken for a value. -/
def setting (value : Option String) : String :=
  match value with
  | none => "None"
  | some text => "Some(" ++ text ++ ")"

def formatName : Format → String
  | .text => "Text"
  | .json => "Json"

def message : Event → String
  | .loadingConfig path => "loading config from " ++ path.display
  | .noConfig => "no config found, using defaults"
  | .parsedConfig path config =>
    "parsed " ++ path.display
      ++ ": artifact=" ++ setting (config.artifact.map fun path => Text.quote path.display)
      ++ " format=" ++ setting (config.format.map formatName)
  | .checkingArtifact path => "checking artifact " ++ path.display
  | .measured path size =>
    "measured " ++ path.display ++ ": " ++ Decimal.ofNat size.toNat ++ " bytes ("
      ++ ByteCount.text size.toNat ++ ")"
  | .judged verdict =>
    "verdict: within_budget=" ++ (if verdict.fits then "true" else "false")
      ++ " headroom=" ++ Decimal.ofInt verdict.headroom ++ " bytes"

/-- The line of an event, with the given time. Controls that a terminal acts on are spelled out, so
a path cannot forge a colored line. -/
def line (styled : Bool) (time : String) (event : Event) : String :=
  let words := Terminal.spell event.message
  if styled then
    "\x1b[2m" ++ time ++ "\x1b[0m \x1b[34mDEBUG\x1b[0m " ++ words ++ "\n"
  else time ++ " DEBUG " ++ words ++ "\n"

end Event

end SizeGate.Log
