import SizeGate.CommandLine.Options
import SizeGate.Discovery
import SizeGate.Environment
import SizeGate.Log.Filter
import SizeGate.Report

/-!
A whole run: the command line is read, the config found and read, the binary measured and judged,
and the report written.

`run` is a session, so what it does is the same for every file system that answers alike. Nothing
is written to standard output before the binary has been measured, and then one report in a single
piece.
-/

namespace SizeGate

namespace Artifact

def defaultPath : Path :=
  .ofString "build/main_app.bin"

/-- The file that is checked. A path from the command line is seen from the working directory, and
one from a config from the directory of that config; the default is seen from the working
directory. -/
def resolve (explicit : Option Path) (configured : Option (Path × Path)) (cwd : Path) : Path :=
  match explicit, configured with
  | some path, _ => cwd.join path
  | none, some (path, directory) => directory.join path
  | none, none => cwd.join defaultPath

/-- Measures a file, which has to be a regular one. It is opened, but nothing of it is read. -/
def measure (path : Path) : Session (Except Failure UInt64) :=
  .status path fun answer =>
    match answer with
    | .error reason => pure (.error (.artifact path reason))
    | .ok found =>
      if found.kind = .regular then
        .opening path fun answer =>
          match answer with
          | .error reason => pure (.error (.artifact path reason))
          | .ok () => do
            Session.log (.measured path found.size)
            pure (.ok found.size)
      else pure (.error (.artifact path .notRegular))

end Artifact

/-- What a run starts from. -/
structure Invocation where
  /-- The arguments after the name of the program. -/
  args : List Bytes
  env : Environment
  cwd : Path
  isTerminal : Bool
  errorIsTerminal : Bool
  /-- The time that a report in JSON carries. -/
  time : String

namespace Run

def fail (failure : Failure) : Session ExitCode := do
  Session.notice (.failure failure.message)
  pure failure.exitCode

/-- A message about the command line as it is written to a stream. Where color is not used, a
sequence that a line feed interrupts is taken up again behind it. -/
def message (env : Environment) (isTerminal : Bool) (styled : String) : String :=
  if Color.inMessages env isTerminal then styled else Terminal.plain .resumed styled

/-- Writes a text to standard output and ends the run, with the given code if the text is taken. -/
def conclude (text : String) (code : ExitCode) : Session ExitCode :=
  .write text fun answer =>
    match answer with
    | .ok () => pure code
    | .error reason => do
      Session.notice (.failure reason.message)
      pure .internal

def settings (found : Option Path) : Session (Except Failure Config) :=
  match found with
  | some path => do
    Session.log (.loadingConfig path)
    Config.load path
  | none => do
    Session.log .noConfig
    pure (.ok {})

/-- The artifact that a config names, with the directory it is seen from. -/
def configured (found : Option Path) (config : Config) : Option (Path × Path) := do
  let artifact ← config.artifact
  let directory ← (← found).parent?
  some (artifact, directory)

def codeOf (verdict : Verdict) : ExitCode :=
  if verdict.fits then .success else .overBudget

def report (invocation : Invocation) (options : CommandLine.Options) (config : Config)
    (artifact : Path) (verdict : Verdict) : String :=
  match (options.output <|> config.format).getD .text with
  | .text =>
    let color := Color.resolve options.color options.noColor invocation.env invocation.isTerminal
    Report.text (color.shows invocation.env) verdict
  | .json => Report.json invocation.time artifact verdict

def check (invocation : Invocation) (options : CommandLine.Options) (found : Option Path)
    (config : Config) : Session ExitCode := do
  let artifact := Artifact.resolve options.artifact (configured found config) invocation.cwd
  Session.log (.checkingArtifact artifact)
  match ← Artifact.measure artifact with
  | .error failure => fail failure
  | .ok size => do
    let verdict := Budget.ota.judge size
    Session.log (.judged verdict)
    conclude (report invocation options config artifact verdict) (codeOf verdict)

def perform (invocation : Invocation) (options : CommandLine.Options) : Session ExitCode := do
  match ← Discovery.resolveConfig options.config invocation.cwd with
  | .error failure => fail failure
  | .ok found => do
    match ← settings found with
    | .error failure => fail failure
    | .ok config => check invocation options found config

end Run

def run (invocation : Invocation) : Session ExitCode :=
  match CommandLine.parse invocation.env invocation.args with
  | .error .help =>
    let help := CommandLine.styledHelp invocation.env.config
    Run.conclude (Run.message invocation.env invocation.isTerminal help) .success
  | .error .version => Run.conclude CommandLine.versionText .success
  | .error (.usage error) => do
    Session.notice (.usage (Run.message invocation.env invocation.errorIsTerminal error.styled))
    pure .misconfigured
  | .ok options => Run.perform invocation options

/-- The line of a notice on standard error, or nothing for an event that is not logged. Logged
lines carry the given time. -/
def Notice.line (logging : Log.Logging) (time : String) : Notice → String
  | .unknownField config field =>
    "otabudget: warning: " ++ config.display ++ ": unrecognized field `" ++ field
      ++ "` (ignored)\n"
  | .event what => if logging.admits what then what.line logging.styled time else ""
  | .failure words => "otabudget: " ++ words ++ "\n"
  | .usage words => words ++ "\n"

namespace Session

def standardError (logging : Log.Logging) (time : String) (steps : List Step) : String :=
  String.join (steps.map fun step =>
    match step with
    | .said notice => notice.line logging time
    | _ => "")

def standardOutput (steps : List Step) : String :=
  String.join (steps.map fun step =>
    match step with
    | .wrote text => text
    | _ => "")

end Session

end SizeGate
