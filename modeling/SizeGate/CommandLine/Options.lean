import SizeGate.CommandLine.Usage
import SizeGate.Environment
import SizeGate.Path
import SizeGate.Report

/-!
Reading the command line.

Arguments are taken from left to right and the first mistake counts. A value behind its option in
the next argument is checked only when something else is stored or the arguments end, so an unknown
option between is reported first; a value in the same argument is checked at once. That two flags
exclude each other is checked last.
-/

namespace SizeGate.CommandLine

structure Options where
  artifact : Option Path := none
  config : Option Path := none
  output : Option Format := none
  color : Bool := false
  noColor : Bool := false
deriving DecidableEq

/-- Why reading a command line ends without options. -/
inductive Stop where
  | help
  | version
  | usage (error : UsageError)
deriving DecidableEq

structure Progress where
  options : Options := {}
  /-- The arguments that are stored, in the order in which they were given. -/
  given : List Argument := []
  /-- An argument that is not stored yet, with its value if that has come. -/
  waiting : Option (Argument × Option Bytes) := none
  /-- Whether every further argument is an artifact. -/
  onlyArtifacts : Bool := false

namespace Progress

def assign (options : Options) (value : Bytes) : Argument → Except UsageError Options
  | .artifact => .ok { options with artifact := some ⟨value⟩ }
  | .config => .ok { options with config := some ⟨value⟩ }
  | .output =>
    match Format.ofName? (Utf8.lossy value) with
    | some format => .ok { options with output := some format }
    | none => .error (.formatUnknown (Utf8.lossy value))
  | .color => .ok { options with color := true }
  | .noColor => .ok { options with noColor := true }

/-- Stores an argument with its value, which has to be there, for the first time, and not empty. -/
def store (progress : Progress) (argument : Argument) (value : Option Bytes) :
    Except UsageError Progress :=
  match value with
  | none => .error (.valueMissing argument)
  | some value =>
    if argument ∈ progress.given then .error (.repeated argument)
    else if value = [] then .error (.valueMissing argument)
    else (assign progress.options value argument).map fun options =>
      { progress with options, given := progress.given ++ [argument] }

def settle (progress : Progress) : Except UsageError Progress :=
  match progress.waiting with
  | none => .ok progress
  | some (argument, value) => { progress with waiting := none }.store argument value

/-- Lets an argument wait, once the one before it is stored. -/
def await (progress : Progress) (argument : Argument) (value : Option Bytes) :
    Except Stop Progress :=
  match progress.settle with
  | .ok settled => .ok { settled with waiting := some (argument, value) }
  | .error error => .error (.usage error)

/-- Stores an argument with a value that stands in the same argument. -/
def attach (progress : Progress) (argument : Argument) (value : Bytes) : Except Stop Progress :=
  match progress.settle with
  | .ok settled => (settled.store argument (some value)).mapError .usage
  | .error error => .error (.usage error)

def flag (progress : Progress) (argument : Argument) : Except Stop Progress :=
  match progress.settle with
  | .ok settled =>
    if argument ∈ settled.given then .error (.usage (.repeated argument))
    else ((assign settled.options [] argument).map fun options =>
      { settled with options, given := settled.given ++ [argument] }).mapError .usage
  | .error error => .error (.usage error)

/-- Ends the reading for a reason that is no mistake. -/
def halt (progress : Progress) (reason : Stop) : Except Stop Progress :=
  match progress.settle with
  | .ok _ => .error reason
  | .error error => .error (.usage error)

def equals : UInt8 := 0x3D

def dash : UInt8 := 0x2D

/-- The options that are spelled out, with the flags that help and version are. -/
inductive LongName where
  | option (argument : Argument)
  | flag (argument : Argument)
  | halt (reason : Stop)

def longName? (name : String) : Option LongName :=
  if name = "config" then some (.option .config)
  else if name = "output" then some (.option .output)
  else if name = "color" then some (.flag .color)
  else if name = "no-color" then some (.flag .noColor)
  else if name = "help" then some (.halt .help)
  else if name = "version" then some (.halt .version)
  else none

/-- Takes a spelled-out option, given without its dashes. -/
def long (progress : Progress) (argument : Bytes) : Except Stop Progress :=
  let name := Utf8.lossy (argument.takeWhile (· != equals))
  let value? := ((argument.dropWhile (· != equals)).head?).map fun _ =>
    (argument.dropWhile (· != equals)).drop 1
  match longName? name, value? with
  | none, _ => .error (.usage (.unknown ("--" ++ name)))
  | some (.option argument), none => progress.await argument none
  | some (.option argument), some value => progress.attach argument value
  | some (.flag argument), none => progress.flag argument
  | some (.halt reason), none => progress.halt reason
  | some _, some value => .error (.usage (.unexpectedValue (Utf8.lossy value) ("--" ++ name)))

/-- Takes an option of one letter whose value may stand behind it. -/
def lettered (progress : Progress) (argument : Argument) (rest : Bytes) : Except Stop Progress :=
  match rest with
  | [] => progress.await argument none
  | first :: value =>
    progress.attach argument (if first = equals then value else first :: value)

/-- Takes options of one letter, given without their dash. Only the first letter is ever looked at:
what follows is its value, or is not reached. -/
def short (progress : Progress) (cluster : Bytes) : Except Stop Progress :=
  match Utf8.pieces cluster with
  | .char 'h' :: _ => progress.halt .help
  | .char 'V' :: _ => progress.halt .version
  | .char 'C' :: _ => progress.lettered .config (cluster.drop 1)
  | .char 'o' :: _ => progress.lettered .output (cluster.drop 1)
  | .char letter :: _ => .error (.usage (.unknown ("-" ++ letter.toString)))
  | _ => .error (.usage (.unknown ("-" ++ Utf8.lossy cluster)))

def hasArtifact (progress : Progress) : Bool :=
  .artifact ∈ progress.given || progress.waiting.any fun waiting => waiting.1 = .artifact

def positional (progress : Progress) (value : Bytes) : Except Stop Progress :=
  if progress.hasArtifact then .error (.usage (.unknown (Utf8.lossy value)))
  else progress.await .artifact (some value)

/-- Takes an argument that is no option: the value of the option before it, or an artifact. -/
def plain (progress : Progress) (value : Bytes) : Except Stop Progress :=
  match progress.waiting with
  | some (argument, none) => .ok { progress with waiting := some (argument, some value) }
  | _ => progress.positional value

def take (progress : Progress) (argument : Bytes) : Except Stop Progress :=
  if progress.onlyArtifacts then progress.positional argument
  else match argument with
    | first :: second :: rest =>
      if first ≠ dash then progress.plain argument
      else if second ≠ dash then progress.short (second :: rest)
      else if rest = [] then .ok { progress with onlyArtifacts := true }
      else progress.long rest
    | _ => progress.plain argument

/-- Takes the config file that the environment names, unless an option names one. -/
def fallBack (progress : Progress) (config : Option Bytes) : Except UsageError Progress :=
  match config with
  | none => .ok progress
  | some value =>
    if .config ∈ progress.given then .ok progress else progress.store .config (some value)

/-- Checks that the flags given do not exclude each other. -/
def checked (progress : Progress) : Except UsageError Options :=
  match progress.given.filter fun argument => argument = .color ∨ argument = .noColor with
  | first :: second :: _ => .error (.conflict first second)
  | _ => .ok progress.options

end Progress

/-- Reads a command line, without the name of the program. -/
def parse (env : Environment) (args : List Bytes) : Except Stop Options := do
  let progress ← args.foldlM Progress.take {}
  let progress ← progress.settle.mapError .usage
  let progress ← (progress.fallBack env.config).mapError .usage
  progress.checked.mapError .usage

end SizeGate.CommandLine
