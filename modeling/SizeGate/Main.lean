import SizeGate.Instant
import SizeGate.Run
import Std.Time.DateTime

/-!
The command line program.

Everything is decided in `run`. Here its questions are put to the system, its lines and reports are
written out, and its exit code becomes that of the process.
-/

namespace SizeGate.Program

/-- The system's error number. Some operations give it negated. -/
def numberOf (code : UInt32) : Int :=
  code.toInt32.toInt.natAbs

def reasonOf : IO.Error → IoError
  | .alreadyExists _ code _ | .otherError code _ | .resourceBusy code _
  | .resourceVanished code _ | .unsupportedOperation code _ | .hardwareFault code _
  | .unsatisfiedConstraints code _ | .illegalOperation code _ | .protocolError code _
  | .timeExpired code _ | .interrupted _ code _ | .noFileOrDirectory _ code _
  | .invalidArgument _ code _ | .permissionDenied _ code _ | .resourceExhausted _ code _
  | .inappropriateType _ code _ | .noSuchThing _ code _ => .os (numberOf code)
  | .unexpectedEof => .stated "unexpected end of file"
  | .userError reason => .stated reason

def attempt {α : Type} (action : IO α) : IO (Except IoError α) := do
  return (← action.toBaseIO).mapError reasonOf

/-- Asks the system about a path. It takes only paths that are text, so nothing is found at another
one. -/
def ask {α : Type} (path : Path) (question : String → IO α) : IO (Except IoError α) :=
  if 0 ∈ path.bytes then return .error .nullInName
  else match Utf8.decode? path.bytes with
    | some name => attempt (question name)
    | none => return .error .notFound

def status (name : String) : IO FileStatus := do
  let found ← ((← IO.currentDir) / name).metadata
  let kind : FileKind := match found.type with
    | .file => .regular
    | .dir => .directory
    | .symlink | .other => .special
  return ⟨kind, found.byteSize⟩

/-- Opens a file and closes it again. -/
def opening (name : String) : IO Unit := do
  let _ ← IO.FS.Handle.mk name .read

def contents (name : String) : IO Bytes := do
  let handle ← IO.FS.Handle.mk name .read
  return (← handle.readBinToEnd).toList

def now : IO Instant := do
  let wall := Std.Time.WallTime.ofTimestamp (← Std.Time.Timestamp.now) .zero
  let moment := Std.Time.PlainDateTime.ofWallTime wall
  return {
    year := moment.year.toInt.toNat
    month := moment.month.val.toNat
    day := moment.day.val.toNat
    hour := moment.hour.val.toNat
    minute := moment.minute.val.toNat
    second := moment.second.val.toNat
    nanosecond := moment.nanosecond.val.toNat }

def say (logging : Log.Logging) (notice : Notice) : IO Unit := do
  (← IO.getStderr).putStr (notice.line logging (← now).inLog)

/-- Writes to standard output, and to what lies behind it. -/
def write (text : String) : IO Unit := do
  let output ← IO.getStdout
  output.putStr text
  output.flush

/-- Puts the questions of a session to the system. -/
def perform {α : Type} (logging : Log.Logging) : Session α → IO α
  | .done value => return value
  | .status path next => do perform logging (next (← ask path status))
  | .opening path next => do perform logging (next (← ask path opening))
  | .contents path next => do perform logging (next (← ask path contents))
  | .say notice next => do
    say logging notice
    perform logging next
  | .write text next => do perform logging (next (← attempt (write text)))

def envBytes (name : String) : IO (Option Bytes) := do
  return (← IO.getEnv name).map fun value => Utf8.encode value.toList

def environment : IO Environment := do
  return {
    config := ← envBytes "OTABUDGET_CONFIG"
    log := ← envBytes "OTABUDGET_LOG"
    noColor := ← envBytes "NO_COLOR"
    color := ← envBytes "COLOR"
    cliColor := ← envBytes "CLICOLOR"
    cliColorForce := ← envBytes "CLICOLOR_FORCE"
    ci := ← envBytes "CI"
    term := ← envBytes "TERM" }

def invocation (args : List String) : IO Invocation := do
  return {
    args := args.map fun arg => Utf8.encode arg.toList
    env := ← environment
    cwd := .ofString (← IO.currentDir).toString
    isTerminal := ← (← IO.getStdout).isTty
    errorIsTerminal := ← (← IO.getStderr).isTty
    time := (← now).inReport }

end SizeGate.Program

def main (args : List String) : IO UInt32 := do
  let invocation ← SizeGate.Program.invocation args
  let logging := SizeGate.Log.Logging.ofEnvironment invocation.env
  let code ← SizeGate.Program.perform logging (SizeGate.run invocation)
  return code.number.toUInt32
