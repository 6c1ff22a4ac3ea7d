import SizeGate.Budget
import SizeGate.Json
import SizeGate.Path

/-!
The report on a verdict, in two formats.

The report for people has three lines, of which the last gives the verdict. Color is put around the
word of the verdict and nowhere else. The report for programs is one JSON object. The headroom is
held to the signed 64-bit range, so that it fits where readers keep it. That keeps its sign, and its
value whenever it lies in the range.
-/

namespace SizeGate

inductive Format where
  | text
  | json
deriving DecidableEq

namespace Format

def name : Format → String
  | .text => "text"
  | .json => "json"

def ofName? (name : String) : Option Format :=
  if name = "text" then some .text
  else if name = "json" then some .json
  else none

def lowerAscii (text : String) : String :=
  String.ofList (text.toList.map Char.toLower)

def ofAnyCase? (name : String) : Option Format :=
  ofName? (lowerAscii name)

theorem ofName?_name (format : Format) : ofName? format.name = some format := by
  cases format <;> rfl

end Format

end SizeGate

namespace SizeGate.Report

/-- A word between the escape sequences for bold text in a color and for plain text. -/
def highlight (color : String) (word : String) : String :=
  "\x1b[0m\x1b[1m\x1b[" ++ color ++ "m" ++ word ++ "\x1b[0m"

def word (fits : Bool) : String :=
  if fits then "OK" else "ERROR"

def colorOf (fits : Bool) : String :=
  if fits then "32" else "31"

def explanation (fits : Bool) : String :=
  if fits then ": app binary within OTA slot budget.\n"
  else ": app binary exceeds OTA slot budget.\n"

def text (colored : Bool) (verdict : Verdict) : String :=
  "App binary: " ++ Decimal.ofNat verdict.size.toNat ++ " bytes\n"
    ++ "Budget:     " ++ Decimal.ofNat verdict.budget.limit.toNat ++ " bytes (slot "
    ++ Decimal.ofNat verdict.budget.slot.toNat ++ " - margin "
    ++ Decimal.ofNat verdict.budget.margin.toNat ++ ")\n"
    ++ (if colored then highlight (colorOf verdict.fits) (word verdict.fits)
        else word verdict.fits)
    ++ explanation verdict.fits

def clamp (n : Int) : Int :=
  max (-0x8000000000000000) (min n 0x7FFFFFFFFFFFFFFF)

def reportedHeadroom (verdict : Verdict) : Int :=
  clamp verdict.headroom

def fields (time : String) (artifact : Path) (verdict : Verdict) : SizeGate.Json :=
  .object [
    ("timestamp", .string time),
    ("artifact", .string artifact.display),
    ("size_bytes", .number verdict.size.toNat),
    ("budget", .object [
      ("slot_bytes", .number verdict.budget.slot.toNat),
      ("margin_bytes", .number verdict.budget.margin.toNat),
      ("max_app_bytes", .number verdict.budget.limit.toNat)]),
    ("headroom_bytes", .number (reportedHeadroom verdict)),
    ("passed", .boolean verdict.fits)]

def json (time : String) (artifact : Path) (verdict : Verdict) : String :=
  (fields time artifact verdict).pretty ++ "\n"

end SizeGate.Report
