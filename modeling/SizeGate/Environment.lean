import SizeGate.Text.Utf8

/-!
The environment variables that a run reads, and what they say about color.

Each variable is unset or holds any bytes, the empty string included: a variable set to nothing is
still set. For the color of the report a flag decides first, then `NO_COLOR`, then `COLOR`; a
variable counts as soon as it is set. Otherwise color is left to the terminal, if there is one and
the build is attended. Messages about the command line are written before its flags are known, so
the environment alone decides on them (`inMessages`), and by rules of their own: `NO_COLOR` and
`CLICOLOR_FORCE` have to be set to something, and an unattended build speaks for color.
-/

namespace SizeGate

structure Environment where
  /-- `OTABUDGET_CONFIG`: a config file used when the command line names none. -/
  config : Option Bytes := none
  /-- `OTABUDGET_LOG`: which events of a run are written to standard error. -/
  log : Option Bytes := none
  /-- `NO_COLOR`: asks for output without color. -/
  noColor : Option Bytes := none
  /-- `COLOR`: asks for colored output. -/
  color : Option Bytes := none
  /-- `CLICOLOR`: asks for colored messages, or with `0` for plain ones. -/
  cliColor : Option Bytes := none
  /-- `CLICOLOR_FORCE`: asks for colored messages even where there is no terminal, by any value but
  the empty one. -/
  cliColorForce : Option Bytes := none
  /-- `CI`: set where builds run unattended. -/
  ci : Option Bytes := none
  /-- `TERM`: the kind of terminal. -/
  term : Option Bytes := none

/-- Whether output is colored. -/
inductive Color where
  | never
  | always
  /-- If the terminal is known to understand it. -/
  | auto
deriving DecidableEq

namespace Color

def resolve (force disable : Bool) (env : Environment) (isTerminal : Bool) : Color :=
  if disable then .never
  else if force then .always
  else if env.noColor.isSome then .never
  else if env.color.isSome then .always
  else if !isTerminal || env.ci.isSome then .never
  else .auto

def dumbTerminal : Bytes :=
  Utf8.encode "dumb".toList

/-- Whether the terminal is known to understand escape sequences. -/
def isUnderstood (env : Environment) : Bool :=
  env.term.any (· ≠ dumbTerminal)

def shows (color : Color) (env : Environment) : Bool :=
  match color with
  | .never => false
  | .always => true
  | .auto => isUnderstood env

/-- The value of `CLICOLOR` that asks for no color. -/
def off : Bytes :=
  Utf8.encode "0".toList

/-- Whether color is used in messages about the command line. -/
def inMessages (env : Environment) (isTerminal : Bool) : Bool :=
  if env.noColor.any (· ≠ []) then false
  else if env.cliColorForce.any (· ≠ []) then true
  else if env.cliColor = some off then false
  else isTerminal && (isUnderstood env || env.cliColor.isSome || env.ci.isSome)

end Color

end SizeGate
