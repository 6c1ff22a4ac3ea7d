/-!
Text on its way to a terminal.

Three things happen to text here. A message sets off its parts with escape sequences (`Style`).
Where those are not wanted, or where a message quotes what a user gave, everything that a terminal
would act on is taken out again (`plain`): a quoted argument cannot recolour or overwrite the
screen. A sequence that an argument leaves open is ended by the next one of the message itself, so
what lies between is lost with it. `spell` keeps everything and writes the controls a terminal acts
on as visible text instead. Main statement: no escape character is left in plain text
(`escape_not_mem_shownFrom`).
-/

namespace SizeGate.Terminal

/-- A part of a message that is set off from the rest. -/
inductive Style where
  | error
  | heading
  /-- A word that is typed as it stands. -/
  | literal
  /-- What a user gave and is refused. -/
  | invalid
deriving DecidableEq

def Style.opening : Style → String
  | .error => "\x1b[1m\x1b[31m"
  | .heading => "\x1b[1m\x1b[4m"
  | .literal => "\x1b[1m"
  | .invalid => "\x1b[33m"

def Style.apply (style : Style) (text : String) : String :=
  style.opening ++ text ++ "\x1b[0m"

/-- Where a reader stands with respect to escape sequences. -/
inductive Mode where
  /-- Outside any sequence. -/
  | ground
  /-- After the escape character. -/
  | escape
  /-- Among the intermediates of a short sequence. -/
  | escapeIntermediate
  /-- At the start of a control sequence. -/
  | control
  | controlParameter
  | controlIntermediate
  /-- In a control sequence that has no meaning, up to its final character. -/
  | controlIgnored
  /-- At the start of a device control string. -/
  | device
  | deviceParameter
  | deviceIntermediate
  /-- In the data of a device control string, of a string that has no meaning, or of one for an
  application. -/
  | string
  /-- In an operating-system command, up to a bell or a new sequence. -/
  | command
deriving DecidableEq

def lies (low high : Nat) (c : Char) : Bool :=
  low ≤ c.toNat && c.toNat ≤ high

/-- Controls that move to a new place in the text and are kept as blanks. -/
def isBlankControl (c : Char) : Bool :=
  c = '\t' || c = '\n' || c = '\x0c' || c = '\x0d'

/-- Whether the UTF-8 form of a character holds the byte that ends a string, which no ASCII
character does. -/
def endsString (c : Char) : Bool :=
  0x9C ∈ String.utf8EncodeChar c

namespace Mode

def afterEscape (c : Char) : Mode :=
  if lies 0x20 0x2F c then .escapeIntermediate
  else if c = '[' then .control
  else if c = ']' then .command
  else if c = 'P' then .device
  else if c = 'X' ∨ c = '^' ∨ c = '_' then .string
  else if lies 0x30 0x7E c then .ground
  else .escape

/-- The mode after a character that is not shown. A character without a place in a sequence leaves
the mode as it is. -/
def next (mode : Mode) (c : Char) : Mode :=
  if c = '\x1b' then .escape
  else if c = '\x18' ∨ c = '\x1a' then .ground
  else match mode with
    | .ground => .ground
    | .escape => afterEscape c
    | .escapeIntermediate => if lies 0x30 0x7E c then .ground else .escapeIntermediate
    | .control =>
      if lies 0x20 0x2F c then .controlIntermediate
      else if lies 0x30 0x3F c then .controlParameter
      else if lies 0x40 0x7E c then .ground
      else .control
    | .controlParameter =>
      if lies 0x20 0x2F c then .controlIntermediate
      else if lies 0x3C 0x3F c then .controlIgnored
      else if lies 0x40 0x7E c then .ground
      else .controlParameter
    | .controlIntermediate =>
      if lies 0x30 0x3F c then .controlIgnored
      else if lies 0x40 0x7E c then .ground
      else .controlIntermediate
    | .controlIgnored => if lies 0x40 0x7E c then .ground else .controlIgnored
    | .device =>
      if lies 0x20 0x2F c then .deviceIntermediate
      else if lies 0x30 0x3F c then .deviceParameter
      else if lies 0x40 0x7E c then .string
      else .device
    | .deviceParameter =>
      if lies 0x20 0x2F c then .deviceIntermediate
      else if lies 0x3C 0x7E c then .string
      else .deviceParameter
    | .deviceIntermediate => if lies 0x30 0x7E c then .string else .deviceIntermediate
    | .string => if endsString c then .ground else .string
    | .command => if c = '\x07' then .ground else .command

/-- Whether a character is shown in a mode. Within a sequence only blank controls are, and none at
all within a string or a command. -/
def shows (mode : Mode) (c : Char) : Bool :=
  match mode with
  | .ground => isBlankControl c || (0x20 ≤ c.toNat && c.toNat ≠ 0x7F)
  | .escape | .escapeIntermediate | .control | .controlParameter | .controlIntermediate
  | .controlIgnored => isBlankControl c
  | .device | .deviceParameter | .deviceIntermediate | .string | .command => false

end Mode

/-- What becomes of a sequence with a blank control in it. -/
inductive Interrupted where
  /-- It is over. -/
  | ended
  /-- It goes on after the characters that are shown. -/
  | resumed
deriving DecidableEq

/-- The mode after a character that is shown. One beyond ASCII ends a sequence in any case. -/
def Interrupted.after (interrupted : Interrupted) (mode : Mode) (c : Char) : Mode :=
  if interrupted = .resumed ∧ c.toNat < 0x80 then mode else .ground

/-- What is shown of a text that is read from a mode on. What follows a shown character is read as
outside any sequence until something is not shown. -/
def shownFrom (interrupted : Interrupted) : Mode → Bool → List Char → List Char
  | _, _, [] => []
  | mode, printing, c :: rest =>
    if (if printing then Mode.ground else mode).shows c then
      c :: shownFrom interrupted (interrupted.after mode c) true rest
    else shownFrom interrupted (mode.next c) false rest

def plain (interrupted : Interrupted) (text : String) : String :=
  String.ofList (shownFrom interrupted .ground false text.toList)

/-- No escape character is left, so nothing that is shown starts a sequence. -/
theorem escape_not_mem_shownFrom (interrupted : Interrupted) (mode : Mode) (printing : Bool)
    (text : List Char) : '\x1b' ∉ shownFrom interrupted mode printing text := by
  have hshows (mode : Mode) : mode.shows '\x1b' = false := by cases mode <;> decide
  induction text generalizing mode printing with
  | nil => exact List.not_mem_nil
  | cons c rest ih =>
    by_cases hshown : (if printing then Mode.ground else mode).shows c
    · rw [shownFrom, if_pos hshown]
      intro hmem
      rcases List.mem_cons.mp hmem with rfl | hrest
      · rw [hshows] at hshown
        cases hshown
      · exact ih _ _ hrest
    · rw [shownFrom, if_neg hshown]
      exact ih _ _

def spellChar (c : Char) : String :=
  if c = '\x1b' then "\\x1b"
  else if c = '\x07' then "\\x07"
  else if c = '\x08' then "\\x08"
  else if c = '\x0c' then "\\x0c"
  else if c = '\x7f' then "\\x7f"
  else if 0x80 ≤ c.toNat ∧ c.toNat ≤ 0x9F then
    "\\u\x7b" ++ String.ofList (Nat.toDigits 16 c.toNat) ++ "\x7d"
  else c.toString

def spell (text : String) : String :=
  String.join (text.toList.map spellChar)

end SizeGate.Terminal
