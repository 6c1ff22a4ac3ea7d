import SizeGate.Text.Numeral

/-!
The grammar of JSON texts.

Each relation says that a text begins with something, what that stands for, and what of the text is
left behind it. A number stands for the rational it denotes, so that `100` and `1e2` are the same,
and an object keeps its members in order, those of the same name included. A string stands for its
characters: half of a surrogate pair that is escaped alone stands for no character, and no text
with one is read (`Character`).
-/

namespace SizeGate.Json

inductive Value where
  | null
  | boolean (value : Bool)
  | number (value : Rat)
  | string (text : String)
  | array (items : List Value)
  | object (members : List (String × Value))

def isBlank (c : Char) : Bool :=
  c = ' ' ∨ c = '\t' ∨ c = '\n' ∨ c = '\r'

inductive Blanks : List Char → List Char → Prop where
  | nil {rest : List Char} : Blanks rest rest
  | cons {c : Char} {text rest : List Char} : isBlank c = true → Blanks text rest →
      Blanks (c :: text) rest

/-- The digits of a number in front of its point: no zero in front of others. -/
inductive Whole : List Char → List Char → List Char → Prop where
  | zero {rest : List Char} : Whole ('0' :: rest) ['0'] rest
  | positive {d : Char} {digits rest : List Char} : d ≠ '0' →
      (∀ c ∈ d :: digits, c.isDigit = true) → Whole (d :: digits ++ rest) (d :: digits) rest

inductive Fraction : List Char → List Char → List Char → Prop where
  | absent {rest : List Char} : Fraction rest [] rest
  | digits {digits rest : List Char} : digits ≠ [] → (∀ c ∈ digits, c.isDigit = true) →
      Fraction ('.' :: digits ++ rest) digits rest

def natural (digits : List Char) : Nat :=
  Nat.ofDigitChars 10 digits 0

inductive Signed : List Char → Int → List Char → Prop where
  | unsigned {digits rest : List Char} : digits ≠ [] → (∀ c ∈ digits, c.isDigit = true) →
      Signed (digits ++ rest) (natural digits) rest
  | plus {digits rest : List Char} : digits ≠ [] → (∀ c ∈ digits, c.isDigit = true) →
      Signed ('+' :: digits ++ rest) (natural digits) rest
  | minus {digits rest : List Char} : digits ≠ [] → (∀ c ∈ digits, c.isDigit = true) →
      Signed ('-' :: digits ++ rest) (-(natural digits : Int)) rest

inductive Exponent : List Char → Int → List Char → Prop where
  | absent {rest : List Char} : Exponent rest 0 rest
  | lower {text rest : List Char} {exponent : Int} : Signed text exponent rest →
      Exponent ('e' :: text) exponent rest
  | upper {text rest : List Char} {exponent : Int} : Signed text exponent rest →
      Exponent ('E' :: text) exponent rest

/-- The number that these digits denote, of which the second ones stand behind the point. -/
def magnitude (whole fraction : List Char) (exponent : Int) : Rat :=
  (natural (whole ++ fraction) : Rat) * (10 : Rat) ^ (exponent - fraction.length)

inductive Unsigned : List Char → Rat → List Char → Prop where
  | mk {text inner more rest whole fraction : List Char} {exponent : Int} :
      Whole text whole inner → Fraction inner fraction more → Exponent more exponent rest →
      Unsigned text (magnitude whole fraction exponent) rest

inductive Number : List Char → Rat → List Char → Prop where
  | positive {text rest : List Char} {value : Rat} : Unsigned text value rest →
      Number text value rest
  | negative {text rest : List Char} {value : Rat} : Unsigned text value rest →
      Number ('-' :: text) (-value) rest

/-- The characters that a backslash and one letter stand for. -/
def named? (letter : Char) : Option Char :=
  if letter = '"' then some '"'
  else if letter = '\\' then some '\\'
  else if letter = '/' then some '/'
  else if letter = 'b' then some '\x08'
  else if letter = 'f' then some '\x0c'
  else if letter = 'n' then some '\n'
  else if letter = 'r' then some '\r'
  else if letter = 't' then some '\t'
  else none

/-- Four hexadecimal digits. -/
inductive CodeUnit : List Char → Nat → List Char → Prop where
  | mk {a b c d : Char} {i j k l : Nat} {rest : List Char} : Text.digitValue? 16 a = some i →
      Text.digitValue? 16 b = some j → Text.digitValue? 16 c = some k →
      Text.digitValue? 16 d = some l →
      CodeUnit (a :: b :: c :: d :: rest) (((i * 16 + j) * 16 + k) * 16 + l) rest

/-- A character of a string, as itself or escaped. -/
inductive Character : List Char → Char → List Char → Prop where
  | plain {c : Char} {rest : List Char} : 0x20 ≤ c.toNat → c ≠ '"' → c ≠ '\\' →
      Character (c :: rest) c rest
  | named {letter c : Char} {rest : List Char} : named? letter = some c →
      Character ('\\' :: letter :: rest) c rest
  | unit {text rest : List Char} {n : Nat} : CodeUnit text n rest → n < 0xD800 ∨ 0xE000 ≤ n →
      Character ('\\' :: 'u' :: text) (Char.ofNat n) rest
  | pair {text more rest : List Char} {high low : Nat} :
      CodeUnit text high ('\\' :: 'u' :: more) → 0xD800 ≤ high → high < 0xDC00 →
      CodeUnit more low rest → 0xDC00 ≤ low → low < 0xE000 →
      Character ('\\' :: 'u' :: text)
        (Char.ofNat (0x10000 + (high - 0xD800) * 0x400 + (low - 0xDC00))) rest

/-- The characters of a string up to its closing quote. -/
inductive Characters : List Char → List Char → List Char → Prop where
  | nil {rest : List Char} : Characters ('"' :: rest) [] rest
  | cons {text more rest : List Char} {c : Char} {cs : List Char} : Character text c more →
      Characters more cs rest → Characters text (c :: cs) rest

/-- The words that are values. -/
inductive Literal : List Char → Value → Prop where
  | null : Literal ['n', 'u', 'l', 'l'] .null
  | yes : Literal ['t', 'r', 'u', 'e'] (.boolean true)
  | no : Literal ['f', 'a', 'l', 's', 'e'] (.boolean false)

/-- What a part of a text stands for. An element is a value with blanks around it. -/
inductive Part where
  | value (value : Value)
  | element (value : Value)
  | elements (values : List Value)
  | member (member : String × Value)
  | members (members : List (String × Value))

inductive Spells : List Char → Part → List Char → Prop where
  | literal {word rest : List Char} {value : Value} : Literal word value →
      Spells (word ++ rest) (.value value) rest
  | number {text rest : List Char} {value : Rat} : Number text value rest →
      Spells text (.value (.number value)) rest
  | string {text rest cs : List Char} : Characters text cs rest →
      Spells ('"' :: text) (.value (.string (String.ofList cs))) rest
  | emptyArray {text rest : List Char} : Blanks text (']' :: rest) →
      Spells ('[' :: text) (.value (.array [])) rest
  | array {text rest : List Char} {values : List Value} :
      Spells text (.elements values) (']' :: rest) →
      Spells ('[' :: text) (.value (.array values)) rest
  | emptyObject {text rest : List Char} : Blanks text ('\x7d' :: rest) →
      Spells ('\x7b' :: text) (.value (.object [])) rest
  | object {text rest : List Char} {members : List (String × Value)} :
      Spells text (.members members) ('\x7d' :: rest) →
      Spells ('\x7b' :: text) (.value (.object members)) rest
  | element {text inner outer rest : List Char} {value : Value} : Blanks text inner →
      Spells inner (.value value) outer → Blanks outer rest → Spells text (.element value) rest
  | lastElement {text rest : List Char} {value : Value} : Spells text (.element value) rest →
      Spells text (.elements [value]) rest
  | moreElements {text more rest : List Char} {value : Value} {values : List Value} :
      Spells text (.element value) (',' :: more) → Spells more (.elements values) rest →
      Spells text (.elements (value :: values)) rest
  | member {text inner behind more rest cs : List Char} {value : Value} :
      Blanks text ('"' :: inner) → Characters inner cs behind → Blanks behind (':' :: more) →
      Spells more (.element value) rest → Spells text (.member (String.ofList cs, value)) rest
  | lastMember {text rest : List Char} {member : String × Value} :
      Spells text (.member member) rest → Spells text (.members [member]) rest
  | moreMembers {text more rest : List Char} {member : String × Value}
      {members : List (String × Value)} : Spells text (.member member) (',' :: more) →
      Spells more (.members members) rest → Spells text (.members (member :: members)) rest

end SizeGate.Json
