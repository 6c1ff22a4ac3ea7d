import SizeGate.Text.Numeral
import SizeGate.Toml.Blank

/-!
Strings of a TOML document, in their four notations, and keys: bare or quoted parts, joined by dots.

Each reader starts after the opening quotes and gives the text and what follows the closing quotes.
A basic string takes escapes, a literal one none. In both multi-line forms up to two quotes may
stand before the closing three and belong to the text, and a line end reads as a single line feed
however it is written.
-/

namespace SizeGate.Toml

/-- A character that a basic string takes as it is; the quote and the backslash are read before. -/
def isBasicChar (c : Char) : Bool :=
  isCommentChar c

/-- Reads exactly `count` hexadecimal digits, after those that make up `value`. -/
def codePoint? (value : Nat) : Nat → List Char → Option (Nat × List Char)
  | 0, s => some (value, s)
  | _ + 1, [] => none
  | count + 1, c :: rest =>
    match Text.digitValue? 16 c with
    | some digit => codePoint? (value * 16 + digit) count rest
    | none => none

theorem codePoint?_length_le {value count : Nat} {s rest : List Char} {n : Nat}
    (h : codePoint? value count s = some (n, rest)) : rest.length ≤ s.length := by
  induction count generalizing value s with
  | zero =>
    simp only [codePoint?, Option.some.injEq, Prod.mk.injEq] at h
    exact h.2 ▸ Nat.le_refl _
  | succ count ih =>
    cases s with
    | nil => cases h
    | cons c s =>
      simp only [codePoint?] at h
      split at h
      · exact Nat.le_succ_of_le (ih h)
      · cases h

/-- The character of a code point, unless it is a surrogate or too large. -/
def scalar? (n : Nat) : Option Char :=
  if n < 0xD800 ∨ (0xDFFF < n ∧ n < 0x110000) then some (Char.ofNat n) else none

def escape? : List Char → Option (Char × List Char)
  | [] => none
  | c :: rest =>
    if c = 'u' ∨ c = 'U' then
      match codePoint? 0 (if c = 'u' then 4 else 8) rest with
      | some (n, after) => (scalar? n).map fun char => (char, after)
      | none => none
    else if c = 'b' then some ('\x08', rest)
    else if c = 't' then some ('\t', rest)
    else if c = 'n' then some ('\n', rest)
    else if c = 'f' then some ('\x0c', rest)
    else if c = 'r' then some ('\r', rest)
    else if c = '"' then some ('"', rest)
    else if c = '\\' then some ('\\', rest)
    else none

theorem escape?_length_lt {s rest : List Char} {c : Char} (h : escape? s = some (c, rest)) :
    rest.length < s.length := by
  cases s with
  | nil => cases h
  | cons first s =>
    simp only [escape?] at h
    split at h
    · split at h
      · next hcode =>
        simp only [Option.map_eq_some_iff, Prod.mk.injEq] at h
        obtain ⟨_, _, _, rfl⟩ := h
        exact Nat.lt_succ_of_le (codePoint?_length_le hcode)
      · cases h
    · repeat' split at h
      all_goals first
        | (simp only [Option.some.injEq, Prod.mk.injEq] at h; simp [h.2])
        | cases h

def prepend (c : Char) (read : Option (List Char × List Char)) :
    Option (List Char × List Char) :=
  read.map fun result => (c :: result.1, result.2)

def basicText? (s : List Char) : Option (List Char × List Char) :=
  match s with
  | [] => none
  | c :: rest =>
    if c = '"' then some ([], rest)
    else if c = '\\' then
      match _h : escape? rest with
      | some (char, after) => prepend char (basicText? after)
      | none => none
    else if isBasicChar c then prepend c (basicText? rest)
    else none
termination_by s.length
decreasing_by
  · exact Nat.lt_succ_of_lt (escape?_length_lt _h)
  · exact Nat.lt_succ_self _

def literalText? : List Char → Option (List Char × List Char)
  | [] => none
  | c :: rest =>
    if c = '\x27' then some ([], rest)
    else if isBasicChar c then prepend c (literalText? rest)
    else none

/-- If the text starts with three or more of a quote, the quotes that belong to the string before
its closing three, and what follows those. -/
def closing? (quote : Char) : List Char → Option (List Char × List Char)
  | a :: b :: c :: rest =>
    if a = quote ∧ b = quote ∧ c = quote then
      match rest with
      | d :: e :: after =>
        if d = quote ∧ e = quote then some ([quote, quote], after)
        else if d = quote then some ([quote], e :: after)
        else some ([], rest)
      | [d] => if d = quote then some ([quote], []) else some ([], rest)
      | [] => some ([], [])
    else none
  | _ => none

/-- What follows a backslash at the end of a line: the next text that is not blank. -/
def continuation? (s : List Char) : Option (List Char) :=
  match dropBlanks s with
  | '\n' :: rest => some (dropBlankLines rest)
  | '\r' :: '\n' :: rest => some (dropBlankLines rest)
  | _ => none

theorem continuation?_length_lt {s rest : List Char} (h : continuation? s = some rest) :
    rest.length < s.length := by
  have hblank := dropBlanks_length_le s
  simp only [continuation?] at h
  split at h
  · next after heq =>
    have := dropBlankLines_length_le after
    cases h
    simp only [heq, List.length_cons] at hblank
    omega
  · next after heq =>
    have := dropBlankLines_length_le after
    cases h
    simp only [heq, List.length_cons] at hblank
    omega
  · cases h

def basicLines? (s : List Char) : Option (List Char × List Char) :=
  match closing? '"' s with
  | some done => some done
  | none =>
    match s with
    | [] => none
    | '\r' :: '\n' :: rest => prepend '\n' (basicLines? rest)
    | c :: rest =>
      if c = '\\' then
        match _h : continuation? rest with
        | some after => basicLines? after
        | none =>
          match _h : escape? rest with
          | some (char, after) => prepend char (basicLines? after)
          | none => none
      else if c = '\n' ∨ isBasicChar c then prepend c (basicLines? rest)
      else none
termination_by s.length
decreasing_by
  · simp only [List.length_cons]; omega
  · exact Nat.lt_succ_of_lt (continuation?_length_lt _h)
  · exact Nat.lt_succ_of_lt (escape?_length_lt _h)
  · exact Nat.lt_succ_self _

def literalLines? (s : List Char) : Option (List Char × List Char) :=
  match closing? '\x27' s with
  | some done => some done
  | none =>
    match s with
    | [] => none
    | '\r' :: '\n' :: rest => prepend '\n' (literalLines? rest)
    | c :: rest =>
      if c = '\n' ∨ isBasicChar c then prepend c (literalLines? rest) else none

/-- The text after one line end, which is not part of a string when it stands at its front. -/
def dropLineEnd : List Char → List Char
  | '\n' :: rest => rest
  | '\r' :: '\n' :: rest => rest
  | s => s

def line? : List Char → Option (List Char × List Char)
  | '"' :: rest => basicText? rest
  | '\x27' :: rest => literalText? rest
  | _ => none

def text? (s : List Char) : Option (String × List Char) :=
  let read := match s with
    | '"' :: '"' :: '"' :: rest => basicLines? (dropLineEnd rest)
    | '\x27' :: '\x27' :: '\x27' :: rest => literalLines? (dropLineEnd rest)
    | s => line? s
  read.map fun result => (String.ofList result.1, result.2)

def isBareChar (c : Char) : Bool :=
  ('a' ≤ c && c ≤ 'z') || ('A' ≤ c && c ≤ 'Z') || ('0' ≤ c && c ≤ '9') || c = '-' || c = '_'

/-- Reads one part of a key. A quoted part may be empty, a bare one may not. -/
def keyPart? (s : List Char) : Option (String × List Char) :=
  if s.head? = some '"' ∨ s.head? = some '\x27' then
    (line? s).map fun read => (String.ofList read.1, read.2)
  else
    let part := s.takeWhile isBareChar
    if part = [] then none else some (String.ofList part, s.drop part.length)

def keyParts? (s : List Char) : Option (List String × List Char) :=
  match keyPart? (dropBlanks s) with
  | none => none
  | some (part, after) =>
    match dropBlanks after with
    | '.' :: more =>
      if more.length < s.length then
        (keyParts? more).map fun read => (part :: read.1, read.2)
      else none
    | rest => some ([part], rest)
termination_by s.length

/-- Nothing in a document nests as deep as this: arrays and inline tables in each other, or the
parts of one key. -/
def depthLimit : Nat := 80

/-- Reads a key of fewer parts than the depth limit. -/
def key? (s : List Char) : Option (List String × List Char) :=
  (keyParts? s).filter fun read => read.1.length < depthLimit

end SizeGate.Toml
