/-!
UTF-8 over lists of bytes.

Reading splits any bytes at all into characters and broken runs. A broken run is as long as it can
be and still start a character (so `F0 9F 98` is one run and `FF FE` two), and each is shown as one
replacement character. Bytes without a broken run are exactly the UTF-8 texts.
-/

namespace SizeGate

/-- A string of bytes that need not be text: a path, an argument, the contents of a file. -/
abbrev Bytes := List UInt8

namespace Utf8

def encode (text : List Char) : Bytes :=
  text.flatMap String.utf8EncodeChar

/-- A stretch of bytes that is one character, or one that starts none. -/
inductive Piece where
  | char (c : Char)
  | broken (bytes : Bytes)
deriving DecidableEq

/-- Closed ranges for the bytes that complete a character begun by `lead`, or `none` when no
character begins so. The first range keeps out overlong forms, surrogates and everything above
U+10FFFF. -/
def tails (lead : UInt8) : Option (List (UInt8 × UInt8)) :=
  if lead < 0x80 then some []
  else if lead < 0xC2 then none
  else if lead < 0xE0 then some [(0x80, 0xBF)]
  else if lead = 0xE0 then some [(0xA0, 0xBF), (0x80, 0xBF)]
  else if lead = 0xED then some [(0x80, 0x9F), (0x80, 0xBF)]
  else if lead < 0xF0 then some [(0x80, 0xBF), (0x80, 0xBF)]
  else if lead = 0xF0 then some [(0x90, 0xBF), (0x80, 0xBF), (0x80, 0xBF)]
  else if lead < 0xF4 then some [(0x80, 0xBF), (0x80, 0xBF), (0x80, 0xBF)]
  else if lead = 0xF4 then some [(0x80, 0x8F), (0x80, 0xBF), (0x80, 0xBF)]
  else none

/-- Splits off the longest run of bytes that lie in the given ranges, place by place. -/
def takeTail : List (UInt8 × UInt8) → Bytes → Bytes × Bytes
  | (low, high) :: ranges, b :: rest =>
    if low ≤ b ∧ b ≤ high then
      (b :: (takeTail ranges rest).1, (takeTail ranges rest).2)
    else ([], b :: rest)
  | _, bytes => ([], bytes)

theorem takeTail_append (ranges : List (UInt8 × UInt8)) (bytes : Bytes) :
    (takeTail ranges bytes).1 ++ (takeTail ranges bytes).2 = bytes := by
  fun_induction takeTail ranges bytes with
  | case1 low high ranges b rest _ ih => rw [List.cons_append, ih]
  | case2 => rfl
  | case3 => rfl

theorem takeTail_length_le (ranges : List (UInt8 × UInt8)) (bytes : Bytes) :
    (takeTail ranges bytes).2.length ≤ bytes.length := by
  have h := congrArg List.length (takeTail_append ranges bytes)
  simp only [List.length_append] at h
  omega

/-- The character that `lead` and a complete tail stand for: each tail byte carries six bits, and
the lead the rest. -/
def assemble (lead : UInt8) (tail : Bytes) : Char :=
  let bits := match tail.length with
    | 0 => lead.toNat
    | 1 => lead.toNat % 32
    | 2 => lead.toNat % 16
    | _ => lead.toNat % 8
  Char.ofNat (tail.foldl (fun value b => value * 64 + b.toNat % 64) bits)

/-- The characters and broken runs of any bytes, in order. -/
def pieces : Bytes → List Piece
  | [] => []
  | lead :: rest =>
    match tails lead with
    | none => .broken [lead] :: pieces rest
    | some ranges =>
      let split := takeTail ranges rest
      let piece := if split.1.length = ranges.length then
        .char (assemble lead split.1) else .broken (lead :: split.1)
      piece :: pieces split.2
termination_by bytes => bytes.length
decreasing_by
  · simp
  · have := takeTail_length_le ranges rest
    simp only [List.length_cons]
    omega

def Piece.shown : Piece → Char
  | .char c => c
  | .broken _ => '\uFFFD'

def Piece.char? : Piece → Option Char
  | .char c => some c
  | .broken _ => none

/-- The bytes as text, each broken run shown as U+FFFD. -/
def lossy (bytes : Bytes) : String :=
  String.ofList ((pieces bytes).map Piece.shown)

def decode? (bytes : Bytes) : Option String :=
  ((pieces bytes).mapM Piece.char?).map String.ofList

end Utf8

end SizeGate
