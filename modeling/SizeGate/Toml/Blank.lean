/-!
What may stand between the parts of a TOML document: blanks, line ends and comments.
-/

namespace SizeGate.Toml

def isBlank (c : Char) : Bool :=
  c = ' ' || c = '\t'

/-- A character that may stand in a comment: any but the controls other than tab. -/
def isCommentChar (c : Char) : Bool :=
  c = '\t' || (0x20 ≤ c.toNat && c.toNat ≠ 0x7F)

def dropBlanks (s : List Char) : List Char :=
  s.dropWhile isBlank

/-- The text after a comment, if one stands at its front. -/
def dropComment : List Char → List Char
  | '#' :: rest => rest.dropWhile isCommentChar
  | s => s

/-- What follows the end of a line, which may hold blanks and a comment. A lone carriage return
ends no line. -/
def lineEnd? (s : List Char) : Option (List Char) :=
  match dropComment (dropBlanks s) with
  | [] => some []
  | '\n' :: rest => some rest
  | '\r' :: '\n' :: rest => some rest
  | _ => none

/-- The text after leading blanks, line ends and comments, as they may stand in an array. Inside a
comment `commented` is set; a character that no comment holds is left in front, where no value and
no separator can start with it. -/
def dropFiller (commented : Bool) : List Char → List Char
  | [] => []
  | '\n' :: rest => dropFiller false rest
  | '\r' :: '\n' :: rest => dropFiller false rest
  | c :: rest =>
    if commented then
      if isCommentChar c then dropFiller true rest else c :: rest
    else if isBlank c then dropFiller false rest
    else if c = '#' then dropFiller true rest
    else c :: rest

def dropBlankLines : List Char → List Char
  | [] => []
  | '\n' :: rest => dropBlankLines rest
  | '\r' :: '\n' :: rest => dropBlankLines rest
  | c :: rest => if isBlank c then dropBlankLines rest else c :: rest

theorem dropBlankLines_length_le (s : List Char) : (dropBlankLines s).length ≤ s.length := by
  fun_induction dropBlankLines s with
  | case1 => exact Nat.le_refl _
  | case2 rest ih => exact Nat.le_succ_of_le ih
  | case3 rest ih => simp only [List.length_cons]; omega
  | case4 c rest _ _ _ ih => exact Nat.le_succ_of_le ih
  | case5 => exact Nat.le_refl _

theorem dropBlanks_length_le (s : List Char) : (dropBlanks s).length ≤ s.length :=
  (List.dropWhile_sublist _).length_le

end SizeGate.Toml
