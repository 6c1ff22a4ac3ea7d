import SizeGate.Text.Utf8

/-!
Lexical file paths.

A path is a string of bytes and is never looked up here: `join` and `parent?` work on its spelling
alone. Repeated slashes and inner or final `.` do not count as components, a leading `.` does, and
`..` is an ordinary one. Main statement: a parent is strictly shorter (`parent?_length_lt`), so the
chain of parents ends.
-/

namespace SizeGate

/-- A file path: any bytes, text or not. -/
structure Path where
  bytes : Bytes
deriving DecidableEq, Inhabited

namespace Path

def slash : UInt8 := 0x2F

def dot : UInt8 := 0x2E

def ofString (text : String) : Path :=
  ⟨Utf8.encode text.toList⟩

/-- The path as a reader sees it. Bytes that are not text show as U+FFFD. -/
def display (path : Path) : String :=
  Utf8.lossy path.bytes

def isAbsolute (path : Path) : Bool :=
  path.bytes.head? = some slash

/-- `sub` as seen from `base`. An absolute `sub` replaces `base`; otherwise one slash is put between
them unless `base` is empty or ends with one. Nothing is normalised, so joining the empty path to a
base that names a file appends a slash. -/
def join (base sub : Path) : Path :=
  if sub.isAbsolute then sub
  else if base.bytes = [] ∨ base.bytes.getLast? = some slash then ⟨base.bytes ++ sub.bytes⟩
  else ⟨base.bytes ++ slash :: sub.bytes⟩

theorem join_of_isAbsolute (base : Path) {sub : Path} (h : sub.isAbsolute) :
    base.join sub = sub := by
  simp only [join, h, if_true]

theorem isAbsolute_join {base : Path} (sub : Path) (h : base.isAbsolute) :
    (base.join sub).isAbsolute := by
  have hstart : base.bytes.head? = some slash := by simpa [isAbsolute] using h
  simp only [join]
  split
  · assumption
  · split <;> simp [isAbsolute, List.head?_append, hstart]

/-- What stands before the first name of a path: the root, or a leading `.`, or nothing. -/
def start (bytes : Bytes) : Bytes :=
  if bytes.head? = some slash then [slash]
  else if bytes.head? = some dot ∧ (bytes.drop 1).head?.getD slash = slash then [dot]
  else []

/-- The rest of a path, from its first name or the slash before it. -/
def body (bytes : Bytes) : Bytes :=
  bytes.drop (start bytes).length

theorem start_append_body (bytes : Bytes) : start bytes ++ body bytes = bytes := by
  unfold body start
  cases bytes with
  | nil => rfl
  | cons first rest =>
    simp only [List.head?_cons, Option.some.injEq]
    split
    · next h => simp [h]
    · split
      · next h => simp [h.1]
      · rfl

/-- Drops the slashes and lone dots at the end of a path, given in reverse. -/
def trimEnd : Bytes → Bytes
  | [] => []
  | last :: before =>
    if last = slash then trimEnd before
    else if last = dot ∧ (before = [] ∨ before.head? = some slash) then trimEnd before
    else last :: before

theorem trimEnd_length_le (reversed : Bytes) : (trimEnd reversed).length ≤ reversed.length := by
  induction reversed with
  | nil => simp [trimEnd]
  | cons last before ih =>
    unfold trimEnd
    split
    · exact Nat.le_succ_of_le ih
    · split
      · exact Nat.le_succ_of_le ih
      · exact Nat.le_refl _

/-- Drops the last name of a path, given in reverse, and the slash before it. -/
def dropName (reversed : Bytes) : Bytes :=
  (reversed.dropWhile (· != slash)).drop 1

theorem dropName_length_lt {reversed : Bytes} (h : reversed ≠ []) :
    (dropName reversed).length < reversed.length := by
  have hpos : 0 < reversed.length := List.length_pos_iff.2 h
  have hle : (reversed.dropWhile (· != slash)).length ≤ reversed.length :=
    (List.dropWhile_sublist _).length_le
  simp only [dropName, List.length_drop]
  omega

/-- The path without its last component. The root and the empty path have none; the parent of a
single relative name is the empty path. -/
def parent? (path : Path) : Option Path :=
  let names := trimEnd (body path.bytes).reverse
  if names ≠ [] then some ⟨start path.bytes ++ (trimEnd (dropName names)).reverse⟩
  else if start path.bytes = [dot] then some ⟨[]⟩
  else none

theorem parent?_length_lt {path parent : Path} (h : path.parent? = some parent) :
    parent.bytes.length < path.bytes.length := by
  have hsplit := congrArg List.length (start_append_body path.bytes)
  have htrim := trimEnd_length_le (body path.bytes).reverse
  simp only [List.length_append, List.length_reverse] at hsplit htrim
  simp only [parent?] at h
  split at h
  · next hnames =>
    have hdrop := dropName_length_lt hnames
    have hend := trimEnd_length_le (dropName (trimEnd (body path.bytes).reverse))
    cases h
    simp only [List.length_append, List.length_reverse]
    omega
  · split at h
    · next hdot =>
      cases h
      simp only [hdot, List.length_singleton] at hsplit
      simp only [List.length_nil]
      omega
    · cases h

def ancestors (path : Path) : List Path :=
  path :: match _h : path.parent? with
    | none => []
    | some parent => ancestors parent
termination_by path.bytes.length
decreasing_by exact parent?_length_lt _h

def segments (bytes : Bytes) : List Bytes :=
  match bytes with
  | [] => [[]]
  | b :: rest =>
    if b = slash then [] :: segments rest
    else match segments rest with
      | [] => [[b]]
      | first :: others => (b :: first) :: others

inductive Component where
  | root
  /-- A leading `.`. -/
  | here
  /-- A name; `..` is one. -/
  | name (bytes : Bytes)
deriving DecidableEq

def components (path : Path) : List Component :=
  let names := (segments (body path.bytes)).filter fun name => name ≠ [] ∧ name ≠ [dot]
  (if start path.bytes = [slash] then [.root]
    else if start path.bytes = [dot] then [.here] else []) ++ names.map .name

end Path

end SizeGate
