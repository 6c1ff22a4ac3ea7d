import SizeGate.Failure
import SizeGate.FileSystem
import SizeGate.Log.Event

/-!
A run as a tree of questions.

A session asks about files, says lines on standard error, writes to standard output, and goes on
with what it learns. It decides everything and does nothing: `play` answers its questions from a
file system that does not change and keeps a record of every step, in order. Main statement: a
session that goes on with another does the steps of the first and then those of the second
(`play_bind`).
-/

namespace SizeGate

inductive Notice where
  /-- A field of a config that has no meaning. -/
  | unknownField (config : Path) (field : String)
  | event (event : Log.Event)
  | failure (message : String)
  | usage (message : String)

/-- Something to be done that ends with a value. -/
inductive Session (α : Type) where
  | done (value : α)
  | status (path : Path) (next : Except IoError FileStatus → Session α)
  | opening (path : Path) (next : Except IoError Unit → Session α)
  | contents (path : Path) (next : Except IoError Bytes → Session α)
  | say (notice : Notice) (next : Session α)
  | write (text : String) (next : Except IoError Unit → Session α)

namespace Session

def bind {α β : Type} : Session α → (α → Session β) → Session β
  | .done value, next => next value
  | .status path k, next => .status path fun answer => (k answer).bind next
  | .opening path k, next => .opening path fun answer => (k answer).bind next
  | .contents path k, next => .contents path fun answer => (k answer).bind next
  | .say notice k, next => .say notice (k.bind next)
  | .write text k, next => .write text fun answer => (k answer).bind next

instance : Monad Session where
  pure := .done
  bind := .bind

def isFile (path : Path) : Session Bool :=
  .status path fun answer => .done (FileSystem.isRegular answer)

def exists? (path : Path) : Session Bool :=
  .status path fun answer => .done (FileSystem.exists? answer)

def notice (notice : Notice) : Session Unit :=
  .say notice (.done ())

def log (event : Log.Event) : Session Unit :=
  notice (.event event)

def notices : List Notice → Session Unit
  | [] => .done ()
  | first :: rest => .say first (notices rest)

inductive Step where
  | looked (path : Path) (answer : Except IoError FileStatus)
  | opened (path : Path)
  /-- Opened a file and read it to the end. -/
  | read (path : Path)
  | said (notice : Notice)
  /-- Had a text written to standard output in full. -/
  | wrote (text : String)
  /-- Had a text refused by standard output. -/
  | refused (text : String)

/-- Plays a session against a file system and a standard output, which refuses every write if it is
given an error to refuse with. Gives the value at the end and every step, in order. -/
def play {α : Type} (files : FileSystem) (refusal : Option IoError) :
    Session α → α × List Step
  | .done value => (value, [])
  | .status path next =>
    let rest := (next (files.status path)).play files refusal
    (rest.1, .looked path (files.status path) :: rest.2)
  | .opening path next =>
    let rest := (next (files.opening path)).play files refusal
    (rest.1, .opened path :: rest.2)
  | .contents path next =>
    let rest := (next (files.contents path)).play files refusal
    (rest.1, .read path :: rest.2)
  | .say notice next =>
    let rest := next.play files refusal
    (rest.1, .said notice :: rest.2)
  | .write text next =>
    match refusal with
    | none =>
      let rest := (next (.ok ())).play files refusal
      (rest.1, .wrote text :: rest.2)
    | some error =>
      let rest := (next (.error error)).play files refusal
      (rest.1, .refused text :: rest.2)

@[simp] theorem play_pure {α : Type} (files : FileSystem) (refusal : Option IoError) (value : α) :
    (pure value : Session α).play files refusal = (value, []) := rfl

theorem play_bind {α β : Type} (files : FileSystem) (refusal : Option IoError)
    (first : Session α) (next : α → Session β) :
    (first >>= next).play files refusal =
      (((next (first.play files refusal).1).play files refusal).1,
        (first.play files refusal).2
          ++ ((next (first.play files refusal).1).play files refusal).2) := by
  change (first.bind next).play files refusal = _
  induction first with
  | done value => rfl
  | status path k ih => simp only [bind, play, ih, List.cons_append]
  | opening path k ih => simp only [bind, play, ih, List.cons_append]
  | contents path k ih => simp only [bind, play, ih, List.cons_append]
  | say notice k ih => simp only [bind, play, ih, List.cons_append]
  | write text k ih =>
    cases refusal with
    | none => simp only [bind, play, ih, List.cons_append]
    | some error => simp only [bind, play, ih, List.cons_append]

@[simp] theorem play_isFile (files : FileSystem) (refusal : Option IoError) (path : Path) :
    (isFile path).play files refusal =
      (FileSystem.isRegular (files.status path), [.looked path (files.status path)]) := rfl

@[simp] theorem play_exists? (files : FileSystem) (refusal : Option IoError) (path : Path) :
    (exists? path).play files refusal =
      (FileSystem.exists? (files.status path), [.looked path (files.status path)]) := rfl

@[simp] theorem play_notice (files : FileSystem) (refusal : Option IoError) (line : Notice) :
    (notice line).play files refusal = ((), [.said line]) := rfl

@[simp] theorem play_notices (files : FileSystem) (refusal : Option IoError)
    (lines : List Notice) :
    (notices lines).play files refusal = ((), lines.map .said) := by
  induction lines with
  | nil => rfl
  | cons first rest ih => simp only [notices, play, ih, List.map_cons]

end Session

end SizeGate
