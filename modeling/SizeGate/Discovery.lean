import SizeGate.Session

/-!
Finding the config file.

From a directory upwards, the first regular file of the config's name is taken. The search ends
without one above the first directory that holds a `.git` of any kind: a config beside it still
counts. A directory that is named like a config, or a link that leads nowhere, neither ends the
search nor is taken.
-/

namespace SizeGate

namespace Discovery

/-- The entry that marks the top of a checkout. -/
def boundary : Path :=
  .ofString ".git"

def search : List Path → Session (Option Path)
  | [] => pure none
  | directory :: above => do
    let candidate := directory.join Config.fileName
    if ← Session.isFile candidate then
      pure (some candidate)
    else do
      if ← Session.exists? (directory.join boundary) then
        pure none
      else
        search above

def findConfig (start : Path) : Session (Option Path) :=
  search start.ancestors

/-- The config file of a run in `cwd`: the one that is named, which has to be a regular file, or
else the one that is found. -/
def resolveConfig (named : Option Path) (cwd : Path) : Session (Except Failure (Option Path)) :=
  match named with
  | none => do
    let found ← findConfig cwd
    pure (.ok found)
  | some path => do
    let path := cwd.join path
    if ← Session.isFile path then
      pure (.ok (some path))
    else
      pure (.error (.config path .fileMissing))

end Discovery

namespace Config

/-- Reads a config from its text, given for the file at `path`, and reports its unknown fields. -/
def interpret (text : String) (path : Path) : Session (Except Failure Config) := do
  let outcome := parse text
  Session.notices (outcome.unknown.map (.unknownField path))
  match outcome.result with
  | .error problem => pure (.error (.config path problem))
  | .ok config => do
    Session.log (.parsedConfig path config)
    pure (.ok config)

def load (path : Path) : Session (Except Failure Config) :=
  .contents path fun answer =>
    match answer with
    | .error reason => pure (.error (.config path (.unreadable reason)))
    | .ok bytes =>
      match Utf8.decode? bytes with
      | none => pure (.error (.config path (.unreadable .notUtf8)))
      | some text => interpret text path

end Config

end SizeGate
