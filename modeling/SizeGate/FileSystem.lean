import SizeGate.IoError
import SizeGate.Path

/-!
What a run can learn about files.

A file system is taken as three questions about paths, answered with links followed. Nothing is
assumed about how the answers hang together: what is said of every `FileSystem` holds of one that
mixes refusals, devices and links in any way.
-/

namespace SizeGate

/-- What a path leads to once links are followed. -/
inductive FileKind where
  | regular
  | directory
  /-- A pipe, a socket or a device: opening one may block or never end. -/
  | special
deriving DecidableEq

/-- What can be learnt of a file without opening it. -/
structure FileStatus where
  kind : FileKind
  size : UInt64
deriving DecidableEq

structure FileSystem where
  status : Path → Except IoError FileStatus
  opening : Path → Except IoError Unit
  /-- The bytes that opening the file and reading it to the end give. -/
  contents : Path → Except IoError Bytes

namespace FileSystem

def isRegular : Except IoError FileStatus → Bool
  | .ok found => found.kind = .regular
  | .error _ => false

def exists? : Except IoError FileStatus → Bool
  | .ok _ => true
  | .error _ => false

end FileSystem

end SizeGate
