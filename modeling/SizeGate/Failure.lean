import SizeGate.Config

/-!
How a run ends, and what it says when it fails.
-/

namespace SizeGate

inductive ExitCode where
  /-- The image fits, or help was asked for. -/
  | success
  | artifactUnreadable
  | overBudget
  /-- The config or the command line is refused. -/
  | misconfigured
  /-- The output could not be written. -/
  | internal
deriving DecidableEq

def ExitCode.number : ExitCode → Nat
  | .success => 0
  | .artifactUnreadable => 1
  | .overBudget => 2
  | .misconfigured => 3
  | .internal => 4

/-- Why a run ends without a verdict, and which file is to blame. -/
inductive Failure where
  | config (path : Path) (problem : ConfigProblem)
  | artifact (path : Path) (reason : IoError)
deriving DecidableEq

namespace Failure

def message : Failure → String
  | .config path problem => "config error: " ++ path.display ++ ": " ++ problem.message
  | .artifact path reason => "cannot access artifact: " ++ path.display ++ ": " ++ reason.message

def exitCode : Failure → ExitCode
  | .config _ _ => .misconfigured
  | .artifact _ _ => .artifactUnreadable

end Failure

end SizeGate
