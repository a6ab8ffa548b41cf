import Mathlib.Data.Int.Notation

/-!
# Commands

`turbobond/util/cmd.py`: the result of a command, which is only recorded in dry-run mode and skipped
where its executable is missing.
-/

namespace Turbobond.Util

structure CommandResult where
  returncode : ℤ := 0
  stderr : String := ""
  skipped : Bool := false
  deriving DecidableEq

/-- The host that commands are run on: whether dry-run mode is on, and which executables there are. -/
structure Host where
  dryRun : Bool
  which : String → Bool

namespace CommandResult

def ok (result : CommandResult) : Bool := result.returncode = 0

/-- What the callers of `run` take for a success. -/
def passed (result : CommandResult) : Bool := result.ok || result.skipped

/-- The command has been executed with success, so the kernel has changed. -/
def done (result : CommandResult) : Bool := result.ok && !result.skipped

end CommandResult

/-- `run` with `allow_missing`, where `executed` is what the command returns if it is executed. -/
def run (host : Host) (binary : String) (executed : CommandResult) : CommandResult :=
  if host.dryRun then { returncode := 0, skipped := true }
  else if !host.which binary then { returncode := 127, stderr := "not found", skipped := true }
  else { executed with skipped := false }

end Turbobond.Util
