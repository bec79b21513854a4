import HostFlash.Host.IoError
import HostFlash.Text.Quoted

/-! # Failures

Why an operation on the flash or on the settings failed, as causes, and the message of each.
-/

namespace HostFlash

/-- The cause of a failed operation. -/
inductive Failure where
  /-- The program could not be started. -/
  | notStarted (program : String) (cause : IoError)
  /-- The tool ran and reported a status other than zero. -/
  | badStatus (command : String) (status : Int)
  /-- The tool was still running at its deadline and was killed. -/
  | timedOut (command : String) (seconds : Nat)
  /-- No scratch directory could be made for a partition read. -/
  | noScratch (path : String) (cause : IoError)
  /-- The tool reported success, but the file it should have written cannot be read. -/
  | unreadableImage (path : String) (cause : IoError)
  /-- The settings file cannot be read. -/
  | unreadableSettings (path : String) (cause : IoError)
  /-- The settings are no document, or hold an unknown key or a value of the wrong kind. -/
  | malformedSettings (reason : String)
deriving Repr, DecidableEq

namespace Failure

/-- An error of the machine at a path. -/
def atPath (cause : IoError) (path : String) : String :=
  cause.message ++ " at path " ++ Text.quoted path

/-- The message of a failure. -/
def message : Failure → String
  | notStarted program cause => "Failed to run '" ++ program ++ "': " ++ cause.message
  | badStatus command status =>
      "'" ++ command ++ "' failed with return code " ++ toString status
  | timedOut command seconds => "'" ++ command ++ "' timed out after " ++ toString seconds ++ "s"
  | noScratch path cause => "Failed to create temp dir: " ++ atPath cause path
  | unreadableImage path cause => "Failed to read " ++ path ++ ": " ++ cause.message
  | unreadableSettings path cause => "Failed to read config " ++ path ++ ": " ++ cause.message
  | malformedSettings reason => "Failed to parse config: " ++ reason

end Failure

end HostFlash
