import HostFlash.Process.Kernel
import HostFlash.Shell.Invocation
import HostFlash.Utility.Blocks
import HostFlash.Utility.Directories
import HostFlash.Utility.Dump
import HostFlash.Utility.Editing.Tool
import HostFlash.Utility.Exchange
import HostFlash.Utility.Expression
import HostFlash.Utility.Files
import HostFlash.Utility.Identity
import HostFlash.Utility.Launching
import HostFlash.Utility.Lines
import HostFlash.Utility.Rules.Tool
import HostFlash.Utility.Search
import HostFlash.Utility.Sorting
import HostFlash.Utility.Streams
import HostFlash.Utility.Words

/-! # The programs of every machine

The programs by their names, and what each does when it is called.
-/

namespace HostFlash.Utility

/-- The programs by their names. -/
def catalog : List (String × Tool Unit) :=
  [("[", testTool true), ("awk", Rules.rulesTool), ("base64", base64Tool),
   ("basename", basenameTool), ("cat", catTool), ("chmod", chmodTool), ("cmp", cmpTool),
   ("comm", commTool), ("cp", cpTool), ("cut", cutTool), ("dd", ddTool),
   ("dirname", dirnameTool), ("echo", echoTool), ("egrep", searchTool 'E'), ("env", envTool),
   ("expr", exprTool), ("false", Tool.exit 1), ("fgrep", searchTool 'F'), ("find", findTool),
   ("fold", foldTool), ("grep", searchTool 'G'), ("head", headTool), ("id", idTool),
   ("ln", lnTool), ("ls", lsTool), ("mawk", Rules.rulesTool), ("mkdir", mkdirTool),
   ("mktemp", mktempTool), ("mv", mvTool), ("nice", niceTool), ("nl", nlTool),
   ("nohup", nohupTool), ("od", odTool), ("paste", pasteTool), ("printenv", printenvTool),
   ("printf", printfTool), ("pwd", pwdTool), ("readlink", readlinkTool),
   ("realpath", realpathTool), ("rev", revTool), ("rm", rmTool), ("rmdir", rmdirTool),
   ("sed", editTool), ("seq", seqTool), ("sha512sum", sha512sumTool), ("sleep", sleepTool),
   ("sort", sortTool), ("stat", statTool), ("sync", pure ()), ("tac", tacTool),
   ("tail", tailTool), ("tee", teeTool), ("test", testTool false), ("timeout", timeoutTool),
   ("touch", touchTool), ("tr", trTool), ("true", pure ()), ("truncate", truncateTool),
   ("tty", ttyTool), ("uname", unameTool), ("uniq", uniqTool), ("wc", wcTool),
   ("which", whichTool), ("whoami", whoamiTool), ("xargs", xargsTool), ("yes", yesTool)]

/-- What a program of the machine does. -/
def behavior : Kernel.Behavior := fun program environment =>
  if program.program = "dash" then Shell.activity program.name program.args environment
  else
    match catalog.lookup program.program with
    | some tool => Tool.activity tool program.name program.args environment
    | none => .finish (.code 127)

end HostFlash.Utility
