import HostFlash.Shell.Session

/-! # Finding commands

What the name of a command stands for: a function, a command of the shell itself, or a program in
one of the directories of the search path.
-/

namespace HostFlash.Shell

/-- How a command of the shell itself stands to scripts. -/
inductive Rank where
  /-- A failure ends the script, and assignments in front of it last. -/
  | special
  /-- It is found even where it is in no directory. -/
  | regular
deriving Repr, DecidableEq

/-- The commands of the shell itself. -/
def builtins : List (String × Rank) :=
  [".", ":", "break", "continue", "eval", "exec", "exit", "export", "local", "readonly", "return",
    "set", "shift", "times", "trap", "unset"].map (·, .special) ++
  ["alias", "bg", "cd", "chdir", "command", "echo", "false", "fg", "getopts", "hash", "jobs",
    "kill", "printf", "pwd", "read", "test", "[", "true", "type", "ulimit", "umask", "unalias",
    "wait"].map (·, .regular)

/-- What a name stands for. -/
inductive Found where
  | function (body : Command)
  | builtin (rank : Rank)
  | program (path : String)
  | missing (reason : String)

/-- The path of a name in a directory of the search path. -/
def pathIn (directory name : String) : String :=
  if directory = "" then name else directory ++ "/" ++ name

/-- Looks for a program in directories. A file that cannot be run is noted, in case that no other
is found. -/
def searchIn (name : String) : List String → String → Run Found
  | [], reason => pure (.missing reason)
  | directory :: rest, reason => do
      let path := pathIn directory name
      match ← Run.ask (.inspect path true) with
      | .error e =>
          searchIn name rest (if e = .noEntry || e = .notDirectory then reason else e.reason)
      | .ok info =>
          if info.kind = .regular && info.executable then pure (.program path)
          else searchIn name rest IoError.permissionDenied.reason

/-- Looks for a program on the search path. -/
def searchProgram (name : String) : Run Found := do
  searchIn name (← get).searchPath "not found"

/-- What a name stands for that is no function. -/
def lookupWithoutFunctions (name : String) : Run Found := do
  if name.toList.contains '/' then pure (.program name)
  else
    match builtins.lookup name with
    | some rank => pure (.builtin rank)
    | none => searchProgram name

/-- What a name stands for. -/
def lookup (name : String) : Run Found := do
  match (← get).functions.lookup name with
  | some body => pure (.function body)
  | none => lookupWithoutFunctions name

/-- The status and the complaint for a program that cannot be run. -/
def programFailure (e : IoError) : Nat × String :=
  match e with
  | .noEntry | .notDirectory => (127, "not found")
  | .tooManyLinks | .nameTooLong => (127, e.reason)
  | e => (126, e.reason)

/-- The path of the shell. -/
def shellPath : String := "/bin/sh"

/-- Goes on as a program, and ends when that cannot be. A file that no program can be made of is a
script. -/
def runProgram {α : Type} (path name : String) (args : List String) : Run α := do
  let e ←
    match ← Run.become path name args with
    | .execFormat => Run.become shellPath shellPath (path :: args)
    | e => pure e
  let (status, reason) := programFailure e
  Run.complain (name ++ ": " ++ reason)
  Run.setStatus status
  throw .ended

end HostFlash.Shell
