import HostFlash.Shell.Arguments
import HostFlash.Shell.Lookup
import HostFlash.Utility.Printf
import HostFlash.Utility.Test

/-! # Commands that write and ask

The commands of the shell that write texts, test conditions, go to directories, and say what the
name of a command stands for.
-/

namespace HostFlash.Shell.Builtins

/-- Writes arguments. -/
def echo (args : List String) : Run Nat := Run.emit (Utility.shellEcho args)

/-- Writes arguments in a format. -/
def printf (args : List String) : Run Nat := do
  match ← Run.operands args with
  | [] => Run.fail "usage: printf format [arg ...]"
  | template :: args => do
      let p := Utility.format .shell template args
      p.complaints.reverse.forM Run.complain
      match p.stopped with
      | some (some message) => Run.complain message
      | _ => pure ()
      let status ← Run.emit p.output
      match p.stopped with
      | some (some _) => do
          Run.setStatus 2
          throw .failed
      | _ => pure (if p.failed then 1 else status)

/-- Tests a condition. -/
def test (name : String) (args : List String) : Run Nat := do
  if name = "[" && args.getLast? ≠ some "]" then Run.fail "missing ]"
  let words := if name = "[" then args.dropLast else args
  match ← Run.routine (Utility.Condition.spoken words) with
  | .ok value => pure (if value then 0 else 1)
  | .error message => Run.fail message

/-! ## Directories -/

/-- A path below a directory without dots, read name by name. -/
def logicalPath (directory path : String) : String :=
  Path.ofLocation (Path.location (Path.names directory) path)

/-- Goes to a directory, whose path is kept as it was reached. -/
def goTo (physical : Bool) (path : String) : Run Bool := do
  let s ← get
  let target := if physical then path else logicalPath s.directory path
  match ← Run.ask (.changeDirectory target) with
  | .error _ => pure false
  | .ok () => do
      let now ← if physical then Run.ask .directory else pure target
      Run.assignMarked "OLDPWD" s.directory true
      Run.assignMarked "PWD" now true
      modify fun s => { s with directory := now }
      pure true

/-- The directory below one of several that a name leads to, with the answer whether it is not
below the first. -/
def searchDirectory (name : String) : List String → Run (Option (String × Bool))
  | [] => pure none
  | directory :: rest => do
      let path := pathIn directory name
      match ← Run.ask (.inspect path true) with
      | .ok info =>
          if info.kind = .directory then pure (some (path, directory ≠ ""))
          else searchDirectory name rest
      | .error _ => searchDirectory name rest

/-- The path has its place given by itself: it begins at the root or with dots. -/
def isPlaced (path : String) : Bool :=
  Path.isAbsolute path || ["", ".", ".."].contains path ||
    "./".toList.isPrefixOf path.toList || "../".toList.isPrefixOf path.toList

/-- Goes to a directory. -/
def cd (args : List String) : Run Nat := do
  let (options, args) ← Run.options "LP" args
  let physical := (options.getLast?.map (·.1)) = some 'P'
  let s ← get
  let (path, shown) :=
    match args with
    | [] => ((s.valueOf? "HOME").getD "", false)
    | "-" :: _ => ((s.valueOf? "OLDPWD").getD "", true)
    | path :: _ => (path, false)
  let (place, shown) ←
    if path ≠ "" && isPlaced path then pure (path, shown)
    else do
      let path := if path = "" then "." else path
      let directories := (Text.splitOn ':' ((s.valueOf? "CDPATH").getD "").toList).map String.ofList
      match ← searchDirectory path directories with
      | some (place, elsewhere) => pure (place, shown || elsewhere)
      | none => pure (path, shown)
  if ← goTo physical place then
    if shown then Run.emit ((← get).directory ++ "\n") else pure 0
  else Run.fail ("can't cd to " ++ path)

/-- Writes the directory. -/
def pwd (args : List String) : Run Nat := do
  let (options, _) ← Run.options "LP" args
  let s ← get
  let path ←
    if (options.getLast?.map (·.1)) = some 'P' then Run.ask .directory else pure s.directory
  Run.emit (path ++ "\n")

/-- The rights that a mask leaves, in letters. -/
def maskLetters (mask : Nat) : String :=
  let rights (n : Nat) : String :=
    String.ofList ([('r', 4), ('w', 2), ('x', 1)].filterMap fun (c, bit) =>
      if (n / bit) % 2 = 0 then some c else none)
  "u=" ++ rights (mask / 64) ++ ",g=" ++ rights (mask / 8 % 8) ++ ",o=" ++ rights (mask % 8)

/-- Sets or shows which rights new files do not have. -/
def umask (args : List String) : Run Nat := do
  let (options, args) ← Run.options "S" args
  match args with
  | [] =>
      let mask := (← get).fileMask
      let digits := String.ofList (Nat.toDigits 8 mask)
      Run.emit ((if options ≠ [] then maskLetters mask else
        String.ofList (List.replicate (4 - digits.length) '0') ++ digits) ++ "\n")
  | a :: _ =>
      if a.toList.all fun c => (digitValue? 8 c).isSome then do
        let (value, _, _) := leadingDigits 8 a.toList
        modify fun s => { s with fileMask := value % 512 }
        pure 0
      else Run.fail ("Illegal number: " ++ a)

/-- Shows a limit of the process. There are none. -/
def ulimit (args : List String) : Run Nat := do
  let (_, args) ← Run.options "HSatfdscmlpnvwr" args
  if args = [] then Run.emit "unlimited\n" else pure 0

/-- Shows how much time the script has used. -/
def times : Run Nat := do
  let line := "0m0.000000s 0m0.000000s\n"
  Run.emit (line ++ line)

/-! ## Names of commands -/

/-- Looks programs up. -/
def hash (args : List String) : Run Nat := do
  let (_, names) ← Run.options "rv" args
  names.foldlM (fun status name => do
    match ← lookup name with
    | .missing reason => do
        Run.complain (name ++ ": " ++ reason)
        pure 1
    | _ => pure status) 0

/-- What a name stands for, in words or as it would be written, with the status. -/
def describe (inWords : Bool) (name : String) : Run (String × Nat) := do
  let s ← get
  let say (words plain : String) : Run (String × Nat) :=
    pure ((if inWords then name ++ words else plain) ++ "\n", 0)
  let unknown : Run (String × Nat) := pure (if inWords then name ++ ": not found\n" else "", 127)
  if reservedWords.contains name then say " is a shell keyword" name
  else
    match s.aliases.lookup name with
    | some text => say (" is an alias for " ++ text) ("alias " ++ name ++ "=" ++ quote text)
    | none =>
        match ← lookup name with
        | .function .. => say " is a shell function" name
        | .builtin .special => say " is a special shell builtin" name
        | .builtin .regular => say " is a shell builtin" name
        | .program path =>
            if path = name then
              match ← Run.ask (.inspect path true) with
              | .ok _ => say (" is " ++ path) path
              | .error _ => unknown
            else say (" is " ++ path) path
        | .missing _ => unknown

/-- Says what names stand for. -/
def typeCommand (args : List String) : Run Nat := do
  let names ← Run.operands args
  let found ← names.mapM (describe true)
  let _ ← Run.emit (String.join (found.map (·.1)))
  pure ((found.map (·.2)).foldl (· ||| ·) 0)

end HostFlash.Shell.Builtins
