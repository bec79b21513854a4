import HostFlash.Host.FileSystem
import HostFlash.Text.Lines
import HostFlash.Text.Octets

/-! # Programs

Finding the program that a name stands for. A name with a slash is a path; any other name is
looked for in the directories of the search path. A file that names an interpreter in its first
line is run by that, with its own path in front of the arguments, so that in the end one of the
programs runs that every machine has.
-/

namespace HostFlash

/-- A program of every machine, with the name that it is called by and its arguments, all byte
texts. -/
structure Program where
  program : String
  name : String
  args : List String
deriving Repr, DecidableEq

namespace Program

/-- Where programs are looked for. -/
def searchPath : List String :=
  ["/usr/local/sbin", "/usr/local/bin", "/usr/sbin", "/usr/bin", "/sbin", "/bin"]

/-- The interpreter that a file names, with the argument for it. -/
def interpreter? (content : List UInt8) : Option (String × List String) :=
  match content with
  | 0x23 :: 0x21 :: rest =>
      let isGap (c : Char) : Bool := c = ' ' || c = '\t'
      let line := (Text.Octets.ofBytes (rest.takeWhile (· ≠ 0x0A))).toList.dropWhile isGap
      let line := (line.reverse.dropWhile isGap).reverse
      let name := line.takeWhile (!isGap ·)
      let arg := (line.dropWhile (!isGap ·)).dropWhile isGap
      if name = [] then none
      else some (String.ofList name, if arg = [] then [] else [String.ofList arg])
  | _ => none

/-- The program at a path, called by a name. An interpreter may have an interpreter itself, up to a
number of levels. -/
def load (fs : FileSystem) (base : Location) :
    Nat → String → String → List String → Except IoError Program
  | 0, _, _, _ => .error .tooManyLinks
  | levels + 1, path, name, args =>
      match fs.entry base (Text.Octets.toText path) with
      | .error e => .error e
      | .ok (.program p) => .ok ⟨p, name, args⟩
      | .ok (.file content true) =>
          match interpreter? content with
          | none => .error .execFormat
          | some (interpreter, arg) =>
              load fs base levels interpreter interpreter (arg ++ path :: args)
      | .ok _ => .error .permissionDenied

/-- How many interpreters may stand behind each other. -/
def interpreterLevels : Nat := 5

/-- The program at a path, with any number of interpreters that is allowed. -/
def atPath (fs : FileSystem) (base : Location) (path name : String) (args : List String) :
    Except IoError Program :=
  load fs base (interpreterLevels + 1) path name args

/-- The program of a name in the directories. A directory without the name is passed over, and a
file that must not be run is noted, in case no other is found. -/
def search (fs : FileSystem) (base : Location) (name : String) (args : List String)
    (failure : IoError) : List String → Except IoError Program
  | [] => .error failure
  | directory :: rest =>
      match atPath fs base (Path.join directory name) name args with
      | .ok program => .ok program
      | .error .noEntry | .error .notDirectory => search fs base name args failure rest
      | .error .permissionDenied => search fs base name args .permissionDenied rest
      | .error e => .error e

/-- The program that a name stands for. The name and the arguments are texts. -/
def find (fs : FileSystem) (base : Location) (name : String) (args : List String) :
    Except IoError Program :=
  if (name :: args).any (·.toList.contains '\x00') then .error .nulInArgument
  else if name = "" then .error .noEntry
  else
    let name := Text.Octets.ofText name
    let args := args.map Text.Octets.ofText
    if name.toList.contains '/' then atPath fs base name name args
    else search fs base name args .noEntry searchPath

end Program

end HostFlash
