import HostFlash.Host.FileSystem
import HostFlash.Text.Column

/-! # The machine

The machine that the flash is managed from: its files, the directory it works in, and the
directory for temporary files, in which scratch directories of unique names are made.
-/

namespace HostFlash

/-- A machine. `serial` is the first number that is tried for the next scratch directory. -/
structure Machine where
  files : FileSystem
  workingDirectory : Location
  temporary : String
  serial : Nat
deriving Repr, DecidableEq

namespace Machine

/-- How many names are tried for a scratch directory. -/
def mostNames : Nat := 65536

/-- The path of the scratch directory with a number whose name begins with `stem`. -/
def numberedPath (m : Machine) (stem : String) (number : Nat) : String :=
  Path.join m.temporary (stem ++ Text.digits 10 6 number)

/-- No directory can be made at the path, since something is there already. -/
def isTaken (m : Machine) (path : String) : Bool :=
  m.files.makeDirectory m.workingDirectory path matches .error .occupied

/-- Tries names from a number on, at most so many, as long as something is there already. Gives the
path that was tried last with what came of it. When no name is left, the directory for temporary
files stands for all of them. -/
def tryNames (m : Machine) (stem : String) : Nat → Nat → String × Except IoError FileSystem
  | 0, _ => (m.temporary, .error .noNameLeft)
  | count + 1, number =>
      let path := m.numberedPath stem number
      if m.isTaken path then m.tryNames stem count (number + 1)
      else (path, m.files.makeDirectory m.workingDirectory path)

/-- The path of the next scratch directory. -/
def scratchPath (m : Machine) (stem : String) : String :=
  (m.tryNames stem mostNames m.serial).1

/-- Takes over what came of making a scratch directory. The number is used up even when the
directory cannot be made. -/
def takeOver (m : Machine) : String × Except IoError FileSystem → Except IoError String × Machine
  | (_, .error e) => (.error e, { m with serial := m.serial + 1 })
  | (path, .ok files) => (.ok path, { m with files := files, serial := m.serial + 1 })

/-- Makes a scratch directory and gives its path. -/
def makeScratch (m : Machine) (stem : String) : Except IoError String × Machine :=
  m.takeOver (m.tryNames stem mostNames m.serial)

/-- Takes a scratch directory away with all that was put into it. -/
def removeScratch (m : Machine) (path : String) : Except IoError Unit × Machine :=
  match m.files.removeTree m.workingDirectory path with
  | .error e => (.error e, m)
  | .ok files => (.ok (), { m with files := files })

/-- The content of a file. -/
def contentOf (m : Machine) (path : String) : Except IoError (List UInt8) :=
  m.files.readFile m.workingDirectory path

/-- Writes a file anew. -/
def writeFile (m : Machine) (path : String) (content : List UInt8) :
    Except IoError Unit × Machine :=
  match m.files.writeFile m.workingDirectory path content with
  | .error e => (.error e, m)
  | .ok files => (.ok (), { m with files := files })

end Machine

end HostFlash
