import HostFlash.Host.IoError
import HostFlash.Text.Lines
import HostFlash.Text.Utf8

/-! # Files

The files of a machine as a table from locations to entries. A location is the list of names on
the way from the root. Every operation takes the directory that relative paths start from, and
walks the path name by name as the system does: each name is looked up in a directory that must
exist, a single dot stays, two dots go up, and a link leads on to its target.

`removeTree` takes a location and all below it out of the table and leaves every other location
as it was.
-/

namespace HostFlash

/-- The names on the way from the root. -/
abbrev Location := List String

/-- The devices. -/
inductive Device where
  | null
  | zero
  | full
  /-- The terminal, which a process here does not have. -/
  | terminal
  /-- The stream that the process has under this number. -/
  | stream (descriptor : Nat)
deriving Repr, DecidableEq

/-- What a location holds. -/
inductive Entry where
  | directory
  | file (content : List UInt8) (executable : Bool)
  | link (target : String)
  /-- A program that every machine has, by its name. -/
  | program (name : String)
  | device (device : Device)
deriving Repr, DecidableEq

/-- The entries of a machine, each location at most once. The root needs no entry. -/
structure FileSystem where
  entries : List (Location × Entry)
deriving Repr, DecidableEq

namespace Path

/-- The pieces of a path between its slashes. -/
def pieces (path : String) : List String :=
  (Text.splitOn '/' path.toList).map String.ofList

/-- The names in a path, without empty pieces and single dots. -/
def names (path : String) : List String :=
  (pieces path).filter fun p => p ≠ "" && p ≠ "."

/-- The path starts from the root. -/
def isAbsolute (path : String) : Bool := path.toList.head? = some '/'

/-- The last name of a path, unless it is empty, the root, or ends in two dots. -/
def fileName? (path : String) : Option String :=
  (names path).getLast?.bind fun name => if name = ".." then none else some name

/-- The directory part of a path: all before the last name. A path of one name has the empty
path; a path without names has none. -/
def parent? (path : String) : Option String :=
  match (names path).reverse with
  | [] => none
  | _ :: front =>
      let root := if isAbsolute path then "/" else ""
      some (root ++ String.intercalate "/" front.reverse)

/-- The location of a path, read name by name without a look at the files. -/
def location (base : Location) (path : String) : Location :=
  (names path).foldl (fun l name => if name = ".." then l.dropLast else l ++ [name])
    (if isAbsolute path then [] else base)

/-- The path of a location. -/
def ofLocation (location : Location) : String := "/" ++ String.intercalate "/" location

/-- A name below a directory. -/
def join (directory name : String) : String :=
  if directory.toList.getLast? = some '/' then directory ++ name else directory ++ "/" ++ name

/-- A slash stands behind the last name of a path. -/
def endsInSlash (path : String) : Bool := path.toList.getLast? = some '/'

/-- A path without the slashes behind its last name. The root keeps one. -/
def trimmed (path : String) : String :=
  match (path.toList.reverse.dropWhile (· = '/')).reverse with
  | [] => if path = "" then "" else "/"
  | cs => String.ofList cs

/-- Refuses what is no path at all: the empty path, a NUL character, and a path that is too
long. -/
def check (path : String) : Except IoError Unit :=
  if path.toList.contains '\x00' then .error .nulInPath
  else if path = "" then .error .noEntry
  else if path.utf8ByteSize ≥ 4096 then .error .nameTooLong
  else .ok ()

end Path

namespace FileSystem

variable (fs : FileSystem)

/-- What a location holds. -/
def lookup? (location : Location) : Option Entry :=
  if location = [] then some .directory else fs.entries.lookup location

/-- Puts an entry at a location, in place of the one there. -/
def put (location : Location) (entry : Entry) : FileSystem :=
  if fs.entries.any (·.1 == location) then
    ⟨fs.entries.map fun e => if e.1 == location then (location, entry) else e⟩
  else ⟨fs.entries ++ [(location, entry)]⟩

/-- Puts an entry at a location, with directories on the way to it where nothing is. -/
def plant (location : Location) (entry : Entry) : FileSystem :=
  let ways := (List.range location.length).map location.take
  let fs := ways.foldl (fun fs way =>
    if (fs.lookup? way).isSome then fs else fs.put way .directory) fs
  fs.put location entry

/-- Takes a location and everything below it away. -/
def eraseTree (location : Location) : FileSystem :=
  ⟨fs.entries.filter fun e => !location.isPrefixOf e.1⟩

/-- Gives a location and everything below it another place. -/
def moveTree (source target : Location) : FileSystem :=
  ⟨(fs.eraseTree target).entries.map fun e =>
    if source.isPrefixOf e.1 then (target ++ e.1.drop source.length, e.2) else e⟩

/-- The names of what is in a directory, in the order of their code points. -/
def children (location : Location) : List String :=
  (fs.entries.filterMap fun e =>
    if e.1.length = location.length + 1 && location.isPrefixOf e.1 then e.1.getLast? else none)
    |>.mergeSort

/-- A location that must be a directory. -/
def requireDirectory (location : Location) : Except IoError Unit :=
  match fs.lookup? location with
  | none => .error .noEntry
  | some .directory => .ok ()
  | some _ => .error .notDirectory

/-- Where a walk along a path comes to: a location, or a link in a directory, with the pieces that
are left behind it. -/
inductive Reached where
  | location (location : Location)
  | link (directory : Location) (target : String) (rest : List String)
deriving Repr, DecidableEq

/-- The longest name, in bytes. -/
def longestName : Nat := 255

/-- Walks the pieces of a path from a location up to the first link. With `follow` this may be the
last piece; otherwise a link there is itself what the path leads to. -/
def stride (follow : Bool) (start : Location) : List String → Except IoError Reached
  | [] => .ok (.location start)
  | piece :: rest =>
      match fs.requireDirectory start with
      | .error e => .error e
      | .ok () =>
          if piece = "" || piece = "." then stride follow start rest
          else if piece = ".." then stride follow start.dropLast rest
          else if piece.utf8ByteSize > longestName then .error .nameTooLong
          else
            match fs.lookup? (start ++ [piece]) with
            | some (.link target) =>
                if rest = [] && !follow then .ok (.location (start ++ [piece]))
                else .ok (.link start target rest)
            | _ => stride follow (start ++ [piece]) rest

/-- Walks the pieces of a path from a location, through a number of links at most. -/
def walk (follow : Bool) : Nat → Location → List String → Except IoError Location
  | links, start, pieces =>
      match fs.stride follow start pieces with
      | .error e => .error e
      | .ok (.location location) => .ok location
      | .ok (.link directory target rest) =>
          match links with
          | 0 => .error .tooManyLinks
          | links + 1 =>
              walk follow links (if Path.isAbsolute target then [] else directory)
                (Path.pieces target ++ rest)

/-- How many links may be on the way. -/
def mostLinks : Nat := 40

/-- The location of a path whose last piece may be followed when it is a link. -/
def locate (follow : Bool) (base : Location) (path : String) : Except IoError Location :=
  match Path.check path with
  | .error e => .error e
  | .ok () =>
      fs.walk follow mostLinks (if Path.isAbsolute path then [] else base) (Path.pieces path)

/-- The location that a path leads to, whether or not something is there. -/
def resolve (base : Location) (path : String) : Except IoError Location :=
  fs.locate true base path

/-- What a path leads to. -/
def entry (base : Location) (path : String) : Except IoError Entry :=
  match fs.resolve base path with
  | .error e => .error e
  | .ok location =>
      match fs.lookup? location with
      | none => .error .noEntry
      | some entry => .ok entry

/-- Something is at the path. -/
def isPresent (base : Location) (path : String) : Bool :=
  match fs.entry base path with
  | .ok _ => true
  | .error _ => false

/-- What the file of a program begins with. No program is text. -/
def programHead : List UInt8 := [0x7F, 0x45, 0x4C, 0x46, 0x02, 0x01, 0x01, 0x00, 0xFF]

/-- The content of a file. -/
def readFile (base : Location) (path : String) : Except IoError (List UInt8) :=
  match fs.entry base path with
  | .error e => .error e
  | .ok .directory => .error .isDirectory
  | .ok (.file content _) => .ok content
  | .ok (.program _) => .ok programHead
  | .ok _ => .ok []

/-- The content of a file that must be text. -/
def readText (base : Location) (path : String) : Except IoError String :=
  match fs.readFile base path with
  | .error e => .error e
  | .ok bytes =>
      match Text.Utf8.decode? bytes with
      | none => .error .notText
      | some cs => .ok (String.ofList cs)

/-- Changes the content of the file at a location, if there is one. -/
def editAt (location : Location) (change : List UInt8 → List UInt8) : FileSystem :=
  match fs.lookup? location with
  | some (.file content executable) => fs.put location (.file (change content) executable)
  | _ => fs

/-- Writes a file: `change` gives the new content from the old one, which is empty for a file that
is made by this. A file keeps its mode. -/
def updateFile (base : Location) (path : String) (change : List UInt8 → List UInt8) :
    Except IoError FileSystem :=
  match fs.resolve base path with
  | .error e => .error e
  | .ok location =>
      match fs.lookup? location with
      | none => .ok (fs.put location (.file (change []) false))
      | some (.file content executable) => .ok (fs.put location (.file (change content) executable))
      | some .directory => .error .isDirectory
      | some _ => .ok fs

/-- Writes a file anew. -/
def writeFile (base : Location) (path : String) (content : List UInt8) :
    Except IoError FileSystem :=
  fs.updateFile base path fun _ => content

/-- Makes an entry where nothing is. -/
def make (base : Location) (path : String) (entry : Entry) : Except IoError FileSystem :=
  match fs.locate false base path with
  | .error e => .error e
  | .ok location =>
      match fs.lookup? location with
      | none => .ok (fs.put location entry)
      | some _ => .error .occupied

/-- Makes an empty directory where nothing is. -/
def makeDirectory (base : Location) (path : String) : Except IoError FileSystem :=
  fs.make base path .directory

/-- Takes away what is at a path, with everything below it. -/
def removeTree (base : Location) (path : String) : Except IoError FileSystem :=
  match fs.locate false base path with
  | .error e => .error e
  | .ok location =>
      match fs.lookup? location with
      | none => .error .noEntry
      | some _ => .ok (fs.eraseTree location)

/-- Takes away a file, or a link itself. -/
def removeFile (base : Location) (path : String) : Except IoError FileSystem :=
  match fs.locate false base path with
  | .error e => .error e
  | .ok location =>
      match fs.lookup? location with
      | none => .error .noEntry
      | some .directory => .error .isDirectory
      | some _ => .ok (fs.eraseTree location)

/-- Takes away an empty directory. -/
def removeDirectory (base : Location) (path : String) : Except IoError FileSystem :=
  match fs.locate false base path with
  | .error e => .error e
  | .ok location =>
      match fs.lookup? location with
      | none => .error .noEntry
      | some .directory =>
          if fs.children location = [] then .ok (fs.eraseTree location) else .error .notEmpty
      | some _ => .error .notDirectory

/-- Gives what is at a path another path. What is there already makes way, if it is of the same
kind. -/
def rename (base : Location) (source target : String) : Except IoError FileSystem :=
  match fs.locate false base source, fs.locate false base target with
  | .error e, _ | _, .error e => .error e
  | .ok here, .ok there =>
      match fs.lookup? here, fs.lookup? there with
      | none, _ => .error .noEntry
      | some .directory, some .directory =>
          if here = there then .ok fs
          else if here.isPrefixOf there then .error .invalidArgument
          else if fs.children there = [] then .ok (fs.moveTree here there)
          else .error .notEmpty
      | some .directory, some _ => .error .notDirectory
      | some _, some .directory => .error .isDirectory
      | some entry, _ =>
          if here = there then .ok fs
          else if here.isPrefixOf there then
            .error (if entry = .directory then .invalidArgument else .notDirectory)
          else .ok (fs.moveTree here there)

/-- Says whether the file at a path may be run. -/
def setExecutable (base : Location) (path : String) (executable : Bool) :
    Except IoError FileSystem :=
  match fs.resolve base path with
  | .error e => .error e
  | .ok location =>
      match fs.lookup? location with
      | none => .error .noEntry
      | some (.file content _) => .ok (fs.put location (.file content executable))
      | some _ => .ok fs

end FileSystem

end HostFlash
